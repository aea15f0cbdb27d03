import Missive.Toml.Quoted
/-!
# Dates and times of TOML

Where a value starts with a digit, a hyphen or the name of a special number, it may be a date, a
time of the day, or both.  Only its shape is looked at: the words between the marks may be any.

* `isWordChar` -- the characters of bare words;
* `clockEnd?` -- what stands behind the hour;
* `isDated` -- whether a word has the look of a date;
* `momentLength?` -- how far the date or time at the front of a text reaches.
-/

namespace Missive.Toml

/-- The characters of bare words. -/
def isWordChar (c : Char) : Bool :=
  c.isAlphanum || c == '_' || c == '-'

/-- The text behind the word at the front, if there is one. -/
def afterWord? : List Char → Option (List Char)
  | c :: rest => if isWordChar c then some (rest.dropWhile isWordChar) else none
  | [] => none

/-- The text behind a word, if the mark in front of it is there. -/
def afterMarked? (mark : Char) (cs : List Char) : Option (List Char) :=
  match cs with
  | c :: rest => if c = mark then afterWord? rest else some cs
  | [] => some []

/-- The text behind a time of the day, from behind the colon after its hour: minutes and seconds,
and maybe a fraction and an offset. -/
def clockEnd? (cs : List Char) : Option (List Char) := do
  match ← afterWord? cs with
  | ':' :: rest =>
    let seconds ← afterWord? rest
    let fraction ← afterMarked? '.' seconds
    let hours ← afterMarked? '+' fraction
    afterMarked? ':' hours
  | _ => none

/-- Whether an exponent with a minus sign stands in a word. -/
def hasNegativeExponent : List Char → Bool
  | 'e' :: '-' :: _ => true
  | 'E' :: '-' :: _ => true
  | _ :: rest => hasNegativeExponent rest
  | [] => false

/-- Whether a word has the look of a date: a hyphen that is neither the sign of a number nor of an
exponent, or the mark in front of a time of the day. -/
def isDated (word : List Char) : Bool :=
  word.contains 'T' || word.contains 't'
    || (word.tail.contains '-' && !hasNegativeExponent word)

/-- The text behind an hour that follows a date after one blank. -/
def afterHour (cs : List Char) : List Char :=
  match cs with
  | ' ' :: rest => (afterWord? rest).getD cs
  | _ => cs

/-- Words that stand for special numbers. -/
def specialNumbers : List String := ["inf", "nan"]

/-- Whether a word can be the start of a number, and so of a date or time. -/
def startsNumber (word : List Char) : Bool :=
  specialNumbers.contains (String.ofList word)
    || word.head?.any fun c => c.isDigit || c == '-'

/-- The text behind the date or time at the front of a text. -/
def momentEnd? (cs : List Char) : Option (List Char) :=
  let word := cs.takeWhile isWordChar
  let rest := cs.dropWhile isWordChar
  if !startsNumber word then none
  else if isDated word then
    match afterHour rest with
    | ':' :: clock => clockEnd? clock
    | after => some after
  else
    match rest with
    | ':' :: clock => clockEnd? clock
    | _ => none

/-- How many characters belong to the date or time at the front of a text. -/
def momentLength? (cs : List Char) : Option Nat :=
  (momentEnd? cs).map fun after => cs.length - after.length

end Missive.Toml
