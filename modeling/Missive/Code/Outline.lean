import Missive.Text.Identifier
/-!
# Outlines of code

What a text of code brings into a module, read off the whole text character by character: its items,
each by the words that stand outside of its brackets.  Comments, quoted texts and what is in
brackets are passed over.

* `words` -- the words of a text;
* `Mode`, `Outline` -- where a reader of code is, and what it has read;
* `Outline.step`, `Outline.read` -- one character, and a text;
* `Outline.items?` -- the items of a text.
-/

namespace Missive.Code

/-! ## Words -/

/-- Characters of words, with the mark of an escaped name and of an attribute. -/
def isLetter (c : Char) : Bool :=
  Text.Identifier.isContinue c || c == '#'

/-- A word whose letters have been read, the last one first.  The mark of an attribute is none. -/
def finished (letters : List Char) : List String :=
  if letters = [] ∨ letters = ['#'] then [] else [String.ofList letters.reverse]

/-- The words of a text behind some letters. -/
def wordsFrom (letters : List Char) : List Char → List String
  | [] => finished letters
  | c :: rest =>
    if isLetter c then wordsFrom (c :: letters) rest
    else finished letters ++ wordsFrom [] rest

/-- The words of a text. -/
def words (text : String) : List String :=
  wordsFrom [] text.toList

/-- Whether an item with these words in front is an import.  Its braces hold names. -/
def isImport : List String → Bool
  | "use" :: _ | "pub" :: "use" :: _ => true
  | _ => false

/-! ## Reading -/

/-- Where a reader of code is. -/
inductive Mode where
  | code
  /-- Behind a slash, which may open a comment. -/
  | slash
  /-- Behind an apostrophe, which may open the name of a lifetime. -/
  | tick
  /-- In a comment up to the end of the line. -/
  | line
  /-- In a comment with so many others around it, behind a character that may be the first one of a
  mark. -/
  | block (around : Nat) (last : Char)
  | quoted
  /-- Behind a backslash in a quoted text. -/
  | escaped
  /-- In what this reader does not know: quoted characters, texts that are quoted in other ways, and
  items that are given a value. -/
  | lost
  deriving DecidableEq, Repr

/-- What has been read of a text. -/
structure Outline where
  mode : Mode
  /-- The number of open brackets. -/
  depth : Nat
  /-- The letters of the word in front, the last one first. -/
  letters : List Char
  /-- The words of the item that is being read. -/
  head : List String
  items : List (List String)
  deriving DecidableEq, Repr

namespace Outline

/-- Behind some items. -/
def behind (items : List (List String)) : Outline :=
  ⟨.code, 0, [], [], items⟩

variable (o : Outline)

/-- Behind a word, which counts outside of brackets. -/
def pause : Outline :=
  { o with letters := [], head := if o.depth = 0 then o.head ++ finished o.letters else o.head }

/-- Behind an item. -/
def finish : Outline :=
  { o with head := [], items := o.items ++ [o.head] }

/-- Behind a closing bracket.  A brace that closes all brackets ends an item. -/
def close (c : Char) : Outline :=
  match o.depth with
  | 0 => { o with mode := .lost }
  | 1 => if c = '}' then { o with depth := 0 }.finish else { o with depth := 0 }
  | outer + 2 => { o with depth := outer + 1 }

/-- Behind a character that belongs to no word. -/
def mark (c : Char) : Outline :=
  if c = '/' then { o with mode := .slash }
  else if c = '\'' then { o with mode := .tick }
  else if o.depth = 0 ∧ isImport o.head ∧ (c = '{' ∨ c = '}') then o
  else if c = '(' ∨ c = '[' ∨ c = '{' then { o with depth := o.depth + 1 }
  else if c = ')' ∨ c = ']' ∨ c = '}' then o.close c
  else if o.depth = 0 ∧ c = ';' then o.finish
  else if o.depth = 0 ∧ c = '=' then { o with mode := .lost }
  else o

/-- Behind a character of code. -/
def plain (c : Char) : Outline :=
  if isLetter c then { o with letters := c :: o.letters }
  else if c = '"' then { o.pause with mode := if o.letters = [] then .quoted else .lost }
  else o.pause.mark c

/-- Behind one more character. -/
def step (c : Char) : Outline :=
  match o.mode with
  | .code => o.plain c
  | .slash =>
    if c = '/' then { o with mode := .line }
    else if c = '*' then { o with mode := .block 0 ' ' }
    else { o with mode := .code }.plain c
  | .tick => if isLetter c then { o with mode := .code }.plain c else { o with mode := .lost }
  | .line => if c = '\n' then { o with mode := .code } else o
  | .block around last =>
    if last = '/' ∧ c = '*' then { o with mode := .block (around + 1) ' ' }
    else if last = '*' ∧ c = '/' then
      match around with
      | 0 => { o with mode := .code }
      | outer + 1 => { o with mode := .block outer ' ' }
    else { o with mode := .block around c }
  | .quoted =>
    if c = '"' then { o with mode := .code }
    else if c = '\\' then { o with mode := .escaped }
    else o
  | .escaped => { o with mode := .quoted }
  | .lost => o

/-- Behind a text. -/
def read (cs : List Char) : Outline :=
  cs.foldl step o

/-- The items that have been read, between two of them. -/
def result? : Option (List (List String)) :=
  if o.mode = .code ∧ o.depth = 0 ∧ o.head = [] then some o.items else none

/-- The items of a text, if it ends behind one of them and nothing in it is unknown. -/
def items? (text : String) : Option (List (List String)) :=
  ((behind []).read (text.toList ++ ['\n'])).result?

end Outline

end Missive.Code
