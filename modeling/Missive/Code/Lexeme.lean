import Missive.Code.Word
import Missive.Text.Blank
import Missive.Text.Split
/-!
# Lexemes of emitted code

Names, paths and documentation come from outside, so a text that is put into emitted code may hold
blanks and comments, or be no code at all.  This module reads such a text back.

* `Lexeme` -- words, marks, literals and documentation comments;
* `comment?`, `word?`, `literal?` -- one lexeme, or a comment, at the front of a text;
* `lexemes?` -- all lexemes of a text, if it consists of nothing else;
* `nameIn?`, `genericNameIn?` -- the name that a text is.
-/

namespace Missive.Code

/-- A lexeme. -/
inductive Lexeme where
  /-- A name or a keyword, with the mark of an escaped one. -/
  | word (text : String)
  /-- A double colon. -/
  | colons
  /-- Any other punctuation, or a bracket. -/
  | mark (c : Char)
  /-- A number or a quoted text, as it is written. -/
  | literal (text : String)
  /-- A documentation comment for what follows. -/
  | note (text : String)
  deriving DecidableEq, Repr

/-! ## Comments -/

/-- Blanks between lexemes: white space, and the two direction marks. -/
def isFiller (c : Char) : Bool :=
  Text.isBlank c || c == '\u200e' || c == '\u200f'

/-- The content of a block comment that is open `depth + 1` times, and what follows it. -/
def blockFrom (depth : Nat) (content : List Char) : List Char → Option (List Char × List Char)
  | '/' :: '*' :: rest => blockFrom (depth + 1) ('*' :: '/' :: content) rest
  | '*' :: '/' :: rest =>
    match depth with
    | 0 => some (content.reverse, rest)
    | outer + 1 => blockFrom outer ('/' :: '*' :: content) rest
  | c :: rest => blockFrom depth (c :: content) rest
  | [] => none

/-- The line at the front of a text, without its end, and the lines after it. -/
def lineFront (cs : List Char) : List Char × List Char :=
  let line := cs.takeWhile (· != '\n')
  match cs.drop line.length with
  | [] => (line, [])
  | lineEnd :: later => (Text.dropLineEnd (line ++ [lineEnd]), later)

/-- Whether every carriage return of a text stands in front of a line feed. -/
def returnsPaired : List Char → Bool
  | '\r' :: '\n' :: rest => returnsPaired rest
  | '\r' :: _ => false
  | _ :: rest => returnsPaired rest
  | [] => true

/-- A documentation comment, unless a carriage return stands alone in it. -/
def note? (content rest : List Char) : Option (Option Lexeme × List Char) :=
  if returnsPaired content then some (some (.note (String.ofList content)), rest) else none

/-- The comment at the front of a text that starts with a slash: documentation is a lexeme, other
comments are nothing.  A comment about what surrounds it cannot stand between items. -/
def comment? : List Char → Option (Option Lexeme × List Char)
  | '/' :: '/' :: '/' :: '/' :: rest => some (none, (lineFront rest).2)
  | '/' :: '/' :: '/' :: rest => note? (lineFront rest).1 (lineFront rest).2
  | '/' :: '/' :: '!' :: _ => none
  | '/' :: '/' :: rest => some (none, (lineFront rest).2)
  | '/' :: '*' :: '*' :: '/' :: rest => some (none, rest)
  | '/' :: '*' :: '*' :: '*' :: rest =>
    (blockFrom 0 [] ('*' :: '*' :: rest)).map fun (_, later) => (none, later)
  | '/' :: '*' :: '*' :: rest => (blockFrom 0 [] rest).bind fun (content, later) =>
    note? content later
  | '/' :: '*' :: '!' :: _ => none
  | '/' :: '*' :: rest => (blockFrom 0 [] rest).map fun (_, later) => (none, later)
  | _ => none

/-! ## Words, literals and marks -/

/-- Words that quoted texts of other kinds start with. -/
def quotePrefixes : List String := ["r", "b", "br", "c", "cr"]

/-- The characters that can stand at the front of a word. -/
def isWordStart (c : Char) : Bool :=
  Text.Identifier.isStart c || c == '_'

/-- The word at the front of a text, without the mark of an escaped one. -/
def plainWord? (cs : List Char) : Option (String × List Char) :=
  match cs with
  | c :: rest =>
    if isWordStart c then
      some (String.ofList (c :: rest.takeWhile Text.Identifier.isContinue),
        rest.dropWhile Text.Identifier.isContinue)
    else none
  | [] => none

/-- The word at the front of a text. -/
def word? (cs : List Char) : Option (Lexeme × List Char) :=
  match cs with
  | 'r' :: '#' :: rest => do
    let (word, later) ← plainWord? rest
    if word == "_" || pathWords.contains word then none
    else some (.word (escapeMark ++ word), later)
  | _ => do
    let (word, later) ← plainWord? cs
    let quotes := match later with
      | c :: _ => c == '"' || c == '\'' || c == '#'
      | [] => false
    if quotePrefixes.contains word && quotes then none else some (.word word, later)

/-- The characters behind a backslash that make a short escape. -/
def shortEscapes : List Char := ['n', 'r', 't', '\\', '0', '\'', '"']

/-- The rest of a quoted text up to its closing quote, and what follows. -/
def quotedRest? (content : List Char) : List Char → Option (String × List Char)
  | '"' :: rest => some (String.ofList ('"' :: content).reverse, rest)
  | '\\' :: c :: rest =>
    if shortEscapes.contains c then quotedRest? (c :: '\\' :: content) rest else none
  | '\r' :: _ => none
  | c :: rest => quotedRest? (c :: content) rest
  | [] => none

/-- The literal at the front of a text: a whole number or a quoted text. -/
def literal? (cs : List Char) : Option (Lexeme × List Char) :=
  match cs with
  | '"' :: rest => (quotedRest? ['"'] rest).map fun (text, later) => (.literal text, later)
  | c :: _ =>
    let later := cs.dropWhile Text.Identifier.isContinue
    if c.isDigit && later.head? != some '.' then
      some (.literal (String.ofList (cs.takeWhile Text.Identifier.isContinue)), later)
    else none
  | [] => none

/-- Punctuation and brackets. -/
def marks : List Char := "~!@#$%^&*-=+|;:,<.>/?()[]\x7b\x7d".toList

/-! ## Whole texts -/

/-- The lexeme at the front of a text, or nothing for a comment or a blank, and what follows. -/
def front? (cs : List Char) : Option (Option Lexeme × List Char) :=
  match cs with
  | [] => none
  | ':' :: ':' :: rest => some (some .colons, rest)
  | '/' :: '/' :: _ | '/' :: '*' :: _ => comment? cs
  | c :: rest =>
    if isFiller c then some (none, rest)
    else if marks.contains c then some (some (.mark c), rest)
    else ((word? cs).orElse fun _ => literal? cs).map fun (lexeme, later) => (some lexeme, later)

/-- The lexemes of a text, with a bound on how many steps that takes. -/
def lexemesFrom : Nat → List Char → Option (List Lexeme)
  | _, [] => some []
  | 0, _ => none
  | steps + 1, cs => do
    let (lexeme?, later) ← front? cs
    let others ← lexemesFrom steps later
    some (lexeme?.toList ++ others)

/-- The lexemes of a text; each step takes at least one character. -/
def lexemes? (text : String) : Option (List Lexeme) :=
  lexemesFrom text.length text.toList

/-- The name that a text is, apart from blanks and comments.  Where a name goes, more code follows
on the line, so a comment that would swallow it does not do. -/
def nameIn? (text : String) : Option String :=
  match lexemes? (text ++ ";") with
  | some [.word name, .mark ';'] => if isMemberName name then some name else none
  | _ => none

/-- Names with commas between them, up to a closing angle bracket at the end. -/
def parameters? : List Lexeme → Option (List String)
  | [.word name, .mark '>', .mark ';'] => if isMemberName name then some [name] else none
  | [.word name, .mark ',', .mark '>', .mark ';'] => if isMemberName name then some [name] else none
  | .word name :: .mark ',' :: rest =>
    if isMemberName name then (parameters? rest).map (name :: ·) else none
  | _ => none

/-- The name that a text is, which may have type parameters behind it. -/
def genericNameIn? (text : String) : Option String :=
  match lexemes? (text ++ ";") with
  | some (.word name :: .mark '<' :: rest) =>
    if isMemberName name then
      (parameters? rest).map fun names => name ++ "<" ++ ", ".intercalate names ++ ">"
    else none
  | _ => nameIn? text

end Missive.Code
