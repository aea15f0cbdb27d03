import Missive.Toml.Moment
/-!
# TOML documents of texts

The part of TOML in which every value is a text, an inline table of texts, or a date or time, which
counts as a table with a single entry.  A document outside of this part is refused, as is one that
is no TOML.

* `Token`, `tokens?` -- a document as tokens; blanks and comments are dropped;
* `Line`, `Line.read?` -- a table header or an assignment;
* `Document.read?` -- all lines of a document.
-/

namespace Missive.Toml

/-- A token of a document. -/
inductive Token where
  | lineEnd
  | equals
  | dot
  | comma
  | openBracket
  | closeBracket
  | openBrace
  | closeBrace
  /-- A run of letters, digits, underscores and hyphens. -/
  | word (text : String)
  /-- A string; a long one may run over several lines. -/
  | string (text : String) (long : Bool)
  /-- A date or a time, as it is written. -/
  | moment (text : String)
  deriving DecidableEq, Repr

/-- The token of a punctuation mark. -/
def punctuation? : Char → Option Token
  | '\n' => some .lineEnd
  | '=' => some .equals
  | '.' => some .dot
  | ',' => some .comma
  | '[' => some .openBracket
  | ']' => some .closeBracket
  | '{' => some .openBrace
  | '}' => some .closeBrace
  | _ => none

/-- The tokens of a text whose line ends are single line feeds.  Behind an equals sign a date or
time is one token; elsewhere, as in keys, its parts are words. -/
def tokens? : List Char → Option (List Token)
  | [] => some []
  | c :: rest =>
    if isSpace c then tokens? rest
    else if c = '=' then
      let value := rest.dropWhile isSpace
      match momentLength? value with
      | none => (tokens? rest).map (.equals :: ·)
      | some length =>
        (tokens? (value.drop length)).map fun later =>
          .equals :: .moment (String.ofList (value.take length)) :: later
    else if c = '#' then tokens? (rest.dropWhile isPrintable)
    else if isWordChar c then
      let word := c :: rest.takeWhile isWordChar
      (tokens? (rest.dropWhile isWordChar)).map (.word (String.ofList word) :: ·)
    else if c = '"' ∨ c = '\'' then
      match _h : readString? c rest with
      | none => none
      | some (body, long, after) => (tokens? after).map (.string (String.ofList body) long :: ·)
    else
      match punctuation? c with
      | none => none
      | some token => (tokens? rest).map (token :: ·)
termination_by cs => cs.length
decreasing_by
  · simp
  · simp
  · have := (List.dropWhile_sublist isSpace (l := rest)).length_le
    simp only [List.length_cons, List.length_drop]
    omega
  · have := (List.dropWhile_sublist isPrintable (l := rest)).length_le
    simp only [List.length_cons]
    omega
  · have := (List.dropWhile_sublist isWordChar (l := rest)).length_le
    simp only [List.length_cons]
    omega
  · have := length_readString? _h
    simp only [List.length_cons]
    omega
  · simp

/-- The key that a token is, if it is one: a word or a string on one line. -/
def Token.key? : Token → Option String
  | .word text => some text
  | .string text false => some text
  | _ => none

/-- The text that a token is, if it is one. -/
def Token.text? : Token → Option String
  | .string text _ => some text
  | _ => none

/-- The value of an assignment. -/
inductive Setting where
  | text (s : String)
  | table (entries : List (String × String))
  deriving DecidableEq, Repr

/-- A line of a document that says something. -/
inductive Line where
  | header (path : List String)
  | assignment (path : List String) (value : Setting)
  deriving DecidableEq, Repr

namespace Line

/-- Keys with dots between them, and the tokens behind them. -/
def path? : List Token → Option (List String × List Token)
  | [] => none
  | token :: rest =>
    match token.key? with
    | none => none
    | some key =>
      match rest with
      | .dot :: more => (path? more).map fun (keys, after) => (key :: keys, after)
      | _ => some ([key], rest)

/-- The entries of an inline table up to its closing brace, with nothing behind it. -/
def entries? : List Token → Option (List (String × String))
  | name :: .equals :: value :: .closeBrace :: [] => do
    some [(← name.key?, ← value.text?)]
  | name :: .equals :: value :: .comma :: rest => do
    some ((← name.key?, ← value.text?) :: (← entries? rest))
  | _ => none

/-- The key of the only entry of a date or time. -/
def momentKey : String := "$__toml_private_datetime"

/-- The value that these tokens are. -/
def setting? : List Token → Option Setting
  | [.openBrace, .closeBrace] => some (.table [])
  | .openBrace :: rest => (entries? rest).map .table
  | [.moment text] => some (.table [(momentKey, text)])
  | [value] => value.text?.map .text
  | _ => none

/-- The line that these tokens are. -/
def read? : List Token → Option Line
  | .openBracket :: rest =>
    match path? rest with
    | some (path, [.closeBracket]) => some (header path)
    | _ => none
  | tokens =>
    match path? tokens with
    | some (path, .equals :: value) => (setting? value).map (assignment path)
    | _ => none

end Line

/-- The lines of a document, in order. -/
abbrev Document := List Line

namespace Document

/-- The tokens of each line. -/
def tokenLines : List Token → List (List Token)
  | [] => [[]]
  | .lineEnd :: rest => [] :: tokenLines rest
  | token :: rest =>
    match tokenLines rest with
    | [] => [[token]]
    | first :: later => (token :: first) :: later

/-- Every line end as a single line feed. -/
def unifyLineEnds : List Char → List Char
  | '\r' :: '\n' :: rest => '\n' :: unifyLineEnds rest
  | c :: rest => c :: unifyLineEnds rest
  | [] => []

/-- A text without the byte order mark in front of it. -/
def dropMark : List Char → List Char
  | '\uFEFF' :: rest => rest
  | cs => cs

/-- Reads a document. -/
def read? (text : String) : Option Document := do
  let tokens ← tokens? (unifyLineEnds (dropMark text.toList))
  ((tokenLines tokens).filter (!·.isEmpty)).mapM Line.read?

end Document

end Missive.Toml
