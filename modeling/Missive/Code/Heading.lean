import Missive.Code.Lexeme
/-!
# What stands in front of a definition

Imports, documentation and attributes, read back from the text that was put together for them.  The
paths and the documentation in it come from outside: they may bring blanks, comments, or imports
and attributes of their own.

* `ImportTree` -- the names that one import brings in;
* `Heading` -- an import, a line of documentation, an attribute, or a definition without content;
* `headings?` -- a text that consists of headings, as far as they are known here.
-/

namespace Missive.Code

/-- The names that an import brings in. -/
inductive ImportTree where
  | name (word : String)
  | renamed (word other : String)
  /-- All names of a module. -/
  | all
  | inside (word : String) (inner : ImportTree)
  | group (items : List ImportTree)

/-- Whether the tree is a module's own name, possibly with a new one. -/
def ImportTree.isSelf : ImportTree → Bool
  | name word | renamed word _ => word == "self"
  | _ => false

/-- Whether the last thing in a tree is a group. -/
def ImportTree.endsInGroup : ImportTree → Bool
  | inside _ inner => inner.endsInGroup
  | group _ => true
  | _ => false

/-- What can stand in front of a definition. -/
inductive Heading where
  | note (text : String)
  /-- An attribute: its path, and the lexemes behind it. -/
  | tag (path : String) (content : List Lexeme)
  /-- An import, what is said about its visibility, and whether its path starts at the root. -/
  | imports (visibility : String) (rooted : Bool) (tree : ImportTree)
  /-- A definition without content, as it is written. -/
  | bare (text : String)

/-! ## Imports -/

/-- Whether a word can be a segment of an imported path. -/
def isModuleSegment (word : String) : Bool :=
  isMemberName word || word == "self" || word == "super" || word == "crate" || word == "try"

/-- Whether a word can be the new name of something imported. -/
def isAlias (word : String) : Bool :=
  isMemberName word || word == "_"

mutual

/-- The import tree at the front of the lexemes, with a bound on its depth. -/
def tree? : Nat → List Lexeme → Option (ImportTree × List Lexeme)
  | _ + 1, .mark '*' :: rest => some (.all, rest)
  | depth + 1, .mark '{' :: rest => (items? depth rest).map fun (items, later) =>
    (.group items, later)
  | depth + 1, .word word :: .colons :: rest =>
    if isModuleSegment word then
      (tree? depth rest).map fun (inner, later) => (.inside word inner, later)
    else none
  | _ + 1, .word word :: .word "as" :: .word other :: rest =>
    if isModuleSegment word && isAlias other then some (.renamed word other, rest) else none
  | _ + 1, .word word :: rest =>
    if isModuleSegment word then some (.name word, rest) else none
  | _, _ => none

/-- The import trees up to a closing brace. -/
def items? : Nat → List Lexeme → Option (List ImportTree × List Lexeme)
  | 0, _ => none
  | _ + 1, .mark '}' :: rest => some ([], rest)
  | depth + 1, lexemes => do
    let (tree, later) ← tree? depth lexemes
    match later with
    | .mark ',' :: rest =>
      let (others, after) ← items? depth rest
      some (tree :: others, after)
    | .mark '}' :: rest => some ([tree], rest)
    | _ => none

end

/-- An import behind its keyword, up to its semicolon. -/
def imported? (visibility : String) (lexemes : List Lexeme) : Option (Heading × List Lexeme) := do
  let (rooted, lexemes) :=
    match lexemes with
    | .colons :: rest => (true, rest)
    | _ => (false, lexemes)
  match ← tree? (lexemes.length + 1) lexemes with
  | (tree, .mark ';' :: rest) => some (.imports visibility rooted tree, rest)
  | _ => none

/-! ## Attributes -/

/-- The bracket that closes what this one opens. -/
def closing? (c : Char) : Option Char :=
  if c = '(' then some ')'
  else if c = '[' then some ']'
  else if c = '{' then some '}'
  else none

/-- The lexemes up to the bracket that closes the outermost of the open ones. -/
def bracketed? (awaited : List Char) (content : List Lexeme) :
    List Lexeme → Option (List Lexeme × List Lexeme)
  | .mark c :: rest =>
    match closing? c with
    | some close => bracketed? (close :: awaited) (.mark c :: content) rest
    | none =>
      if c = ')' ∨ c = ']' ∨ c = '}' then
        if awaited = [c] then some ((Lexeme.mark c :: content).reverse, rest)
        else if awaited.head? = some c then bracketed? awaited.tail (.mark c :: content) rest
        else none
      else bracketed? awaited (.mark c :: content) rest
  | .note _ :: _ => none
  | lexeme :: rest => bracketed? awaited (lexeme :: content) rest
  | [] => none

/-- Whether a word can be a segment of an attribute's path. -/
def isAttributeSegment (word : String) : Bool :=
  isMemberName word || pathWords.contains word

/-- The path of an attribute, and what follows it. -/
def attributePath? : List Lexeme → Option (String × List Lexeme)
  | .colons :: .word word :: rest => do
    let (path, later) ← attributePath? (.word word :: rest)
    some ("::" ++ path, later)
  | .word word :: .colons :: rest => do
    let (path, later) ← attributePath? rest
    if isAttributeSegment word && !path.startsWith "::" then
      some (word ++ "::" ++ path, later)
    else none
  | .word word :: rest => if isAttributeSegment word then some (word, rest) else none
  | _ => none

/-- An attribute with a value: documentation is a note, unless it would not read as one. -/
def valued (path literal : String) : Heading :=
  let text := (literal.toList.drop 1).dropLast
  if path = "doc" ∧ literal.startsWith "\"" ∧ ¬ text.contains '\\' ∧ text.head? ≠ some '/' then
    .note (String.ofList text)
  else .tag path [.mark '=', .literal literal]

/-- An attribute behind its opening bracket. -/
def attribute? (lexemes : List Lexeme) : Option (Heading × List Lexeme) := do
  let (path, later) ← attributePath? lexemes
  match later with
  | .mark ']' :: rest => some (.tag path [], rest)
  | .mark '=' :: .literal text :: .mark ']' :: rest => some (valued path text, rest)
  | .mark c :: rest =>
    match closing? c with
    | none => none
    | some close =>
      match ← bracketed? [close] [.mark c] rest with
      | (content, .mark ']' :: after) => some (.tag path content, after)
      | _ => none
  | _ => none

/-! ## Headings -/

/-- Keywords of definitions that may have nothing but a name in front of a semicolon. -/
def namingWords : List String := ["mod", "struct"]

/-- Keywords of definitions that may be empty between braces. -/
def bracingWords : List String := ["mod", "struct", "enum", "trait"]

/-- A definition without content, from its keyword on.  No other definitions are known here. -/
def bare? (visibility : String) : List Lexeme → Option (Heading × List Lexeme)
  | .word "extern" :: .word "crate" :: .word name :: rest =>
    let words := visibility ++ "extern crate " ++ name
    match rest with
    | .mark ';' :: after => named name (words ++ ";") after
    | .word "as" :: .word other :: .mark ';' :: after =>
      if isAlias other then named name (words ++ " as " ++ other ++ ";") after else none
    | _ => none
  | .word "fn" :: .word name :: .mark '(' :: .mark ')' :: .mark '{' :: .mark '}' :: rest =>
    named name (visibility ++ "fn " ++ name ++ "() \x7b\x7d") rest
  | .word "struct" :: .word name :: .mark '(' :: .mark ')' :: .mark ';' :: rest =>
    named name (visibility ++ "struct " ++ name ++ "();") rest
  | .word "impl" :: .word name :: .mark '{' :: .mark '}' :: rest =>
    if visibility.isEmpty then named name ("impl " ++ name ++ " \x7b\x7d") rest else none
  | .word keyword :: .word name :: .mark ';' :: rest =>
    if namingWords.contains keyword then
      named name (visibility ++ keyword ++ " " ++ name ++ ";") rest
    else none
  | .word keyword :: .word name :: .mark '{' :: .mark '}' :: rest =>
    if bracingWords.contains keyword then
      named name (visibility ++ keyword ++ " " ++ name ++ " \x7b\x7d") rest
    else none
  | _ => none
where
  /-- The definition, if it can have this name. -/
  named (name text : String) (rest : List Lexeme) : Option (Heading × List Lexeme) :=
    if isMemberName name then some (.bare text, rest) else none

/-- An import or a definition, behind what is said about its visibility. -/
def visible? (visibility : String) : List Lexeme → Option (Heading × List Lexeme)
  | .word "use" :: rest => imported? visibility rest
  | lexemes => bare? visibility lexemes

/-- The heading at the front of the lexemes. -/
def heading? : List Lexeme → Option (Heading × List Lexeme)
  | .note text :: rest => some (.note text, rest)
  | .mark '#' :: .mark '[' :: rest => attribute? rest
  | .word "pub" :: .mark '(' :: .word word :: .mark ')' :: rest =>
    if word == "crate" || word == "self" || word == "super" then
      visible? ("pub(" ++ word ++ ") ") rest
    else none
  | .word "pub" :: rest => visible? "pub " rest
  | lexemes => visible? "" lexemes

/-- The headings that the lexemes are, with a bound on their number. -/
def headingsFrom : Nat → List Lexeme → Option (List Heading)
  | _, [] => some []
  | 0, _ => none
  | count + 1, lexemes => do
    let (heading, later) ← heading? lexemes
    let others ← headingsFrom count later
    some (heading :: others)

/-- The headings that a text consists of. -/
def headings? (text : String) : Option (List Heading) := do
  let lexemes ← lexemes? text
  headingsFrom lexemes.length lexemes

/-- The mark of a documentation comment. -/
def docMark : String := "///"

/-- The headings that a definition's documentation makes. -/
def summaryHeadings? (summary : String) : Option (List Heading) :=
  headings? (docMark ++ summary ++ "\n")

end Missive.Code
