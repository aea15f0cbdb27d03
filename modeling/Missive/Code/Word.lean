import Missive.Text.Identifier
/-!
# Words of emitted code

Which words can name something in emitted code, and what happens to the others.

* `isKeyword`, `isName` -- words that cannot, and words that can be a name;
* `memberName` -- the name of the struct member for a declared field;
* `isReservedType`, `isReservedPackage` -- names that emitted code itself relies on;
* `lastSegment` -- the name that a path ends with;
* `isTypePackage`, `isTypeSegment` -- what can stand in front of a type, and as one.
-/

namespace Missive.Code

/-- Keywords that stay keywords behind an escape. -/
def pathWords : List String :=
  ["crate", "self", "Self", "super"]

/-- Keywords that an escape turns into names. -/
def keywords : List String :=
  ["abstract", "as", "async", "await", "become", "box", "break", "const", "continue", "do", "dyn",
   "else", "enum", "extern", "false", "final", "fn", "for", "if", "impl", "in", "let", "loop",
   "macro", "match", "mod", "move", "mut", "override", "priv", "pub", "ref", "return", "static",
   "struct", "trait", "true", "try", "type", "typeof", "unsafe", "unsized", "use", "virtual",
   "where", "while", "yield"]

/-- A word that later editions of the language reserve; it is escaped as well. -/
def futureKeyword : String := "gen"

/-- The mark in front of an escaped name. -/
def escapeMark : String := "r#"

/-- Whether a word is a keyword. -/
def isKeyword (word : String) : Bool :=
  pathWords.contains word || keywords.contains word

/-- The name of the struct member for a field of this name. -/
def memberName (name : String) : String :=
  if pathWords.contains name then name ++ "_"
  else if keywords.contains name || name == futureKeyword then escapeMark ++ name
  else name

/-- Whether a word can be a name as it is. -/
def isName (word : String) : Bool :=
  Text.Identifier.isWord word.toList && !isKeyword word

/-- An escaped name without its mark. -/
def escaped? (word : String) : Option String :=
  match word.toList with
  | 'r' :: '#' :: rest => some (String.ofList rest)
  | _ => none

/-- Whether a word is a name, possibly escaped. -/
def isMemberName (word : String) : Bool :=
  match escaped? word with
  | some inner => Text.Identifier.isWord inner.toList && !pathWords.contains inner
  | none => isName word

/-- Types and traits that every emitted file has in scope. -/
def reservedTypes : List String :=
  ["Box", "Default", "FieldKind", "FieldMut", "FieldRef", "Message", "MessageType", "Read",
   "Result", "Service", "ServiceType", "Vec", "WireError", "Write"]

/-- Whether a type of this name would hide one that emitted code relies on. -/
def isReservedType (name : String) : Bool :=
  reservedTypes.contains name

/-- Modules that emitted code relies on. -/
def reservedPackages : List String :=
  ["wire", "std"]

/-- Whether a package of this name would hide a module that emitted code relies on. -/
def isReservedPackage (name : String) : Bool :=
  reservedPackages.contains name

/-- The name of the constant that every emitted message defines. -/
def descriptorName : String := "MESSAGE_TYPE"

/-- A text cut at double colons. -/
def segmentsFrom (current : List Char) : List Char → List (List Char)
  | ':' :: ':' :: rest => current.reverse :: segmentsFrom [] rest
  | c :: rest => segmentsFrom (c :: current) rest
  | [] => [current.reverse]

/-- The segments of a path. -/
def segments (path : String) : List String :=
  (segmentsFrom [] path.toList).map String.ofList

/-- The last segment of a path. -/
def lastSegment (path : String) : String :=
  (segments path).getLastD path

/-- Whether a package can stand in front of a type. -/
def isTypePackage (package : String) : Bool :=
  isName package || pathWords.contains package

/-- Keywords that open a type; a path behind them is another type, which has no zero value. -/
def typeOpeners : List String :=
  ["dyn", "impl"]

/-- Whether a word can be the name of a type behind its package. -/
def isTypeSegment (name : String) : Bool :=
  isName name || name == "Self"

end Missive.Code
