import Missive.Definition.Directive
import Missive.Text.Blank
/-!
# Declarations

The grammar of one line of a definition.  A line declares a constant or a field; the constant is
tried first, so that `uint8 PENDING = 0` is no field with the name `PENDING`.

* `Declaration` -- what a line says, before any type is resolved;
* `Declaration.constant?`, `Declaration.field?` -- the two alternatives;
* `Declaration.read?` -- the first of them that fits.
-/

namespace Missive

/-- The characters of type tokens. -/
def isTypeChar (c : Char) : Bool :=
  isNameChar c || c == '/'

/-- A line of a definition. -/
inductive Declaration where
  | constant (type name value : String)
  /-- A field; `count` is what stands between its brackets, if it has any, and `trailer` is the
  rest of the line. -/
  | field (type : String) (count : Option String) (name trailer : String)
  deriving DecidableEq, Repr

namespace Declaration

/-- The type of string constants, whose value is the whole rest of the line. -/
def stringToken : String := "string"

/-- The leading run of characters of a class, if it is not empty, and the rest. -/
def run? (p : Char → Bool) (cs : List Char) : Option (List Char × List Char) :=
  match cs.takeWhile p with
  | [] => none
  | first => some (first, cs.dropWhile p)

/-- A type, a name, an equals sign and a value without gaps or comment signs. -/
def constant? (cs : List Char) : Option Declaration := do
  let (type, rest) ← run? isTypeChar cs
  let (_, rest) ← run? isGap rest
  let (name, rest) ← run? isNameChar rest
  match rest.dropWhile isGap with
  | '=' :: rest =>
    let (value, _) ← run? (fun c => !isGap c && c != '#') (rest.dropWhile isGap)
    let type := String.ofList type
    let value := if type == stringToken then Text.trim rest else value
    some (.constant type (String.ofList name) (String.ofList value))
  | _ => none

/-- Digits between brackets, possibly none; without brackets nothing is read. -/
def brackets (cs : List Char) : Option (List Char) × List Char :=
  match cs with
  | '[' :: rest =>
    match rest.dropWhile Char.isDigit with
    | ']' :: after => (some (rest.takeWhile Char.isDigit), after)
    | _ => (none, cs)
  | _ => (none, cs)

/-- A type, optional brackets, a name, and anything behind it. -/
def field? (cs : List Char) : Option Declaration := do
  let (type, rest) ← run? isTypeChar cs
  let (count, rest) := brackets rest
  let (_, rest) ← run? isGap rest
  let (name, trailer) ← run? isNameChar rest
  some (.field (String.ofList type) (count.map String.ofList) (String.ofList name)
    (String.ofList trailer))

/-- The declaration of a line. -/
def read? (cs : List Char) : Option Declaration :=
  constant? cs <|> field? cs

/-- The path that the comment in a trailer gives for the package of a foreign type. -/
def packagePath? (trailer : String) : Option String :=
  match trailer.toList.dropWhile (· != '#') with
  | [] => none
  | comment => (Directive.collect (String.ofList comment)).find? Directive.packageKey

end Declaration

end Missive
