import Missive.Config
import Missive.Definition.Declaration
import Missive.Definition.Error
import Missive.Definition.Field
import Missive.Notice
/-!
# Resolving declarations

A resolver knows the package that owns the definitions and the modules of other packages, and turns
declarations into fields and constants.

* `Shape.read` -- the shape that brackets declare;
* `Resolver.typeRef` -- what a type token refers to;
* `Resolver.field` -- a resolved field, with the import it needs;
* `Resolver.notice?` -- the warning about a package whose module is not known.
-/

namespace Missive

/-- The shape declared by brackets.  A count of zero leaves the number of elements open, like
empty brackets. -/
def Shape.read : Option String → Except DefinitionError Shape
  | none => .ok .single
  | some "" => .ok .many
  | some digits =>
    match Decimal.readCount digits.toList with
    | .ok 0 => .ok .many
    | .ok count => .ok (.exactly count)
    | .error cause => .error (.arraySize digits cause)

/-- The package that definitions belong to, and the configuration they are read under. -/
structure Resolver where
  config : Config
  package : String

/-- A field, and the import its type needs: a package and the path of its module. -/
structure Resolution where
  field : Field
  dependency : Option (String × String)

namespace Resolver

/-- The bare token that always means the header of the bundled package. -/
def headerToken : String := "Header"

/-- The package, if any, and the name that a type token is made of. -/
def target (token : String) : Except DefinitionError (Option String × String) :=
  if token == headerToken then .ok (some Config.bundledPackage, headerToken)
  else
    match (Text.pieces '/' token.toList).map String.ofList with
    | [name] => if name.isEmpty then .error (.invalidType token) else .ok (none, name)
    | [package, name] =>
      if package.isEmpty || name.isEmpty then .error (.invalidType token)
      else .ok (some package, name)
    | _ => .error (.invalidType token)

/-- What a type token refers to.  A reference into the owning package is the same as a bare
name. -/
def typeRef (r : Resolver) (token : String) : Except DefinitionError TypeRef :=
  match Primitive.ofToken? token with
  | some p => .ok (.primitive p)
  | none =>
    match target token with
    | .error e => .error e
    | .ok (none, name) => .ok (.own name)
    | .ok (some package, name) =>
      if package == r.package then .ok (.own name) else .ok (.foreign package name)

/-- The import that a type needs: the path given beside the field, or else the configured one. -/
def dependency? (r : Resolver) (type : TypeRef) (path : Option String) :
    Option (String × String) :=
  match type with
  | .foreign package _ => (path <|> r.config.importPath? package).map fun p => (package, p)
  | _ => none

/-- Resolves a field.  A bad array size is reported before a bad type. -/
def field (r : Resolver) (name token : String) (count path : Option String) :
    Except DefinitionError Resolution := do
  let shape ← Shape.read count
  let type ← r.typeRef token
  return ⟨⟨name, token, shape, type⟩, r.dependency? type path⟩

end Resolver

/-- The warning about a foreign type for which no import was found. -/
def Resolution.notice? (resolution : Resolution) : Option Notice :=
  match resolution.field.type, resolution.dependency with
  | .foreign package _, none =>
    some ⟨.resolution, .warn,
      s!"import name not found in package directive nor known imports: {package}"⟩
  | _, _ => none

end Missive
