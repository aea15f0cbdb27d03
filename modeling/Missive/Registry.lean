import Missive.Codec.Error
import Missive.Descriptor
/-!
# Registries

Message definitions by full name, each written once.

* `Registry`, `find?` -- the store;
* `Changed`, `insert`, `register` -- changing it, and what a change leaves behind;
* `Registry.resolve` -- the message that a field's type refers to;
* `Registry.isEmptyElement` -- whether elements of a type take no bytes.
-/

namespace Missive

/-- Definitions by full name. -/
structure Registry where
  messages : Dictionary Message

namespace Registry

/-- The registry without definitions. -/
def empty : Registry := ⟨.empty⟩

/-- The definition of this full name. -/
def find? (reg : Registry) (name : String) : Option Message :=
  reg.messages.find? name

/-- The number of definitions. -/
def size (reg : Registry) : Nat :=
  reg.messages.size

/-- How a change of a registry ends, and the registry that is there afterwards, whether it ends well
or not. -/
structure Changed where
  status : Except CodecError Unit
  registry : Registry

/-- Adds a definition under its full name, which must be free. -/
def insert (reg : Registry) (m : Message) : Changed :=
  if reg.messages.contains m.fullName then ⟨.error (.duplicate m.fullName), reg⟩
  else ⟨.ok (), ⟨reg.messages.insert m.fullName m⟩⟩

/-- The notice about a definition that has been added. -/
def insertNotice (m : Message) : Notice :=
  ⟨.registry, .debug, s!"registered {m.fullName} ({m.fields.length} fields)"⟩

/-- The package and the name that a full name is made of: it is cut at the first slash. -/
def splitName (name : String) : Except CodecError (String × String) :=
  match Text.splitOnce '/' name.toList with
  | some (package, rest) => .ok (String.ofList package, String.ofList rest)
  | none => .error (.unknownMessage name)

/-- Reads the definition that a descriptor carries, under the standard configuration. -/
def readDescriptor (d : Descriptor) : Except CodecError Message :=
  match splitName d.name with
  | .error e => .error e
  | .ok (package, name) =>
    (Resolver.readMessageText ⟨Config.standard, package⟩ name d.text).mapError .definition

/-- Reads the definition that a descriptor carries and adds it. -/
def register (reg : Registry) (d : Descriptor) : Changed :=
  match readDescriptor d with
  | .error e => ⟨.error e, reg⟩
  | .ok m => reg.insert m

/-- The notices of registering a descriptor. -/
def registerNotices (reg : Registry) (d : Descriptor) : List Notice :=
  match splitName d.name with
  | .error _ => []
  | .ok (package, name) =>
    Resolver.messageTextNotices ⟨Config.standard, package⟩ name d.text
      ++ (match readDescriptor d with
          | .error _ => []
          | .ok m =>
            match (reg.insert m).status with
            | .error _ => []
            | .ok _ => [insertNotice m])

/-- The message that a type refers to, for a field of a message of package `owner`. -/
def resolve (reg : Registry) (owner : String) (type : TypeRef) : Except CodecError Message :=
  match type.key? owner with
  | none => .error (.unknownMessage type.kind.name)
  | some key =>
    match reg.find? key with
    | none => .error (.unknownMessage key)
    | some m => .ok m

/-- Whether a result is `true`, for all members of a list up to the first one where it is not. -/
def allTrue {α : Type} (test : α → Except CodecError Bool) : List α → Except CodecError Bool
  | [] => .ok true
  | a :: rest =>
    match test a with
    | .ok true => allTrue test rest
    | other => other

/-- Whether an element takes no bytes, looking only so many levels deep; beyond them it is taken
to have some. -/
def isEmptyWithin (reg : Registry) : Nat → String → TypeRef → Except CodecError Bool
  | 0, _, _ => .ok false
  | levels + 1, owner, type =>
    match type with
    | .primitive _ => .ok false
    | _ =>
      match reg.resolve owner type with
      | .error e => .error e
      | .ok m =>
        allTrue
          (fun f =>
            if f.shape.isArray then .ok false else reg.isEmptyWithin levels m.package f.type)
          m.fields

/-- The number of levels of messages that are looked at. -/
def emptinessLevels : Nat := 65

/-- Whether an element of this type takes no bytes: a message whose fields are all, recursively,
such messages. -/
def isEmptyElement (reg : Registry) (owner : String) (type : TypeRef) : Except CodecError Bool :=
  reg.isEmptyWithin emptinessLevels owner type

end Registry

end Missive
