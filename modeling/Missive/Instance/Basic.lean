import Missive.Registry
import Missive.Wire.Element
/-!
# Instances of emitted types

The types that the generator emits hold their fields in slots: an element, a nested message, or a
sequence of slots.

* `Slot` -- a place for a field or an element; a record knows the name of its type;
* `Registry.zeroElement`, `Registry.zeroField` -- the zero value of an element and of a field;
* `Registry.zero` -- a fresh instance of a message type.
-/

namespace Missive

/-- A place for a field or for an element of an array. -/
inductive Slot where
  | datum (d : Datum)
  /-- An instance of the message type of this full name, with a slot for each field. -/
  | record (type : String) (members : List Slot)
  | sequence (items : List Slot)

namespace Slot

/-- The name of a slot's kind, as error texts give it. -/
def kindName : Slot → String
  | datum d => d.primitive.name
  | record _ _ => Kind.message.name
  | sequence _ => "list"

end Slot

/-- The slot of a field, given how the zero value of an element is made. -/
def zeroField (element : TypeRef → Except CodecError Slot) (f : Field) : Except CodecError Slot :=
  match f.shape with
  | .single => element f.type
  | .many => .ok (.sequence [])
  | .exactly count => (element f.type).map fun slot => .sequence (List.replicate count slot)

namespace Registry

/-- The zero value of an element, through at most `budget` nested messages. -/
def zeroElement (reg : Registry) : Nat → String → TypeRef → Except CodecError Slot
  | budget, owner, type =>
    match type with
    | .primitive p => .ok (.datum (.zero p))
    | _ =>
      match reg.resolve owner type with
      | .error e => .error e
      | .ok m =>
        match budget with
        | 0 => .error (.endless m.fullName)
        | budget + 1 =>
          (m.fields.mapM (zeroField (reg.zeroElement budget m.package))).map
            (.record m.fullName)

/-- The zero value of an element.  A type that holds itself other than in an open array has
none. -/
def zeroOf (reg : Registry) (owner : String) (type : TypeRef) : Except CodecError Slot :=
  reg.zeroElement (reg.size + 1) owner type

/-- The slots of a fresh instance of a message. -/
def zeroMembers (reg : Registry) (m : Message) : Except CodecError (List Slot) :=
  m.fields.mapM (zeroField (reg.zeroOf m.package))

/-- A fresh instance of the message type of this name. -/
def zero (reg : Registry) (name : String) : Except CodecError Slot :=
  match reg.find? name with
  | none => .error (.unknownMessage name)
  | some m => (reg.zeroMembers m).map (.record name)

end Registry

end Missive
