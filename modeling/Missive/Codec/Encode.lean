import Missive.Registry
import Missive.Wire.Element
/-!
# Encoding values

A value is encoded along a definition: the fields in declaration order, each looked up by its name
among the members.  Members that no field declares are ignored.

* `Value.encode` -- the bytes of a value for a type and a shape;
* `encodeFields` -- the bytes of a message, one field after the other;
* `Registry.encode` -- a message by its full name.
-/

namespace Missive

/-- The way in which one member of a compound is encoded, for a type of a package and a shape. -/
abbrev Encoder := String → TypeRef → Shape → Except CodecError Bytes

/-- The bytes of a message whose members have these encoders. -/
def encodeFields (m : Message) (coders : List (String × Encoder)) :
    List Field → Except CodecError Bytes
  | [] => .ok []
  | f :: rest =>
    match coders.lookup f.name with
    | none => .error (.missingField [] f.name)
    | some code =>
      match labelled f.label (code m.package f.type f.shape) with
      | .error e => .error e
      | .ok bytes => (encodeFields m coders rest).map (bytes ++ ·)

/-- The count in front of an array: it must be the declared one, if there is one. -/
def encodeArrayCount (shape : Shape) (count : Nat) : Except CodecError Bytes :=
  if shape.isFixed && count != shape.count then
    .error (.wire (.arrayLength shape.count count))
  else (encodeCount count).mapError .wire

/-- The error of a value that does not have the shape of its type. -/
def shapeMismatch (type : TypeRef) (found : String) : CodecError :=
  .wire (.typeMismatch type.kind found)

namespace Value

mutual

/-- The bytes of a value. -/
def encode (reg : Registry) : Value → Encoder
  | datum d, owner, type, shape =>
    if shape.isArray then .error (shapeMismatch type d.primitive.name)
    else
      match type with
      | .primitive p =>
        if d.primitive = p then d.encode.mapError .wire
        else .error (shapeMismatch type d.primitive.name)
      | _ =>
        match reg.resolve owner type with
        | .error e => .error e
        | .ok _ => .error (shapeMismatch type d.primitive.name)
  | struct members, owner, type, shape =>
    if shape.isArray then .error (shapeMismatch type "struct")
    else
      match type with
      | .primitive _ => .error (shapeMismatch type "struct")
      | _ =>
        match reg.resolve owner type with
        | .error e => .error e
        | .ok m => encodeFields m (encoders reg members) m.fields
  | list items, owner, type, shape =>
    if shape.isArray then
      match encodeArrayCount shape items.length with
      | .error e => .error e
      | .ok count => (encodeItems reg items owner type).map (count ++ ·)
    else
      match type with
      | .primitive _ => .error (shapeMismatch type "list")
      | _ =>
        match reg.resolve owner type with
        | .error e => .error e
        | .ok _ => .error (shapeMismatch type "list")

/-- The bytes of the elements of an array. -/
def encodeItems (reg : Registry) : List Value → String → TypeRef → Except CodecError Bytes
  | [], _, _ => .ok []
  | v :: rest, owner, type =>
    match encode reg v owner type .single with
    | .error e => .error e
    | .ok bytes => (encodeItems reg rest owner type).map (bytes ++ ·)

/-- The encoders of the members of a compound. -/
def encoders (reg : Registry) : List (String × Value) → List (String × Encoder)
  | [] => []
  | (name, v) :: rest =>
    (name, fun owner type shape => encode reg v owner type shape) :: encoders reg rest

end

theorem lookup_encoders (reg : Registry) (members : Members) (name : String) :
    (encoders reg members).lookup name = (members.lookup name).map (encode reg ·) := by
  induction members with
  | nil => simp [encoders]
  | cons member rest ih =>
    obtain ⟨key, v⟩ := member
    by_cases h : name = key
    · subst h
      simp [encoders]
    · have hb : (name == key) = false := by simpa using h
      simp [encoders, List.lookup_cons, hb, ih]

end Value

namespace Registry

/-- The bytes of the message of this name with these members. -/
def encode (reg : Registry) (name : String) (members : Members) : Except CodecError Bytes :=
  match reg.find? name with
  | none => .error (.unknownMessage name)
  | some m => encodeFields m (Value.encoders reg members) m.fields

end Registry

end Missive
