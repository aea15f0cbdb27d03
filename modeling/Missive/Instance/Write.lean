import Missive.Instance.Basic
/-!
# Writing instances

An instance is written into a sink field by field; what was written before an error stays in the
sink.

* `Slot.write`, `Slot.writeItems`, `Slot.writeFields` -- slots, arrays and messages;
* `Slot.writeElement`, `Slot.writeArray` -- one element of a kind, and an array of them;
* `Slot.serialize`, `Slot.toBytes` -- a whole instance.
-/

namespace Missive

/-- A step of writing: whether it succeeded, and the sink after it. -/
abbrev Written := Except CodecError Unit × Sink

/-- Puts encoded bytes into a sink. -/
def Sink.write (sink : Sink) (encoded : Except WireError Bytes) : Written :=
  match encoded with
  | .error e => (.error (.wire e), sink)
  | .ok bytes =>
    match sink.put bytes with
    | (.ok (), sink) => (.ok (), sink)
    | (.error fault, sink) => (.error (.wire (.transfer fault)), sink)

/-- The next step, if the one before succeeded. -/
def Written.andThen (written : Written) (next : Sink → Written) : Written :=
  match written with
  | (.error e, sink) => (.error e, sink)
  | (.ok (), sink) => next sink

/-- Adds the label of a field to an error. -/
def Written.inField (label : String) (written : Written) : Written :=
  (labelled label written.1, written.2)

/-- The step of a slot that does not fit its kind: nothing is written. -/
def Sink.refuse (sink : Sink) (kind : Kind) (found : String) : Written :=
  (.error (.wire (.typeMismatch kind found)), sink)

namespace Slot

mutual

/-- Writes a slot that holds an element of this kind, or an array of such elements. -/
def write (reg : Registry) : Slot → Shape → Kind → Sink → Written
  | datum d, shape, kind, sink =>
    if !shape.isArray && kind = .primitive d.primitive then sink.write d.encode
    else sink.refuse kind d.primitive.name
  | record type members, shape, kind, sink =>
    if !shape.isArray && kind = .message then
      match reg.find? type with
      | none => (.error (.unknownMessage type), sink)
      | some m => writeFields reg members m.fields sink
    else sink.refuse kind Kind.message.name
  | sequence items, shape, kind, sink =>
    if shape.isArray then
      (sink.write (encodeCount items.length)).andThen (writeItems reg items kind)
    else sink.refuse kind "list"

/-- Writes the elements of an array. -/
def writeItems (reg : Registry) : List Slot → Kind → Sink → Written
  | [], _, sink => (.ok (), sink)
  | slot :: rest, kind, sink =>
    (write reg slot .single kind sink).andThen (writeItems reg rest kind)

/-- Writes the slots of a message, each for the field it belongs to. -/
def writeFields (reg : Registry) : List Slot → List Field → Sink → Written
  | slot :: slots, f :: fields, sink =>
    ((write reg slot f.shape f.kind sink).inField f.label).andThen
      (writeFields reg slots fields)
  | _, _, sink => (.ok (), sink)

end

/-- Writes one element of a kind. -/
def writeElement (reg : Registry) (kind : Kind) (slot : Slot) (sink : Sink) : Written :=
  write reg slot .single kind sink

/-- Writes a count and that many elements of a kind. -/
def writeArray (reg : Registry) (kind : Kind) (items : List Slot) (sink : Sink) : Written :=
  write reg (.sequence items) .many kind sink

/-- Writes a whole instance. -/
def serialize (reg : Registry) (slot : Slot) (sink : Sink) : Written :=
  slot.writeElement reg .message sink

/-- The bytes of a whole instance. -/
def toBytes (reg : Registry) (slot : Slot) : Except CodecError Bytes :=
  let (result, sink) := slot.serialize reg .unlimited
  result.map fun _ => sink.contents

end Slot

end Missive
