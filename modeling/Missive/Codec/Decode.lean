import Missive.Registry
import Missive.Wire.Element
/-!
# Decoding values

The way back from bytes to values.  A definition may refer to itself through its arrays, so the
recursion is over a budget of nested messages; `Registry.nestingBudget` is one that suffices
whenever decoding ends at all.

* `decodeItems`, `decodeField`, `decodeFields` -- arrays, fields and messages, given how an element
  is decoded;
* `Registry.decodeElement` -- one element;
* `Registry.decode` -- a message by its full name, and how many bytes were consumed.
-/

namespace Missive

/-- A step of decoding: what was read, or why nothing was, and the source after it. -/
abbrev Decoded (α : Type) := Except CodecError α × Source

/-- How one element of a type of a package is decoded. -/
abbrev ElementDecoder := String → TypeRef → Source → Decoded Value

/-- Decodes `n` elements; those already decoded are given last first. -/
def decodeItems (element : Source → Decoded Value) : Nat → List Value → Source →
    Decoded (List Value)
  | 0, items, s => (.ok items.reverse, s)
  | n + 1, items, s =>
    match element s with
    | (.error e, s) => (.error e, s)
    | (.ok v, s) => decodeItems element n (v :: items) s

/-- Whether a count may stand in front of an array: it is the declared one, if there is one, and
not too large if the elements take no bytes. -/
def admitCount (reg : Registry) (owner : String) (f : Field) (count : Nat) :
    Except CodecError Unit :=
  if f.shape.isFixed && count != f.shape.count then
    .error (.wire (.arrayLength f.shape.count count))
  else
    match reg.isEmptyElement owner f.type with
    | .error e => .error e
    | .ok true => (checkEmptyElements count).mapError .wire
    | .ok false => .ok ()

/-- Decodes a field of a message of package `owner`. -/
def decodeField (reg : Registry) (element : ElementDecoder) (owner : String) (f : Field)
    (s : Source) : Decoded Value :=
  if f.shape.isArray then
    match readCount s with
    | (.error e, s) => (.error (.wire e), s)
    | (.ok count, s) =>
      match admitCount reg owner f count with
      | .error e => (.error e, s)
      | .ok () =>
        match decodeItems (element owner f.type) count [] s with
        | (.error e, s) => (.error e, s)
        | (.ok items, s) => (.ok (.list items), s)
  else element owner f.type s

/-- Sets a member, in place of one that has the same name. -/
def Members.set (members : Members) (name : String) (v : Value) : Members :=
  if (members.lookup name).isSome then
    members.map fun m => if m.1 = name then (name, v) else m
  else members ++ [(name, v)]

/-- Decodes the fields of a message, one after the other, beside the members already decoded. -/
def decodeFields (reg : Registry) (element : ElementDecoder) (owner : String) :
    List Field → Members → Source → Decoded Members
  | [], members, s => (.ok members, s)
  | f :: rest, members, s =>
    match decodeField reg element owner f s with
    | (.error e, s) => (.error (e.inField f.label), s)
    | (.ok v, s) => decodeFields reg element owner rest (members.set f.name v) s

namespace Registry

/-- Decodes one element, through at most `budget` nested messages. -/
def decodeElement (reg : Registry) : Nat → ElementDecoder
  | budget, owner, type, s =>
    match type with
    | .primitive p =>
      match p.read s with
      | (.error e, s) => (.error (.wire e), s)
      | (.ok d, s) => (.ok (.datum d), s)
    | _ =>
      match reg.resolve owner type with
      | .error e => (.error e, s)
      | .ok m =>
        match budget with
        | 0 => (.error (.endless m.fullName), s)
        | budget + 1 =>
          match decodeFields reg (reg.decodeElement budget) m.package m.fields [] s with
          | (.error e, s) => (.error e, s)
          | (.ok members, s) => (.ok (.struct members), s)

/-- How many messages can be nested in an input of this length.  Between two bytes no message can
occur twice, unless there is no end to it. -/
def nestingBudget (reg : Registry) (length : Nat) : Nat :=
  (reg.size + 1) * (length + 1)

/-- Decodes the message of this name from the start of a byte string.  The number of consumed bytes
is there also if decoding fails. -/
def decode (reg : Registry) (name : String) (bytes : Bytes) : Nat × Except CodecError Members :=
  match reg.find? name with
  | none => (0, .error (.unknownMessage name))
  | some m =>
    let element := reg.decodeElement (reg.nestingBudget bytes.length)
    let (result, s) := decodeFields reg element m.package m.fields [] (.ofBytes bytes)
    (s.consumed, result)

end Registry

end Missive
