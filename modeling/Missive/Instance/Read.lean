import Missive.Codec.Decode
import Missive.Instance.Basic
/-!
# Reading instances

An instance is read from a source in place: each field is read into the slot that is there.  After
an error the slots read before it are new and the others are as they were.

* `Refill` -- what a read leaves behind;
* `refillItems`, `refillArray`, `refillVector`, `refillFields` -- arrays and messages, given how an
  element is read;
* `Registry.refillElement` -- one element of a kind;
* `Registry.readElement`, `Registry.readVector`, `Registry.readArray` -- the same, with a budget
  that suffices;
* `Registry.deserialize` -- a whole instance.
-/

namespace Missive

/-- What reading into something leaves behind: the thing itself, which may have changed even if the
read failed, and the source. -/
structure Refill (α : Type) where
  value : α
  status : Except CodecError Unit
  source : Source

namespace Refill

/-- The same outcome for something made of what was read. -/
def map {α β : Type} (make : α → β) (r : Refill α) : Refill β :=
  ⟨make r.value, r.status, r.source⟩

/-- An outcome that changes nothing. -/
def failure {α : Type} (value : α) (e : CodecError) (s : Source) : Refill α :=
  ⟨value, .error e, s⟩

/-- Adds the label of a field to an error. -/
def inField {α : Type} (label : String) (r : Refill α) : Refill α :=
  ⟨r.value, labelled label r.status, r.source⟩

end Refill

/-- How one element is read into its slot. -/
abbrev SlotReader := Slot → Source → Refill Slot

/-- Reads into each of these slots. -/
def refillItems (element : SlotReader) : List Slot → Source → Refill (List Slot)
  | [], s => ⟨[], .ok (), s⟩
  | slot :: rest, s =>
    match element slot s with
    | ⟨slot, .error e, s⟩ => ⟨slot :: rest, .error e, s⟩
    | ⟨slot, .ok (), s⟩ => (refillItems element rest s).map (slot :: ·)

/-- Reads an array of a fixed number of slots: the count must be that number. -/
def refillArray (element : SlotReader) (items : List Slot) (s : Source) : Refill (List Slot) :=
  match readCount s with
  | (.error e, s) => .failure items (.wire e) s
  | (.ok count, s) =>
    if count = items.length then refillItems element items s
    else .failure items (.wire (.arrayLength items.length count)) s

/-- Reads `n` more elements, each into a fresh slot; those already read are given last first. -/
def appendItems (element : SlotReader) (fresh : Slot) : Nat → List Slot → Source →
    Refill (List Slot)
  | 0, items, s => ⟨items.reverse, .ok (), s⟩
  | n + 1, items, s =>
    match element fresh s with
    | ⟨_, .error e, s⟩ => ⟨items.reverse, .error e, s⟩
    | ⟨slot, .ok (), s⟩ => appendItems element fresh n (slot :: items) s

/-- Reads a counted sequence in place of the old one.  The first element tells whether elements take
bytes: either all do or none does. -/
def refillVector (element : SlotReader) (fresh : Slot) (items : List Slot) (s : Source) :
    Refill (List Slot) :=
  match readCount s with
  | (.error e, s) => .failure items (.wire e) s
  | (.ok 0, s) => ⟨[], .ok (), s⟩
  | (.ok (n + 1), s) =>
    match element fresh s with
    | ⟨_, .error e, after⟩ => .failure [] e after
    | ⟨first, .ok (), after⟩ =>
      if after.consumed = s.consumed then
        match checkEmptyElements (n + 1) with
        | .error e => .failure [] (.wire e) after
        | .ok () => appendItems element fresh n [first] after
      else appendItems element fresh n [first] after

/-- The error of a slot that does not have the kind of the element to be read. -/
def slotMismatch (kind : Kind) (slot : Slot) : CodecError :=
  .wire (.typeMismatch kind slot.kindName)

/-- Reads a field of a message of package `owner` into its slot. -/
def refillField (reg : Registry) (element : Kind → SlotReader) (owner : String) (f : Field)
    (slot : Slot) (s : Source) : Refill Slot :=
  match f.shape, slot with
  | .single, slot => element f.kind slot s
  | .exactly _, .sequence items => (refillArray (element f.kind) items s).map .sequence
  | .many, .sequence items =>
    match reg.zeroOf owner f.type with
    | .error e => .failure slot e s
    | .ok fresh => (refillVector (element f.kind) fresh items s).map .sequence
  | _, slot => .failure slot (slotMismatch f.kind slot) s

/-- Reads the fields of a message into their slots, one after the other. -/
def refillFields (reg : Registry) (element : Kind → SlotReader) (owner : String) :
    List Field → List Slot → Source → Refill (List Slot)
  | f :: fields, slot :: slots, s =>
    match (refillField reg element owner f slot s).inField f.label with
    | ⟨slot, .error e, s⟩ => ⟨slot :: slots, .error e, s⟩
    | ⟨slot, .ok (), s⟩ => (refillFields reg element owner fields slots s).map (slot :: ·)
  | _, slots, s => ⟨slots, .ok (), s⟩

namespace Registry

/-- Reads one element of a kind into its slot, through at most `budget` nested messages. -/
def refillElement (reg : Registry) : Nat → Kind → SlotReader
  | budget, kind, slot, s =>
    match kind, slot with
    | .primitive p, .datum d =>
      if d.primitive = p then
        let r := d.refill s
        ⟨.datum r.datum, r.status.mapError .wire, r.source⟩
      else .failure slot (slotMismatch kind slot) s
    | .message, .record type members =>
      match reg.find? type with
      | none => .failure slot (.unknownMessage type) s
      | some m =>
        match budget with
        | 0 => .failure slot (.endless type) s
        | budget + 1 =>
          (refillFields reg (reg.refillElement budget) m.package m.fields members s).map
            (.record type)
    | kind, slot => .failure slot (slotMismatch kind slot) s

/-- Reads one element of a kind into its slot. -/
def readElement (reg : Registry) (kind : Kind) (slot : Slot) (s : Source) : Refill Slot :=
  reg.refillElement (reg.nestingBudget s.pending.length + 1) kind slot s

/-- Reads a counted sequence in place of the old one; `fresh` is the zero value of an element. -/
def readVector (reg : Registry) (kind : Kind) (fresh : Slot) (items : List Slot) (s : Source) :
    Refill (List Slot) :=
  refillVector (reg.refillElement (reg.nestingBudget s.pending.length + 1) kind) fresh items s

/-- Reads an array into its slots. -/
def readArray (reg : Registry) (kind : Kind) (items : List Slot) (s : Source) :
    Refill (List Slot) :=
  refillArray (reg.refillElement (reg.nestingBudget s.pending.length + 1) kind) items s

/-- Reads a whole instance from the start of a byte string. -/
def deserialize (reg : Registry) (slot : Slot) (bytes : Bytes) : Refill Slot :=
  reg.readElement .message slot (.ofBytes bytes)

end Registry

end Missive
