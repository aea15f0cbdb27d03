import Missive.Proofs.Writing
/-!
# Sinks with limited room

A sink may be full at any byte: inside a number, between a count and its elements, inside a nested
message.  What it has taken by then are the first bytes of the instance, in order and with none left
out, and nothing is written after the failure.  The error names the fields around the first byte for
which there was no room.

* `Sink.fill` -- a sink after as much of some bytes as fits;
* `Slot.bytePaths` -- the fields around each byte of an instance;
* `Written.Fills` -- the invariant: all bytes were taken, or those that fit, and the error is that
  of the first one that does not;
* `Slot.length_bytePaths`, `Slot.write_fills` -- slots of all types;
* `Slot.serialize_fills` -- whole instances.
-/

namespace Missive

/-! ## Filling a sink -/

namespace Sink

/-- A sink that had room for this many bytes, after as many of these bytes as fit. -/
def fill (s : Sink) (room : Nat) (bytes : Bytes) : Sink :=
  { s with taken := (bytes.take room).reverseAux s.taken, room := some (room - bytes.length) }

variable {s : Sink} {room : Nat} {a b : Bytes}

theorem put_of_room (hs : s.room = some room) (bytes : Bytes) :
    s.put bytes
      = (if bytes.length ≤ room then .ok () else .error s.whenFull, s.fill room bytes) := by
  simp only [put, hs, fill]
  split
  · next hle => rw [List.take_of_length_le hle]
  · next hlt => rw [Nat.sub_eq_zero_of_le (Nat.le_of_not_le hlt)]

theorem fill_fill (h : a.length ≤ room) (b : Bytes) :
    (s.fill room a).fill (room - a.length) b = s.fill room (a ++ b) := by
  simp only [fill, List.take_append, List.take_of_length_le h, List.reverseAux_eq,
    List.length_append, List.reverse_append, List.append_assoc, Nat.sub_sub]

/-- Bytes behind those for which there was no room make no difference. -/
theorem fill_append_of_lt (h : room < a.length) (b : Bytes) :
    s.fill room (a ++ b) = s.fill room a := by
  have hlength : room - (a ++ b).length = room - a.length := by
    rw [List.length_append]
    omega
  simp only [fill, List.take_append_of_le_length (Nat.le_of_lt h), hlength]

theorem contents_fill (s : Sink) (room : Nat) (bytes : Bytes) :
    (s.fill room bytes).contents = s.contents ++ bytes.take room := by
  simp [fill, contents, List.reverseAux_eq]

end Sink

/-! ## The fields around a byte -/

namespace Slot

mutual

/-- For each byte that is written of a slot, the labels of the fields around it, the outermost
first. -/
def bytePaths (reg : Registry) : Slot → List (List String)
  | datum d =>
    match d.encode with
    | .error _ => []
    | .ok bytes => List.replicate bytes.length []
  | record type members =>
    match reg.find? type with
    | none => []
    | some m => memberPaths reg members m.fields
  | sequence items => List.replicate 4 [] ++ itemPaths reg items

/-- The same for the items of an array, behind its count. -/
def itemPaths (reg : Registry) : List Slot → List (List String)
  | [] => []
  | slot :: rest => bytePaths reg slot ++ itemPaths reg rest

/-- The same for the slots of a message, each with the label of its field. -/
def memberPaths (reg : Registry) : List Slot → List Field → List (List String)
  | slot :: slots, f :: fields =>
    (bytePaths reg slot).map (f.label :: ·) ++ memberPaths reg slots fields
  | _, _ => []

end

variable {reg : Registry}

mutual

/-- Every byte has its path. -/
theorem length_bytePaths (slot : Slot) {owner : String} {type : TypeRef} {shape : Shape}
    {bytes : Bytes} (h : reg.Holds owner type shape slot) (hw : slot.WrittenAs bytes) :
    (bytePaths reg slot).length = bytes.length := by
  cases h with
  | datum =>
    cases hw with
    | datum hd => rw [bytePaths, hd, List.length_replicate]
  | record _ hm hslots =>
    cases hw with
    | record hall =>
      rw [bytePaths, hm]
      exact length_memberPaths _ hslots hall
  | @sequence owner type shape items _ _ hitems =>
    cases hw with
    | sequence hlimit hall =>
      rw [bytePaths, List.length_append, List.length_append, List.length_replicate,
        Bytes.length_ofNat, length_itemPaths items hitems hall]

theorem length_itemPaths (items : List Slot) {owner : String} {type : TypeRef} {bytes : Bytes}
    (h : ∀ slot ∈ items, reg.Holds owner type .single slot) (hw : AllWrittenAs items bytes) :
    (itemPaths reg items).length = bytes.length := by
  cases items with
  | nil =>
    cases hw with
    | nil => rfl
  | cons slot rest =>
    rw [List.forall_mem_cons] at h
    cases hw with
    | cons ha hb =>
      rw [itemPaths, List.length_append, List.length_append, length_bytePaths slot h.1 ha,
        length_itemPaths rest h.2 hb]

theorem length_memberPaths (slots : List Slot) {owner : String} {fields : List Field}
    {bytes : Bytes} (h : reg.HoldsFields owner fields slots) (hw : AllWrittenAs slots bytes) :
    (memberPaths reg slots fields).length = bytes.length := by
  cases slots with
  | nil =>
    cases h with
    | nil =>
      cases hw with
      | nil => rfl
  | cons slot rest =>
    cases h with
    | cons hslot hothers =>
      cases hw with
      | cons ha hb =>
        rw [memberPaths, List.length_append, List.length_append, List.length_map,
          length_bytePaths slot hslot ha, length_memberPaths rest hothers hb]

end

end Slot

/-! ## Writing until the sink is full -/

/-- A sink with this much room has taken the bytes, or as many of them as fit; then the error is
that of a full sink, in the fields around the first byte that does not fit. -/
inductive Written.Fills (sink : Sink) (room : Nat) (bytes : Bytes) (paths : List (List String)) :
    Written → Prop
  | all : bytes.length ≤ room → Fills sink room bytes paths (.ok (), sink.fill room bytes)
  | part (e : WireError) : room < bytes.length → e.root = .transfer sink.whenFull →
      paths[room]? = some e.path →
      Fills sink room bytes paths (.error (.wire e), sink.fill room bytes)

namespace Written.Fills

variable {sink : Sink} {room : Nat} {a b : Bytes} {p q : List (List String)} {written : Written}

/-- Nothing was to be written. -/
theorem nil (hs : sink.room = some room) : Fills sink room [] [] (.ok (), sink) := by
  have hfill : sink.fill room [] = sink := by
    rw [Sink.fill, List.take_nil, List.length_nil, Nat.sub_zero, ← hs]
    rfl
  have hall : Fills sink room [] [] _ := .all (Nat.zero_le room)
  rwa [hfill] at hall

theorem write (hs : sink.room = some room) {encoded : Except WireError Bytes}
    (he : encoded = .ok a) :
    Fills sink room a (List.replicate a.length []) (sink.write encoded) := by
  rw [he, Sink.write, Sink.put_of_room hs]
  by_cases hle : a.length ≤ room
  · rw [if_pos hle]
    exact .all hle
  · have hlt := Nat.lt_of_not_le hle
    rw [if_neg hle]
    exact .part (.transfer sink.whenFull) hlt rfl (List.getElem?_replicate_of_lt hlt)

theorem inField (label : String) (h : Fills sink room a p written) :
    Fills sink room a (p.map (label :: ·)) (written.inField label) := by
  cases h with
  | all hle => exact .all hle
  | part e hlt hroot hpath =>
    refine .part (.inField label e) hlt hroot ?_
    rw [List.getElem?_map, hpath]
    rfl

/-- The second step begins with the room that the first one has left. -/
theorem andThen {next : Sink → Written} (hp : p.length = a.length)
    (h : Fills sink room a p written)
    (hn : a.length ≤ room →
      Fills (sink.fill room a) (room - a.length) b q (next (sink.fill room a))) :
    Fills sink room (a ++ b) (p ++ q) (written.andThen next) := by
  cases h with
  | part e hlt hroot hpath =>
    rw [← Sink.fill_append_of_lt hlt b]
    refine .part e ?_ hroot ?_
    · rw [List.length_append]
      omega
    · rwa [List.getElem?_append_left (hp ▸ hlt)]
  | all hle =>
    have hrest := hn hle
    show Fills sink room (a ++ b) (p ++ q) (next (sink.fill room a))
    generalize next (sink.fill room a) = written at hrest ⊢
    cases hrest with
    | all hle' =>
      rw [Sink.fill_fill hle]
      refine .all ?_
      rw [List.length_append]
      omega
    | part e hlt hroot hpath =>
      rw [Sink.fill_fill hle]
      refine .part e ?_ hroot ?_
      · rw [List.length_append]
        omega
      · rw [List.getElem?_append_right (hp ▸ hle), hp]
        exact hpath

end Written.Fills

namespace Slot

variable {reg : Registry}

mutual

/-- A slot is written into a sink as far as there is room. -/
theorem write_fills (slot : Slot) {owner : String} {type : TypeRef} {shape : Shape} {bytes : Bytes}
    {sink : Sink} {room : Nat} (h : reg.Holds owner type shape slot) (hw : slot.WrittenAs bytes)
    (hs : sink.room = some room) :
    Written.Fills sink room bytes (bytePaths reg slot) (write reg slot shape type.kind sink) := by
  cases h with
  | @datum owner d =>
    cases hw with
    | datum hd =>
      rw [TypeRef.kind, write_datum, bytePaths, hd]
      exact .write hs rfl
  | @record owner type name m slots hkey hm hslots =>
    cases hw with
    | record hall =>
      rw [TypeRef.kind_of_key hkey, write_record hm, bytePaths, hm]
      exact writeFields_fills slots hslots hall hs
  | @sequence owner type shape items harray _ hitems =>
    cases hw with
    | @sequence _ body hlimit hall =>
      rw [write_sequence reg items harray, bytePaths]
      have hcount := Written.Fills.write hs (encodeCount_eq_ok_iff.2 ⟨hlimit, rfl⟩)
      rw [Bytes.length_ofNat] at hcount
      refine hcount.andThen (by rw [List.length_replicate, Bytes.length_ofNat]) fun _ => ?_
      exact writeItems_fills items hitems hall rfl

theorem writeItems_fills (items : List Slot) {owner : String} {type : TypeRef} {bytes : Bytes}
    {sink : Sink} {room : Nat} (h : ∀ slot ∈ items, reg.Holds owner type .single slot)
    (hw : AllWrittenAs items bytes) (hs : sink.room = some room) :
    Written.Fills sink room bytes (itemPaths reg items) (writeItems reg items type.kind sink) := by
  cases items with
  | nil =>
    cases hw with
    | nil => exact .nil hs
  | cons slot rest =>
    rw [List.forall_mem_cons] at h
    cases hw with
    | cons ha hb =>
      rw [itemPaths, writeItems]
      exact (write_fills slot h.1 ha hs).andThen (length_bytePaths slot h.1 ha) fun _ =>
        writeItems_fills rest h.2 hb rfl

theorem writeFields_fills (slots : List Slot) {owner : String} {fields : List Field}
    {bytes : Bytes} {sink : Sink} {room : Nat} (h : reg.HoldsFields owner fields slots)
    (hw : AllWrittenAs slots bytes) (hs : sink.room = some room) :
    Written.Fills sink room bytes (memberPaths reg slots fields)
      (writeFields reg slots fields sink) := by
  cases slots with
  | nil =>
    cases h with
    | nil =>
      cases hw with
      | nil => exact .nil hs
  | cons slot rest =>
    cases h with
    | @cons _ f _ fields _ hslot hothers =>
      cases hw with
      | cons ha hb =>
        have hlength := length_bytePaths slot hslot ha
        rw [memberPaths, writeFields]
        exact ((write_fills slot hslot ha hs).inField f.label).andThen
          (by rw [List.length_map, hlength]) fun _ => writeFields_fills rest hothers hb rfl

end

/-! ## Whole instances -/

/-- **A sink with limited room is left with the first bytes of an instance.**  Writing succeeds just
if there is room for all of them.  Otherwise the error is that of a full sink, in the fields around
the first byte for which there was no room. -/
theorem serialize_fills {name : String} {m : Message} {slots : List Slot} {bytes : Bytes}
    (hm : reg.find? name = some m) (h : reg.HoldsFields m.package m.fields slots)
    (hb : (record name slots).toBytes reg = .ok bytes) (room : Nat) :
    (((record name slots).serialize reg (.ofRoom room)).1 = .ok () ↔ bytes.length ≤ room) ∧
      ((record name slots).serialize reg (.ofRoom room)).2.contents
        = bytes.take (min room bytes.length) ∧
      ∀ e, ((record name slots).serialize reg (.ofRoom room)).1 = .error e →
        ∃ inner, e = .wire inner ∧ inner.root = .transfer .sinkFull ∧
          (bytePaths reg (record name slots))[room]? = some inner.path := by
  have hall := allWrittenAs_of_toBytes hm h hb
  have hfills : Written.Fills (.ofRoom room) room bytes (bytePaths reg (record name slots))
      ((record name slots).serialize reg (.ofRoom room)) := by
    rw [serialize, writeElement, write_record hm, bytePaths, hm]
    exact writeFields_fills slots h hall rfl
  rw [← List.take_eq_take_min]
  generalize (record name slots).serialize reg (.ofRoom room) = written at hfills ⊢
  cases hfills with
  | all hle =>
    refine ⟨⟨fun _ => hle, fun _ => rfl⟩, Sink.contents_fill _ _ _, fun e he => ?_⟩
    cases he
  | part e hlt hroot hpath =>
    refine ⟨⟨fun he => ?_, fun hle => ?_⟩, Sink.contents_fill _ _ _, fun e' he => ?_⟩
    · cases he
    · exact absurd hle (Nat.not_le.2 hlt)
    · cases he
      exact ⟨e, rfl, hroot, hpath⟩

end Slot

namespace Forest

/-- A sink with room for 20 bytes is full when the count of the marks of the tree below is to be
written; one with room for 28 takes the whole grove. -/
theorem serialize_fills_grove : registry.find? "forest/Tree" = some tree ∧
    registry.HoldsFields tree.package tree.fields groveSlots ∧
    (Slot.record "forest/Tree" groveSlots).toBytes registry = .ok grove ∧
    ((Slot.record "forest/Tree" groveSlots).serialize registry (.ofRoom 28)).1 = .ok () ∧
    ((Slot.record "forest/Tree" groveSlots).serialize registry (.ofRoom 20)).2.contents
      = grove.take 20 ∧
    ∃ e, ((Slot.record "forest/Tree" groveSlots).serialize registry (.ofRoom 20)).1
        = .error (.wire e) ∧
      e.root = .transfer .sinkFull ∧ e.path = ["Below", "Marks"] := by
  have hb : (Slot.record "forest/Tree" groveSlots).toBytes registry = .ok grove := rfl
  obtain ⟨hroom, -, -⟩ := Slot.serialize_fills find?_tree holdsFields_grove hb 28
  obtain ⟨hfull, htaken, herror⟩ := Slot.serialize_fills find?_tree holdsFields_grove hb 20
  refine ⟨find?_tree, holdsFields_grove, hb, hroom.2 (by decide), htaken, ?_⟩
  cases hs : ((Slot.record "forest/Tree" groveSlots).serialize registry (.ofRoom 20)).1 with
  | ok _ => exact absurd (hfull.1 hs) (by decide)
  | error e =>
    obtain ⟨inner, rfl, hroot, hpath⟩ := herror e hs
    exact ⟨inner, rfl, hroot, (Option.some.inj hpath).symm⟩

end Forest

end Missive
