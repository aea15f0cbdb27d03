import Missive.Proofs.Restoring
import Missive.Proofs.RoundTrip
import Missive.Proofs.Walking
/-!
# Limits of encoders and decoders

Elements that take no bytes are limited in their number, but not everywhere: the decoders and the
walk judge all arrays of them, emitted types only the open ones that they read, and nothing is
judged when it is written.  So what was written is accepted everywhere as long as it keeps to the
limit, and there are messages that are written and then accepted nowhere.

* `Registry.Crowded.overfull` -- a slot that its reader does not accept stands for a value that the
  decoder does not accept;
* `Registry.decodeMessage_recovers` -- a message in front of anything, with a budget of its nesting;
* `Registry.encodings_accepted` -- what keeps to the limit is accepted by all readers;
* `Heap.registry` -- a registry with too many marks in one array;
* `Heap.encodings_refused` -- they are written all the same.
-/

namespace Missive

namespace Registry

variable {reg : Registry}

/-! ## Slots and values beyond the limit -/

/-- The member of a record that belongs to a field is found under the name of the field. -/
theorem lookup_images {owner : String} {fields : List Field} {slots : List Slot}
    (distinct : (fields.map Field.name).Nodup) (h : reg.HoldsFields owner fields slots) {f : Field}
    {slot : Slot} (hmem : (f, slot) ∈ fields.zip slots) :
    ((fields.map Field.name).zip (slots.map (Slot.image reg))).lookup f.name
      = some (slot.image reg) := by
  have hlength : (fields.map Field.name).length = (slots.map (Slot.image reg)).length := by
    rw [List.length_map, List.length_map, h.length_eq]
  have hnames : ((fields.map Field.name).zip (slots.map (Slot.image reg))).map Prod.fst
      = fields.map Field.name := List.map_fst_zip (Nat.le_of_eq hlength)
  refine Members.lookup_of_mem (by rwa [hnames]) ?_
  rw [List.zip_map]
  exact List.mem_map.2 ⟨(f, slot), hmem, rfl⟩

/-- What is too much for the reader of a slot is too much for the decoder of its value. -/
theorem Crowded.overfull (distinct : reg.HasDistinctFields) {owner : String} {type : TypeRef}
    {shape : Shape} {slot : Slot} (hc : reg.Crowded owner type shape slot)
    (h : reg.Holds owner type shape slot) :
    reg.Overfull owner type shape (slot.image reg) := by
  induction hc with
  | @array owner type items height hw hlong =>
    rw [Slot.image_sequence]
    exact .array rfl hw (by rwa [List.length_map])
  | @item owner type shape items slot hmem _ ih =>
    cases h with
    | sequence ha _ hitems =>
      rw [Slot.image_sequence]
      exact .item ha (List.mem_map_of_mem hmem) (ih (hitems slot hmem))
  | @member owner type m name slots f slot hm hmem _ ih =>
    cases h with
    | record hkey hfind hslots =>
      -- both ways to the message of the record lead to the same one
      obtain rfl := Except.ok.inj ((resolve_of_key hkey hfind).symm.trans hm)
      have hlookup := lookup_images (distinct _ ⟨name, hfind⟩) hslots hmem
      rw [Slot.image_record hfind]
      exact .member hm (List.of_mem_zip hmem).1 hlookup (ih (hslots.holds hmem))

/-- The same for the slots of a message and its members. -/
theorem CrowdedMember.overfullMember (distinct : reg.HasDistinctFields) {name : String}
    {m : Message} {slots : List Slot} {members : Members} (hm : reg.find? name = some m)
    (h : reg.HoldsFields m.package m.fields slots)
    (himage : (Slot.record name slots).image reg = .struct members)
    (hc : reg.CrowdedMember m.package m.fields slots) :
    reg.OverfullMember m.package m.fields members := by
  obtain ⟨⟨f, slot⟩, hmem, hcrowded⟩ := hc
  rw [Slot.image_record hm] at himage
  obtain rfl := Value.struct.inj himage
  have hlookup := lookup_images (distinct m ⟨name, hm⟩) h hmem
  exact ⟨f, (List.of_mem_zip hmem).1, _, hlookup, hcrowded.overfull distinct (h.holds hmem)⟩

/-! ## Within the limit -/

/-- A message is decoded again from in front of anything, with a budget of its nesting. -/
theorem decodeMessage_recovers (closed : reg.IsClosed) (distinct : reg.HasDistinctFields)
    {m : Message} (hreg : reg.Registered m) {members : Members} {bytes : Bytes} {s t : Source}
    (he : encodeFields m (Value.encoders reg members) m.fields = .ok bytes)
    (hread : s.Reads bytes t) :
    Decoded.Recovers (reg.decodeMessage (Value.nestingMembers members) m s)
      (members.restrict reg m) t (reg.OverfullMember m.package m.fields members) := by
  have hinverts := decodeElement_inverts closed distinct (Value.nestingMembers members)
  exact decodeFields_recovers hinverts closed (closed m hreg) (distinct m hreg) (Nat.le_refl _) he
    hread

/-- A value that keeps to the limit is decoded again, and the walk finds its end. -/
theorem decode_of_encode (closed : reg.IsClosed) (distinct : reg.HasDistinctFields)
    {name : String} {m : Message} {members : Members} {bytes : Bytes}
    (hm : reg.find? name = some m) (he : reg.encode name members = .ok bytes)
    (hfew : ¬reg.OverfullMember m.package m.fields members) :
    reg.decode name bytes = (bytes.length, .ok (members.restrict reg m)) ∧
      reg.extent name bytes = .ok bytes.length := by
  simp only [encode, hm] at he
  have hrecovers := decodeMessage_recovers closed distinct ⟨name, hm⟩ he (Source.reads_all bytes)
  have hmessage := hrecovers.resolve_right fun h => hfew h.1
  have hdecode : reg.decode name bytes = (bytes.length, .ok (members.restrict reg m)) := by
    rw [decode_of_decodeMessage hm hrecovers.not_ranOut, hmessage]
  have hfinishes : reg.Finishes name bytes := by
    rw [finishes_iff, hdecode]
    exact fun around h => by cases h
  refine ⟨hdecode, ?_⟩
  rcases extent_cases hfinishes with ⟨n, out, hd, hx⟩ | ⟨n, e, hd, -⟩
  · cases hd.symm.trans hdecode
    exact hx
  · cases hd.symm.trans hdecode

/-- **What keeps to the limit is accepted.**  If no array of a value holds too many elements without
bytes, then whatever the encoder makes of it is accepted by the decoder and by the walk; and if it
is the value of an instance, then what the instance is written as is accepted by both, and read into
any other instance. -/
theorem encodings_accepted (keyed : reg.IsKeyed) (closed : reg.IsClosed)
    (distinct : reg.HasDistinctFields) {name : String} {m : Message} (hm : reg.find? name = some m)
    (nested : ∀ f ∈ m.fields, reg.FinitelyNested m.package f.type) {members : Members}
    (hfew : ¬reg.OverfullMember m.package m.fields members) :
    (∀ bytes, reg.encode name members = .ok bytes →
      reg.decode name bytes = (bytes.length, .ok (members.restrict reg m)) ∧
        reg.extent name bytes = .ok bytes.length) ∧
    ∀ slots bytes, reg.HoldsFields m.package m.fields slots →
      (Slot.record name slots).image reg = .struct members →
      (Slot.record name slots).toBytes reg = .ok bytes →
      reg.decode name bytes = (bytes.length, .ok (members.restrict reg m)) ∧
        reg.extent name bytes = .ok bytes.length ∧
        ∀ old, reg.HoldsFields m.package m.fields old →
          (reg.deserialize (.record name old) bytes).status = .ok () := by
  refine ⟨fun bytes he => decode_of_encode closed distinct hm he hfew,
    fun slots bytes hslots himage hb => ?_⟩
  -- what the instance is written as is what its value is encoded as
  have he : reg.encode name members = .ok bytes := by
    rw [Slot.image, Value.struct.injEq] at himage
    rw [← himage, ← (toBytes_emits distinct hm hslots).1, hb]
  obtain ⟨hdecode, hextent⟩ := decode_of_encode closed distinct hm he hfew
  refine ⟨hdecode, hextent, fun old hold => ?_⟩
  have hcrowded : ¬reg.CrowdedMember m.package m.fields slots :=
    fun hc => hfew (hc.overfullMember distinct hm hslots himage)
  have hread := deserialize_of_allWrittenAs keyed hm nested hslots
    (Slot.allWrittenAs_of_toBytes hm hslots hb) hcrowded hold []
  rw [List.append_nil] at hread
  rw [hread]

end Registry

/-! ## Beyond the limit -/

namespace Heap

/-- A message without bytes. -/
def mark : Message :=
  ⟨"heap", "Mark", "", [], [], .empty⟩

/-- A field for marks. -/
def marks (shape : Shape) : Field :=
  ⟨"marks", "Mark", shape, .own "Mark"⟩

/-- A message that holds marks. -/
def box (name : String) (shape : Shape) : Message :=
  ⟨"heap", name, "", [marks shape], [], .empty⟩

/-- Any number of marks, and one more of them than a decoder accepts. -/
def registry : Registry :=
  .ofMessages [mark, box "Pile" .many, box "Crate" (.exactly 65537)]

theorem find?_mark : registry.find? "heap/Mark" = some mark := rfl

theorem find?_pile : registry.find? "heap/Pile" = some (box "Pile" .many) := rfl

theorem find?_crate : registry.find? "heap/Crate" = some (box "Crate" (.exactly 65537)) := rfl

theorem isKeyed : registry.IsKeyed :=
  Registry.isKeyed_ofMessages _

theorem isClosed : registry.IsClosed :=
  Registry.isClosed_of_entries (by decide)

theorem hasDistinctFields : registry.HasDistinctFields :=
  Registry.hasDistinctFields_of_entries (by decide)

theorem resolve_mark : registry.resolve "heap" (.own "Mark") = .ok mark := rfl

theorem finitelyNested (name : String) (shape : Shape) :
    ∀ f ∈ (box name shape).fields, registry.FinitelyNested "heap" f.type := by
  intro f hf owner type hreaches
  obtain rfl := List.mem_singleton.1 hf
  cases hreaches with
  | here => exact .message resolve_mark fun f hf => by cases hf
  | inside hm hf _ =>
    obtain rfl := Except.ok.inj (hm.symm.trans resolve_mark)
    cases hf

/-- The members of a box with this many marks. -/
def members (n : Nat) : Members :=
  [("marks", .list (List.replicate n (.struct [])))]

/-- The slots of a box with this many marks. -/
def slots (n : Nat) : List Slot :=
  [.sequence (List.replicate n (.record "heap/Mark" []))]

theorem holds_mark : registry.Holds "heap" (.own "Mark") .single (.record "heap/Mark" []) :=
  .record rfl find?_mark .nil

theorem image_slots {name key : String} {shape : Shape}
    (hm : registry.find? key = some (box name shape)) (n : Nat) :
    (Slot.record key (slots n)).image registry = .struct (members n) := by
  have hmark : (Slot.record "heap/Mark" []).image registry = .struct [] := rfl
  rw [Slot.image_record hm, slots, List.map_singleton, Slot.image_sequence, List.map_replicate,
    hmark]
  rfl

section

variable {name key : String} {shape : Shape} (ha : shape.isArray = true) {n : Nat}
  (hfixed : shape.isFixed = true → n = shape.count)

include ha hfixed

theorem holdsFields_slots : registry.HoldsFields "heap" (box name shape).fields (slots n) := by
  refine .cons (.sequence ha ?_ ?_) .nil
  · rwa [List.length_replicate]
  · intro slot hslot
    rw [List.eq_of_mem_replicate hslot]
    exact holds_mark

variable (hm : registry.find? key = some (box name shape)) (hn : n < lengthLimit)

include hm hn

/-- However many marks there are, they are encoded. -/
theorem encode_members : registry.encode key (members n) = .ok (Bytes.ofNat 4 n) := by
  have hlist : (Value.list (List.replicate n (.struct []))).encode registry "heap" (.own "Mark")
      shape = .ok (Bytes.ofNat 4 n) :=
    Value.encode_emptyItems ha hfixed hn rfl
  have hfields : encodeFields (box name shape) (Value.encoders registry (members n))
      [marks shape]
        = joinEncoded (labelled (marks shape).label (.ok (Bytes.ofNat 4 n))) (.ok []) := by
    have hlast : (marks shape).name ∉ ([] : List Field).map Field.name := List.not_mem_nil
    rw [← hlist]
    exact encodeFields_first hlast
  simp only [Registry.encode, hm]
  exact hfields.trans (congrArg Except.ok (List.append_nil _))

/-- They are written, too. -/
theorem toBytes_slots : (Slot.record key (slots n)).toBytes registry = .ok (Bytes.ofNat 4 n) := by
  have himage := image_slots hm n
  rw [Slot.image, Value.struct.injEq] at himage
  rw [(Registry.toBytes_emits hasDistinctFields hm (holdsFields_slots ha hfixed)).1, himage]
  exact encode_members ha hfixed hm hn

end

/-- Emitted types do not limit the number of elements in arrays of a declared length. -/
theorem not_crowdedMember_crate {count n : Nat} :
    ¬registry.CrowdedMember "heap" (box "Crate" (.exactly count)).fields (slots n) := by
  rintro ⟨member, hmem, hcrowded⟩
  obtain rfl := List.mem_singleton.1 hmem
  cases hcrowded with
  | item hslot hmark =>
    obtain rfl := List.eq_of_mem_replicate hslot
    cases hmark with
    | member hr hg _ =>
      obtain rfl := Except.ok.inj (hr.symm.trans resolve_mark)
      cases hg

/-- The error of one mark too many. -/
def refusal : CodecError :=
  .wire (.inField "Marks" (.elementLimit 65537 65536))

/-- Within the limit the marks of a pile are accepted. -/
theorem encodings_accepted_pile : registry.IsKeyed ∧ registry.IsClosed ∧
    registry.HasDistinctFields ∧ registry.find? "heap/Pile" = some (box "Pile" .many) ∧
    (∀ f ∈ (box "Pile" .many).fields, registry.FinitelyNested "heap" f.type) ∧
    ¬registry.OverfullMember "heap" (box "Pile" .many).fields (members 2) ∧
    registry.HoldsFields "heap" (box "Pile" .many).fields (slots 2) ∧
    (Slot.record "heap/Pile" (slots 2)).image registry = .struct (members 2) ∧
    (Slot.record "heap/Pile" (slots 2)).toBytes registry = .ok [2, 0, 0, 0] ∧
    registry.decode "heap/Pile" [2, 0, 0, 0] = (4, .ok (members 2)) ∧
    registry.extent "heap/Pile" [2, 0, 0, 0] = .ok 4 ∧
    (registry.deserialize (.record "heap/Pile" (slots 5)) [2, 0, 0, 0]).status = .ok () := by
  have nested := finitelyNested "Pile" .many
  have hfew : ¬registry.OverfullMember "heap" (box "Pile" .many).fields (members 2) := by
    rintro ⟨f, hf, v, hv, hover⟩
    obtain rfl := List.mem_singleton.1 hf
    obtain rfl : Value.list [.struct [], .struct []] = v := Option.some.inj hv
    cases hover with
    | array _ _ hlong => exact absurd hlong (by decide)
    | item _ hmem hstruct =>
      obtain rfl := List.eq_of_mem_replicate (n := 2) hmem
      cases hstruct with
      | member hr hg _ _ =>
        obtain rfl := Except.ok.inj (hr.symm.trans resolve_mark)
        cases hg
  have hslots : ∀ n, registry.HoldsFields "heap" (box "Pile" .many).fields (slots n) :=
    fun n => holdsFields_slots rfl fun h => by cases h
  have himage := image_slots find?_pile 2
  have hb : (Slot.record "heap/Pile" (slots 2)).toBytes registry = .ok [2, 0, 0, 0] := rfl
  obtain ⟨-, hwritten⟩ := Registry.encodings_accepted isKeyed isClosed hasDistinctFields find?_pile
    nested hfew
  obtain ⟨hdecode, hextent, hread⟩ := hwritten (slots 2) [2, 0, 0, 0] (hslots 2) himage hb
  exact ⟨isKeyed, isClosed, hasDistinctFields, find?_pile, nested, hfew, hslots 2, himage, hb,
    hdecode, hextent, hread (slots 5) (hslots 5)⟩

/-- **Too many marks are written, and not read again.**  The encoder and the emitted type make four
bytes of a pile of 65537 marks; decoder, walk and emitted type refuse them all.  A crate of as many
is written and read by its emitted type, but refused by decoder and walk. -/
theorem encodings_refused : registry.IsClosed ∧ registry.HasDistinctFields ∧
    (registry.encode "heap/Pile" (members 65537) = .ok [1, 0, 1, 0] ∧
      registry.decode "heap/Pile" [1, 0, 1, 0] = (4, .error refusal) ∧
      registry.extent "heap/Pile" [1, 0, 1, 0] = .error refusal ∧
      (Slot.record "heap/Pile" (slots 65537)).toBytes registry = .ok [1, 0, 1, 0] ∧
      ∀ old, (registry.deserialize (.record "heap/Pile" (slots old)) [1, 0, 1, 0]).status
        = .error refusal) ∧
    registry.encode "heap/Crate" (members 65537) = .ok [1, 0, 1, 0] ∧
      registry.decode "heap/Crate" [1, 0, 1, 0] = (4, .error refusal) ∧
      registry.extent "heap/Crate" [1, 0, 1, 0] = .error refusal ∧
      (Slot.record "heap/Crate" (slots 65537)).toBytes registry = .ok [1, 0, 1, 0] ∧
      (registry.deserialize (.record "heap/Crate" (slots 65537)) [1, 0, 1, 0]).status = .ok () := by
  have hpile : (Shape.many).isFixed = true → 65537 = (Shape.many).count := fun h => by cases h
  have hcrate : (Shape.exactly 65537).isFixed = true → 65537 = (Shape.exactly 65537).count :=
    fun _ => rfl
  have hlimit : 65537 < lengthLimit := by decide
  have hslots : registry.HoldsFields "heap" (box "Crate" (.exactly 65537)).fields (slots 65537) :=
    holdsFields_slots rfl hcrate
  have hbytes := toBytes_slots rfl hcrate find?_crate hlimit
  -- all of its marks are read: evaluation would have to build them first
  have hread := Registry.deserialize_of_allWrittenAs isKeyed find?_crate
    (finitelyNested "Crate" (.exactly 65537)) hslots
    (Slot.allWrittenAs_of_toBytes find?_crate hslots hbytes) not_crowdedMember_crate hslots []
  rw [List.append_nil] at hread
  exact ⟨isClosed, hasDistinctFields,
    ⟨encode_members rfl hpile find?_pile hlimit, rfl, rfl,
      toBytes_slots rfl hpile find?_pile hlimit, fun old => rfl⟩,
    encode_members rfl hcrate find?_crate hlimit, rfl, rfl, hbytes, congrArg Refill.status hread⟩

end Heap

end Missive
