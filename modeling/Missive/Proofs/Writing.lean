import Missive.Instance.Write
import Missive.Proofs.Canonical
import Missive.Proofs.Instances
import Missive.Proofs.Mirroring
/-!
# Writing instances and encoding values

An emitted type writes itself from its slots into a sink; the encoder makes bytes from a value and a
definition.  They are written separately, and here they are seen to do the same: the bytes that go
into a sink with room for everything are those of the encoder, and so is the error, with all labels
of the fields around it.

* `Sink.append` -- a sink that has taken some more bytes;
* `Slot.write_datum`, `Slot.write_record`, `Slot.write_sequence` -- what is written of a slot that
  fits its kind;
* `Written.Emits` -- the invariant: these bytes were written, or this error arose;
* `Slot.write_emits` -- slots of all types;
* `Slot.WrittenAs`, `Slot.writtenAs_of_write` -- the bytes of a slot, without a sink;
* `Registry.toBytes_matches_encode` -- whole messages.
-/

namespace Missive

/-! ## Sinks with room for everything -/

namespace Sink

/-- The sink after it has taken these bytes. -/
def append (s : Sink) (bytes : Bytes) : Sink :=
  { s with taken := bytes.reverseAux s.taken }

@[simp]
theorem append_append (s : Sink) (a b : Bytes) : (s.append a).append b = s.append (a ++ b) := by
  simp [append, List.reverseAux_eq]

@[simp]
theorem contents_append (s : Sink) (bytes : Bytes) :
    (s.append bytes).contents = s.contents ++ bytes := by
  simp [append, contents, List.reverseAux_eq]

theorem write_of_unlimited {s : Sink} (h : s.room = none) (encoded : Except WireError Bytes) :
    s.write encoded = match encoded with
      | .error e => (.error (.wire e), s)
      | .ok bytes => (.ok (), s.append bytes) := by
  cases encoded with
  | error e => rfl
  | ok bytes => simp only [write, put, h, append]

end Sink

/-! ## What is written of a slot -/

theorem TypeRef.kind_of_key {type : TypeRef} {owner key : String}
    (h : type.key? owner = some key) : type.kind = .message := by
  cases type with
  | primitive p => cases h
  | own name | foreign package name => rfl

namespace Slot

theorem write_datum (reg : Registry) (d : Datum) (sink : Sink) :
    write reg (datum d) .single (.primitive d.primitive) sink = sink.write d.encode := by
  simp [write, Shape.isArray]

theorem write_record {reg : Registry} {name : String} {m : Message} (hm : reg.find? name = some m)
    (slots : List Slot) (sink : Sink) :
    write reg (record name slots) .single .message sink
      = writeFields reg slots m.fields sink := by
  simp [write, Shape.isArray, hm]

theorem write_sequence (reg : Registry) (items : List Slot) {shape : Shape}
    (h : shape.isArray = true) (kind : Kind) (sink : Sink) :
    write reg (sequence items) shape kind sink
      = (sink.write (encodeCount items.length)).andThen (writeItems reg items kind) := by
  simp [write, h]

end Slot

/-! ## Encodings one after the other -/

/-- Two encodings, the second one behind the first one. -/
def joinEncoded (first rest : Except CodecError Bytes) : Except CodecError Bytes :=
  match first with
  | .error e => .error e
  | .ok bytes => rest.map (bytes ++ ·)

/-- The count of an array of a declared length is the declared one. -/
theorem encodeArrayCount_of_fits {shape : Shape} {count : Nat}
    (h : shape.isFixed = true → count = shape.count) :
    encodeArrayCount shape count = (encodeCount count).mapError .wire := by
  cases hs : shape.isFixed with
  | false => simp [encodeArrayCount, hs]
  | true => simp [encodeArrayCount, h hs]

namespace Value

variable {reg : Registry} {owner : String} {type : TypeRef}

theorem encode_datum (reg : Registry) (d : Datum) (owner : String) :
    (datum d).encode reg owner (.primitive d.primitive) .single = d.encode.mapError .wire := by
  simp [encode, Shape.isArray]

theorem encode_struct {m : Message} (hr : reg.resolve owner type = .ok m) (members : Members) :
    (struct members).encode reg owner type .single
      = encodeFields m (encoders reg members) m.fields := by
  cases type with
  | primitive p => cases Registry.kind_of_resolve hr
  | own name | foreign package name => simp [encode, Shape.isArray, hr]

theorem encode_list {shape : Shape} {items : List Value} (ha : shape.isArray = true)
    (hfixed : shape.isFixed = true → items.length = shape.count) :
    (list items).encode reg owner type shape
      = joinEncoded ((encodeCount items.length).mapError .wire)
          (encodeItems reg items owner type) := by
  simp only [encode, ha, if_true, encodeArrayCount_of_fits hfixed]
  rfl

theorem encodeItems_cons (v : Value) (rest : List Value) :
    encodeItems reg (v :: rest) owner type
      = joinEncoded (v.encode reg owner type .single) (encodeItems reg rest owner type) := rfl

end Value

/-- The first member is encoded, and the others as if it were not there. -/
theorem encodeFields_first {reg : Registry} {m : Message} {f : Field} {rest : List Field}
    {v : Value} {others : Members} (hf : f.name ∉ rest.map Field.name) :
    encodeFields m (Value.encoders reg ((f.name, v) :: others)) (f :: rest)
      = joinEncoded (labelled f.label (v.encode reg m.package f.type f.shape))
          (encodeFields m (Value.encoders reg others) rest) := by
  have hrest : encodeFields m (Value.encoders reg ((f.name, v) :: others)) rest
      = encodeFields m (Value.encoders reg others) rest :=
    encodeFields_congr fun g hg => Members.lookup_cons_of_mem hf hg
  have hfirst : List.lookup f.name ((f.name, v) :: others) = some v := by simp
  rw [encodeFields, Value.lookup_encoders, hfirst, hrest]
  rfl

/-! ## Emission -/

/-- These bytes were written into the sink, or this error arose. -/
inductive Written.Emits (sink : Sink) : Written → Except CodecError Bytes → Prop
  | ok (bytes : Bytes) : Emits sink (.ok (), sink.append bytes) (.ok bytes)
  | error (e : WireError) (after : Sink) : Emits sink (.error (.wire e), after) (.error (.wire e))

namespace Written.Emits

variable {sink : Sink} {written : Written} {encoded rest : Except CodecError Bytes}

theorem andThen {next : Sink → Written} (h : Emits sink written encoded)
    (hn : ∀ bytes, Emits (sink.append bytes) (next (sink.append bytes)) rest) :
    Emits sink (written.andThen next) (joinEncoded encoded rest) := by
  cases h with
  | error e after => exact .error e after
  | ok bytes =>
    have hrest := hn bytes
    show Emits sink (next (sink.append bytes)) (rest.map (bytes ++ ·))
    generalize next (sink.append bytes) = written at hrest ⊢
    cases hrest with
    | error e after => exact .error e after
    | ok more =>
      rw [Sink.append_append]
      exact .ok (bytes ++ more)

theorem inField (label : String) (h : Emits sink written encoded) :
    Emits sink (written.inField label) (labelled label encoded) := by
  cases h with
  | ok bytes => exact .ok bytes
  | error e after => exact .error (.inField label e) after

theorem write (hs : sink.room = none) (encoded : Except WireError Bytes) :
    Emits sink (sink.write encoded) (encoded.mapError .wire) := by
  rw [Sink.write_of_unlimited hs]
  cases encoded with
  | error e => exact .error e sink
  | ok bytes => exact .ok bytes

end Written.Emits

/-! ## Slots and their images -/

namespace Slot

variable {reg : Registry}

mutual

/-- A slot is written as its image is encoded. -/
theorem write_emits (distinct : reg.HasDistinctFields) (slot : Slot) {owner : String}
    {type : TypeRef} {shape : Shape} {sink : Sink} (h : reg.Holds owner type shape slot)
    (hs : sink.room = none) :
    Written.Emits sink (write reg slot shape type.kind sink)
      ((slot.image reg).encode reg owner type shape) := by
  cases h with
  | @datum owner d =>
    rw [TypeRef.kind, write_datum, image, Value.encode_datum]
    exact .write hs d.encode
  | @record owner type name m slots hkey hm hslots =>
    rw [TypeRef.kind_of_key hkey, write_record hm, image, Registry.fieldNames, hm,
      Value.encode_struct (Registry.resolve_of_key hkey hm)]
    exact writeFields_emits distinct slots (distinct m ⟨name, hm⟩) hslots hs
  | @sequence owner type shape items ha hfixed hitems =>
    have hlength : (images reg items).length = items.length := by
      rw [images_eq_map, List.length_map]
    -- the image has as many items, so both counts are the same, or both are too large
    rw [write_sequence reg items ha, image, Value.encode_list ha (hlength ▸ hfixed), hlength]
    exact (Written.Emits.write hs _).andThen fun bytes =>
      writeItems_emits distinct items hitems hs

/-- So are the elements of an array. -/
theorem writeItems_emits (distinct : reg.HasDistinctFields) (items : List Slot) {owner : String}
    {type : TypeRef} {sink : Sink} (h : ∀ slot ∈ items, reg.Holds owner type .single slot)
    (hs : sink.room = none) :
    Written.Emits sink (writeItems reg items type.kind sink)
      (Value.encodeItems reg (images reg items) owner type) := by
  cases items with
  | nil => exact .ok []
  | cons slot rest =>
    rw [List.forall_mem_cons] at h
    rw [writeItems, images, Value.encodeItems_cons]
    exact (write_emits distinct slot h.1 hs).andThen fun bytes =>
      writeItems_emits distinct rest h.2 hs

/-- So are the slots of a message. -/
theorem writeFields_emits (distinct : reg.HasDistinctFields) (slots : List Slot) {m : Message}
    {fields : List Field} {sink : Sink} (hd : (fields.map Field.name).Nodup)
    (h : reg.HoldsFields m.package fields slots) (hs : sink.room = none) :
    Written.Emits sink (writeFields reg slots fields sink)
      (encodeFields m (Value.encoders reg ((fields.map Field.name).zip (images reg slots)))
        fields) := by
  cases slots with
  | nil =>
    cases h with
    | nil => exact .ok []
  | cons slot rest =>
    cases h with
    | @cons _ f _ fields _ hslot hrest =>
      -- no later field has this name, so the encoder finds its value and leaves the others alone
      rw [List.map_cons, List.nodup_cons] at hd
      rw [writeFields, images, List.map_cons, List.zip_cons_cons, encodeFields_first hd.1]
      exact ((write_emits distinct slot hslot hs).inField f.label).andThen fun bytes =>
        writeFields_emits distinct rest hd.2 hrest hs

end

end Slot

/-! ## The bytes of a slot -/

namespace Slot

mutual

/-- A slot that fits its type is written as these bytes. -/
inductive WrittenAs : Slot → Bytes → Prop
  | datum {d : Datum} {bytes : Bytes} : d.encode = .ok bytes → WrittenAs (.datum d) bytes
  | record {name : String} {slots : List Slot} {bytes : Bytes} :
      AllWrittenAs slots bytes → WrittenAs (.record name slots) bytes
  | sequence {items : List Slot} {body : Bytes} :
      items.length < lengthLimit → AllWrittenAs items body →
      WrittenAs (.sequence items) (Bytes.ofNat 4 items.length ++ body)

/-- These slots are written, one after the other, as these bytes. -/
inductive AllWrittenAs : List Slot → Bytes → Prop
  | nil : AllWrittenAs [] []
  | cons {slot : Slot} {rest : List Slot} {a b : Bytes} :
      WrittenAs slot a → AllWrittenAs rest b → AllWrittenAs (slot :: rest) (a ++ b)

end

end Slot

namespace Written

theorem andThen_eq_ok {written : Written} {next : Sink → Written} {after : Sink}
    (h : written.andThen next = (.ok (), after)) :
    ∃ between, written = (.ok (), between) ∧ next between = (.ok (), after) := by
  rcases written with ⟨e | ⟨⟩, between⟩
  · cases h
  · exact ⟨between, rfl, h⟩

theorem inField_eq_ok {written : Written} {label : String} {after : Sink}
    (h : written.inField label = (.ok (), after)) : written = (.ok (), after) := by
  rcases written with ⟨e | ⟨⟩, between⟩
  · cases h
  · exact h

end Written

theorem Sink.write_eq_ok {sink after : Sink} {encoded : Except WireError Bytes}
    (hs : sink.room = none) (h : sink.write encoded = (.ok (), after)) :
    ∃ bytes, encoded = .ok bytes ∧ after = sink.append bytes := by
  rw [write_of_unlimited hs] at h
  cases encoded with
  | error e => cases h
  | ok bytes =>
    cases h
    exact ⟨bytes, rfl, rfl⟩

namespace Slot

variable {reg : Registry}

mutual

/-- What goes into a sink of a slot are its bytes. -/
theorem writtenAs_of_write (slot : Slot) {owner : String} {type : TypeRef} {shape : Shape}
    {sink after : Sink} (h : reg.Holds owner type shape slot)
    (hw : write reg slot shape type.kind sink = (.ok (), after)) (hs : sink.room = none) :
    ∃ bytes, slot.WrittenAs bytes ∧ after = sink.append bytes := by
  cases h with
  | @datum owner d =>
    rw [TypeRef.kind, write_datum] at hw
    obtain ⟨bytes, hd, ha⟩ := Sink.write_eq_ok hs hw
    exact ⟨bytes, .datum hd, ha⟩
  | @record owner type name m slots hkey hm hslots =>
    rw [TypeRef.kind_of_key hkey, write_record hm] at hw
    obtain ⟨bytes, hall, ha⟩ := allWrittenAs_of_writeFields slots hslots hw hs
    exact ⟨bytes, .record hall, ha⟩
  | @sequence owner type shape items harray _ hitems =>
    rw [write_sequence reg items harray] at hw
    obtain ⟨between, hcount, hrest⟩ := Written.andThen_eq_ok hw
    obtain ⟨count, hc, rfl⟩ := Sink.write_eq_ok hs hcount
    obtain ⟨hlimit, rfl⟩ := encodeCount_eq_ok_iff.1 hc
    obtain ⟨body, hall, rfl⟩ := allWrittenAs_of_writeItems items hitems hrest hs
    exact ⟨_, .sequence hlimit hall, Sink.append_append sink _ body⟩

theorem allWrittenAs_of_writeItems (items : List Slot) {owner : String} {type : TypeRef}
    {sink after : Sink} (h : ∀ slot ∈ items, reg.Holds owner type .single slot)
    (hw : writeItems reg items type.kind sink = (.ok (), after)) (hs : sink.room = none) :
    ∃ bytes, AllWrittenAs items bytes ∧ after = sink.append bytes := by
  cases items with
  | nil =>
    cases hw
    exact ⟨[], .nil, rfl⟩
  | cons slot rest =>
    rw [List.forall_mem_cons] at h
    rw [writeItems] at hw
    obtain ⟨between, hfirst, hrest⟩ := Written.andThen_eq_ok hw
    obtain ⟨a, ha, rfl⟩ := writtenAs_of_write slot h.1 hfirst hs
    obtain ⟨b, hb, rfl⟩ := allWrittenAs_of_writeItems rest h.2 hrest hs
    exact ⟨a ++ b, .cons ha hb, Sink.append_append sink a b⟩

theorem allWrittenAs_of_writeFields (slots : List Slot) {owner : String} {fields : List Field}
    {sink after : Sink} (h : reg.HoldsFields owner fields slots)
    (hw : writeFields reg slots fields sink = (.ok (), after)) (hs : sink.room = none) :
    ∃ bytes, AllWrittenAs slots bytes ∧ after = sink.append bytes := by
  cases slots with
  | nil =>
    cases h with
    | nil =>
      cases hw
      exact ⟨[], .nil, rfl⟩
  | cons slot rest =>
    cases h with
    | cons hslot hothers =>
      rw [writeFields] at hw
      obtain ⟨between, hfirst, hrest⟩ := Written.andThen_eq_ok hw
      obtain ⟨a, ha, rfl⟩ := writtenAs_of_write slot hslot (Written.inField_eq_ok hfirst) hs
      obtain ⟨b, hb, rfl⟩ := allWrittenAs_of_writeFields rest hothers hrest hs
      exact ⟨a ++ b, .cons ha hb, Sink.append_append sink a b⟩

end

/-- The bytes of an instance are those of its slots. -/
theorem allWrittenAs_of_toBytes {name : String} {m : Message} {slots : List Slot} {bytes : Bytes}
    (hm : reg.find? name = some m) (h : reg.HoldsFields m.package m.fields slots)
    (hb : (record name slots).toBytes reg = .ok bytes) : AllWrittenAs slots bytes := by
  simp only [toBytes, serialize, writeElement, write_record hm] at hb
  rcases hw : writeFields reg slots m.fields .unlimited with ⟨e | ⟨⟩, after⟩
  · rw [hw] at hb
    cases hb
  · obtain ⟨written, hall, rfl⟩ := allWrittenAs_of_writeFields slots h hw rfl
    rw [hw] at hb
    have hcontents : (Sink.unlimited.append written).contents = bytes := Except.ok.inj hb
    rw [Sink.contents_append] at hcontents
    obtain rfl : written = bytes := hcontents
    exact hall

end Slot

/-! ## Whole messages -/

namespace Registry

variable {reg : Registry}

/-- The bytes of an instance are those of its members, and all errors are ones of the wire. -/
theorem toBytes_emits (distinct : reg.HasDistinctFields) {name : String} {m : Message}
    {slots : List Slot} (hm : reg.find? name = some m)
    (h : reg.HoldsFields m.package m.fields slots) :
    (Slot.record name slots).toBytes reg
        = reg.encode name ((reg.fieldNames name).zip (Slot.images reg slots)) ∧
      ∀ e, (Slot.record name slots).toBytes reg = .error e → ∃ inner, e = .wire inner := by
  have hemits : Written.Emits .unlimited _ _ :=
    Slot.writeFields_emits distinct slots (distinct m ⟨name, hm⟩) h rfl
  simp only [Slot.toBytes, Slot.serialize, Slot.writeElement, Slot.write_record hm, encode,
    fieldNames, hm]
  generalize Slot.writeFields reg slots m.fields .unlimited = written at hemits ⊢
  generalize encodeFields m _ m.fields = encoded at hemits ⊢
  cases hemits with
  | ok bytes =>
    refine ⟨?_, fun e he => by cases he⟩
    show Except.ok (Sink.unlimited.append bytes).contents = Except.ok bytes
    rw [Sink.contents_append]
    rfl
  | error e after =>
    refine ⟨rfl, fun e' he => ?_⟩
    cases he
    exact ⟨e, rfl⟩

/-- **An instance is written as its value is encoded.**  The bytes are the same, and so is the error
of a text or an array that is too long for its count. -/
theorem toBytes_matches_encode (distinct : reg.HasDistinctFields) {name : String} {m : Message}
    {slots : List Slot} (hm : reg.find? name = some m)
    (h : reg.HoldsFields m.package m.fields slots) :
    ∃ members, (Slot.record name slots).image reg = .struct members ∧
      (Slot.record name slots).toBytes reg = reg.encode name members ∧
      ∀ e, reg.encode name members = .error e → ∃ inner, e = .wire inner := by
  obtain ⟨hbytes, herror⟩ := toBytes_emits distinct hm h
  rw [hbytes] at herror
  have himage : (Slot.record name slots).image reg
      = .struct ((reg.fieldNames name).zip (Slot.images reg slots)) := by
    rw [Slot.image]
  exact ⟨_, himage, hbytes, herror⟩

end Registry

namespace Forest

/-- The slots of a leaf. -/
def leafSlots (green : Bool) (label : String) : List Slot :=
  [.datum (.bool green), .datum (.string label)]

/-- Two marks. -/
def markSlots : Slot :=
  .sequence [.record "forest/Mark" [], .record "forest/Mark" []]

/-- A tree with one tree below it. -/
def groveSlots : List Slot :=
  [.record "forest/Leaf" (leafSlots false "a"), markSlots,
    .sequence [.record "forest/Tree"
      [.record "forest/Leaf" (leafSlots true "b"), markSlots, .sequence []]]]

/-- The slots of a tree, if there are trees in the last one. -/
theorem holdsFields_tree (green : Bool) (label : String) {below : List Slot}
    (h : ∀ slot ∈ below, registry.Holds "forest" (.own "Tree") .single slot) :
    registry.HoldsFields "forest" tree.fields
      [.record "forest/Leaf" (leafSlots green label), markSlots, .sequence below] := by
  have hleaf : registry.HoldsFields "forest" leaf.fields (leafSlots green label) :=
    .cons (.datum (d := .bool green)) (.cons (.datum (d := .string label)) .nil)
  have hmark : registry.Holds "forest" (.own "Mark") .single (.record "forest/Mark" []) :=
    .record rfl (m := mark) rfl .nil
  refine .cons (.record rfl (m := leaf) rfl hleaf) (.cons ?_ (.cons ?_ .nil))
  · exact .sequence rfl (fun _ => rfl) (by simpa using hmark)
  · exact .sequence rfl (fun hfixed => by cases hfixed) h

theorem holdsFields_grove : registry.HoldsFields "forest" tree.fields groveSlots := by
  have hbelow : registry.Holds "forest" (.own "Tree") .single (.record "forest/Tree"
      [.record "forest/Leaf" (leafSlots true "b"), markSlots, .sequence []]) :=
    .record rfl find?_tree (holdsFields_tree true "b" (by simp))
  exact holdsFields_tree false "a" (by simpa using hbelow)

theorem toBytes_grove : registry.HasDistinctFields ∧ registry.find? "forest/Tree" = some tree ∧
    registry.HoldsFields tree.package tree.fields groveSlots ∧
    ∃ members, (Slot.record "forest/Tree" groveSlots).image registry = .struct members ∧
      (Slot.record "forest/Tree" groveSlots).toBytes registry
        = registry.encode "forest/Tree" members ∧
      ∀ e, registry.encode "forest/Tree" members = .error e → ∃ inner, e = .wire inner :=
  ⟨hasDistinctFields, find?_tree, holdsFields_grove,
    Registry.toBytes_matches_encode hasDistinctFields find?_tree holdsFields_grove⟩

end Forest

end Missive
