import Missive.Instance.Read
import Missive.Proofs.Weights
import Missive.Proofs.Zeros
/-!
# Reading instances and decoding values

An emitted type reads itself into its slots; the decoder makes values from a definition.  They are
written separately and judge arrays of elements without bytes at different moments, the one from the
bytes of the first element, the other from the registry, before any element is read.  Here they are
seen to do the same.

* `Slot.image` -- the value that a slot stands for;
* `Mirrors` -- the invariant: both succeed, with the same value and the same rest of the source, or
  both fail with the same error on the wire;
* `refillItems_mirrors`, `refillVector_mirrors`, `refillFields_mirrors` -- arrays and messages, if
  it holds of their elements;
* `Registry.refillElement_mirrors` -- elements, with a budget that suffices;
* `Registry.deserialize_matches_decode` -- whole messages.
-/

namespace Missive

/-! ## Images -/

/-- The names of the fields of the message type of this full name. -/
def Registry.fieldNames (reg : Registry) (type : String) : List String :=
  match reg.find? type with
  | none => []
  | some m => m.fields.map Field.name

namespace Slot

mutual

/-- The value that a slot stands for: a record has a member for each of its fields. -/
def image (reg : Registry) : Slot → Value
  | datum d => .datum d
  | record type members => .struct ((reg.fieldNames type).zip (images reg members))
  | sequence items => .list (images reg items)

/-- The values that some slots stand for. -/
def images (reg : Registry) : List Slot → List Value
  | [] => []
  | slot :: rest => image reg slot :: images reg rest

end

theorem images_eq_map (reg : Registry) (slots : List Slot) :
    images reg slots = slots.map (image reg ·) := by
  induction slots with
  | nil => rfl
  | cons slot rest ih => rw [images, ih, List.map_cons]

theorem image_record {reg : Registry} {type : String} {m : Message}
    (h : reg.find? type = some m) (members : List Slot) :
    image reg (record type members)
      = .struct ((m.fields.map Field.name).zip (members.map (image reg ·))) := by
  rw [image, images_eq_map, Registry.fieldNames, h]

theorem image_sequence (reg : Registry) (items : List Slot) :
    image reg (sequence items) = .list (items.map (image reg ·)) := by
  rw [image, images_eq_map]

end Slot

/-! ## Mirrors -/

/-- Reading and decoding both succeed, and agree on the value and on the rest of the source, or both
fail with the same error on the wire. -/
inductive Mirrors {α β : Type} (image : α → β) : Refill α → Decoded β → Prop
  | ok (a : α) (t : Source) : Mirrors image ⟨a, .ok (), t⟩ (.ok (image a), t)
  | error (a : α) (e : WireError) (s t : Source) :
      Mirrors image ⟨a, .error (.wire e), s⟩ (.error (.wire e), t)

namespace Mirrors

variable {α β γ δ : Type} {image : α → β} {refill : Refill α} {r : Decoded β}

theorem map {image' : γ → δ} {make : α → γ} {make' : β → δ} (h : Mirrors image refill r)
    (hi : ∀ a, image' (make a) = make' (image a)) :
    Mirrors image' (refill.map make) (Decoded.mapValue make' r) := by
  cases h with
  | ok a t =>
    have hok : Mirrors image' _ _ := .ok (make a) t
    rw [hi] at hok
    exact hok
  | error a e s t => exact .error (make a) e s t

theorem inField (label : String) (h : Mirrors image refill r) :
    Mirrors image (refill.inField label) (Decoded.inField label r) := by
  cases h with
  | ok a t => exact .ok a t
  | error a e s t => exact .error a (.inField label e) s t

/-- A mirrored step does not run out of its budget. -/
theorem not_ranOut (h : Mirrors image refill r) : ¬Decoded.RanOut r := by
  rintro ⟨name, hr⟩
  cases h <;> cases hr

end Mirrors

/-! ## Arrays -/

/-- Reads the elements of a sequence, one and `n` more. -/
def refillCounted (element : SlotReader) (fresh : Slot) (n : Nat) (s : Source) :
    Refill (List Slot) :=
  match element fresh s with
  | ⟨_, .error e, after⟩ => .failure [] e after
  | ⟨first, .ok (), after⟩ =>
    if after.consumed = s.consumed then
      match checkEmptyElements (n + 1) with
      | .error e => .failure [] (.wire e) after
      | .ok () => appendItems element fresh n [first] after
    else appendItems element fresh n [first] after

theorem refillVector_eq (element : SlotReader) (fresh : Slot) (items : List Slot) (s : Source) :
    refillVector element fresh items s = match readCount s with
      | (.error e, t) => .failure items (.wire e) t
      | (.ok 0, t) => ⟨[], .ok (), t⟩
      | (.ok (n + 1), t) => refillCounted element fresh n t := by
  rw [refillVector]
  rcases readCount s with ⟨e | _ | n, t⟩ <;> rfl

theorem pending_lt_of_readCount {s t : Source} {n bound : Nat} (hs : s.pending.length ≤ bound)
    (h : readCount s = (.ok n, t)) : t.pending.length < bound := by
  have hl := (reads_of_readCount h).2.length_pending
  rw [Bytes.length_ofNat] at hl
  omega

section

variable {reg : Registry} {element : SlotReader} {fresh : Slot} {decoder : Source → Decoded Value}
  {bound : Nat}
  (mirrors : ∀ s : Source, s.pending.length < bound →
    Mirrors (Slot.image reg) (element fresh s) (decoder s))
  (forward : ∀ s : Source, s.Passes (decoder s).2)

include mirrors forward

theorem refillItems_mirrors (n : Nat) {s : Source} (hs : s.pending.length < bound) :
    Mirrors (List.map (Slot.image reg)) (refillItems element (List.replicate n fresh) s)
      (decodeItems decoder n [] s) := by
  induction n generalizing s with
  | zero => exact .ok [] s
  | succ n ih =>
    rw [List.replicate_succ, refillItems, decodeItems_succ]
    have hfirst := mirrors s hs
    have hpasses := forward s
    generalize element fresh s = refill at hfirst ⊢
    generalize decoder s = r at hfirst hpasses ⊢
    cases hfirst with
    | ok slot t =>
      exact (ih (Nat.lt_of_le_of_lt hpasses.length_le hs)).map fun items => List.map_cons
    | error slot e u t => exact .error _ e u t

theorem appendItems_mirrors (n : Nat) (before : List Slot) {s : Source}
    (hs : s.pending.length < bound) :
    Mirrors (List.map (Slot.image reg)) (appendItems element fresh n before s)
      (Decoded.mapValue (before.reverse.map (Slot.image reg) ++ ·)
        (decodeItems decoder n [] s)) := by
  induction n generalizing before s with
  | zero =>
    have h : Mirrors (List.map (Slot.image reg)) _ _ := .ok before.reverse s
    rw [appendItems]
    simpa [decodeItems] using h
  | succ n ih =>
    rw [appendItems, decodeItems_succ]
    have hfirst := mirrors s hs
    have hpasses := forward s
    generalize element fresh s = refill at hfirst ⊢
    generalize decoder s = r at hfirst hpasses ⊢
    cases hfirst with
    | ok slot t =>
      have h := ih (slot :: before) (Nat.lt_of_le_of_lt hpasses.length_le hs)
      simpa [Decoded.mapValue_mapValue] using h
    | error slot e u t => exact .error _ e u t

/-- The decoder judges the number of elements before it reads the first one, which is from
nothing. -/
theorem refillCounted_mirrors_of_stays (n : Nat) {s : Source} (hs : s.pending.length < bound)
    (hstays : Decoded.Stays (decoder s) s) :
    Mirrors (List.map (Slot.image reg)) (refillCounted element fresh n s)
      (Decoded.andThen ((checkEmptyElements (n + 1)).mapError .wire, s) fun _ t =>
        decodeItems decoder (n + 1) [] t) := by
  have hfirst := mirrors s hs
  rcases hstays with hr | ⟨v, hv⟩
  · exact absurd hr hfirst.not_ranOut
  · rw [hv] at hfirst
    simp only [refillCounted, decodeItems_succ]
    generalize element fresh s = refill at hfirst ⊢
    cases hfirst with
    | ok slot _ =>
      simp only [if_true]
      cases checkEmptyElements (n + 1) with
      | error e => exact .error _ e s s
      | ok _ =>
        have hrest := appendItems_mirrors mirrors forward n [slot] hs
        simpa [hv] using hrest

/-- Elements that take bytes are not limited in their number. -/
theorem refillCounted_mirrors_of_moves (n : Nat) {s : Source} (hs : s.pending.length < bound)
    (hmoves : ∀ v t, decoder s = (.ok v, t) → t.consumed ≠ s.consumed) :
    Mirrors (List.map (Slot.image reg)) (refillCounted element fresh n s)
      (decodeItems decoder (n + 1) [] s) := by
  have hfirst := mirrors s hs
  have hafter := forward s
  simp only [refillCounted, decodeItems_succ]
  generalize element fresh s = refill at hfirst ⊢
  generalize decoder s = r at hfirst hafter hmoves ⊢
  cases hfirst with
  | ok slot t =>
    simp only [hmoves _ t rfl, if_false]
    exact appendItems_mirrors mirrors forward n [slot] (Nat.lt_of_le_of_lt hafter.length_le hs)
  | error slot e t u => exact .error _ e t u

variable {dec : ElementDecoder} {owner : String} {f : Field} (hdecoder : dec owner f.type = decoder)

include hdecoder

/-- An array of a declared length, if that is admitted. -/
theorem refillArray_mirrors {count : Nat} {s : Source} (hs : s.pending.length ≤ bound)
    (hadmits : ∀ k, admitCount reg owner f k
      = if k = count then .ok () else .error (.wire (.arrayLength count k))) :
    Mirrors (List.map (Slot.image reg)) (refillArray element (List.replicate count fresh) s)
      (decodeArray reg dec owner f s) := by
  rw [refillArray, decodeArray, decodeCount]
  rcases hc : readCount s with ⟨e | k, t⟩
  · exact .error _ e t t
  · have ht := pending_lt_of_readCount hs hc
    simp only [Except.mapError_ok, Decoded.andThen_ok, hadmits, hdecoder, List.length_replicate]
    by_cases hk : k = count
    · subst hk
      simp only [if_true, Decoded.andThen_ok]
      exact refillItems_mirrors mirrors forward k ht
    · simp only [hk, if_false]
      exact .error _ _ t t

/-- An array of any length.  Either its elements take no bytes, and there is a limit to their
number, or each of them takes some. -/
theorem refillVector_mirrors {items : List Slot} {s : Source} (hs : s.pending.length ≤ bound)
    (hkind : (∀ t, Decoded.Stays (decoder t) t) ∧
        (∀ k, admitCount reg owner f k = (checkEmptyElements k).mapError .wire) ∨
      (∀ t v u, decoder t = (.ok v, u) → u.consumed ≠ t.consumed) ∧
        ∀ k, admitCount reg owner f k = .ok ()) :
    Mirrors (List.map (Slot.image reg)) (refillVector element fresh items s)
      (decodeArray reg dec owner f s) := by
  rw [refillVector_eq, decodeArray, decodeCount]
  rcases hc : readCount s with ⟨e | k, t⟩
  · exact .error _ e t t
  · have ht := pending_lt_of_readCount hs hc
    simp only [Except.mapError_ok, Decoded.andThen_ok, hdecoder]
    rcases hkind with ⟨hstays, hadmits⟩ | ⟨hmoves, hadmits⟩
    · rw [hadmits]
      cases k with
      | zero => exact .ok [] t
      | succ k => exact refillCounted_mirrors_of_stays mirrors forward k ht (hstays t)
    · rw [hadmits]
      cases k with
      | zero => exact .ok [] t
      | succ k => exact refillCounted_mirrors_of_moves mirrors forward k ht (hmoves t)

end

/-! ## Registries from which types are emitted -/

namespace Registry

/-- Types that take no bytes are nested at most 64 levels deep. -/
def HasShallowTypes (reg : Registry) : Prop :=
  ∀ height owner type, reg.Weightless height owner type → reg.Weightless 64 owner type

/-- No array of a declared length holds more elements without bytes than a decoder accepts. -/
def HasShortArrays (reg : Registry) : Prop :=
  ∀ m, reg.Registered m → ∀ f ∈ m.fields, ∀ count height, f.shape = .exactly count →
    reg.Weightless height m.package f.type → count ≤ maxEmptyElements

/-- Types can be emitted for all messages, and what the registry says about elements without bytes
is exact. -/
structure IsEmittable (reg : Registry) : Prop where
  keyed : reg.IsKeyed
  closed : reg.IsClosed
  distinct : reg.HasDistinctFields
  zeros : reg.HasZeros
  shallow : reg.HasShallowTypes
  short : reg.HasShortArrays

end Registry

section

variable {reg : Registry} (emittable : reg.IsEmittable) {m : Message} (hm : reg.Registered m)
  {f : Field} (hf : f ∈ m.fields)

include emittable hm hf

theorem admitCount_exactly {count : Nat} (hs : f.shape = .exactly count) (k : Nat) :
    admitCount reg m.package f k
      = if k = count then .ok () else .error (.wire (.arrayLength count k)) := by
  obtain ⟨empty, he⟩ := Registry.isEmptyWithin_ok emittable.closed Registry.emptinessLevels
    (emittable.closed m hm f hf)
  by_cases hk : k = count
  · subst hk
    simp only [admitCount, hs, Shape.isFixed, Shape.count, bne_self_eq_false, Bool.and_false,
      Bool.false_eq_true, if_false, Registry.isEmptyElement, he, if_true]
    cases empty with
    | false => rfl
    | true =>
      have hshort := emittable.short m hm f hf k _ hs (Registry.isEmptyWithin_eq_true_iff.1 he)
      simp [checkEmptyElements, hshort]
  · simp [admitCount, hs, Shape.isFixed, Shape.count, hk]

/-- Whether there is a limit to the length of an open array is known from the type of its
elements. -/
theorem admitCount_many (hs : f.shape = .many) :
    (∃ height, reg.Weightless height m.package f.type) ∧
        (∀ k, admitCount reg m.package f k = (checkEmptyElements k).mapError .wire) ∨
      (¬∃ height, reg.Weightless height m.package f.type) ∧
        ∀ k, admitCount reg m.package f k = .ok () := by
  obtain ⟨empty, he⟩ := Registry.isEmptyWithin_ok emittable.closed Registry.emptinessLevels
    (emittable.closed m hm f hf)
  have hadmits : ∀ k, admitCount reg m.package f k
      = if empty then (checkEmptyElements k).mapError .wire else .ok () := by
    intro k
    simp only [admitCount, hs, Shape.isFixed, Bool.false_and, Bool.false_eq_true, if_false,
      Registry.isEmptyElement, he]
    cases empty <;> rfl
  cases empty with
  | true => exact .inl ⟨⟨_, Registry.isEmptyWithin_eq_true_iff.1 he⟩, hadmits⟩
  | false =>
    refine .inr ⟨fun ⟨height, hw⟩ => ?_, hadmits⟩
    have hempty := Registry.isEmptyWithin_eq_true_iff.2 (emittable.shallow height _ _ hw)
    cases he.symm.trans hempty

end

/-! ## Elements and messages -/

/-- With a budget of `n`, elements are read into fresh slots as they are decoded, as long as the
budget suffices for the rest of the source and for the zero value. -/
def Registry.MirrorsWithin (reg : Registry) (n : Nat) : Prop :=
  ∀ (owner : String) (type : TypeRef) (r : Nat) (slot : Slot) (s : Source),
    reg.Resolves owner type → reg.zeroElement r owner type = .ok slot →
    (reg.size + 1) * s.pending.length + r ≤ n →
    Mirrors (Slot.image reg) (reg.refillElement n type.kind slot s)
      (reg.decodeElement n owner type s)

/-- Behind a count there is budget enough for another zero value of any element. -/
theorem Registry.MirrorsWithin.behind_count {reg : Registry} {n : Nat}
    (mirrors : reg.MirrorsWithin n) {owner : String} {type : TypeRef} {r k : Nat} {fresh : Slot}
    {s : Source} (hr : reg.Resolves owner type) (hz : reg.zeroElement k owner type = .ok fresh)
    (hk : k ≤ reg.size + 1 + r) (hn : (reg.size + 1) * s.pending.length + r ≤ n) (t : Source)
    (ht : t.pending.length < s.pending.length) :
    Mirrors (Slot.image reg) (reg.refillElement n type.kind fresh t)
      (reg.decodeElement n owner type t) := by
  have hle := Nat.mul_le_mul_left (reg.size + 1) (Nat.succ_le_of_lt ht)
  rw [Nat.mul_succ] at hle
  exact mirrors owner type k fresh t hr hz (by omega)

section

variable {reg : Registry} (emittable : reg.IsEmittable) {n : Nat} (mirrors : reg.MirrorsWithin n)
  {m : Message} (hm : reg.Registered m)

include emittable mirrors hm

theorem refillField_mirrors {f : Field} (hf : f ∈ m.fields) {r : Nat} {slot : Slot} {s : Source}
    (hz : zeroField (reg.zeroElement r m.package) f = .ok slot)
    (hn : (reg.size + 1) * s.pending.length + r ≤ n) :
    Mirrors (Slot.image reg) (refillField reg (reg.refillElement n) m.package f slot s)
      (decodeField reg (reg.decodeElement n) m.package f s) := by
  have hr := emittable.closed m hm f hf
  have forward := reg.decodeElement_passes n m.package f.type
  cases hs : f.shape with
  | single =>
    simp only [zeroField, hs] at hz
    rw [decodeField_single reg _ m.package (by rw [hs]; rfl)]
    simp only [refillField, hs]
    exact mirrors m.package f.type r slot s hr hz hn
  | exactly count =>
    simp only [zeroField, hs] at hz
    obtain ⟨fresh, hfresh, rfl⟩ := Except.map_eq_ok_iff.1 hz
    rw [decodeField_array reg _ m.package (by rw [hs]; rfl)]
    simp only [refillField, hs]
    exact (refillArray_mirrors (mirrors.behind_count hr hfresh (Nat.le_add_left _ _) hn) forward rfl
      (Nat.le_refl _) (admitCount_exactly emittable hm hf hs)).map (Slot.image_sequence reg)
  | many =>
    simp only [zeroField, hs, Except.ok.injEq] at hz
    subst hz
    obtain ⟨fresh, hfresh⟩ := Registry.zeroOf_ok emittable.zeros hr
    rw [decodeField_array reg _ m.package (by rw [hs]; rfl)]
    simp only [refillField, hs, hfresh]
    refine (refillVector_mirrors (mirrors.behind_count hr hfresh (Nat.le_add_right _ _) hn) forward
      rfl (Nat.le_refl _) ?_).map (Slot.image_sequence reg)
    rcases admitCount_many emittable hm hf hs with ⟨⟨height, hw⟩, hadmits⟩ | ⟨hw, hadmits⟩
    · exact .inl ⟨Registry.decodeElement_stays hw n, hadmits⟩
    · exact .inr ⟨fun t v u h hc => hw (Registry.weightless_of_decodeElement h hc), hadmits⟩

theorem refillFields_mirrors {fields : List Field} (hsub : ∀ f ∈ fields, f ∈ m.fields)
    (distinct : (fields.map Field.name).Nodup) {r : Nat} {slots : List Slot} {s : Source}
    (hz : fields.mapM (zeroField (reg.zeroElement r m.package)) = .ok slots)
    (hn : (reg.size + 1) * s.pending.length + r ≤ n) :
    Mirrors (fun slots => (fields.map Field.name).zip (slots.map (Slot.image reg)))
      (refillFields reg (reg.refillElement n) m.package fields slots s)
      (decodeFields reg (reg.decodeElement n) m.package fields [] s) := by
  induction fields generalizing slots s with
  | nil =>
    obtain rfl : [] = slots := Except.ok.inj hz
    exact .ok [] s
  | cons f rest ih =>
    obtain ⟨slot, others, hslot, hothers, rfl⟩ := Except.mapM_cons_eq_ok_iff.1 hz
    have hfirst := (refillField_mirrors emittable mirrors hm (hsub f List.mem_cons_self) hslot
      hn).inField f.label
    have hpasses : s.Passes (Decoded.inField f.label _).2 :=
      decodeField_passes reg (reg.decodeElement_passes n) m.package f s
    rw [refillFields, decodeFields_cons reg _ m.package distinct]
    generalize Refill.inField f.label _ = refill at hfirst ⊢
    generalize Decoded.inField f.label _ = r at hfirst hpasses ⊢
    cases hfirst with
    | ok slot t =>
      have hle : (reg.size + 1) * t.pending.length ≤ (reg.size + 1) * s.pending.length :=
        Nat.mul_le_mul_left _ hpasses.length_le
      have hrest := ih (fun g hg => hsub g (List.mem_cons_of_mem _ hg))
        (List.nodup_cons.1 distinct).2 hothers (s := t) (by omega)
      exact hrest.map fun items => rfl
    | error slot e u t => exact .error _ e u t

end

namespace Registry

variable {reg : Registry}

theorem refillElement_primitive (reg : Registry) (n : Nat) (d : Datum) (s : Source) :
    reg.refillElement n (.primitive d.primitive) (.datum d) s
      = ⟨.datum (d.refill s).datum, (d.refill s).status.mapError .wire, (d.refill s).source⟩ := by
  cases n <;> simp [refillElement]

theorem refillElement_message {m : Message} {name : String} (hm : reg.find? name = some m)
    (n : Nat) (members : List Slot) (s : Source) :
    reg.refillElement (n + 1) .message (.record name members) s
      = (refillFields reg (reg.refillElement n) m.package m.fields members s).map
          (.record name) := by
  simp only [refillElement, hm]

/-- Elements are read into fresh slots as they are decoded. -/
theorem refillElement_mirrors (emittable : reg.IsEmittable) (n : Nat) : reg.MirrorsWithin n := by
  intro owner type r slot s hresolves hz hn
  rcases reg.type_cases owner type with ⟨p, rfl⟩ | ⟨e, hk, he⟩ | ⟨m, hm⟩
  · rw [zeroElement_primitive] at hz
    cases hz
    have hread := refillElement_primitive reg n (.zero p) s
    rw [Datum.primitive_zero] at hread
    rw [TypeRef.kind, hread, decodeElement_primitive, Primitive.read]
    rcases (Datum.zero p).refill s with ⟨d, e | -, t⟩
    · exact .error _ e t t
    · exact .ok (Slot.datum d) t
  · obtain ⟨m, hm⟩ := hresolves hk
    cases he.symm.trans hm
  · cases r with
    | zero =>
      rw [zeroElement_zero hm] at hz
      cases hz
    | succ r =>
      rw [zeroElement_succ hm] at hz
      obtain ⟨slots, hslots, rfl⟩ := Except.map_eq_ok_iff.1 hz
      obtain ⟨key, -, hkey⟩ := key_of_resolve hm
      have hfind : reg.find? m.fullName = some m := emittable.keyed key m hkey ▸ hkey
      cases n with
      | zero => omega
      | succ n =>
        have hreg := registered_of_resolve hm
        have hfields := refillFields_mirrors emittable (refillElement_mirrors emittable n) hreg
          (fun f hf => hf) (emittable.distinct m hreg) hslots (s := s) (by omega)
        rw [kind_of_resolve hm, refillElement_message hfind, decodeElement_succ hm]
        exact hfields.map (Slot.image_record hfind)

/-- A fresh instance is read as its message is decoded. -/
theorem deserialize_mirrors (emittable : reg.IsEmittable) {name : String} {m : Message}
    {slot : Slot} (hm : reg.find? name = some m) (hz : reg.zero name = .ok slot) (bytes : Bytes) :
    Mirrors (Slot.image reg) (reg.deserialize slot bytes)
      (Decoded.mapValue .struct
        (reg.decodeMessage (reg.nestingBudget bytes.length) m (.ofBytes bytes))) := by
  simp only [zero, hm] at hz
  obtain ⟨slots, hslots, rfl⟩ := Except.map_eq_ok_iff.1 hz
  have hreg : reg.Registered m := ⟨name, hm⟩
  have hfields := refillFields_mirrors emittable
    (refillElement_mirrors emittable (reg.nestingBudget bytes.length)) hreg (fun f hf => hf)
    (emittable.distinct m hreg) hslots (s := .ofBytes bytes) (Nat.le_of_eq rfl)
  rw [deserialize, readElement, refillElement_message hm]
  exact hfields.map (Slot.image_record hm)

/-- **An instance is read from every byte string as the decoder decodes it.**  Both succeed, with
the same value and after as many bytes, or both fail with the same error on the wire. -/
theorem deserialize_matches_decode (emittable : reg.IsEmittable) {name : String} {m : Message}
    {slot : Slot} (hm : reg.find? name = some m) (hz : reg.zero name = .ok slot) (bytes : Bytes) :
    ((reg.deserialize slot bytes).status = .ok () ↔
        ∃ n members, reg.decode name bytes = (n, .ok members)) ∧
      (∀ n members, reg.decode name bytes = (n, .ok members) →
        (reg.deserialize slot bytes).source.consumed = n ∧
          (reg.deserialize slot bytes).value.image reg = .struct members) ∧
      ∀ n e, reg.decode name bytes = (n, .error e) →
        (reg.deserialize slot bytes).status = .error e ∧ ∃ inner, e = .wire inner := by
  have h := deserialize_mirrors emittable hm hz bytes
  rw [decode_eq_decodeWithin]
  simp only [decodeWithin, hm]
  generalize reg.deserialize slot bytes = refill at h ⊢
  generalize reg.decodeMessage (reg.nestingBudget bytes.length) m (.ofBytes bytes) = r at h ⊢
  rcases r with ⟨e | members, t⟩
  · rw [Decoded.mapValue_error] at h
    cases h with
    | error slot inner u _ =>
      refine ⟨⟨fun h => ?_, ?_⟩, fun n members h => ?_, fun n e h => ?_⟩
      · cases h
      · rintro ⟨n, members, h⟩
        cases h
      · cases h
      · cases h
        exact ⟨rfl, inner, rfl⟩
  · rw [Decoded.mapValue_ok] at h
    generalize hv : Value.struct members = v at h
    cases h with
    | ok slot _ =>
      refine ⟨⟨fun _ => ⟨_, members, rfl⟩, fun _ => rfl⟩, fun n out h => ?_, fun n e h => ?_⟩
      · cases h
        exact ⟨rfl, hv.symm⟩
      · cases h

end Registry

namespace Forest

theorem entries_registry : registry.messages.entries
    = [("forest/Leaf", leaf), ("forest/Mark", mark), ("forest/Seed", seed),
        ("forest/Tree", tree)] := rfl

theorem message_cases {m : Message} (hm : registry.Registered m) :
    m = leaf ∨ m = mark ∨ m = seed ∨ m = tree := by
  obtain ⟨name, hname⟩ := hm
  have hmem := Registry.mem_of_find? hname
  rw [entries_registry] at hmem
  simp only [List.mem_cons, Prod.mk.injEq, List.not_mem_nil, or_false] at hmem
  rcases hmem with ⟨-, rfl⟩ | ⟨-, rfl⟩ | ⟨-, rfl⟩ | ⟨-, rfl⟩ <;> simp

/-- Of all the types only the marks take no bytes. -/
theorem hasShallowTypes : registry.HasShallowTypes := by
  intro height owner type h
  obtain ⟨m, hm, hf⟩ := h.fields
  rcases message_cases (Registry.registered_of_resolve hm) with rfl | rfl | rfl | rfl
  · obtain ⟨-, k, -, hw⟩ := hf _ List.mem_cons_self
    obtain ⟨m, hm, -⟩ := hw.fields
    cases Registry.kind_of_resolve hm
  · exact .leaf hm rfl
  · obtain ⟨-, k, -, hw⟩ := hf _ List.mem_cons_self
    obtain ⟨m, hm, -⟩ := hw.fields
    cases Registry.kind_of_resolve hm
  · obtain ⟨hs, -⟩ := hf _ (List.mem_cons_of_mem _ List.mem_cons_self)
    cases hs

theorem isEmittable : registry.IsEmittable where
  keyed := Registry.isKeyed_ofMessages _
  closed := isClosed
  distinct := hasDistinctFields
  zeros := Registry.hasZeros_of_entries (by decide)
  shallow := hasShallowTypes
  short := by
    intro m hm f hf count height hs _
    have hcount : ∀ m ∈ [leaf, mark, seed, tree], ∀ f ∈ m.fields, f.shape.count ≤ 2 := by decide
    have hle := hcount m (by simpa using message_cases hm) f hf
    rw [hs] at hle
    exact hle.trans (by decide)

/-- A whole tree, and one with too many marks. -/
theorem deserialize_grove : ∃ slot, registry.zero "forest/Tree" = .ok slot ∧
    (registry.deserialize slot (grove ++ [7])).status = .ok () ∧
    (registry.deserialize slot (grove ++ [7])).source.consumed = 28 ∧
    (registry.deserialize slot [1, 0, 0, 0, 0, 3, 0, 0, 0]).status
      = .error (.wire (.inField "Marks" (.arrayLength 2 3))) := by
  obtain ⟨slot, hz⟩ := isEmittable.zeros "forest/Tree" tree find?_tree
  obtain ⟨hstatus, hok, -⟩ :=
    Registry.deserialize_matches_decode isEmittable find?_tree hz (grove ++ [7])
  obtain ⟨-, -, herror⟩ :=
    Registry.deserialize_matches_decode isEmittable find?_tree hz [1, 0, 0, 0, 0, 3, 0, 0, 0]
  exact ⟨slot, hz, hstatus.2 ⟨28, _, rfl⟩, (hok 28 _ rfl).1, (herror 9 _ rfl).1⟩

end Forest

end Missive
