import Missive.Proofs.Zeros
/-!
# Instances of emitted types

What the slots of an instance are like, and which message types can have instances at all.

* `Registry.Holds`, `Registry.HoldsFields` -- a slot is of a type and a shape, and the slots of a
  message are those of its fields;
* `Registry.IsFinite` -- a type does not hold itself other than in an open array;
* `Registry.FinitelyNested` -- neither does any type that is reached from it;
* `Registry.IsFinite.zeroOf_ok`, `Registry.holds_of_zeroElement` -- such a type has a zero value,
  and that is an instance;
* `Registry.HasZeros.finitelyNested` -- where all messages have zero values, all types are such.
-/

namespace Missive

namespace Registry

/-! ## Slots of a type -/

mutual

/-- A slot holds an element, or an array of elements, of a type of package `owner`.  The name of a
record is the one that its type leads to. -/
inductive Holds (reg : Registry) : String → TypeRef → Shape → Slot → Prop
  | datum {owner : String} {d : Datum} :
      Holds reg owner (.primitive d.primitive) .single (.datum d)
  | record {owner : String} {type : TypeRef} {name : String} {m : Message} {slots : List Slot} :
      type.key? owner = some name → reg.find? name = some m →
      HoldsFields reg m.package m.fields slots →
      Holds reg owner type .single (.record name slots)
  | sequence {owner : String} {type : TypeRef} {shape : Shape} {items : List Slot} :
      shape.isArray = true → (shape.isFixed = true → items.length = shape.count) →
      (∀ slot ∈ items, Holds reg owner type .single slot) →
      Holds reg owner type shape (.sequence items)

/-- These are slots for the fields of a message of package `owner`, one for each. -/
inductive HoldsFields (reg : Registry) : String → List Field → List Slot → Prop
  | nil {owner : String} : HoldsFields reg owner [] []
  | cons {owner : String} {f : Field} {slot : Slot} {fields : List Field} {slots : List Slot} :
      Holds reg owner f.type f.shape slot → HoldsFields reg owner fields slots →
      HoldsFields reg owner (f :: fields) (slot :: slots)

end

variable {reg : Registry} {owner : String} {type : TypeRef} {m : Message}

theorem resolve_of_key {key : String} (hk : type.key? owner = some key)
    (hm : reg.find? key = some m) : reg.resolve owner type = .ok m := by
  simp only [resolve, hk, hm]

/-- The name by which a type leads to a message is the full name of that message. -/
theorem key_of_resolve_keyed (keyed : reg.IsKeyed) (h : reg.resolve owner type = .ok m) :
    type.key? owner = some m.fullName ∧ reg.find? m.fullName = some m := by
  obtain ⟨key, hkey, hm⟩ := key_of_resolve h
  rw [keyed key m hm]
  exact ⟨hkey, hm⟩

/-- A slot for a primitive holds an element of it. -/
theorem Holds.eq_datum {p : Primitive} {slot : Slot}
    (h : reg.Holds owner (.primitive p) .single slot) :
    ∃ d, d.primitive = p ∧ slot = .datum d := by
  cases h with
  | datum => exact ⟨_, rfl, rfl⟩
  | record hk => cases hk
  | sequence ha => cases ha

/-- A slot for a message type holds a record of it. -/
theorem Holds.eq_record {name : String} {slot : Slot} (hk : type.key? owner = some name)
    (hm : reg.find? name = some m) (h : reg.Holds owner type .single slot) :
    ∃ slots, reg.HoldsFields m.package m.fields slots ∧ slot = .record name slots := by
  cases h with
  | datum => cases hk
  | record hk' hm' hslots =>
    obtain rfl := Option.some.inj (hk.symm.trans hk')
    obtain rfl := Option.some.inj (hm.symm.trans hm')
    exact ⟨_, hslots, rfl⟩
  | sequence ha => cases ha

/-- A slot for an array holds a sequence. -/
theorem Holds.eq_sequence {shape : Shape} {slot : Slot} (ha : shape.isArray = true)
    (h : reg.Holds owner type shape slot) :
    ∃ items, (shape.isFixed = true → items.length = shape.count) ∧
      (∀ item ∈ items, reg.Holds owner type .single item) ∧ slot = .sequence items := by
  cases h with
  | datum => cases ha
  | record => cases ha
  | sequence _ hfixed hitems => exact ⟨_, hfixed, hitems, rfl⟩

theorem HoldsFields.length_eq {fields : List Field} {slots : List Slot}
    (h : reg.HoldsFields owner fields slots) : fields.length = slots.length := by
  induction fields generalizing slots with
  | nil => cases h with
    | nil => rfl
  | cons f rest ih => cases h with
    | cons _ hrest => rw [List.length_cons, List.length_cons, ih hrest]

/-- Every field has a slot of its type and shape. -/
theorem HoldsFields.holds {fields : List Field} {slots : List Slot}
    (h : reg.HoldsFields owner fields slots) {f : Field} {slot : Slot}
    (hmem : (f, slot) ∈ fields.zip slots) : reg.Holds owner f.type f.shape slot := by
  induction fields generalizing slots with
  | nil => cases hmem
  | cons g rest ih => cases h with
    | cons hslot hrest =>
      rw [List.zip_cons_cons] at hmem
      rcases List.mem_cons.1 hmem with heq | hmem
      · cases heq
        exact hslot
      · exact ih hrest hmem

/-! ## Types that end -/

/-- Messages of this type are nested to a finite depth, if those in open arrays do not count. -/
inductive IsFinite (reg : Registry) : String → TypeRef → Prop
  | primitive {owner : String} {p : Primitive} : IsFinite reg owner (.primitive p)
  | message {owner : String} {type : TypeRef} {m : Message} :
      reg.resolve owner type = .ok m →
      (∀ f ∈ m.fields, f.shape ≠ .many → IsFinite reg m.package f.type) →
      IsFinite reg owner type

/-- The second type is the first one, or occurs in its fields at some depth. -/
inductive Reaches (reg : Registry) : String → TypeRef → String → TypeRef → Prop
  | here {owner : String} {type : TypeRef} : Reaches reg owner type owner type
  | inside {owner : String} {type : TypeRef} {m : Message} {f : Field} {owner' : String}
      {type' : TypeRef} :
      reg.resolve owner type = .ok m → f ∈ m.fields → Reaches reg m.package f.type owner' type' →
      Reaches reg owner type owner' type'

/-- Every type that is reached from this one leads to a message and ends. -/
def FinitelyNested (reg : Registry) (owner : String) (type : TypeRef) : Prop :=
  ∀ owner' type', reg.Reaches owner type owner' type' → reg.IsFinite owner' type'

theorem FinitelyNested.isFinite (h : reg.FinitelyNested owner type) : reg.IsFinite owner type :=
  h owner type .here

theorem FinitelyNested.field (h : reg.FinitelyNested owner type)
    (hm : reg.resolve owner type = .ok m) {f : Field} (hf : f ∈ m.fields) :
    reg.FinitelyNested m.package f.type :=
  fun owner' type' hr => h owner' type' (.inside hm hf hr)

/-! ## Their zero values -/

/-- A type that ends has a zero value. -/
theorem IsFinite.zeroElement_ok (h : reg.IsFinite owner type) :
    ∃ n slot, reg.zeroElement n owner type = .ok slot := by
  induction h with
  | @primitive owner p => exact ⟨0, _, zeroElement_primitive reg 0 owner p⟩
  | @message owner type m hm _ ih =>
    have hmono : ∀ n (f : Field),
        (f.shape ≠ .many → ∃ slot, reg.zeroElement n m.package f.type = .ok slot) →
        f.shape ≠ .many → ∃ slot, reg.zeroElement (n + 1) m.package f.type = .ok slot :=
      fun n f hz hs => zeroElement_mono (hz hs)
    have heach : ∀ f ∈ m.fields, ∃ n, f.shape ≠ .many →
        ∃ slot, reg.zeroElement n m.package f.type = .ok slot := by
      intro f hf
      by_cases hs : f.shape = .many
      · exact ⟨0, fun hne => absurd hs hne⟩
      · obtain ⟨n, hz⟩ := ih f hf hs
        exact ⟨n, fun _ => hz⟩
    -- every field has a budget of its own; the largest one serves them all
    obtain ⟨n, hn⟩ := exists_common_bound hmono heach
    exact ⟨n + 1, (zeroElement_succ_ok_iff hm).2 (zeroFields_ok_iff.2 hn)⟩

/-- A type that has a zero value ends. -/
theorem isFinite_of_zeroElement {n : Nat} (h : ∃ slot, reg.zeroElement n owner type = .ok slot) :
    reg.IsFinite owner type := by
  induction n generalizing owner type with
  | zero =>
    rcases reg.type_cases owner type with ⟨p, rfl⟩ | ⟨e, hk, he⟩ | ⟨m, hm⟩
    · exact .primitive
    · simp [zeroElement_unresolved hk he] at h
    · simp [zeroElement_zero hm] at h
  | succ n ih =>
    rcases reg.type_cases owner type with ⟨p, rfl⟩ | ⟨e, hk, he⟩ | ⟨m, hm⟩
    · exact .primitive
    · simp [zeroElement_unresolved hk he] at h
    · rw [zeroElement_succ_ok_iff hm, zeroFields_ok_iff] at h
      exact .message hm fun f hf hs => ih (h f hf hs)

/-- Where every message has a zero value, the types are all finitely nested. -/
theorem HasZeros.finitelyNested (zeros : reg.HasZeros) (closed : reg.IsClosed)
    (h : reg.Resolves owner type) : reg.FinitelyNested owner type := by
  intro owner' type' hreaches
  induction hreaches with
  | here =>
    obtain ⟨slot, hz⟩ := zeroOf_ok zeros h
    exact isFinite_of_zeroElement ⟨slot, hz⟩
  | inside hm hf _ ih => exact ih (closed _ (registered_of_resolve hm) _ hf)

theorem IsFinite.zeroOf_ok (h : reg.IsFinite owner type) :
    ∃ slot, reg.zeroOf owner type = .ok slot := by
  obtain ⟨n, hn⟩ := h.zeroElement_ok
  exact zeroOf_ok_of_zeroElement hn

/-- The zero value of a field is one of its slots, if that of an element is. -/
theorem holds_of_zeroField {element : TypeRef → Except CodecError Slot}
    (h : ∀ type slot, element type = .ok slot → reg.Holds owner type .single slot) {f : Field}
    {slot : Slot} (hz : zeroField element f = .ok slot) : reg.Holds owner f.type f.shape slot := by
  cases hs : f.shape with
  | single =>
    simp only [zeroField, hs] at hz
    exact h f.type slot hz
  | many =>
    simp only [zeroField, hs, Except.ok.injEq] at hz
    subst hz
    exact .sequence rfl (fun hf => by cases hf) (by simp)
  | exactly count =>
    simp only [zeroField, hs] at hz
    obtain ⟨fresh, hfresh, rfl⟩ := Except.map_eq_ok_iff.1 hz
    refine .sequence rfl (fun _ => List.length_replicate) fun item hi => ?_
    rw [List.eq_of_mem_replicate hi]
    exact h f.type fresh hfresh

theorem holdsFields_of_zeroField {element : TypeRef → Except CodecError Slot}
    (h : ∀ type slot, element type = .ok slot → reg.Holds owner type .single slot)
    {fields : List Field} {slots : List Slot} (hz : fields.mapM (zeroField element) = .ok slots) :
    reg.HoldsFields owner fields slots := by
  induction fields generalizing slots with
  | nil =>
    obtain rfl : [] = slots := Except.ok.inj hz
    exact .nil
  | cons f rest ih =>
    obtain ⟨slot, others, hslot, hothers, rfl⟩ := Except.mapM_cons_eq_ok_iff.1 hz
    exact .cons (holds_of_zeroField h hslot) (ih hothers)

/-- The zero value of a type is an instance of it. -/
theorem holds_of_zeroElement (keyed : reg.IsKeyed) {n : Nat} {owner : String} {type : TypeRef}
    {slot : Slot} (h : reg.zeroElement n owner type = .ok slot) :
    reg.Holds owner type .single slot := by
  rcases reg.type_cases owner type with ⟨p, rfl⟩ | ⟨e, hk, he⟩ | ⟨m, hm⟩
  · rw [zeroElement_primitive] at h
    cases h
    have hzero : reg.Holds owner (.primitive (Datum.zero p).primitive) .single (.datum (.zero p)) :=
      .datum
    rwa [Datum.primitive_zero] at hzero
  · simp [zeroElement_unresolved hk he] at h
  · cases n with
    | zero => simp [zeroElement_zero hm] at h
    | succ n =>
      rw [zeroElement_succ hm] at h
      obtain ⟨slots, hslots, rfl⟩ := Except.map_eq_ok_iff.1 h
      obtain ⟨hkey, hfind⟩ := key_of_resolve_keyed keyed hm
      exact .record hkey hfind
        (holdsFields_of_zeroField (fun _ _ hz => holds_of_zeroElement keyed hz) hslots)

end Registry

end Missive
