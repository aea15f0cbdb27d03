import Missive.Instance.Basic
import Missive.Proofs.Budgets
/-!
# Zero values

A message type has a zero value unless it holds itself other than in an open array.  Which budget
its zero value needs is seen here: no message occurs twice among those that are nested in it.

* `Registry.HasZeros` -- every message type has a zero value;
* `Registry.zeroFields` -- the zero values of the fields of a message, with a budget;
* `Registry.ZerosTo` -- the budget that a message's zero value needs;
* `Registry.zeroOf_ok_of_zeroElement`, `Registry.zeroOf_ok` -- so the zero value of an element is
  there if it is with some budget, or if that of every message is.
-/

namespace Missive

theorem Except.mapM_cons_eq_ok_iff {ε α β : Type} {f : α → Except ε β} {a : α} {rest : List α}
    {out : List β} :
    (a :: rest).mapM f = .ok out ↔
      ∃ b bs, f a = .ok b ∧ rest.mapM f = .ok bs ∧ b :: bs = out := by
  simp [List.mapM_cons, bind_eq_ok_iff, pure, Except.pure]

theorem Except.mapM_ok_iff {ε α β : Type} {f : α → Except ε β} {items : List α} :
    (∃ out, items.mapM f = .ok out) ↔ ∀ a ∈ items, ∃ b, f a = .ok b := by
  induction items with
  | nil => simp [pure, Except.pure]
  | cons a rest ih =>
    rw [List.forall_mem_cons, ← ih]
    simp only [mapM_cons_eq_ok_iff]
    constructor
    · rintro ⟨_, b, bs, hb, hbs, rfl⟩
      exact ⟨⟨b, hb⟩, bs, hbs⟩
    · rintro ⟨⟨b, hb⟩, bs, hbs⟩
      exact ⟨_, b, bs, hb, hbs, rfl⟩

theorem zeroField_ok_iff {element : TypeRef → Except CodecError Slot} {f : Field} :
    (∃ slot, zeroField element f = .ok slot) ↔
      (f.shape ≠ .many → ∃ slot, element f.type = .ok slot) := by
  cases hs : f.shape with
  | single => simp [zeroField, hs]
  | many => simp [zeroField, hs]
  | exactly count =>
    simp only [zeroField, hs]
    rcases element f.type with e | slot <;> simp [Except.map]

namespace Registry

/-- Every message type has a zero value. -/
def HasZeros (reg : Registry) : Prop :=
  ∀ name m, reg.find? name = some m → ∃ slot, reg.zero name = .ok slot

theorem hasZeros_of_entries {reg : Registry}
    (h : ∀ entry ∈ reg.messages.entries, (reg.zero entry.1).toOption.isSome) : reg.HasZeros := by
  intro name m hm
  have hs := h (name, m) (mem_of_find? hm)
  cases hz : reg.zero name with
  | error e => simp [hz, Except.toOption] at hs
  | ok slot => exact ⟨slot, rfl⟩

/-- The zero values of the fields of a message, through at most `budget` further messages. -/
def zeroFields (reg : Registry) (budget : Nat) (m : Message) : Except CodecError (List Slot) :=
  m.fields.mapM (zeroField (reg.zeroElement budget m.package))

theorem zeroElement_primitive (reg : Registry) (budget : Nat) (owner : String) (p : Primitive) :
    reg.zeroElement budget owner (.primitive p) = .ok (.datum (.zero p)) := by
  cases budget <;> rfl

theorem zeroElement_unresolved {reg : Registry} {owner : String} {type : TypeRef} {e : CodecError}
    (hk : type.kind = .message) (hr : reg.resolve owner type = .error e) (budget : Nat) :
    reg.zeroElement budget owner type = .error e := by
  cases type with
  | primitive p => cases hk
  | own name | foreign package name => cases budget <;> simp only [zeroElement, hr]

theorem zeroElement_zero {reg : Registry} {owner : String} {type : TypeRef} {m : Message}
    (hr : reg.resolve owner type = .ok m) :
    reg.zeroElement 0 owner type = .error (.endless m.fullName) := by
  cases type with
  | primitive p => cases kind_of_resolve hr
  | own name | foreign package name => simp only [zeroElement, hr]

theorem zeroElement_succ {reg : Registry} {owner : String} {type : TypeRef} {m : Message}
    (hr : reg.resolve owner type = .ok m) (budget : Nat) :
    reg.zeroElement (budget + 1) owner type
      = (reg.zeroFields budget m).map (.record m.fullName) := by
  cases type with
  | primitive p => cases kind_of_resolve hr
  | own name | foreign package name => simp only [zeroElement, hr, zeroFields]

/-! ## The budget that is needed -/

variable {reg : Registry}

theorem zeroFields_ok_iff {budget : Nat} {m : Message} :
    (∃ slots, reg.zeroFields budget m = .ok slots) ↔
      ∀ f ∈ m.fields, f.shape ≠ .many →
        ∃ slot, reg.zeroElement budget m.package f.type = .ok slot := by
  rw [zeroFields, Except.mapM_ok_iff]
  exact forall₂_congr fun f _ => zeroField_ok_iff

theorem zeroElement_succ_ok_iff {owner : String} {type : TypeRef} {m : Message}
    (hr : reg.resolve owner type = .ok m) {budget : Nat} :
    (∃ slot, reg.zeroElement (budget + 1) owner type = .ok slot) ↔
      ∃ slots, reg.zeroFields budget m = .ok slots := by
  rw [zeroElement_succ hr]
  rcases reg.zeroFields budget m with e | slots <;> simp [Except.map]

theorem zeroElement_mono {n : Nat} {owner : String} {type : TypeRef}
    (h : ∃ slot, reg.zeroElement n owner type = .ok slot) :
    ∃ slot, reg.zeroElement (n + 1) owner type = .ok slot := by
  rcases reg.type_cases owner type with ⟨p, rfl⟩ | ⟨e, hk, he⟩ | ⟨m, hm⟩
  · exact ⟨_, zeroElement_primitive reg _ owner p⟩
  · simp [zeroElement_unresolved hk he] at h
  · cases n with
    | zero => simp [zeroElement_zero hm] at h
    | succ n =>
      rw [zeroElement_succ_ok_iff hm, zeroFields_ok_iff] at h ⊢
      exact fun f hf hs => zeroElement_mono (h f hf hs)

theorem zeroFields_mono {n k : Nat} (hk : n ≤ k) {m : Message}
    (h : ∃ slots, reg.zeroFields n m = .ok slots) : ∃ slots, reg.zeroFields k m = .ok slots := by
  induction hk with
  | refl => exact h
  | step _ ih =>
    rw [zeroFields_ok_iff] at ih ⊢
    exact fun f hf hs => zeroElement_mono (ih f hf hs)

/-- The zero value of this message goes through `n` further messages, and no fewer. -/
def ZerosTo (reg : Registry) (n : Nat) (m : Message) : Prop :=
  (∃ slots, reg.zeroFields n m = .ok slots) ∧ ∀ k < n, ¬∃ slots, reg.zeroFields k m = .ok slots

theorem ZerosTo.unique {n k : Nat} {m : Message} (hn : reg.ZerosTo n m) (hk : reg.ZerosTo k m) :
    n = k := by
  rcases Nat.lt_trichotomy n k with h | h | h
  · exact absurd hn.1 (hk.2 n h)
  · exact h
  · exact absurd hk.1 (hn.2 k h)

/-- Some message in the fields of a message goes exactly one level less deep. -/
theorem ZerosTo.pred {n : Nat} {m : Message} (h : reg.ZerosTo (n + 1) m) :
    ∃ m', reg.Registered m' ∧ reg.ZerosTo n m' := by
  obtain ⟨hok, hless⟩ := h
  have hfail := hless n (Nat.lt_succ_self n)
  rw [zeroFields_ok_iff] at hok hfail
  simp only [not_forall] at hfail
  obtain ⟨f, hf, hs, hn⟩ := hfail
  have hsucc := hok f hf hs
  rcases reg.type_cases m.package f.type with ⟨p, hp⟩ | ⟨e, hk, he⟩ | ⟨m', hm⟩
  · rw [hp] at hn
    exact absurd ⟨_, zeroElement_primitive reg n m.package p⟩ hn
  · simp [zeroElement_unresolved hk he] at hsucc
  · rw [zeroElement_succ_ok_iff hm] at hsucc
    refine ⟨m', registered_of_resolve hm, hsucc, fun k hk hz => hn ?_⟩
    obtain ⟨n, rfl⟩ := Nat.exists_eq_succ_of_ne_zero (Nat.ne_of_gt (Nat.zero_lt_of_lt hk))
    rw [zeroElement_succ_ok_iff hm]
    exact zeroFields_mono (Nat.lt_succ_iff.1 hk) hz

theorem ZerosTo.below {n : Nat} {m : Message} (h : reg.ZerosTo n m) {k : Nat} (hk : k < n) :
    ∃ m', reg.Registered m' ∧ reg.ZerosTo k m' := by
  induction n generalizing m with
  | zero => exact absurd hk (Nat.not_lt_zero k)
  | succ n ih =>
    obtain ⟨m', hm, hn⟩ := h.pred
    rcases Nat.lt_succ_iff_lt_or_eq.1 hk with hlt | rfl
    · exact ih hn hlt
    · exact ⟨m', hm, hn⟩

/-- The messages nested in a zero value are all different. -/
theorem ZerosTo.le {n : Nat} {m : Message} (h : reg.ZerosTo n m) : n ≤ reg.size := by
  have hcard : n ≤ reg.messages.keys.toFinset.card := by
    refine le_card_of_levels (fun key k => ∃ m', reg.find? key = some m' ∧ reg.ZerosTo k m') ?_
      fun k hk => ?_
    · rintro key i j ⟨m₁, hm₁, hi⟩ ⟨m₂, hm₂, hj⟩
      obtain rfl : m₁ = m₂ := Option.some.inj (hm₁.symm.trans hm₂)
      exact hi.unique hj
    · obtain ⟨m', ⟨key, hkey⟩, hz⟩ := h.below hk
      exact ⟨key, List.mem_toFinset.2 (mem_keys_of_find? hkey), m', hkey, hz⟩
  exact hcard.trans reg.card_keys_le

/-- An element that has a zero value with any budget has one with that of the generator. -/
theorem zeroOf_ok_of_zeroElement {n : Nat} {owner : String} {type : TypeRef}
    (h : ∃ slot, reg.zeroElement n owner type = .ok slot) :
    ∃ slot, reg.zeroOf owner type = .ok slot := by
  classical
  rcases reg.type_cases owner type with ⟨p, rfl⟩ | ⟨e, hk, he⟩ | ⟨m, hm⟩
  · exact ⟨_, zeroElement_primitive reg _ owner p⟩
  · simp [zeroElement_unresolved hk he] at h
  · cases n with
    | zero => simp [zeroElement_zero hm] at h
    | succ n =>
      rw [zeroElement_succ_ok_iff hm] at h
      have hex : ∃ n, ∃ slots, reg.zeroFields n m = .ok slots := ⟨n, h⟩
      have hleast : reg.ZerosTo (Nat.find hex) m :=
        ⟨Nat.find_spec hex, fun k hk => Nat.find_min hex hk⟩
      rw [zeroOf, zeroElement_succ_ok_iff hm]
      exact zeroFields_mono hleast.le hleast.1

/-- Where every message has a zero value, so has every element. -/
theorem zeroOf_ok (zeros : reg.HasZeros) {owner : String} {type : TypeRef}
    (h : reg.Resolves owner type) : ∃ slot, reg.zeroOf owner type = .ok slot := by
  rcases reg.type_cases owner type with ⟨p, rfl⟩ | ⟨e, hk, he⟩ | ⟨m, hm⟩
  · exact ⟨_, zeroElement_primitive reg _ owner p⟩
  · obtain ⟨m, hm⟩ := h hk
    cases he.symm.trans hm
  · obtain ⟨key, hkey⟩ := registered_of_resolve hm
    obtain ⟨slot, hz⟩ := zeros key m hkey
    simp only [zero, hkey] at hz
    obtain ⟨slots, hs, -⟩ := Except.map_eq_ok_iff.1 hz
    exact zeroOf_ok_of_zeroElement ((zeroElement_succ_ok_iff hm).2 ⟨slots, hs⟩)

end Registry

end Missive
