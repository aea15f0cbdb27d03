import Mathlib.Order.Lattice.Nat
import Missive.Proofs.Mirroring
import Missive.Proofs.Nesting
/-!
# How deep a message goes

A message may contain itself, behind some bytes or in an array.  What it cannot do is to begin with
itself: then there would be no end to it.  If no message does, then each nested message is shorter
than the one around it, or stands at its very beginning and below it in the order of what begins
with what; and this can go on only for so long.

* `Registry.LeftContains` -- one message is at the beginning of another one;
* `Registry.leftHeight` -- how often this can be repeated, `leftHeight_lt` and `leftHeight_le_size`;
* `Registry.Calls.descends` -- the measure that falls at each nested message;
* `not_ranOut_of_descent` -- a budget that is as large as the measure is enough.
-/

namespace Missive

namespace Registry

variable (reg : Registry)

/-! ## Beginnings -/

/-- A message has another one at its beginning: in a single field, in front of which there are only
single fields of types without bytes. -/
def LeftContains (m m' : Message) : Prop :=
  ∃ before f after, m.fields = before ++ f :: after ∧
    (∀ g ∈ before, g.shape = .single ∧ ∃ height, reg.Weightless height m.package g.type) ∧
    f.shape = .single ∧ reg.resolve m.package f.type = .ok m'

/-- No message is at its own beginning, be it through others. -/
def IsLeftAcyclic : Prop :=
  ∀ m, ¬Relation.TransGen reg.LeftContains m m

/-- Of messages at the beginning of each other, starting with this one, there are at most so many
behind it. -/
def LeftHeightLe : Nat → Message → Prop
  | 0, m => ∀ m', ¬reg.LeftContains m m'
  | n + 1, m => ∀ m', reg.LeftContains m m' → LeftHeightLe n m'

/-- The height of a message in the order of beginnings: how many messages there can be at the
beginning of each other, starting with this one. -/
noncomputable def leftHeight (m : Message) : Nat :=
  sInf {n | reg.LeftHeightLe n m}

variable {reg}

theorem LeftContains.registered {m m' : Message} (h : reg.LeftContains m m') :
    reg.Registered m' := by
  obtain ⟨before, f, after, -, -, -, hr⟩ := h
  exact registered_of_resolve hr

/-- No message is at its own beginning if there is a height that is less at each beginning. -/
theorem isLeftAcyclic_of_lt (height : Message → Nat)
    (h : ∀ m m', reg.Registered m → reg.LeftContains m m' → height m' < height m) :
    reg.IsLeftAcyclic := by
  have hlast : ∀ {m m'}, Relation.TransGen reg.LeftContains m m' → reg.Registered m' := by
    intro m m' hgen
    cases hgen with
    | single hm => exact hm.registered
    | tail _ hm => exact hm.registered
  have hless : ∀ {m m'}, reg.Registered m → Relation.TransGen reg.LeftContains m m' →
      height m' < height m := by
    intro m m' hreg hgen
    induction hgen with
    | single hm => exact h m _ hreg hm
    | tail hgen hm ih => exact Nat.lt_trans (h _ _ (hlast hgen) hm) ih
  intro m hgen
  exact Nat.lt_irrefl _ (hless (hlast hgen) hgen)

section

variable (acyclic : reg.IsLeftAcyclic)

include acyclic

/-- The height is at most the number of messages at the beginning, and each of them is one of the
registry. -/
theorem leftHeightLe_size (m : Message) : reg.LeftHeightLe reg.size m := by
  classical
  -- the names of all messages at the beginning of a message, be it through others
  let below (m : Message) : Finset String := reg.messages.keys.toFinset.filter fun key =>
    ∃ m', reg.find? key = some m' ∧ Relation.TransGen reg.LeftContains m m'
  have hmem : ∀ {m m' : Message} {key : String}, reg.find? key = some m' →
      (key ∈ below m ↔ Relation.TransGen reg.LeftContains m m') := by
    intro m m' key hkey
    rw [Finset.mem_filter, List.mem_toFinset]
    constructor
    · rintro ⟨-, m'', hkey', hgen⟩
      obtain rfl := Option.some.inj (hkey.symm.trans hkey')
      exact hgen
    · intro hgen
      exact ⟨mem_keys_of_find? hkey, m', hkey, hgen⟩
  have hbelow : ∀ n m, (below m).card ≤ n → reg.LeftHeightLe n m := by
    intro n
    induction n with
    | zero =>
      intro m hcard m' hm
      obtain ⟨key, hkey⟩ := hm.registered
      have hin : key ∈ below m := (hmem hkey).2 (.single hm)
      rw [Finset.card_eq_zero.1 (Nat.le_zero.1 hcard)] at hin
      exact Finset.notMem_empty key hin
    | succ n ih =>
      intro m hcard m' hm
      obtain ⟨key, hkey⟩ := hm.registered
      have hsub : below m' ⊆ below m := by
        intro other hother
        obtain ⟨hother, m'', hm'', hgen⟩ := Finset.mem_filter.1 hother
        exact Finset.mem_filter.2 ⟨hother, m'', hm'', .head hm hgen⟩
      have hin : key ∈ below m := (hmem hkey).2 (.single hm)
      have hout : key ∉ below m' := fun h => acyclic m' ((hmem hkey).1 h)
      have hlt := Finset.card_lt_card (Finset.ssubset_iff_of_subset hsub |>.2 ⟨key, hin, hout⟩)
      exact ih m' (by omega)
  have hcard : (below m).card ≤ reg.size :=
    (Finset.card_le_card (Finset.filter_subset _ _)).trans reg.card_keys_le
  exact hbelow reg.size m hcard

theorem leftHeight_le_size (m : Message) : reg.leftHeight m ≤ reg.size :=
  Nat.sInf_le (leftHeightLe_size acyclic m)

/-- What is at the beginning of a message has less height. -/
theorem leftHeight_lt {m m' : Message} (h : reg.LeftContains m m') :
    reg.leftHeight m' < reg.leftHeight m := by
  have hsome : {n | reg.LeftHeightLe n m}.Nonempty := ⟨reg.size, leftHeightLe_size acyclic m⟩
  have hm : reg.LeftHeightLe (reg.leftHeight m) m := Nat.sInf_mem hsome
  cases hheight : reg.leftHeight m with
  | zero =>
    rw [hheight] at hm
    exact absurd h (hm m')
  | succ n =>
    rw [hheight] at hm
    exact Nat.lt_succ_of_le (Nat.sInf_le (hm m' h))

end

/-! ## Nested messages -/

/-- Fields that were decoded from nothing are single fields of types without bytes. -/
theorem weightless_of_decodeFields {n : Nat} {owner : String} {fields : List Field}
    {members out : Members} {s t : Source}
    (h : decodeFields reg (reg.decodeElement n) owner fields members s = (.ok out, t))
    (hc : t.consumed = s.consumed) :
    ∀ f ∈ fields, f.shape = .single ∧ ∃ height, reg.Weightless height owner f.type := by
  intro f hf
  obtain ⟨hs, v, u, w, hv, hw⟩ :=
    decodeFields_consumed_eq (reg.decodeElement_passes n) h hc f hf
  exact ⟨hs, weightless_of_decodeElement hv hw⟩

/-- Behind the count of an array fewer bytes are left. -/
theorem Gathers.pending_lt {n : Nat} {m : Message} {f : Field} {s t : Source} {count : Nat}
    {items : List Value} (h : reg.Gathers n m f s count items t) :
    t.pending.length < s.pending.length := by
  obtain ⟨u, hcount, -, -, hitems⟩ := h
  have hpast :=
    (decodeItems_passes (reg.decodeElement_passes n m.package f.type) items.length u).length_le
  rw [hitems] at hpast
  exact Nat.lt_of_le_of_lt hpast (pending_lt_of_readCount (Nat.le_refl _) hcount)

/-- **At each nested message the measure falls**: fewer bytes are left, or as many and the message
is at the beginning of the one around it. -/
theorem Calls.descends (acyclic : reg.IsLeftAcyclic) {n : Nat} {m m' : Message} {s t : Source}
    (h : reg.Calls n m s m' t) :
    Prod.Lex (· < ·) (· < ·) (t.pending.length, reg.leftHeight m')
      (s.pending.length, reg.leftHeight m) := by
  cases h with
  | single hcomes hsingle hr =>
    obtain ⟨bytes, hreads⟩ := hcomes.passes
    have hpending := hreads.length_pending
    rcases Nat.eq_zero_or_pos bytes.length with hnone | hsome
    · obtain ⟨before, after, members, hfields, hbefore⟩ := hcomes
      have hsame : t.consumed = s.consumed := by
        rw [hreads.consumed, hnone, Nat.add_zero]
      have hleft : reg.LeftContains m m' :=
        ⟨before, _, after, hfields, weightless_of_decodeFields hbefore hsame, hsingle, hr⟩
      have hlength : t.pending.length = s.pending.length := by omega
      rw [hlength]
      exact .right _ (leftHeight_lt acyclic hleft)
    · exact .left _ _ (by omega)
  | item hcomes _ hgathers _ _ =>
    exact .left _ _ (Nat.lt_of_lt_of_le hgathers.pending_lt hcomes.passes.length_le)

end Registry

/-! ## Budgets -/

/-- Let something run out of its budget only at a nested message, with a budget that is less by one,
and let the measure fall there.  Then a budget as large as the measure is enough; of the two parts
of the measure the second one is at most `size`. -/
theorem not_ranOut_of_descent {σ : Type} {ranOut : Nat → Message → σ → Prop}
    {calls : Nat → Message → σ → Message → σ → Prop} {left : σ → Nat} {height : Message → Nat}
    {size : Nat} (hheight : ∀ m, height m ≤ size)
    (hcalls : ∀ n m s, ranOut n m s → ∃ m' t, calls n m s m' t ∧
      (n = 0 ∨ ∃ k, n = k + 1 ∧ ranOut k m' t))
    (hdescends : ∀ n m s m' t, calls n m s m' t →
      Prod.Lex (· < ·) (· < ·) (left t, height m') (left s, height m))
    {n : Nat} {m : Message} {s : σ} (hn : (size + 1) * left s + height m ≤ n) :
    ¬ranOut n m s := by
  have hfalls : ∀ n m s m' t, calls n m s m' t →
      (size + 1) * left t + height m' < (size + 1) * left s + height m := by
    intro n m s m' t hcall
    rcases Prod.lex_def.1 (hdescends n m s m' t hcall) with hless | ⟨hsame, hlower⟩
    · have hleft : left t < left s := hless
      have hmul := Nat.mul_le_mul_left (size + 1) (Nat.succ_le_of_lt hleft)
      rw [Nat.mul_succ] at hmul
      have hsize := hheight m'
      omega
    · have hleft : left t = left s := hsame
      have hlt : height m' < height m := hlower
      rw [hleft]
      omega
  induction n generalizing m s with
  | zero =>
    intro h
    obtain ⟨m', t, hcall, -⟩ := hcalls 0 m s h
    have hlt := hfalls 0 m s m' t hcall
    omega
  | succ n ih =>
    intro h
    obtain ⟨m', t, hcall, hzero | ⟨k, hk, hagain⟩⟩ := hcalls (n + 1) m s h
    · cases hzero
    · obtain rfl := Nat.succ.inj hk
      have hlt := hfalls (n + 1) m s m' t hcall
      exact ih (by omega) hagain

end Missive
