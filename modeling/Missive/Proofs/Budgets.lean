import Mathlib.Data.Finset.Prod
import Mathlib.Data.Fintype.Card
import Missive.Proofs.Decoding
/-!
# Budgets

A message may contain itself, so decoding goes through a limited number of nested messages only.
Here that limit is seen to be harmless: whatever can be decoded with some budget is decoded with
the one that the decoder uses, and in the same way.  So the decoder runs out of its budget exactly
when there is no end to the nesting.

* `Decoded.RanOut` -- the budget was too small;
* `Registry.decodeMessage_mono` -- a larger budget changes nothing else;
* `Registry.NestsTo` -- the number of nested messages that are really gone through;
* `Registry.NestsTo.le` -- between two bytes no message occurs twice on the way down;
* `Registry.decodeMessage_nestingBudget` -- the decoder's budget suffices;
* `Registry.Finishes`, `Registry.finishes_iff` -- decoding comes to an end.
-/

namespace Missive

/-- The budget was too small. -/
def Decoded.RanOut {α : Type} (r : Decoded α) : Prop :=
  ∃ name, r.1 = .error (.endless name)

/-- Either two decoders have the same outcome, or the first one ran out at some call on the way;
then the second one runs out, too, if it does so at that call. -/
def Decoded.Follows {α : Type} (d e : ElementDecoder) (s : Source) (r r' : Decoded α) : Prop :=
  r' = r ∨ RanOut r ∧ ∃ owner type t, s.Passes t ∧ RanOut (d owner type t) ∧
    (RanOut (e owner type t) → RanOut r')

namespace Decoded

variable {α β : Type} {d e : ElementDecoder} {s t : Source} {r r' : Decoded α}

theorem ranOut_mapValue (make : α → β) : RanOut (mapValue make r) ↔ RanOut r := by
  rcases r with ⟨_ | _, _⟩ <;> simp [RanOut]

theorem ranOut_inField (label : String) : RanOut (inField label r) ↔ RanOut r := by
  rcases r with ⟨x | _, _⟩
  · cases x <;> simp [RanOut, CodecError.inField]
  · simp [RanOut]

theorem RanOut.andThen (h : RanOut r) (next : α → Source → Decoded β) :
    RanOut (andThen r next) := by
  obtain ⟨name, hr⟩ := h
  rcases r with ⟨x | _, _⟩
  · cases hr
    exact ⟨name, rfl⟩
  · cases hr

namespace Follows

theorem mapValue (make : α → β) (h : Follows d e s r r') :
    Follows d e s (Decoded.mapValue make r) (Decoded.mapValue make r') := by
  rcases h with rfl | ⟨hr, owner, type, t, ht, hd, he⟩
  · exact .inl rfl
  · exact .inr ⟨(ranOut_mapValue make).2 hr, owner, type, t, ht, hd,
      fun h => (ranOut_mapValue make).2 (he h)⟩

theorem inField (label : String) (h : Follows d e s r r') :
    Follows d e s (Decoded.inField label r) (Decoded.inField label r') := by
  rcases h with rfl | ⟨hr, owner, type, t, ht, hd, he⟩
  · exact .inl rfl
  · exact .inr ⟨(ranOut_inField label).2 hr, owner, type, t, ht, hd,
      fun h => (ranOut_inField label).2 (he h)⟩

theorem andThen {next next' : α → Source → Decoded β} (h : Follows d e s r r')
    (hp : s.Passes r.2) (hn : ∀ a t, Follows d e t (next a t) (next' a t)) :
    Follows d e s (Decoded.andThen r next) (Decoded.andThen r' next') := by
  rcases h with rfl | ⟨hr, owner, type, t, ht, hd, he⟩
  · rcases r' with ⟨x | a, t⟩
    · exact .inl rfl
    · rcases hn a t with h | ⟨hr, owner, type, u, hu, hd, he⟩
      · exact .inl h
      · exact .inr ⟨hr, owner, type, u, hp.trans hu, hd, he⟩
  · exact .inr ⟨hr.andThen next, owner, type, t, ht, hd, fun h => (he h).andThen next'⟩

end Follows

end Decoded

/-! ## Approximation -/

/-- The second decoder has the same outcome wherever the first one does not run out. -/
def ElementDecoder.Approximates (d e : ElementDecoder) : Prop :=
  ∀ (owner : String) (type : TypeRef) (s : Source),
    Decoded.RanOut (d owner type s) ∨ e owner type s = d owner type s

section

variable {d e : ElementDecoder} (approx : d.Approximates e) (forward : d.GoesForward)

include approx

theorem element_follows (owner : String) (type : TypeRef) (s : Source) :
    Decoded.Follows d e s (d owner type s) (e owner type s) := by
  rcases approx owner type s with h | h
  · exact .inr ⟨h, owner, type, s, .refl s, h, id⟩
  · exact .inl h

include forward

theorem decodeItems_follows (owner : String) (type : TypeRef) (n : Nat) (s : Source) :
    Decoded.Follows d e s (decodeItems (d owner type) n [] s)
      (decodeItems (e owner type) n [] s) := by
  induction n generalizing s with
  | zero => exact .inl rfl
  | succ n ih =>
    rw [decodeItems_succ, decodeItems_succ]
    exact (element_follows approx owner type s).andThen (forward owner type s)
      fun v t => (ih t).mapValue _

theorem decodeField_follows (reg : Registry) (owner : String) (f : Field) (s : Source) :
    Decoded.Follows d e s (decodeField reg d owner f s) (decodeField reg e owner f s) := by
  cases h : f.shape.isArray with
  | false =>
    rw [decodeField_single reg d owner h, decodeField_single reg e owner h]
    exact element_follows approx owner f.type s
  | true =>
    rw [decodeField_array reg d owner h, decodeField_array reg e owner h]
    refine Decoded.Follows.mapValue _ (.andThen (.inl rfl) (readCount_passes s) fun n t => ?_)
    exact .andThen (.inl rfl) (.refl t) fun _ t =>
      decodeItems_follows approx forward owner f.type n t

theorem decodeFields_follows (reg : Registry) (owner : String) (fields : List Field)
    (members : Members) (s : Source) :
    Decoded.Follows d e s (decodeFields reg d owner fields members s)
      (decodeFields reg e owner fields members s) := by
  induction fields generalizing members s with
  | nil => exact .inl rfl
  | cons f rest ih =>
    rw [decodeFields_step, decodeFields_step]
    exact ((decodeField_follows approx forward reg owner f s).inField f.label).andThen
      (decodeField_passes reg forward owner f s) fun v t => ih _ t

end

/-- Each of the first `n` levels is the level of something, so there are `n` things. -/
theorem le_card_of_levels {α : Type} {S : Finset α} {n : Nat} (level : α → Nat → Prop)
    (unique : ∀ a i j, level a i → level a j → i = j) (h : ∀ k < n, ∃ a ∈ S, level a k) :
    n ≤ S.card := by
  have hfin : ∀ k : Fin n, ∃ a ∈ S, level a k := fun k => h k k.isLt
  choose a ha hlevel using hfin
  have injective : Function.Injective a := fun i j hij =>
    Fin.ext (unique (a i) i j (hlevel i) (hij ▸ hlevel j))
  calc n = (Finset.univ : Finset (Fin n)).card := (Finset.card_fin n).symm
    _ ≤ S.card := Finset.card_le_card_of_injOn a (fun k _ => ha k) injective.injOn

namespace Registry

variable (reg : Registry)

theorem card_keys_le : reg.messages.keys.toFinset.card ≤ reg.size := by
  refine (List.toFinset_card_le _).trans (Nat.le_of_eq ?_)
  simp [Dictionary.keys, size, Dictionary.size]

/-- One more nested message makes no difference, unless the budget ran out before. -/
theorem decodeElement_approximates (n : Nat) :
    ElementDecoder.Approximates (reg.decodeElement n) (reg.decodeElement (n + 1)) := by
  intro owner type s
  rcases reg.type_cases owner type with ⟨p, rfl⟩ | ⟨e, hk, he⟩ | ⟨m, hm⟩
  · rw [decodeElement_primitive, decodeElement_primitive]
    exact .inr rfl
  · rw [decodeElement_unresolved hk he, decodeElement_unresolved hk he]
    exact .inr rfl
  · cases n with
    | zero =>
      rw [decodeElement_zero hm]
      exact .inl ⟨_, rfl⟩
    | succ n =>
      rw [decodeElement_succ hm, decodeElement_succ hm]
      have h := (decodeFields_follows (decodeElement_approximates n)
        (reg.decodeElement_passes n) reg m.package m.fields [] s).mapValue Value.struct
      exact h.elim .inr fun h => .inl h.1

theorem decodeMessage_follows (n : Nat) (m : Message) (s : Source) :
    Decoded.Follows (reg.decodeElement n) (reg.decodeElement (n + 1)) s
      (reg.decodeMessage n m s) (reg.decodeMessage (n + 1) m s) :=
  decodeFields_follows (reg.decodeElement_approximates n) (reg.decodeElement_passes n) reg
    m.package m.fields [] s

/-- A larger budget leaves every outcome as it is, unless the smaller one ran out. -/
theorem decodeMessage_mono {n k : Nat} (h : n ≤ k) (m : Message) (s : Source)
    (hn : ¬Decoded.RanOut (reg.decodeMessage n m s)) :
    reg.decodeMessage k m s = reg.decodeMessage n m s := by
  induction h with
  | refl => rfl
  | step _ ih =>
    rw [← ih] at hn ⊢
    exact (reg.decodeMessage_follows _ m s).resolve_right fun h => hn h.1

/-! ## Depth -/

/-- Decoding the message at this source goes through `n` nested messages, and no fewer. -/
def NestsTo (n : Nat) (m : Message) (s : Source) : Prop :=
  ¬Decoded.RanOut (reg.decodeMessage n m s) ∧ ∀ k < n, Decoded.RanOut (reg.decodeMessage k m s)

variable {reg}

theorem NestsTo.unique {n k : Nat} {m : Message} {s : Source} (hn : reg.NestsTo n m s)
    (hk : reg.NestsTo k m s) : n = k := by
  rcases Nat.lt_trichotomy n k with h | h | h
  · exact absurd (hk.2 n h) hn.1
  · exact h
  · exact absurd (hn.2 k h) hk.1

theorem nestsTo_succ_of {n : Nat} {m : Message} {s : Source}
    (hn : Decoded.RanOut (reg.decodeMessage n m s))
    (hs : ¬Decoded.RanOut (reg.decodeMessage (n + 1) m s)) : reg.NestsTo (n + 1) m s := by
  refine ⟨hs, fun k hk => ?_⟩
  by_contra hr
  have h := reg.decodeMessage_mono (Nat.lt_succ_iff.1 hk) m s hr
  exact hr (h ▸ hn)

/-- A message nested to some depth holds one nested to one less. -/
theorem NestsTo.pred {n : Nat} {m : Message} {s : Source} (h : reg.NestsTo (n + 1) m s) :
    ∃ m' t, reg.Registered m' ∧ s.Passes t ∧ reg.NestsTo n m' t := by
  have hn := h.2 n (Nat.lt_succ_self n)
  rcases reg.decodeMessage_follows n m s with heq | ⟨-, owner, type, t, ht, hd, he⟩
  · exact absurd (heq ▸ hn) h.1
  -- the call at which the smaller budget ran out and the larger one did not
  have hsome : ¬Decoded.RanOut (reg.decodeElement (n + 1) owner type t) := fun hr => h.1 (he hr)
  rcases reg.type_cases owner type with ⟨p, rfl⟩ | ⟨e, hk, hu⟩ | ⟨m', hm⟩
  · rw [decodeElement_primitive] at hd hsome
    exact absurd hd hsome
  · rw [decodeElement_unresolved hk hu] at hd hsome
    exact absurd hd hsome
  · refine ⟨m', t, registered_of_resolve hm, ht, ?_⟩
    rw [decodeElement_succ hm, Decoded.ranOut_mapValue] at hsome
    cases n with
    | zero => exact ⟨hsome, fun k hk => absurd hk (Nat.not_lt_zero k)⟩
    | succ n =>
      rw [decodeElement_succ hm, Decoded.ranOut_mapValue] at hd
      exact nestsTo_succ_of hd hsome

/-- On the way down every smaller depth occurs. -/
theorem NestsTo.below {n : Nat} {m : Message} {s : Source} (h : reg.NestsTo n m s) {k : Nat}
    (hk : k < n) : ∃ m' t, reg.Registered m' ∧ s.Passes t ∧ reg.NestsTo k m' t := by
  induction n generalizing m s with
  | zero => exact absurd hk (Nat.not_lt_zero k)
  | succ n ih =>
    obtain ⟨m', t, hm, ht, hn⟩ := h.pred
    rcases Nat.lt_succ_iff_lt_or_eq.1 hk with hlt | rfl
    · obtain ⟨m'', u, hm', hu, hn'⟩ := ih hn hlt
      exact ⟨m'', u, hm', ht.trans hu, hn'⟩
    · exact ⟨m', t, hm, ht, hn⟩

/-- Messages on the way down differ in their names or in what is left of the source. -/
theorem NestsTo.le {n : Nat} {m : Message} {s : Source} (h : reg.NestsTo n m s) :
    n ≤ reg.size * (s.pending.length + 1) := by
  have hcard : n ≤ (reg.messages.keys.toFinset ×ˢ Finset.range (s.pending.length + 1)).card := by
    refine le_card_of_levels (fun p k => ∃ m' t, reg.find? p.1 = some m' ∧ s.Passes t ∧
      t.pending.length = p.2 ∧ reg.NestsTo k m' t) ?_ fun k hk => ?_
    · rintro p i j ⟨m₁, t₁, hm₁, ht₁, hl₁, hi⟩ ⟨m₂, t₂, hm₂, ht₂, hl₂, hj⟩
      obtain rfl : m₁ = m₂ := Option.some.inj (hm₁.symm.trans hm₂)
      obtain rfl : t₁ = t₂ := ht₁.eq_of_length ht₂ (hl₁.trans hl₂.symm)
      exact hi.unique hj
    · obtain ⟨m', t, ⟨key, hkey⟩, ht, hn⟩ := h.below hk
      refine ⟨(key, t.pending.length), ?_, m', t, hkey, ht, rfl, hn⟩
      rw [Finset.mem_product, List.mem_toFinset, Finset.mem_range]
      exact ⟨mem_keys_of_find? hkey, Nat.lt_succ_of_le ht.length_le⟩
  rw [Finset.card_product, Finset.card_range] at hcard
  exact hcard.trans (Nat.mul_le_mul_right _ reg.card_keys_le)

/-! ## The decoder's budget -/

/-- What can be decoded at all is decoded with the budget that the decoder uses. -/
theorem decodeMessage_nestingBudget {n : Nat} {m : Message} {s : Source}
    (h : ¬Decoded.RanOut (reg.decodeMessage n m s)) :
    reg.decodeMessage (reg.nestingBudget s.pending.length) m s = reg.decodeMessage n m s := by
  classical
  have hex : ∃ k, ¬Decoded.RanOut (reg.decodeMessage k m s) := ⟨n, h⟩
  have hdepth : reg.NestsTo (Nat.find hex) m s :=
    ⟨Nat.find_spec hex, fun k hk => not_not.1 (Nat.find_min hex hk)⟩
  have hle : Nat.find hex ≤ reg.nestingBudget s.pending.length :=
    hdepth.le.trans (Nat.mul_le_mul_right _ (Nat.le_succ reg.size))
  have hn : Nat.find hex ≤ n := Nat.find_min' hex h
  rw [reg.decodeMessage_mono hle m s hdepth.1, reg.decodeMessage_mono hn m s hdepth.1]

/-- Decodes the message of this name, through at most `budget` nested messages. -/
def decodeWithin (reg : Registry) (budget : Nat) (name : String) (bytes : Bytes) :
    Nat × Except CodecError Members :=
  match reg.find? name with
  | none => (0, .error (.unknownMessage name))
  | some m =>
    let r := reg.decodeMessage budget m (.ofBytes bytes)
    (r.2.consumed, r.1)

/-- Decoding comes to an end, as it does with some budget. -/
def Finishes (reg : Registry) (name : String) (bytes : Bytes) : Prop :=
  ∃ budget, ∀ around, (reg.decodeWithin budget name bytes).2 ≠ .error (.endless around)

theorem decode_eq_decodeWithin (reg : Registry) (name : String) (bytes : Bytes) :
    reg.decode name bytes = reg.decodeWithin (reg.nestingBudget bytes.length) name bytes := by
  simp only [decode, decodeWithin]
  cases reg.find? name <;> rfl

/-- Any budget that does not run out gives the answer of the decoder. -/
theorem decode_of_decodeMessage {budget : Nat} {name : String} {m : Message} {bytes : Bytes}
    (hm : reg.find? name = some m)
    (h : ¬Decoded.RanOut (reg.decodeMessage budget m (.ofBytes bytes))) :
    reg.decode name bytes = ((reg.decodeMessage budget m (.ofBytes bytes)).2.consumed,
      (reg.decodeMessage budget m (.ofBytes bytes)).1) := by
  have hb := decodeMessage_nestingBudget h
  rw [decode_eq_decodeWithin, decodeWithin, hm, ← hb]
  rfl

/-- The decoder reports an endless message only where there is no end. -/
theorem finishes_iff {name : String} {bytes : Bytes} :
    reg.Finishes name bytes ↔ ∀ around, (reg.decode name bytes).2 ≠ .error (.endless around) := by
  constructor
  · rintro ⟨budget, h⟩
    cases hm : reg.find? name with
    | none => simp [decode, hm]
    | some m =>
      simp only [decodeWithin, hm] at h
      rw [decode_of_decodeMessage hm fun ⟨around, hr⟩ => h around hr]
      exact h
  · intro h
    exact ⟨_, by rwa [← decode_eq_decodeWithin]⟩

end Registry

end Missive
