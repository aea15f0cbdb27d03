import Missive.Proofs.Refilling
/-!
# What an instance held before

An instance is read in place, and a slot that is read into is not made anew: its strings, its
sequences and the records in it are those of some earlier message.  Nothing of that message has a
part in the outcome.  Two instances of a type come out of the same bytes alike, or fail alike and
after as many bytes, and this for all bytes, be they those of a message or not.

* `Refill.exists_of_outcome` -- what it means that two reads have the same outcome;
* `refillItems_forgets`, `refillArray_forgets`, `refillField_forgets`, `refillFields_forgets` --
  arrays and messages, if it holds of their elements;
* `Registry.refillElement_forgets` -- elements, with any budget;
* `Registry.deserialize_forgets` -- whole instances.
-/

namespace Missive

/-- Reads with the same outcome succeed with the same or fail with the same, and leave the same of
the source. -/
theorem Refill.exists_of_outcome {α : Type} {r r' : Refill α} {t : Source}
    (h : r.outcome = (r'.outcome.1, t)) :
    ∃ value, r = ⟨value, r'.status, t⟩ ∧ (r'.status = .ok () → value = r'.value) := by
  obtain ⟨value, status, s⟩ := r
  obtain ⟨value', status', s'⟩ := r'
  obtain ⟨hresult, rfl⟩ := Prod.mk.inj h
  refine ⟨value, ?_⟩
  rcases status with e | ⟨⟩ <;> rcases status' with e' | ⟨⟩ <;> cases hresult
  · exact ⟨rfl, fun h => by cases h⟩
  · exact ⟨rfl, fun _ => rfl⟩

/-! ## Arrays -/

section

variable {element : SlotReader} {fits : Slot → Prop}
  (forgets : ∀ slot old s, fits slot → fits old →
    (element slot s).outcome = (element old s).outcome)

include forgets

theorem refillItems_forgets {slots olds : List Slot} (hl : olds.length = slots.length)
    (hslots : ∀ slot ∈ slots, fits slot) (holds : ∀ old ∈ olds, fits old) (s : Source) :
    (refillItems element slots s).outcome = (refillItems element olds s).outcome := by
  induction slots generalizing olds s with
  | nil =>
    obtain rfl := List.length_eq_zero_iff.1 hl
    rfl
  | cons slot rest ih =>
    obtain ⟨old, others, rfl⟩ := List.exists_cons_of_length_eq_add_one hl
    rw [List.forall_mem_cons] at hslots holds
    rw [outcome_refillItems_cons, outcome_refillItems_cons,
      forgets slot old s hslots.1 holds.1]
    refine congrArg _ (funext fun first => funext fun t => ?_)
    rw [ih (Nat.succ.inj hl) hslots.2 holds.2 t]

theorem refillArray_forgets {items olds : List Slot} (hl : olds.length = items.length)
    (hitems : ∀ slot ∈ items, fits slot) (holds : ∀ old ∈ olds, fits old) (s : Source) :
    (refillArray element items s).outcome = (refillArray element olds s).outcome := by
  rw [outcome_refillArray, outcome_refillArray, hl]
  refine congrArg _ (funext fun n => funext fun t => ?_)
  rw [refillItems_forgets forgets hl hitems holds t]

end

/-- An open array is cleared before its elements are read, each into a fresh slot. -/
theorem refillVector_forgets (element : SlotReader) (fresh : Slot) (items olds : List Slot)
    (s : Source) :
    (refillVector element fresh items s).outcome = (refillVector element fresh olds s).outcome := by
  rw [outcome_refillVector, outcome_refillVector]

/-! ## Messages -/

section

variable {reg : Registry} {element : Kind → SlotReader} {owner : String}
  (forgets : ∀ type slot old s, reg.Holds owner type .single slot →
    reg.Holds owner type .single old →
    (element type.kind slot s).outcome = (element type.kind old s).outcome)

include forgets

theorem refillField_forgets {f : Field} {slot old : Slot}
    (hslot : reg.Holds owner f.type f.shape slot) (hold : reg.Holds owner f.type f.shape old)
    (s : Source) :
    (refillField reg element owner f slot s).outcome
      = (refillField reg element owner f old s).outcome := by
  cases hs : f.shape with
  | single =>
    rw [hs] at hslot hold
    simp only [refillField, hs]
    exact forgets f.type slot old s hslot hold
  | exactly count =>
    rw [hs] at hslot hold
    obtain ⟨items, hli, his, rfl⟩ := hslot.eq_sequence rfl
    obtain ⟨olds, hlo, hos, rfl⟩ := hold.eq_sequence rfl
    have harray := refillArray_forgets (forgets f.type) ((hlo rfl).trans (hli rfl).symm) his hos s
    simp only [refillField, hs, Refill.outcome_map]
    exact congrArg _ harray
  | many =>
    rw [hs] at hslot hold
    obtain ⟨items, -, -, rfl⟩ := hslot.eq_sequence rfl
    obtain ⟨olds, -, -, rfl⟩ := hold.eq_sequence rfl
    simp only [refillField, hs]
    cases reg.zeroOf owner f.type with
    | error e => rfl
    | ok fresh =>
      simp only [Refill.outcome_map]
      rw [refillVector_forgets (element f.kind) fresh items olds s]

theorem refillFields_forgets {fields : List Field} {slots olds : List Slot}
    (hslots : reg.HoldsFields owner fields slots) (holds : reg.HoldsFields owner fields olds)
    (s : Source) :
    (refillFields reg element owner fields slots s).outcome
      = (refillFields reg element owner fields olds s).outcome := by
  induction fields generalizing slots olds s with
  | nil =>
    cases hslots
    cases holds
    rfl
  | cons f rest ih =>
    cases hslots with
    | cons hslot hnext =>
      cases holds with
      | cons hold hothers =>
        rw [outcome_refillFields_cons, outcome_refillFields_cons,
          refillField_forgets forgets hslot hold s]
        refine congrArg _ (funext fun first => funext fun t => ?_)
        rw [ih hnext hothers t]

end

namespace Registry

variable {reg : Registry}

/-- Whatever two slots of a type hold, an element is read into them with the same outcome. -/
theorem refillElement_forgets (reg : Registry) (n : Nat) (owner : String) (type : TypeRef)
    (slot old : Slot) (s : Source) (hslot : reg.Holds owner type .single slot)
    (hold : reg.Holds owner type .single old) :
    (reg.refillElement n type.kind slot s).outcome
      = (reg.refillElement n type.kind old s).outcome := by
  cases hslot with
  | @datum owner d =>
    obtain ⟨stale, hp, rfl⟩ := hold.eq_datum
    rw [TypeRef.kind, outcome_refillElement_primitive, ← hp, outcome_refillElement_primitive]
  | @record owner type name m slots hkey hm hslots =>
    obtain ⟨olds, holds, rfl⟩ := hold.eq_record hkey hm
    rw [TypeRef.kind_of_key hkey]
    cases n with
    | zero => rw [outcome_refillElement_zero hm, outcome_refillElement_zero hm]
    | succ n =>
      rw [outcome_refillElement_message hm, outcome_refillElement_message hm,
        refillFields_forgets (reg.refillElement_forgets n m.package) hslots holds s]
  | sequence ha => cases ha

/-- **What an instance held before does not matter.**  Any two instances of a type are read from the
same bytes alike: both become the same instance and leave the same rest, or both fail, with the same
error and after as many bytes. -/
theorem deserialize_forgets {name : String} {m : Message} (hm : reg.find? name = some m)
    {slots old : List Slot} (hslots : reg.HoldsFields m.package m.fields slots)
    (hold : reg.HoldsFields m.package m.fields old) (bytes : Bytes) :
    (∃ read t, reg.deserialize (.record name slots) bytes = ⟨read, .ok (), t⟩ ∧
        reg.deserialize (.record name old) bytes = ⟨read, .ok (), t⟩) ∨
      ∃ left left' e t, reg.deserialize (.record name slots) bytes = ⟨left, .error e, t⟩ ∧
        reg.deserialize (.record name old) bytes = ⟨left', .error e, t⟩ := by
  have hsame : (reg.deserialize (.record name slots) bytes).outcome
      = (reg.deserialize (.record name old) bytes).outcome := by
    rw [deserialize, readElement, deserialize, readElement, outcome_refillElement_message hm,
      outcome_refillElement_message hm,
      refillFields_forgets (reg.refillElement_forgets _ m.package) hslots hold]
  obtain ⟨read, hread, hvalue⟩ := Refill.exists_of_outcome hsame
  rcases hagain : reg.deserialize (.record name old) bytes with ⟨value, e | ⟨⟩, t⟩
  · rw [hagain] at hread
    exact .inr ⟨read, value, e, t, hread, rfl⟩
  · rw [hagain] at hread hvalue
    obtain rfl : read = value := hvalue rfl
    exact .inl ⟨read, t, hread, rfl⟩

end Registry

namespace Forest

/-- The slots of a tree of another grove, with one tree more. -/
def staleSlots : List Slot :=
  [.record "forest/Leaf" (leafSlots true "stale"), markSlots,
    .sequence (List.replicate 2 (.record "forest/Tree"
      [.record "forest/Leaf" (leafSlots false ""), markSlots, .sequence []]))]

theorem holdsFields_stale : registry.HoldsFields tree.package tree.fields staleSlots := by
  have hbelow : registry.Holds "forest" (.own "Tree") .single (.record "forest/Tree"
      [.record "forest/Leaf" (leafSlots false ""), markSlots, .sequence []]) :=
    .record rfl find?_tree (holdsFields_tree false "" (by simp))
  exact holdsFields_tree true "stale" fun slot hslot => List.eq_of_mem_replicate hslot ▸ hbelow

/-- A grove is read into the slots of another one as into its own.  So is a part of it, which leaves
the error of the tree below and no trace of the two that were there. -/
theorem deserialize_forgets_stale : registry.find? "forest/Tree" = some tree ∧
    registry.HoldsFields tree.package tree.fields groveSlots ∧
    registry.HoldsFields tree.package tree.fields staleSlots ∧
    registry.deserialize (.record "forest/Tree" staleSlots) (grove ++ [7])
      = ⟨.record "forest/Tree" groveSlots, .ok (), ⟨[7], 28, .ended⟩⟩ ∧
    ∃ left, registry.deserialize (.record "forest/Tree" staleSlots) (grove.take 20)
      = ⟨left, .error (.wire (.inField "Below" (.inField "Marks"
          (.truncated (.primitive .uint32))))), ⟨[], 20, .ended⟩⟩ := by
  refine ⟨find?_tree, holdsFields_grove, holdsFields_stale, ?_, ?_⟩
  · rcases Registry.deserialize_forgets find?_tree holdsFields_grove holdsFields_stale
      (grove ++ [7]) with ⟨read, t, hread, hagain⟩ | ⟨_, _, e, t, hread, -⟩
    · cases hread
      exact hagain
    · cases hread
  · rcases Registry.deserialize_forgets find?_tree holdsFields_grove holdsFields_stale
      (grove.take 20) with ⟨read, t, hread, -⟩ | ⟨left, left', e, t, hread, hagain⟩
    · cases hread
    · cases hread
      exact ⟨left', hagain⟩

end Forest

end Missive
