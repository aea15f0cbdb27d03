import Missive.Proofs.Refilling
/-!
# Prefixes of messages

Messages of one type can stand one behind the other with nothing in between, and a reader that has
only a part of one can wait for the rest: no part of a message is a message, and every part of one
is reported as truncated, by the decoder, by the walk and by emitted types.

* `Registry.deserialize_cutShort` -- a part of an instance, read into any other one;
* `Registry.deserialize_consumed` -- instances end where messages do;
* `Registry.decode_prefixes` -- parts of messages, and what is behind them.
-/

namespace Missive

namespace Registry

variable {reg : Registry} {name : String} {m : Message} {slots old : List Slot} {bytes : Bytes}

theorem outcome_deserialize (hm : reg.find? name = some m) (slots : List Slot) (bytes : Bytes) :
    (reg.deserialize (.record name slots) bytes).outcome
      = Decoded.mapValue (Slot.record name)
          (refillFields reg (reg.refillElement (reg.nestingBudget bytes.length)) m.package m.fields
            slots (.ofBytes bytes)).outcome :=
  outcome_refillElement_message hm _ slots (.ofBytes bytes)

/-- The slots of an instance that was read. -/
theorem outcome_of_status (hm : reg.find? name = some m)
    (h : (reg.deserialize (.record name slots) bytes).status = .ok ()) :
    ∃ read, (refillFields reg (reg.refillElement (reg.nestingBudget bytes.length)) m.package
      m.fields slots (.ofBytes bytes)).outcome
        = (.ok read, (reg.deserialize (.record name slots) bytes).source) := by
  have hall : (reg.deserialize (.record name slots) bytes).outcome
      = (.ok (reg.deserialize (.record name slots) bytes).value,
          (reg.deserialize (.record name slots) bytes).source) := by
    rw [Refill.outcome, h]
    rfl
  rw [outcome_deserialize hm] at hall
  obtain ⟨read, hread, -⟩ := Decoded.mapValue_eq_ok hall
  exact ⟨read, hread⟩

/-- Where a part of an instance is missing, this is reported, whatever it is read into. -/
theorem deserialize_cutShort (keyed : reg.IsKeyed) (hm : reg.find? name = some m)
    (nested : ∀ f ∈ m.fields, reg.FinitelyNested m.package f.type)
    (hslots : reg.HoldsFields m.package m.fields slots)
    (hold : reg.HoldsFields m.package m.fields old)
    (h : (reg.deserialize (.record name slots) bytes).status = .ok ()) {k : Nat}
    (hk : k < (reg.deserialize (.record name slots) bytes).source.consumed) :
    ∃ e kind, (reg.deserialize (.record name old) (bytes.take k)).status = .error (.wire e) ∧
      e.root = .truncated kind := by
  obtain ⟨read, hread⟩ := outcome_of_status hm h
  -- the budgets of the whole and of the part differ: that of the part suffices for it
  have hdelimits := refillFields_delimits keyed
    (refillElement_delimits keyed (reg.nestingBudget bytes.length)
      (reg.nestingBudget (bytes.take k).length)) nested
    (fun f hf _ => (nested f hf).isFinite.zeroOf_ok) hslots hold
  obtain ⟨piece, hr, -, hcut⟩ := hdelimits _ _ _ hread
  have hshort := (hcut _ (Nat.le_of_eq rfl) (Source.cuts_of_take hr hk)).mapValue
    (Slot.record name)
  rw [← outcome_deserialize hm] at hshort
  obtain ⟨e, kind, he, hroot⟩ := hshort
  refine ⟨e, kind, ?_, hroot⟩
  rw [Refill.outcome] at he
  cases hs : (reg.deserialize (.record name old) (bytes.take k)).status with
  | error e' =>
    rw [hs] at he
    exact congrArg Except.error (Except.error.inj he)
  | ok _ =>
    rw [hs] at he
    cases he

/-- An instance and the message of its type end at the same place. -/
theorem deserialize_consumed (keyed : reg.IsKeyed) (hm : reg.find? name = some m)
    (hslots : reg.HoldsFields m.package m.fields slots)
    (h : (reg.deserialize (.record name slots) bytes).status = .ok ()) {n : Nat} {members : Members}
    (hd : reg.decode name bytes = (n, .ok members)) :
    (reg.deserialize (.record name slots) bytes).source.consumed = n := by
  obtain ⟨read, hread⟩ := outcome_of_status hm h
  obtain ⟨m', t, hm', rfl, hmessage⟩ := decode_eq_ok hd
  obtain rfl := Option.some.inj (hm.symm.trans hm')
  have hmeets := refillFields_meets keyed
    (refillElement_meets keyed (reg.nestingBudget bytes.length) (reg.nestingBudget bytes.length))
    hslots [] (.ofBytes bytes)
  exact congrArg Source.consumed (hmeets _ _ _ _ hread hmessage)

/-- **A part of a message is no message.**  If a message is decoded from the start of a byte string,
then from any smaller part of it decoder and walk report a truncated element, and so does an emitted
type, into any instance, if it can read the whole one; and what is behind the message does not
matter, so no other message of the type starts with this one. -/
theorem decode_prefixes {n : Nat} {members : Members}
    (hd : reg.decode name bytes = (n, .ok members)) :
    (∀ k < n,
      (∃ e kind, (reg.decode name (bytes.take k)).2 = .error (.wire e) ∧
        e.root = .truncated kind ∧ reg.extent name (bytes.take k) = .error (.wire e)) ∧
      ∀ m slots old, reg.IsKeyed → reg.find? name = some m →
        (∀ f ∈ m.fields, reg.FinitelyNested m.package f.type) →
        reg.HoldsFields m.package m.fields slots → reg.HoldsFields m.package m.fields old →
        (reg.deserialize (.record name slots) bytes).status = .ok () →
        ∃ e kind, (reg.deserialize (.record name old) (bytes.take k)).status = .error (.wire e) ∧
          e.root = .truncated kind) ∧
    (∀ other, other.take n = bytes.take n → reg.decode name other = (n, .ok members)) ∧
    ∀ other k out, reg.decode name other = (k, .ok out) → bytes.take n <+: other →
      k = n ∧ out = members := by
  obtain ⟨hlength, hsame⟩ := decode_of_take hd
  refine ⟨fun k hk => ⟨decode_of_cut hd hk, ?_⟩, hsame, fun other k out hother hp => ?_⟩
  · intro m slots old keyed hm nested hslots hold hs
    rw [← deserialize_consumed keyed hm hslots hs hd] at hk
    exact deserialize_cutShort keyed hm nested hslots hold hs hk
  · have htake := List.prefix_iff_eq_take.1 hp
    rw [hlength] at htake
    obtain ⟨hk, hout⟩ := Prod.mk.inj (hother.symm.trans (hsame other htake.symm))
    exact ⟨hk, Except.ok.inj hout⟩

end Registry

/-- The first 20 bytes of a grove end inside the tree below; a byte behind it changes nothing. -/
theorem Forest.decode_prefixes_grove : ∃ members,
    registry.decode "forest/Tree" grove = (28, .ok members) ∧
      (∃ e kind, (registry.decode "forest/Tree" (grove.take 20)).2 = .error (.wire e) ∧
        e.root = .truncated kind ∧
        registry.extent "forest/Tree" (grove.take 20) = .error (.wire e)) ∧
      (∃ e kind, (registry.deserialize (.record "forest/Tree" groveSlots) (grove.take 20)).status
        = .error (.wire e) ∧ e.root = .truncated kind) ∧
      registry.decode "forest/Tree" (grove ++ [7]) = (28, .ok members) := by
  have hgrove : ∃ members, registry.decode "forest/Tree" grove = (28, .ok members) := ⟨_, rfl⟩
  obtain ⟨members, hd⟩ := hgrove
  obtain ⟨hcut, hsame, -⟩ := Registry.decode_prefixes hd
  obtain ⟨hdecode, hread⟩ := hcut 20 (by decide)
  exact ⟨members, hd, hdecode, hread tree groveSlots groveSlots isEmittable.keyed find?_tree
    (fun f hf => finitelyNested ⟨_, find?_tree⟩ hf) holdsFields_grove holdsFields_grove rfl,
    hsame (grove ++ [7]) rfl⟩

end Missive
