import Missive.Proofs.Budgets
/-!
# Elements without bytes

The types that take no bytes are known from the registry alone.  Decoding bears this out: an element
of such a type is decoded from nothing, and whatever is decoded from nothing is of such a type.

* `Decoded.Stays` -- a step that leaves its source where it is, if it comes to an end;
* `Registry.decodeElement_stays`, `decodeItems_stays` -- elements of a type without bytes;
* `Registry.weightless_of_decodeElement` -- the converse.
-/

namespace Missive

/-- The step succeeded without reading anything, if the budget sufficed. -/
def Decoded.Stays {α : Type} (r : Decoded α) (s : Source) : Prop :=
  RanOut r ∨ ∃ a, r = (.ok a, s)

namespace Decoded.Stays

variable {α β : Type} {r : Decoded α} {s : Source}

theorem andThen {next : α → Source → Decoded β} (h : Stays r s) (hn : ∀ a, Stays (next a s) s) :
    Stays (Decoded.andThen r next) s := by
  rcases h with h | ⟨a, rfl⟩
  · exact .inl (h.andThen next)
  · exact hn a

theorem mapValue (make : α → β) (h : Stays r s) : Stays (Decoded.mapValue make r) s := by
  rcases h with h | ⟨a, rfl⟩
  · exact .inl ((ranOut_mapValue make).2 h)
  · exact .inr ⟨make a, rfl⟩

theorem inField (label : String) (h : Stays r s) : Stays (Decoded.inField label r) s := by
  rcases h with h | ⟨a, rfl⟩
  · exact .inl ((ranOut_inField label).2 h)
  · exact .inr ⟨a, rfl⟩

end Decoded.Stays

/-! ## From the registry to the decoder -/

theorem decodeItems_stays {element : Source → Decoded Value} {s : Source}
    (h : Decoded.Stays (element s) s) (n : Nat) :
    Decoded.Stays (decodeItems element n [] s) s := by
  induction n with
  | zero => exact .inr ⟨[], rfl⟩
  | succ n ih =>
    rw [decodeItems_succ]
    exact h.andThen fun v => ih.mapValue (v :: ·)

theorem decodeFields_stays (reg : Registry) {element : ElementDecoder} {owner : String}
    {fields : List Field} {s : Source} (hs : ∀ f ∈ fields, f.shape = .single)
    (h : ∀ f ∈ fields, Decoded.Stays (element owner f.type s) s) (members : Members) :
    Decoded.Stays (decodeFields reg element owner fields members s) s := by
  induction fields generalizing members with
  | nil => exact .inr ⟨members, rfl⟩
  | cons f rest ih =>
    have hf : f.shape.isArray = false := by rw [hs f List.mem_cons_self]; rfl
    rw [decodeFields_step, decodeField_single reg element owner hf]
    refine ((h f List.mem_cons_self).inField f.label).andThen fun v => ?_
    exact ih (fun g hg => hs g (List.mem_cons_of_mem _ hg))
      (fun g hg => h g (List.mem_cons_of_mem _ hg)) _

namespace Registry

variable {reg : Registry} {owner : String} {type : TypeRef} {s t : Source}

/-- An element of a type without bytes is decoded from nothing. -/
theorem decodeElement_stays {height : Nat} (h : reg.Weightless height owner type) (budget : Nat)
    (s : Source) : Decoded.Stays (reg.decodeElement budget owner type s) s := by
  induction h generalizing budget with
  | leaf hm hf =>
    cases budget with
    | zero => exact .inl ⟨_, by rw [decodeElement_zero hm]⟩
    | succ budget =>
      rw [decodeElement_succ hm, decodeMessage, hf]
      exact .inr ⟨_, rfl⟩
  | node hm hs _ ih =>
    cases budget with
    | zero => exact .inl ⟨_, by rw [decodeElement_zero hm]⟩
    | succ budget =>
      rw [decodeElement_succ hm]
      exact (decodeFields_stays reg hs (fun f hf => ih f hf budget) []).mapValue _

end Registry

/-! ## From the decoder to the registry -/

theorem Source.Passes.consumed_le {s t : Source} (h : s.Passes t) : s.consumed ≤ t.consumed := by
  obtain ⟨bytes, hr⟩ := h
  rw [hr.consumed]
  exact Nat.le_add_right _ _

/-- Every element of a primitive takes some bytes. -/
theorem Primitive.consumed_lt_of_read {p : Primitive} {d : Datum} {s t : Source}
    (h : p.read s = (.ok d, t)) : s.consumed < t.consumed := by
  obtain ⟨bytes, hr, -, -, hl⟩ := reads_of_read h
  have hpos : 0 < d.boolMask.length := by
    cases d with
    | string text =>
      rw [Datum.boolMask, List.length_replicate]
      omega
    | _ => exact Nat.succ_pos _
  rw [hr.consumed, ← hl]
  exact Nat.lt_add_of_pos_right hpos

/-- Every array takes some bytes, those of its count. -/
theorem decodeField_consumed_lt {reg : Registry} {element : ElementDecoder}
    (forward : element.GoesForward) {owner : String} {f : Field} (ha : f.shape.isArray = true)
    {v : Value} {s t : Source} (h : decodeField reg element owner f s = (.ok v, t)) :
    s.consumed < t.consumed := by
  obtain ⟨n, items, u, -, hr, -, hi, -⟩ := decodeField_array_eq_ok ha h
  have hrest := (decodeItems_passes (forward owner f.type) n u).consumed_le
  have hcount := hr.consumed
  rw [Bytes.length_ofNat] at hcount
  rw [hi] at hrest
  exact Nat.lt_of_lt_of_le (by omega) hrest

theorem decodeFields_consumed_eq {reg : Registry} {element : ElementDecoder}
    (forward : element.GoesForward) {owner : String} {fields : List Field}
    {members out : Members} {s t : Source}
    (h : decodeFields reg element owner fields members s = (.ok out, t))
    (hc : t.consumed = s.consumed) : ∀ f ∈ fields, f.shape = .single ∧
      ∃ v u w, element owner f.type u = (.ok v, w) ∧ w.consumed = u.consumed := by
  induction fields generalizing members s with
  | nil => simp
  | cons f rest ih =>
    rw [decodeFields_step] at h
    obtain ⟨v, u, hv, hrest⟩ := Decoded.andThen_eq_ok h
    have hf := Decoded.inField_eq_ok hv
    have hfirst := (decodeField_passes reg forward owner f s).consumed_le
    have hothers :=
      (decodeFields_passes reg forward owner rest (members.set f.name v) u).consumed_le
    rw [hf] at hfirst
    rw [hrest] at hothers
    have hu : u.consumed = s.consumed := Nat.le_antisymm (hc ▸ hothers) hfirst
    have ha : f.shape.isArray = false := by
      by_contra ha
      have hlt := decodeField_consumed_lt forward (by simpa using ha) hf
      omega
    have hs := Shape.eq_single ha
    rw [decodeField_single reg element owner ha] at hf
    refine List.forall_mem_cons.2 ⟨⟨hs, v, s, u, hf, hu⟩, ih hrest (hc.trans hu.symm)⟩

/-- Whatever is decoded from nothing is of a type without bytes. -/
theorem Registry.weightless_of_decodeElement {reg : Registry} {n : Nat} {owner : String}
    {type : TypeRef} {v : Value} {s t : Source}
    (h : reg.decodeElement n owner type s = (.ok v, t)) (hc : t.consumed = s.consumed) :
    ∃ height, reg.Weightless height owner type := by
  rcases reg.type_cases owner type with ⟨p, rfl⟩ | ⟨e, hk, he⟩ | ⟨m, hm⟩
  · obtain ⟨d, hd, -⟩ := decodeElement_primitive_eq_ok h
    exact absurd hc (Nat.ne_of_gt (Primitive.consumed_lt_of_read hd))
  · rw [decodeElement_unresolved hk he] at h
    cases h
  · cases n with
    | zero =>
      rw [decodeElement_zero hm] at h
      cases h
    | succ n =>
      rw [decodeElement_succ hm] at h
      obtain ⟨members, hd, -⟩ := Decoded.mapValue_eq_ok h
      have hfields := decodeFields_consumed_eq (reg.decodeElement_passes n) hd hc
      refine weightless_of_fields hm fun f hf => ?_
      obtain ⟨hs, w, u, u', hw, hu⟩ := hfields f hf
      exact ⟨hs, weightless_of_decodeElement hw hu⟩

end Missive
