import Missive.Proofs.Weights
/-!
# On the way through a message

Decoding a message is a walk through the messages inside of it.  Here are the places that it comes
to: the fields of a message, the arrays with some of their elements decoded, and the nested messages
that are decoded in turn.  They are described by what the decoder answers up to there, so a place is
reached also if decoding fails further on.

* `Registry.ComesTo` -- a field, with the source in front of it;
* `Registry.Gathers` -- an array, some elements of which are already decoded;
* `Registry.Calls`, `Registry.GetsTo` -- the nested messages, one level down and on all levels;
* `Registry.calls_of_ranOut` -- a budget is too small only if it is for a nested message;
* `Registry.gathers_of_hasList` -- every list in a value was gathered at some array.
-/

namespace Missive

/-! ## Parts of a step -/

/-- Of two steps the first one ran out, or the second one did behind it. -/
theorem Decoded.ranOut_andThen {α β : Type} {r : Decoded α} {next : α → Source → Decoded β}
    (h : RanOut (andThen r next)) : RanOut r ∨ ∃ a t, r = (.ok a, t) ∧ RanOut (next a t) := by
  rcases r with ⟨e | a, t⟩
  · obtain ⟨name, hname⟩ := h
    cases hname
    exact .inl ⟨name, rfl⟩
  · exact .inr ⟨a, t, rfl, h⟩

theorem length_of_decodeItems {element : Source → Decoded Value} {n : Nat} {items : List Value}
    {s t : Source} (h : decodeItems element n [] s = (.ok items, t)) : items.length = n := by
  induction n generalizing items s with
  | zero =>
    cases h
    rfl
  | succ n ih =>
    rw [decodeItems_succ] at h
    obtain ⟨v, u, -, hrest⟩ := Decoded.andThen_eq_ok h
    obtain ⟨others, hothers, rfl⟩ := Decoded.mapValue_eq_ok hrest
    rw [List.length_cons, ih hothers]

/-- Every item is decoded behind some others. -/
theorem item_of_decodeItems {element : Source → Decoded Value} {n : Nat} {items : List Value}
    {s t : Source} (h : decodeItems element n [] s = (.ok items, t)) {v : Value} (hv : v ∈ items) :
    ∃ before u w, before.length < n ∧ decodeItems element before.length [] s = (.ok before, u) ∧
      element u = (.ok v, w) := by
  induction n generalizing items s with
  | zero =>
    cases h
    cases hv
  | succ n ih =>
    rw [decodeItems_succ] at h
    obtain ⟨first, u, hfirst, hrest⟩ := Decoded.andThen_eq_ok h
    obtain ⟨others, hothers, rfl⟩ := Decoded.mapValue_eq_ok hrest
    rcases List.mem_cons.1 hv with rfl | hmem
    · exact ⟨[], s, u, Nat.succ_pos n, rfl, hfirst⟩
    · obtain ⟨before, w, x, hlt, hbefore, helement⟩ := ih hothers hmem
      refine ⟨first :: before, w, x, Nat.succ_lt_succ hlt, ?_, helement⟩
      rw [List.length_cons, decodeItems_succ, hfirst, Decoded.andThen_ok, hbefore,
        Decoded.mapValue_ok]

/-- Items run out of their budget at one of them. -/
theorem item_of_ranOut {element : Source → Decoded Value} {n : Nat} {s : Source}
    (h : Decoded.RanOut (decodeItems element n [] s)) :
    ∃ before u, before.length < n ∧ decodeItems element before.length [] s = (.ok before, u) ∧
      Decoded.RanOut (element u) := by
  induction n generalizing s with
  | zero =>
    obtain ⟨name, hname⟩ := h
    cases hname
  | succ n ih =>
    rw [decodeItems_succ] at h
    rcases Decoded.ranOut_andThen h with hout | ⟨v, u, hfirst, hrest⟩
    · exact ⟨[], s, Nat.succ_pos n, rfl, hout⟩
    · obtain ⟨before, w, hlt, hbefore, hout⟩ := ih ((Decoded.ranOut_mapValue _).1 hrest)
      refine ⟨v :: before, w, Nat.succ_lt_succ hlt, ?_, hout⟩
      rw [List.length_cons, decodeItems_succ, hfirst, Decoded.andThen_ok, hbefore,
        Decoded.mapValue_ok]

theorem Members.mem_set {members : Members} {name other : String} {v w : Value}
    (h : (other, w) ∈ members.set name v) : (other, w) ∈ members ∨ w = v := by
  rw [Members.set] at h
  split at h
  · obtain ⟨m, hm, hw⟩ := List.mem_map.1 h
    split at hw
    · exact .inr (Prod.mk.inj hw).2.symm
    · exact .inl (hw ▸ hm)
  · rcases List.mem_append.1 h with hm | hw
    · exact .inl hm
    · exact .inr (Prod.mk.inj (List.mem_singleton.1 hw)).2

section

variable {reg : Registry} {element : ElementDecoder} {owner : String} {fields : List Field}
  {members : Members} {s : Source}

/-- Every member is the value of a field, decoded behind some others. -/
theorem field_of_decodeFields {out : Members} {t : Source}
    (h : decodeFields reg element owner fields members s = (.ok out, t)) {name : String} {v : Value}
    (hv : (name, v) ∈ out) :
    (name, v) ∈ members ∨ ∃ before f after mid u w, fields = before ++ f :: after ∧
      decodeFields reg element owner before members s = (.ok mid, u) ∧
      decodeField reg element owner f u = (.ok v, w) := by
  induction fields generalizing members s with
  | nil =>
    cases h
    exact .inl hv
  | cons f rest ih =>
    rw [decodeFields_step] at h
    obtain ⟨first, u, hfirst, hrest⟩ := Decoded.andThen_eq_ok h
    rcases ih hrest with hmem | ⟨before, g, after, mid, w, x, rfl, hbefore, hg⟩
    · rcases Members.mem_set hmem with hold | rfl
      · exact .inl hold
      · exact .inr ⟨[], f, rest, members, s, u, rfl, rfl, Decoded.inField_eq_ok hfirst⟩
    · refine .inr ⟨f :: before, g, after, mid, w, x, rfl, ?_, hg⟩
      rw [decodeFields_step, hfirst, Decoded.andThen_ok, hbefore]

/-- Fields run out of their budget at one of them. -/
theorem field_of_ranOut (h : Decoded.RanOut (decodeFields reg element owner fields members s)) :
    ∃ before f after mid u, fields = before ++ f :: after ∧
      decodeFields reg element owner before members s = (.ok mid, u) ∧
      Decoded.RanOut (decodeField reg element owner f u) := by
  induction fields generalizing members s with
  | nil =>
    obtain ⟨name, hname⟩ := h
    cases hname
  | cons f rest ih =>
    rw [decodeFields_step] at h
    rcases Decoded.ranOut_andThen h with hout | ⟨v, u, hfirst, hrest⟩
    · exact ⟨[], f, rest, members, s, rfl, rfl, (Decoded.ranOut_inField f.label).1 hout⟩
    · obtain ⟨before, g, after, mid, w, rfl, hbefore, hg⟩ := ih hrest
      refine ⟨f :: before, g, after, mid, w, rfl, ?_, hg⟩
      rw [decodeFields_step, hfirst, Decoded.andThen_ok, hbefore]

end

namespace Registry

variable {reg : Registry}

/-! ## Errors that are no lack of budget -/

theorem resolve_eq_error {owner : String} {type : TypeRef} {e : CodecError}
    (h : reg.resolve owner type = .error e) : ∃ key, e = .unknownMessage key := by
  rw [resolve] at h
  split at h
  · cases h
    exact ⟨_, rfl⟩
  · split at h
    · cases h
      exact ⟨_, rfl⟩
    · cases h

theorem allTrue_eq_error {α : Type} {test : α → Except CodecError Bool} {items : List α}
    {e : CodecError} (h : allTrue test items = .error e) : ∃ a ∈ items, test a = .error e := by
  induction items with
  | nil => cases h
  | cons a rest ih =>
    rw [allTrue] at h
    split at h
    · obtain ⟨b, hb, he⟩ := ih h
      exact ⟨b, List.mem_cons_of_mem a hb, he⟩
    · exact ⟨a, List.mem_cons_self, h⟩

theorem isEmptyWithin_eq_error {levels : Nat} {owner : String} {type : TypeRef} {e : CodecError}
    (h : reg.isEmptyWithin levels owner type = .error e) : ∃ key, e = .unknownMessage key := by
  induction levels generalizing owner type with
  | zero => cases h
  | succ levels ih =>
    rcases reg.type_cases owner type with ⟨p, rfl⟩ | ⟨fault, hk, hr⟩ | ⟨m, hr⟩
    · cases h
    · rw [isEmptyWithin_message hk, hr] at h
      cases h
      exact resolve_eq_error hr
    · rw [isEmptyWithin_message (kind_of_resolve hr), hr] at h
      obtain ⟨f, -, hf⟩ := allTrue_eq_error h
      split at hf
      · cases hf
      · exact ih hf

theorem not_ranOut_admitCount (owner : String) (f : Field) (n : Nat) (s : Source) :
    ¬Decoded.RanOut (admitCount reg owner f n, s) := by
  rintro ⟨name, h⟩
  simp only [admitCount] at h
  split at h
  · cases h
  · split at h
    · rename_i e he
      obtain ⟨key, rfl⟩ := isEmptyWithin_eq_error he
      cases h
    · rcases hc : checkEmptyElements n with e | ⟨⟩ <;> rw [hc] at h <;> cases h
    · cases h

theorem not_ranOut_decodeCount (s : Source) : ¬Decoded.RanOut (decodeCount s) := by
  rintro ⟨name, h⟩
  rw [decodeCount] at h
  rcases hcount : readCount s with ⟨e | n, t⟩ <;> rw [hcount] at h <;> cases h

/-! ## Places -/

/-- Decoding a message, with a budget for what is nested in it, comes to one of its fields. -/
def ComesTo (reg : Registry) (n : Nat) (m : Message) (s : Source) (f : Field) (t : Source) : Prop :=
  ∃ before after members, m.fields = before ++ f :: after ∧
    decodeFields reg (reg.decodeElement n) m.package before [] s = (.ok members, t)

/-- At an array of a message, whose count is read from `s`: the count is admitted, and so far these
items have been put into the list. -/
def Gathers (reg : Registry) (n : Nat) (m : Message) (f : Field) (s : Source) (count : Nat)
    (items : List Value) (t : Source) : Prop :=
  ∃ u, readCount s = (.ok count, u) ∧ admitCount reg m.package f count = .ok () ∧
    items.length ≤ count ∧
    decodeItems (reg.decodeElement n m.package f.type) items.length [] u = (.ok items, t)

/-- While it decodes a message the decoder turns to one nested in it. -/
inductive Calls (reg : Registry) (n : Nat) (m : Message) (s : Source) : Message → Source → Prop
  | single {f : Field} {m' : Message} {t : Source} :
      reg.ComesTo n m s f t → f.shape = .single → reg.resolve m.package f.type = .ok m' →
      Calls reg n m s m' t
  | item {f : Field} {m' : Message} {u t : Source} {count : Nat} {items : List Value} :
      reg.ComesTo n m s f u → f.shape.isArray = true → reg.Gathers n m f u count items t →
      items.length < count → reg.resolve m.package f.type = .ok m' → Calls reg n m s m' t

/-- From one message the decoder gets to another one, through messages nested in each other; each of
them takes one off the budget. -/
inductive GetsTo (reg : Registry) : Nat → Message → Source → Nat → Message → Source → Prop
  | here {n : Nat} {m : Message} {s : Source} : GetsTo reg n m s n m s
  | call {n k : Nat} {m m' m'' : Message} {s t u : Source} :
      reg.Calls (n + 1) m s m' t → GetsTo reg n m' t k m'' u → GetsTo reg (n + 1) m s k m'' u

section

variable {n k : Nat} {m m' : Message} {s t u : Source} {f : Field} {count : Nat}
  {items : List Value}

theorem ComesTo.passes (h : reg.ComesTo n m s f t) : s.Passes t := by
  obtain ⟨before, after, members, -, hd⟩ := h
  have hp := decodeFields_passes reg (reg.decodeElement_passes n) m.package before [] s
  rwa [hd] at hp

theorem Gathers.passes (h : reg.Gathers n m f s count items t) : s.Passes t := by
  obtain ⟨u, hcount, -, -, hitems⟩ := h
  have hp := decodeItems_passes (reg.decodeElement_passes n m.package f.type) items.length u
  rw [hitems] at hp
  exact .trans ⟨_, (reads_of_readCount hcount).2⟩ hp

theorem Calls.passes (h : reg.Calls n m s m' t) : s.Passes t := by
  cases h with
  | single hf => exact hf.passes
  | item hf _ hg => exact hf.passes.trans hg.passes

theorem GetsTo.passes (h : reg.GetsTo n m s k m' t) : s.Passes t := by
  induction h with
  | here => exact .refl _
  | call hc _ ih => exact hc.passes.trans ih

/-- Elements run out of their budget only if they are messages. -/
theorem message_of_ranOut {owner : String} {type : TypeRef}
    (h : Decoded.RanOut (reg.decodeElement n owner type t)) :
    ∃ m', reg.resolve owner type = .ok m' ∧
      (n = 0 ∨ ∃ k, n = k + 1 ∧ Decoded.RanOut (reg.decodeMessage k m' t)) := by
  rcases reg.type_cases owner type with ⟨p, rfl⟩ | ⟨e, hk, hr⟩ | ⟨m', hr⟩
  · obtain ⟨name, hname⟩ := h
    rw [decodeElement_primitive] at hname
    rcases hread : p.read t with ⟨e | d, w⟩ <;> rw [hread] at hname <;> cases hname
  · obtain ⟨name, hname⟩ := h
    rw [decodeElement_unresolved hk hr] at hname
    obtain ⟨key, rfl⟩ := resolve_eq_error hr
    cases hname
  · refine ⟨m', hr, ?_⟩
    cases n with
    | zero => exact .inl rfl
    | succ k =>
      rw [decodeElement_succ hr, Decoded.ranOut_mapValue] at h
      exact .inr ⟨k, rfl, h⟩

/-- An array runs out of its budget at one of its elements. -/
theorem gathers_of_ranOut (h : Decoded.RanOut
    (decodeArray reg (reg.decodeElement n) m.package f s)) :
    ∃ count items t, reg.Gathers n m f s count items t ∧ items.length < count ∧
      Decoded.RanOut (reg.decodeElement n m.package f.type t) := by
  rw [decodeArray] at h
  rcases Decoded.ranOut_andThen h with hnone | ⟨count, u, hdecoded, hbehind⟩
  · exact absurd hnone (not_ranOut_decodeCount s)
  · rcases Decoded.ranOut_andThen hbehind with hnone | ⟨⟨⟩, w, hadmitted, hrest⟩
    · exact absurd hnone (not_ranOut_admitCount m.package f count u)
    · obtain ⟨hadmits, rfl⟩ := Prod.mk.inj hadmitted
      have hcount := readCount_of_decodeCount hdecoded
      obtain ⟨items, t, hlt, hitems, hout⟩ := item_of_ranOut hrest
      exact ⟨count, items, t, ⟨u, hcount, hadmits, Nat.le_of_lt hlt, hitems⟩, hlt, hout⟩

/-- A budget that is too small is so at a nested message: there is none left for it, or what is left
is too small. -/
theorem calls_of_ranOut (h : Decoded.RanOut (reg.decodeMessage n m s)) :
    ∃ m' t, reg.Calls n m s m' t ∧
      (n = 0 ∨ ∃ k, n = k + 1 ∧ Decoded.RanOut (reg.decodeMessage k m' t)) := by
  obtain ⟨before, f, after, mid, u, hfields, hbefore, hout⟩ := field_of_ranOut h
  have hcomes : reg.ComesTo n m s f u := ⟨before, after, mid, hfields, hbefore⟩
  cases ha : f.shape.isArray with
  | false =>
    rw [decodeField_single reg _ m.package ha] at hout
    obtain ⟨m', hr, hn⟩ := message_of_ranOut hout
    exact ⟨m', u, .single hcomes (Shape.eq_single ha) hr, hn⟩
  | true =>
    rw [decodeField_array reg _ m.package ha, Decoded.ranOut_mapValue] at hout
    obtain ⟨count, items, t, hgathers, hlt, helement⟩ := gathers_of_ranOut hout
    obtain ⟨m', hr, hn⟩ := message_of_ranOut helement
    exact ⟨m', t, .item hcomes ha hgathers hlt hr, hn⟩

end

end Registry

/-! ## Lists in values -/

/-- A list of these items is somewhere in a value. -/
inductive Value.HasList : Value → List Value → Prop
  | here (items : List Value) : HasList (.list items) items
  | item {v : Value} {items inner : List Value} :
      v ∈ items → HasList v inner → HasList (.list items) inner
  | member {name : String} {v : Value} {members : Members} {inner : List Value} :
      (name, v) ∈ members → HasList v inner → HasList (.struct members) inner

namespace Registry

variable {reg : Registry} {n : Nat}

/-- An element with a list in it is a message with a list in one of its members. -/
theorem message_of_hasList {owner : String} {type : TypeRef} {v : Value} {inner : List Value}
    {s t : Source} (h : reg.decodeElement n owner type s = (.ok v, t)) (hl : v.HasList inner) :
    ∃ k m members, n = k + 1 ∧ reg.resolve owner type = .ok m ∧
      reg.decodeMessage k m s = (.ok members, t) ∧
      ∃ name w, (name, w) ∈ members ∧ w.HasList inner := by
  rcases reg.type_cases owner type with ⟨p, rfl⟩ | ⟨e, hk, hr⟩ | ⟨m, hr⟩
  · obtain ⟨d, -, rfl⟩ := decodeElement_primitive_eq_ok h
    cases hl
  · rw [decodeElement_unresolved hk hr] at h
    cases h
  · cases n with
    | zero =>
      rw [decodeElement_zero hr] at h
      cases h
    | succ k =>
      rw [decodeElement_succ hr] at h
      obtain ⟨members, hd, rfl⟩ := Decoded.mapValue_eq_ok h
      cases hl with
      | member hmem hw => exact ⟨k, m, members, rfl, hr, hd, _, _, hmem, hw⟩

/-- A list in a message is one of its arrays, or a list in a message nested in it. -/
theorem hasList_cases {m : Message} {members : Members} {s t : Source}
    (h : reg.decodeMessage n m s = (.ok members, t)) {name : String} {v : Value}
    (hmem : (name, v) ∈ members) {inner : List Value} (hl : v.HasList inner) :
    (∃ f u count x, reg.ComesTo n m s f u ∧ f.shape.isArray = true ∧
      reg.Gathers n m f u count inner x) ∨
    ∃ k m' u members' w, n = k + 1 ∧ reg.Calls n m s m' u ∧
      reg.decodeMessage k m' u = (.ok members', w) ∧
      ∃ name v, (name, v) ∈ members' ∧ v.HasList inner := by
  rcases field_of_decodeFields h hmem with hnone | ⟨before, f, after, mid, u, w, hm, hmid, hf⟩
  · cases hnone
  · have hcomes : reg.ComesTo n m s f u := ⟨before, after, mid, hm, hmid⟩
    cases ha : f.shape.isArray with
    | false =>
      rw [decodeField_single reg _ m.package ha] at hf
      obtain ⟨k, m', members', hn, hr, hd, hinner⟩ := message_of_hasList hf hl
      exact .inr ⟨k, m', u, members', w, hn, .single hcomes (Shape.eq_single ha) hr, hd, hinner⟩
    | true =>
      obtain ⟨count, items, x, hlimit, hreads, hadmits, hitems, rfl⟩ :=
        decodeField_array_eq_ok ha hf
      have hcount := readCount_of_reads hlimit hreads
      have hlength := length_of_decodeItems hitems
      cases hl with
      | here =>
        rw [← hlength] at hcount hadmits hitems
        exact .inl ⟨f, u, _, w, hcomes, ha, x, hcount, hadmits, Nat.le_refl _, hitems⟩
      | item hv hinner =>
        obtain ⟨first, y, z, hlt, hfirst, helement⟩ := item_of_decodeItems hitems hv
        obtain ⟨k, m', members', hn, hr, hd, hinner⟩ := message_of_hasList helement hinner
        exact .inr ⟨k, m', y, members', z, hn, .item hcomes ha
          ⟨x, hcount, hadmits, Nat.le_of_lt hlt, hfirst⟩ hlt hr, hd, hinner⟩

/-- Every list in a decoded message was gathered at some array on the way. -/
theorem gathers_of_hasList {m : Message} {members : Members} {s t : Source}
    (h : reg.decodeMessage n m s = (.ok members, t)) {name : String} {v : Value}
    (hmem : (name, v) ∈ members) {inner : List Value} (hl : v.HasList inner) :
    ∃ k m' u f w count x, reg.GetsTo n m s k m' u ∧ reg.ComesTo k m' u f w ∧
      f.shape.isArray = true ∧ reg.Gathers k m' f w count inner x := by
  induction n generalizing m members s t name v with
  | zero =>
    rcases hasList_cases h hmem hl with ⟨f, w, count, x, hf, ha, hg⟩ | ⟨k, m', u, _, _, hn, _⟩
    · exact ⟨0, m, s, f, w, count, x, .here, hf, ha, hg⟩
    · cases hn
  | succ n ih =>
    rcases hasList_cases h hmem hl with
      ⟨f, w, count, x, hf, ha, hg⟩ | ⟨k, m', u, _, _, hn, hcall, hd, name, v, hv, hinner⟩
    · exact ⟨n + 1, m, s, f, w, count, x, .here, hf, ha, hg⟩
    · cases hn
      obtain ⟨i, m'', u', f, w, count, x, hreach, hplace⟩ := ih hd hv hinner
      exact ⟨i, m'', u', f, w, count, x, .call hcall hreach, hplace⟩

end Registry

end Missive
