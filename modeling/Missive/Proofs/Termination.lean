import Missive.Proofs.Descent
import Missive.Proofs.Walking
/-!
# Decoding and walking come to an end

Both go down into nested messages as far as the definitions and the bytes lead them.  For the
decoder it is known where it goes; here the same is said of the walk, which visits less.  If no
message begins with itself, then the measure falls at each nested message of both, and both have an
answer for every byte string.

* `Walked.RanOut` -- the budget of a walk was too small;
* `Walker.ComesTo`, `Walker.Passes`, `Walker.Calls` -- the places that a walk comes to;
* `Walker.weightless_of_skipElement` -- what a walk passes without moving takes no bytes;
* `Walker.Calls.descends` -- the measure falls;
* `Registry.decoding_terminates` -- the answers of both, which no larger budget changes.
-/

namespace Missive

/-! ## Steps of a walk -/

namespace Walked

/-- The budget was too small. -/
def RanOut (walked : Walked Unit) : Prop :=
  ∃ name, walked.1 = .error (.endless name)

variable {walked : Walked Unit} {next : Walker → Walked Unit} {u : Walker}

theorem ranOut_andThen (h : RanOut (walked.andThen next)) :
    RanOut walked ∨ ∃ w, walked = (.ok (), w) ∧ RanOut (next w) := by
  rcases walked with ⟨e | ⟨⟩, w⟩
  · exact .inl h
  · exact .inr ⟨w, rfl, h⟩

theorem ranOut_inField {label : String} : RanOut (inField label walked) ↔ RanOut walked := by
  rcases walked with ⟨e | ⟨⟩, w⟩
  · cases e <;> simp [RanOut, inField, labelled, CodecError.inField]
  · exact Iff.rfl

end Walked

namespace Walker

/-- A walker passes that many bytes, or it stays where it is. -/
theorem length_of_advance (w : Walker) (n : Nat) (kind : Kind) :
    (∃ u, w.advance n kind = (.ok (), u) ∧ w.remaining.length = n + u.remaining.length) ∨
      w.advance n kind = (.error (.wire (.truncated kind)), w) := by
  simp only [advance, dropExact?_eq]
  cases htake : takeExact? n w.remaining with
  | none => exact .inr rfl
  | some parts =>
    obtain ⟨bytes, rest⟩ := parts
    obtain ⟨hlength, hrest⟩ := takeExact?_eq_some_iff.1 htake
    refine .inl ⟨⟨rest, w.position + n⟩, rfl, ?_⟩
    rw [hrest, List.length_append, hlength]

theorem length_of_readCount (w : Walker) :
    (∃ n u, w.readCount = (.ok n, u) ∧ w.remaining.length = 4 + u.remaining.length) ∨
      w.readCount = (.error (.wire (.truncated (.primitive .uint32))), w) := by
  simp only [readCount]
  cases htake : takeExact? 4 w.remaining with
  | none => exact .inr rfl
  | some parts =>
    obtain ⟨bytes, rest⟩ := parts
    obtain ⟨hlength, hrest⟩ := takeExact?_eq_some_iff.1 htake
    refine .inl ⟨_, ⟨rest, w.position + 4⟩, rfl, ?_⟩
    rw [hrest, List.length_append, hlength]

/-! ## Walking goes forward -/

/-- Where a walk succeeds, no more bytes are left than before. -/
def GoesForward (walk : Walker → Walked Unit) : Prop :=
  ∀ w u, walk w = (.ok (), u) → u.remaining.length ≤ w.remaining.length

/-- Where a walk succeeds, fewer bytes are left than before. -/
def Moves (walk : Walker → Walked Unit) : Prop :=
  ∀ w u, walk w = (.ok (), u) → u.remaining.length < w.remaining.length

theorem Moves.goesForward {walk : Walker → Walked Unit} (h : Moves walk) : GoesForward walk :=
  fun w u hu => Nat.le_of_lt (h w u hu)

theorem advance_goesForward (n : Nat) (kind : Kind) : GoesForward (advance · n kind) := by
  intro w u h
  rcases w.length_of_advance n kind with ⟨v, hv, hlength⟩ | herror
  · cases hv.symm.trans h
    omega
  · cases herror.symm.trans h

theorem skipPrimitive_moves (p : Primitive) : Moves (skipPrimitive · p) := by
  intro w u h
  simp only [skipPrimitive] at h
  cases hwidth : p.width with
  | some width =>
    have hpos : 0 < width := by
      cases p <;> cases hwidth <;> decide
    simp only [hwidth] at h
    rcases w.length_of_advance width (.primitive p) with ⟨v, hv, hlength⟩ | herror
    · cases hv.symm.trans h
      omega
    · cases herror.symm.trans h
  | none =>
    simp only [hwidth] at h
    rcases w.length_of_readCount with ⟨n, v, hv, hlength⟩ | herror
    · simp only [hv] at h
      have hpast := advance_goesForward n (.primitive p) v u h
      omega
    · simp only [herror] at h
      cases h

section

variable {element : Walker → Walked Unit}

theorem skipItems_goesForward (forward : GoesForward element) (n : Nat) :
    GoesForward (skipItems element n) := by
  induction n with
  | zero =>
    intro w u h
    cases h
    exact Nat.le_refl _
  | succ n ih =>
    intro w u h
    rw [skipItems_succ] at h
    obtain ⟨v, hv, hrest⟩ := Walked.andThen_eq_ok h
    exact (ih v u hrest).trans (forward w v hv)

/-- Items run out of their budget at one of them. -/
theorem item_of_ranOut {n : Nat} {w : Walker} (h : Walked.RanOut (skipItems element n w)) :
    ∃ k u, k < n ∧ skipItems element k w = (.ok (), u) ∧ Walked.RanOut (element u) := by
  induction n generalizing w with
  | zero =>
    obtain ⟨name, hname⟩ := h
    cases hname
  | succ n ih =>
    rw [skipItems_succ] at h
    rcases Walked.ranOut_andThen h with hout | ⟨v, hv, hrest⟩
    · exact ⟨0, w, Nat.succ_pos n, rfl, hout⟩
    · obtain ⟨k, u, hk, hitems, hout⟩ := ih hrest
      refine ⟨k + 1, u, Nat.succ_lt_succ hk, ?_, hout⟩
      rw [skipItems_succ, hv]
      exact hitems

end

section

variable {reg : Registry} {element : ElementWalker}
  (forward : ∀ owner type, GoesForward (element owner type))

include forward

theorem skipArray_goesForward (owner : String) (f : Field) (n : Nat) :
    GoesForward (skipArray reg element owner f n) := by
  intro w u h
  simp only [skipArray] at h
  split at h
  · cases h
  · split at h
    · cases h
    · rcases hc : checkEmptyElements n with e | ⟨⟩ <;> rw [hc] at h <;> cases h
      exact Nat.le_refl _
    · split at h
      · rename_i width _
        exact advance_goesForward (n * width) f.kind w u h
      · exact skipItems_goesForward (forward owner f.type) n w u h

/-- Every array takes some bytes, those of its count. -/
theorem skipField_moves {owner : String} {f : Field} (ha : f.shape.isArray = true) :
    Moves (skipField reg element owner f) := by
  intro w u h
  simp only [skipField, ha, if_true] at h
  rcases w.length_of_readCount with ⟨n, v, hv, hlength⟩ | herror
  · simp only [hv] at h
    have hpast := skipArray_goesForward forward owner f n v u h
    omega
  · simp only [herror] at h
    cases h

theorem skipField_goesForward (owner : String) (f : Field) :
    GoesForward (skipField reg element owner f) := by
  cases ha : f.shape.isArray with
  | true => exact (skipField_moves forward ha).goesForward
  | false =>
    intro w u h
    simp only [skipField, ha, Bool.false_eq_true, if_false] at h
    exact forward owner f.type w u h

theorem skipFields_goesForward (owner : String) (fields : List Field) :
    GoesForward (skipFields reg element owner fields) := by
  induction fields with
  | nil =>
    intro w u h
    cases h
    exact Nat.le_refl _
  | cons f rest ih =>
    intro w u h
    rw [skipFields_cons] at h
    obtain ⟨v, hv, hrest⟩ := Walked.andThen_eq_ok h
    exact (ih v u hrest).trans
      (skipField_goesForward forward owner f w v (Walked.inField_eq_ok hv))

/-- Fields that are passed without moving are single, and so are their elements. -/
theorem skipFields_stays {owner : String} {fields : List Field} {w u : Walker}
    (h : skipFields reg element owner fields w = (.ok (), u))
    (hc : u.remaining.length = w.remaining.length) : ∀ f ∈ fields, f.shape = .single ∧
      ∃ v x, element owner f.type v = (.ok (), x) ∧ x.remaining.length = v.remaining.length := by
  induction fields generalizing w with
  | nil =>
    intro f hf
    cases hf
  | cons f rest ih =>
    rw [skipFields_cons] at h
    obtain ⟨v, hv, hrest⟩ := Walked.andThen_eq_ok h
    have hfield := Walked.inField_eq_ok hv
    have hfirst := skipField_goesForward forward owner f w v hfield
    have hothers := skipFields_goesForward forward owner rest v u hrest
    have hsame : v.remaining.length = w.remaining.length := by omega
    cases ha : f.shape.isArray with
    | true =>
      have hless := skipField_moves forward ha w v hfield
      omega
    | false =>
      simp only [skipField, ha, Bool.false_eq_true, if_false] at hfield
      exact List.forall_mem_cons.2
        ⟨⟨Shape.eq_single ha, w, v, hfield, hsame⟩, ih hrest (by omega)⟩

end

section

variable {reg : Registry}

theorem skipElement_zero {owner : String} {type : TypeRef} {m : Message}
    (hr : reg.resolve owner type = .ok m) (w : Walker) :
    skipElement reg 0 owner type w = (.error (.endless m.fullName), w) := by
  cases type with
  | primitive p => cases Registry.kind_of_resolve hr
  | own name | foreign package name => simp only [skipElement, hr]

theorem skipElement_goesForward (reg : Registry) (n : Nat) (owner : String) (type : TypeRef) :
    GoesForward (skipElement reg n owner type) := by
  intro w u h
  rcases reg.type_cases owner type with ⟨p, rfl⟩ | ⟨e, hk, hr⟩ | ⟨m, hr⟩
  · rw [skipElement_primitive] at h
    exact (skipPrimitive_moves p).goesForward w u h
  · rw [skipElement_unresolved hk hr] at h
    cases h
  · cases n with
    | zero =>
      rw [skipElement_zero hr] at h
      cases h
    | succ n =>
      rw [skipElement_succ hr] at h
      exact skipFields_goesForward (skipElement_goesForward reg n) m.package m.fields w u h

/-- Whatever is passed without moving is of a type without bytes. -/
theorem weightless_of_skipElement {n : Nat} {owner : String} {type : TypeRef} {w u : Walker}
    (h : skipElement reg n owner type w = (.ok (), u))
    (hc : u.remaining.length = w.remaining.length) :
    ∃ height, reg.Weightless height owner type := by
  rcases reg.type_cases owner type with ⟨p, rfl⟩ | ⟨e, hk, hr⟩ | ⟨m, hr⟩
  · rw [skipElement_primitive] at h
    exact absurd hc (Nat.ne_of_lt (skipPrimitive_moves p w u h))
  · rw [skipElement_unresolved hk hr] at h
    cases h
  · cases n with
    | zero =>
      rw [skipElement_zero hr] at h
      cases h
    | succ n =>
      rw [skipElement_succ hr] at h
      refine Registry.weightless_of_fields hr fun f hf => ?_
      obtain ⟨hs, v, x, hv, hx⟩ := skipFields_stays (skipElement_goesForward reg n) h hc f hf
      exact ⟨hs, weightless_of_skipElement hv hx⟩

end

/-! ## The places of a walk -/

section

variable (reg : Registry) (n : Nat) (m : Message)

/-- Passes the fields of a message, through at most `n` further messages. -/
def passMessage (w : Walker) : Walked Unit :=
  skipFields reg (skipElement reg n) m.package m.fields w

/-- The walk over a message comes to one of its fields. -/
def ComesTo (w : Walker) (f : Field) (u : Walker) : Prop :=
  ∃ before after, m.fields = before ++ f :: after ∧
    skipFields reg (skipElement reg n) m.package before w = (.ok (), u)

/-- At an array of a message, whose count is read from `w`: its elements take bytes and have no
fixed width, and so far `k` of them are passed. -/
def Passes (f : Field) (w : Walker) (count k : Nat) (u : Walker) : Prop :=
  ∃ v, w.readCount = (.ok count, v) ∧ reg.isEmptyElement m.package f.type = .ok false ∧
    f.kind.width = none ∧ skipItems (skipElement reg n m.package f.type) k v = (.ok (), u)

/-- While it passes a message the walk turns to one nested in it. -/
inductive Calls (w : Walker) : Message → Walker → Prop
  | single {f : Field} {m' : Message} {u : Walker} :
      ComesTo reg n m w f u → f.shape = .single → reg.resolve m.package f.type = .ok m' →
      Calls w m' u
  | item {f : Field} {m' : Message} {v u : Walker} {count k : Nat} :
      ComesTo reg n m w f v → f.shape.isArray = true → Passes reg n m f v count k u → k < count →
      reg.resolve m.package f.type = .ok m' → Calls w m' u

end

section

variable {reg : Registry} {n : Nat} {m m' : Message} {w u : Walker}

/-- Fields run out of their budget at one of them. -/
theorem field_of_ranOut {element : ElementWalker} {owner : String} {fields : List Field}
    (h : Walked.RanOut (skipFields reg element owner fields w)) :
    ∃ before f after u, fields = before ++ f :: after ∧
      skipFields reg element owner before w = (.ok (), u) ∧
      Walked.RanOut (skipField reg element owner f u) := by
  induction fields generalizing w with
  | nil =>
    obtain ⟨name, hname⟩ := h
    cases hname
  | cons f rest ih =>
    rw [skipFields_cons] at h
    rcases Walked.ranOut_andThen h with hout | ⟨v, hv, hrest⟩
    · exact ⟨[], f, rest, w, rfl, rfl, Walked.ranOut_inField.1 hout⟩
    · obtain ⟨before, g, after, u, rfl, hbefore, hg⟩ := ih hrest
      refine ⟨f :: before, g, after, u, rfl, ?_, hg⟩
      rw [skipFields_cons, hv]
      exact hbefore

theorem not_ranOut_advance (w : Walker) (n : Nat) (kind : Kind) :
    ¬Walked.RanOut (w.advance n kind) := by
  rintro ⟨name, hname⟩
  rcases w.length_of_advance n kind with ⟨u, hu, -⟩ | herror
  · rw [hu] at hname
    cases hname
  · rw [herror] at hname
    cases hname

theorem not_ranOut_skipPrimitive (w : Walker) (p : Primitive) :
    ¬Walked.RanOut (w.skipPrimitive p) := by
  intro h
  rw [skipPrimitive] at h
  split at h
  · rename_i width _
    exact w.not_ranOut_advance width (.primitive p) h
  · rcases w.length_of_readCount with ⟨length, u, hu, -⟩ | herror
    · rw [hu] at h
      exact u.not_ranOut_advance length (.primitive p) h
    · rw [herror] at h
      obtain ⟨name, hname⟩ := h
      cases hname

/-- Elements run out of their budget only if they are messages. -/
theorem message_of_ranOut {owner : String} {type : TypeRef}
    (h : Walked.RanOut (skipElement reg n owner type w)) :
    ∃ m', reg.resolve owner type = .ok m' ∧
      (n = 0 ∨ ∃ k, n = k + 1 ∧ Walked.RanOut (passMessage reg k m' w)) := by
  rcases reg.type_cases owner type with ⟨p, rfl⟩ | ⟨e, hk, hr⟩ | ⟨m', hr⟩
  · rw [skipElement_primitive] at h
    exact absurd h (w.not_ranOut_skipPrimitive p)
  · rw [skipElement_unresolved hk hr] at h
    obtain ⟨name, hname⟩ := h
    obtain ⟨key, rfl⟩ := Registry.resolve_eq_error hr
    cases hname
  · refine ⟨m', hr, ?_⟩
    cases n with
    | zero => exact .inl rfl
    | succ k =>
      rw [skipElement_succ hr] at h
      exact .inr ⟨k, rfl, h⟩

/-- An array runs out of its budget at one of its elements. -/
theorem item_of_ranOut_skipArray {element : ElementWalker} {owner : String} {f : Field}
    {count : Nat} (h : Walked.RanOut (skipArray reg element owner f count w)) :
    reg.isEmptyElement owner f.type = .ok false ∧ f.kind.width = none ∧
      ∃ k u, k < count ∧ skipItems (element owner f.type) k w = (.ok (), u) ∧
        Walked.RanOut (element owner f.type u) := by
  rw [skipArray] at h
  split at h
  · obtain ⟨name, hname⟩ := h
    cases hname
  · split at h
    · rename_i e he
      obtain ⟨name, hname⟩ := h
      obtain ⟨key, rfl⟩ := Registry.isEmptyWithin_eq_error he
      cases hname
    · obtain ⟨name, hname⟩ := h
      rcases hc : checkEmptyElements count with e | ⟨⟩ <;> rw [hc] at hname <;> cases hname
    · rename_i hempty
      split at h
      · rename_i width _
        exact absurd h (w.not_ranOut_advance (count * width) f.kind)
      · rename_i hwidth
        exact ⟨hempty, hwidth, item_of_ranOut h⟩

/-- A budget that is too small is so at a nested message. -/
theorem calls_of_ranOut (h : Walked.RanOut (passMessage reg n m w)) :
    ∃ m' u, Calls reg n m w m' u ∧
      (n = 0 ∨ ∃ k, n = k + 1 ∧ Walked.RanOut (passMessage reg k m' u)) := by
  obtain ⟨before, f, after, v, hfields, hbefore, hout⟩ := field_of_ranOut h
  have hcomes : ComesTo reg n m w f v := ⟨before, after, hfields, hbefore⟩
  cases ha : f.shape.isArray with
  | false =>
    simp only [skipField, ha, Bool.false_eq_true, if_false] at hout
    obtain ⟨m', hr, hn⟩ := message_of_ranOut hout
    exact ⟨m', v, .single hcomes (Shape.eq_single ha) hr, hn⟩
  | true =>
    simp only [skipField, ha, if_true] at hout
    rcases v.length_of_readCount with ⟨count, x, hx, -⟩ | herror
    · simp only [hx] at hout
      obtain ⟨hempty, hwidth, k, u, hk, hitems, helement⟩ := item_of_ranOut_skipArray hout
      obtain ⟨m', hr, hn⟩ := message_of_ranOut helement
      exact ⟨m', u, .item hcomes ha ⟨x, hx, hempty, hwidth, hitems⟩ hk hr, hn⟩
    · simp only [herror] at hout
      obtain ⟨name, hname⟩ := hout
      cases hname

/-- Behind the count of an array fewer bytes are left. -/
theorem Passes.remaining_lt {f : Field} {count k : Nat} (h : Passes reg n m f w count k u) :
    u.remaining.length < w.remaining.length := by
  obtain ⟨v, hcount, -, -, hitems⟩ := h
  have hpast :=
    skipItems_goesForward (skipElement_goesForward reg n m.package f.type) k v u hitems
  rcases w.length_of_readCount with ⟨i, x, hx, hlength⟩ | herror
  · cases hx.symm.trans hcount
    omega
  · cases herror.symm.trans hcount

/-- **At each nested message the measure falls**, as it does when decoding. -/
theorem Calls.descends (acyclic : reg.IsLeftAcyclic) (h : Calls reg n m w m' u) :
    Prod.Lex (· < ·) (· < ·) (u.remaining.length, reg.leftHeight m')
      (w.remaining.length, reg.leftHeight m) := by
  have hforward := skipElement_goesForward reg n
  cases h with
  | single hcomes hsingle hr =>
    obtain ⟨before, after, hfields, hbefore⟩ := hcomes
    have hle := skipFields_goesForward hforward m.package before w u hbefore
    rcases Nat.lt_or_ge u.remaining.length w.remaining.length with hless | hmore
    · exact .left _ _ hless
    · have hsame : u.remaining.length = w.remaining.length := by omega
      have hweightless : ∀ g ∈ before, g.shape = .single ∧
          ∃ height, reg.Weightless height m.package g.type := by
        intro g hg
        obtain ⟨hs, v, x, hv, hx⟩ := skipFields_stays hforward hbefore hsame g hg
        exact ⟨hs, weightless_of_skipElement hv hx⟩
      rw [hsame]
      exact .right _ (Registry.leftHeight_lt acyclic
        ⟨before, _, after, hfields, hweightless, hsingle, hr⟩)
  | item hcomes _ hpasses _ _ =>
    obtain ⟨before, after, -, hbefore⟩ := hcomes
    have hfirst := skipFields_goesForward hforward m.package before w _ hbefore
    exact .left _ _ (Nat.lt_of_lt_of_le hpasses.remaining_lt hfirst)

end

end Walker

/-! ## Larger budgets -/

/-- The second walk has the outcome of the first one, unless that one ran out of its budget. -/
def Walked.Settles (walked walked' : Walked Unit) : Prop :=
  RanOut walked ∨ walked' = walked

namespace Walked.Settles

variable {walked walked' : Walked Unit}

theorem andThen {next next' : Walker → Walked Unit} (h : Settles walked walked')
    (hn : ∀ w, Settles (next w) (next' w)) :
    Settles (walked.andThen next) (walked'.andThen next') := by
  rcases h with ⟨name, hname⟩ | rfl
  · left
    rcases walked with ⟨e | ⟨⟩, w⟩
    · exact ⟨name, hname⟩
    · cases hname
  · rcases walked' with ⟨e | ⟨⟩, w⟩
    · exact .inr rfl
    · exact hn w

theorem inField (label : String) (h : Settles walked walked') :
    Settles (Walked.inField label walked) (Walked.inField label walked') := by
  rcases h with hout | rfl
  · exact .inl (ranOut_inField.2 hout)
  · exact .inr rfl

end Walked.Settles

namespace Walker

section

variable {reg : Registry} {element element' : ElementWalker}
  (settles : ∀ owner type w, Walked.Settles (element owner type w) (element' owner type w))

include settles

theorem skipItems_settles (owner : String) (type : TypeRef) (n : Nat) (w : Walker) :
    Walked.Settles (skipItems (element owner type) n w) (skipItems (element' owner type) n w) := by
  induction n generalizing w with
  | zero => exact .inr rfl
  | succ n ih =>
    rw [skipItems_succ, skipItems_succ]
    exact (settles owner type w).andThen ih

theorem skipField_settles (owner : String) (f : Field) (w : Walker) :
    Walked.Settles (skipField reg element owner f w) (skipField reg element' owner f w) := by
  simp only [skipField]
  split
  · rcases w.readCount with ⟨e | n, v⟩
    · exact .inr rfl
    · simp only [skipArray]
      split
      · exact .inr rfl
      · split
        · exact .inr rfl
        · exact .inr rfl
        · split
          · exact .inr rfl
          · exact skipItems_settles settles owner f.type n v
  · exact settles owner f.type w

theorem skipFields_settles (owner : String) (fields : List Field) (w : Walker) :
    Walked.Settles (skipFields reg element owner fields w)
      (skipFields reg element' owner fields w) := by
  induction fields generalizing w with
  | nil => exact .inr rfl
  | cons f rest ih =>
    rw [skipFields_cons, skipFields_cons]
    exact ((skipField_settles settles owner f w).inField f.label).andThen ih

end

/-- One more nested message makes no difference, unless the budget ran out before. -/
theorem skipElement_settles (reg : Registry) (n : Nat) (owner : String) (type : TypeRef)
    (w : Walker) :
    Walked.Settles (skipElement reg n owner type w) (skipElement reg (n + 1) owner type w) := by
  rcases reg.type_cases owner type with ⟨p, rfl⟩ | ⟨e, hk, hr⟩ | ⟨m, hr⟩
  · rw [skipElement_primitive, skipElement_primitive]
    exact .inr rfl
  · rw [skipElement_unresolved hk hr, skipElement_unresolved hk hr]
    exact .inr rfl
  · cases n with
    | zero =>
      rw [skipElement_zero hr]
      exact .inl ⟨m.fullName, rfl⟩
    | succ n =>
      rw [skipElement_succ hr, skipElement_succ hr]
      exact skipFields_settles (skipElement_settles reg n) m.package m.fields w

/-- A larger budget leaves the outcome of a walk as it is, unless the smaller one ran out. -/
theorem passMessage_mono {reg : Registry} {n k : Nat} (h : n ≤ k) (m : Message) (w : Walker)
    (hn : ¬Walked.RanOut (passMessage reg n m w)) :
    passMessage reg k m w = passMessage reg n m w := by
  induction h with
  | refl => rfl
  | step _ ih =>
    rw [← ih] at hn ⊢
    exact (skipFields_settles (skipElement_settles reg _) m.package m.fields w).resolve_left hn

end Walker

/-! ## The answers -/

namespace Registry

variable (reg : Registry)

/-- The number of bytes that the message of this name occupies, found through at most `budget`
nested messages. -/
def extentWithin (budget : Nat) (name : String) (bytes : Bytes) : Except CodecError Nat :=
  match reg.find? name with
  | none => .error (.unknownMessage name)
  | some m =>
    let walked := Walker.passMessage reg budget m (.ofBytes bytes)
    walked.1.map fun _ => walked.2.position

theorem extent_eq_extentWithin (name : String) (bytes : Bytes) :
    reg.extent name bytes = reg.extentWithin (reg.nestingBudget bytes.length) name bytes := by
  rw [extentWithin]
  cases hm : reg.find? name with
  | none => simp only [extent, Walker.skipMessage, hm]
  | some m => exact extent_of_find? hm

variable {reg} (acyclic : reg.IsLeftAcyclic)

include acyclic

/-- The budget of the decoder and of the walk is as large as the measure. -/
theorem measure_le_nestingBudget (m : Message) (length : Nat) :
    (reg.size + 1) * length + reg.leftHeight m ≤ reg.nestingBudget length := by
  have hheight := leftHeight_le_size acyclic m
  rw [nestingBudget, Nat.mul_succ]
  omega

theorem not_ranOut_decodeMessage {n : Nat} {m : Message} {s : Source}
    (hn : reg.nestingBudget s.pending.length ≤ n) :
    ¬Decoded.RanOut (reg.decodeMessage n m s) :=
  not_ranOut_of_descent (leftHeight_le_size acyclic)
    (fun _ _ _ h => calls_of_ranOut h) (fun _ _ _ _ _ hcall => hcall.descends acyclic)
    ((measure_le_nestingBudget acyclic m s.pending.length).trans hn)

theorem not_ranOut_passMessage {n : Nat} {m : Message} {w : Walker}
    (hn : reg.nestingBudget w.remaining.length ≤ n) :
    ¬Walked.RanOut (Walker.passMessage reg n m w) :=
  not_ranOut_of_descent (leftHeight_le_size acyclic)
    (fun _ _ _ h => Walker.calls_of_ranOut h) (fun _ _ _ _ _ hcall => hcall.descends acyclic)
    ((measure_le_nestingBudget acyclic m w.remaining.length).trans hn)

/-- **Decoding and walking terminate.**  If no message begins with itself, then the measure falls at
each nested message, be it decoded or passed: fewer bytes are left, or as many and the height in the
order of beginnings is less.  So both have an answer for every byte string, which is not that there
is no end to it, and to go deeper would not change it. -/
theorem decoding_terminates (name : String) (bytes : Bytes) :
    (∀ n m s m' t, reg.Calls n m s m' t →
      Prod.Lex (· < ·) (· < ·) (t.pending.length, reg.leftHeight m')
        (s.pending.length, reg.leftHeight m)) ∧
    (∀ n m w m' u, Walker.Calls reg n m w m' u →
      Prod.Lex (· < ·) (· < ·) (u.remaining.length, reg.leftHeight m')
        (w.remaining.length, reg.leftHeight m)) ∧
    (∀ around, (reg.decode name bytes).2 ≠ .error (.endless around)) ∧
    (∀ around, reg.extent name bytes ≠ .error (.endless around)) ∧
    ∀ budget, reg.nestingBudget bytes.length ≤ budget →
      reg.decodeWithin budget name bytes = reg.decode name bytes ∧
        reg.extentWithin budget name bytes = reg.extent name bytes := by
  refine ⟨fun _ _ _ _ _ h => h.descends acyclic, fun _ _ _ _ _ h => h.descends acyclic, ?_⟩
  rw [decode_eq_decodeWithin, extent_eq_extentWithin]
  cases hm : reg.find? name with
  | none =>
    have hdecode : ∀ budget,
        reg.decodeWithin budget name bytes = (0, .error (.unknownMessage name)) := by
      intro budget
      simp only [decodeWithin, hm]
    have hwalk : ∀ budget,
        reg.extentWithin budget name bytes = .error (.unknownMessage name) := by
      intro budget
      simp only [extentWithin, hm]
    simp only [hdecode, hwalk]
    refine ⟨fun around h => ?_, fun around h => ?_, fun _ _ => ⟨trivial, trivial⟩⟩ <;> cases h
  | some m =>
    have hdecode : ¬Decoded.RanOut
        (reg.decodeMessage (reg.nestingBudget bytes.length) m (.ofBytes bytes)) :=
      not_ranOut_decodeMessage acyclic (Nat.le_refl _)
    have hwalk : ¬Walked.RanOut
        (Walker.passMessage reg (reg.nestingBudget bytes.length) m (.ofBytes bytes)) :=
      not_ranOut_passMessage acyclic (Nat.le_refl _)
    simp only [decodeWithin, extentWithin, hm]
    refine ⟨fun around h => hdecode ⟨around, h⟩, fun around h => ?_, fun budget hle => ⟨?_, ?_⟩⟩
    · rcases hresult : (Walker.passMessage reg _ m (.ofBytes bytes)).1 with e | ⟨⟩
      · rw [hresult] at h
        cases h
        exact hwalk ⟨around, hresult⟩
      · rw [hresult] at h
        cases h
    · rw [reg.decodeMessage_mono hle m (.ofBytes bytes) hdecode]
    · rw [Walker.passMessage_mono hle m (.ofBytes bytes) hwalk]

end Registry

namespace Forest

theorem leftContains_cases {m m' : Message} (hm : registry.Registered m)
    (h : registry.LeftContains m m') : m = tree ∧ m' = leaf := by
  obtain ⟨before, f, after, hfields, -, hsingle, hr⟩ := h
  have hf : f ∈ m.fields := by
    rw [hfields]
    exact List.mem_append_right before List.mem_cons_self
  rcases message_cases hm with rfl | rfl | rfl | rfl
  · rcases List.mem_pair.1 hf with rfl | rfl <;> cases Registry.kind_of_resolve hr
  · cases hf
  · rcases List.mem_pair.1 hf with rfl | rfl <;> cases Registry.kind_of_resolve hr
  · rcases List.mem_cons.1 hf with rfl | hf
    · exact ⟨rfl, (Except.ok.inj hr).symm⟩
    · rcases List.mem_pair.1 hf with rfl | rfl <;> cases hsingle

/-- Trees hold trees, but only behind something. -/
theorem isLeftAcyclic : registry.IsLeftAcyclic := by
  refine Registry.isLeftAcyclic_of_lt (fun m => if m.name = "Tree" then 1 else 0) ?_
  intro m m' hm h
  obtain ⟨rfl, rfl⟩ := leftContains_cases hm h
  decide

/-- A tree that says that there are as many trees below it as a count can say. -/
theorem decoding_terminates_grove : registry.IsLeftAcyclic ∧
    registry.decodeWithin 1000 "forest/Tree" [0, 0, 0, 0, 0, 2, 0, 0, 0, 255, 255, 255, 255]
      = registry.decode "forest/Tree" [0, 0, 0, 0, 0, 2, 0, 0, 0, 255, 255, 255, 255] ∧
    registry.extentWithin 1000 "forest/Tree" [0, 0, 0, 0, 0, 2, 0, 0, 0, 255, 255, 255, 255]
      = registry.extent "forest/Tree" [0, 0, 0, 0, 0, 2, 0, 0, 0, 255, 255, 255, 255] := by
  obtain ⟨-, -, -, -, deeper⟩ := Registry.decoding_terminates isLeftAcyclic "forest/Tree"
    [0, 0, 0, 0, 0, 2, 0, 0, 0, 255, 255, 255, 255]
  exact ⟨isLeftAcyclic, deeper 1000 (by decide)⟩

end Forest

end Missive
