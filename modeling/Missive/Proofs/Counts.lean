import Missive.Proofs.Nesting
import Missive.Proofs.Refilling
/-!
# Counts from untrusted bytes

The count in front of an array is read from the input and may be anything that four bytes can say.
It makes no more work than the input is long, or than the limit for elements without bytes allows:
an element type either takes a byte for each of its elements or none for any of them, and in the
second case the count is judged before it is believed.

* `Registry.Gathers.length_le` -- the decoder, which knows such types from the registry;
* `Decoded.TakesAllOrNothing`, `Registry.refillElement_takesAllOrNothing` -- emitted types, which
  see it at the first element: if that took nothing, no other one will take anything;
* `Registry.refillVector_length_le` -- a sequence that is read, be it to its end or not;
* `Registry.counts_bounded` -- both, on every byte string.
-/

namespace Missive

theorem Source.Passes.consumed_le_length {bytes : Bytes} {s : Source}
    (h : (Source.ofBytes bytes).Passes s) : s.consumed ≤ bytes.length := by
  obtain ⟨taken, hr⟩ := h
  have hconsumed : s.consumed = 0 + taken.length := hr.consumed
  have hpending : bytes.length = taken.length + s.pending.length := hr.length_pending
  omega

theorem consumed_lt_of_decodeCount {n : Nat} {s t : Source} (h : decodeCount s = (.ok n, t)) :
    s.consumed < t.consumed := by
  have hconsumed := (reads_of_decodeCount h).2.consumed
  rw [Bytes.length_ofNat] at hconsumed
  omega

/-! ## The decoder -/

/-- Elements that take some bytes each are at most as many as the bytes. -/
theorem consumed_of_decodeItems {element : Source → Decoded Value}
    (moves : ∀ s v t, element s = (.ok v, t) → s.consumed < t.consumed) {n : Nat}
    {items : List Value} {s t : Source} (h : decodeItems element n [] s = (.ok items, t)) :
    s.consumed + items.length ≤ t.consumed := by
  induction n generalizing items s with
  | zero =>
    cases h
    exact Nat.le_refl _
  | succ n ih =>
    rw [decodeItems_succ] at h
    obtain ⟨v, u, hv, hrest⟩ := Decoded.andThen_eq_ok h
    obtain ⟨others, hothers, rfl⟩ := Decoded.mapValue_eq_ok hrest
    have hfirst := moves s v u hv
    have hlater := ih hothers
    rw [List.length_cons]
    omega

namespace Registry

variable {reg : Registry}

/-- An array of elements without bytes is admitted only within the limit. -/
theorem le_of_admitCount {owner : String} {f : Field} {count : Nat}
    (hw : reg.Weightless 64 owner f.type) (h : admitCount reg owner f count = .ok ()) :
    count ≤ maxEmptyElements := by
  have hempty : reg.isEmptyElement owner f.type = .ok true := isEmptyWithin_eq_true_iff.2 hw
  rw [admitCount, hempty] at h
  split at h
  · cases h
  · by_contra hlarge
    rw [checkEmptyElements, if_neg hlarge] at h
    cases h

/-- What has been gathered of an array keeps to the limit, or took its bytes. -/
theorem Gathers.length_le (shallow : reg.HasShallowTypes) {n : Nat} {m : Message} {f : Field}
    {s t : Source} {count : Nat} {items : List Value} (h : reg.Gathers n m f s count items t) :
    items.length ≤ maxEmptyElements ∨ s.consumed + items.length ≤ t.consumed := by
  obtain ⟨u, hcount, hadmits, hlength, hitems⟩ := h
  by_cases hw : ∃ height, reg.Weightless height m.package f.type
  · obtain ⟨height, hw⟩ := hw
    exact .inl (hlength.trans (le_of_admitCount (shallow height m.package f.type hw) hadmits))
  · have hmoves : ∀ s v t, reg.decodeElement n m.package f.type s = (.ok v, t) →
        s.consumed < t.consumed := by
      intro s v t hv
      have hle := (reg.decodeElement_passes n m.package f.type s).consumed_le
      rw [hv] at hle
      exact Nat.lt_of_le_of_ne hle fun heq => hw (weightless_of_decodeElement hv heq.symm)
    have hpast := consumed_of_decodeItems hmoves hitems
    have hbehind := (Source.Passes.consumed_le ⟨_, (reads_of_readCount hcount).2⟩ :
      s.consumed ≤ u.consumed)
    exact .inr (by omega)

end Registry

/-! ## Reading instances goes forward -/

/-- A reader of slots never goes back. -/
def SlotReader.GoesForward (element : SlotReader) : Prop :=
  ∀ (slot : Slot) (s : Source), s.Passes (element slot s).outcome.2

section

variable {element : SlotReader} (forward : element.GoesForward)

include forward

theorem refillItems_passes (slots : List Slot) (s : Source) :
    s.Passes (refillItems element slots s).outcome.2 := by
  induction slots generalizing s with
  | nil => exact .refl s
  | cons slot rest ih =>
    rw [outcome_refillItems_cons]
    exact Decoded.passes_andThen (forward slot s) fun _ t => ih t

theorem appendItems_passes (fresh : Slot) (n : Nat) (before : List Slot) (s : Source) :
    s.Passes (appendItems element fresh n before s).outcome.2 := by
  induction n generalizing before s with
  | zero => exact .refl s
  | succ n ih =>
    rw [outcome_appendItems_succ]
    exact Decoded.passes_andThen (forward fresh s) fun slot t => ih (slot :: before) t

theorem refillCounted_passes (fresh : Slot) (n : Nat) (s : Source) :
    s.Passes (refillCounted element fresh n s).outcome.2 := by
  rw [outcome_refillCounted]
  refine Decoded.passes_andThen (forward fresh s) fun slot t => ?_
  exact Decoded.passes_andThen (.refl t) fun _ t => appendItems_passes forward fresh n [slot] t

theorem refillVector_passes (fresh : Slot) (items : List Slot) (s : Source) :
    s.Passes (refillVector element fresh items s).outcome.2 := by
  rw [outcome_refillVector]
  refine Decoded.passes_andThen (readCount_passes s) fun n t => ?_
  cases n with
  | zero => exact .refl t
  | succ n => exact refillCounted_passes forward fresh n t

theorem refillArray_passes (items : List Slot) (s : Source) :
    s.Passes (refillArray element items s).outcome.2 := by
  rw [outcome_refillArray]
  refine Decoded.passes_andThen (readCount_passes s) fun n t => ?_
  split
  · exact refillItems_passes forward items t
  · exact .refl t

end

section

variable (reg : Registry) {element : Kind → SlotReader} (owner : String)

/-- A field is single, and read like an element; or it is an array with a sequence to read it into;
or nothing is read. -/
theorem refillField_cases (f : Field) (slot : Slot) :
    (f.shape = .single ∧ refillField reg element owner f slot = element f.kind slot) ∨
      (∃ items, refillField reg element owner f slot
        = fun s => (refillArray (element f.kind) items s).map .sequence) ∨
      (∃ fresh items, refillField reg element owner f slot
        = fun s => (refillVector (element f.kind) fresh items s).map .sequence) ∨
      ∃ e, refillField reg element owner f slot = fun s => .failure slot e s := by
  unfold refillField
  cases hs : f.shape with
  | single => exact .inl ⟨rfl, rfl⟩
  | exactly count =>
    cases slot with
    | sequence items => exact .inr (.inl ⟨items, rfl⟩)
    | datum d => exact .inr (.inr (.inr ⟨_, rfl⟩))
    | record name members => exact .inr (.inr (.inr ⟨_, rfl⟩))
  | many =>
    cases slot with
    | sequence items =>
      cases hz : reg.zeroOf owner f.type with
      | error e => exact .inr (.inr (.inr ⟨e, rfl⟩))
      | ok fresh => exact .inr (.inr (.inl ⟨fresh, items, rfl⟩))
    | datum d => exact .inr (.inr (.inr ⟨_, rfl⟩))
    | record name members => exact .inr (.inr (.inr ⟨_, rfl⟩))

variable (forward : ∀ kind, (element kind).GoesForward)

include forward

theorem refillField_passes (f : Field) (slot : Slot) (s : Source) :
    s.Passes (refillField reg element owner f slot s).outcome.2 := by
  rcases refillField_cases reg owner f slot with
    ⟨-, h⟩ | ⟨items, h⟩ | ⟨fresh, items, h⟩ | ⟨e, h⟩
  · rw [h]
    exact forward f.kind slot s
  · rw [h]
    exact refillArray_passes (forward f.kind) items s
  · rw [h]
    exact refillVector_passes (forward f.kind) fresh items s
  · rw [h]
    exact .refl s

theorem refillFields_passes (fields : List Field) (slots : List Slot) (s : Source) :
    s.Passes (refillFields reg element owner fields slots s).outcome.2 := by
  induction fields generalizing slots s with
  | nil => exact .refl s
  | cons f rest ih =>
    cases slots with
    | nil => exact .refl s
    | cons slot others =>
      rw [outcome_refillFields_cons]
      exact Decoded.passes_andThen (refillField_passes reg owner forward f slot s)
        fun _ t => ih others t

end

namespace Registry

/-- An element is read into an element of its primitive or into a record of a known message, or
nothing is read. -/
theorem refillElement_cases (reg : Registry) (n : Nat) (kind : Kind) (slot : Slot) :
    (∃ d, slot = .datum d ∧ kind = .primitive d.primitive) ∨
      (∃ k name m slots, n = k + 1 ∧ kind = .message ∧ slot = .record name slots ∧
        reg.find? name = some m) ∨
      ∃ e, reg.refillElement n kind slot = fun s => .failure slot e s := by
  cases kind with
  | primitive p =>
    cases slot with
    | datum d =>
      by_cases hp : d.primitive = p
      · exact .inl ⟨d, rfl, hp ▸ rfl⟩
      · refine .inr (.inr ⟨slotMismatch (.primitive p) (.datum d), funext fun s => ?_⟩)
        cases n <;> simp only [refillElement, if_neg hp]
    | record name slots =>
      exact .inr (.inr ⟨slotMismatch (.primitive p) (.record name slots), by cases n <;> rfl⟩)
    | sequence items =>
      exact .inr (.inr ⟨slotMismatch (.primitive p) (.sequence items), by cases n <;> rfl⟩)
  | message =>
    cases slot with
    | datum d => exact .inr (.inr ⟨slotMismatch .message (.datum d), by cases n <;> rfl⟩)
    | sequence items =>
      exact .inr (.inr ⟨slotMismatch .message (.sequence items), by cases n <;> rfl⟩)
    | record name slots =>
      cases hm : reg.find? name with
      | none =>
        refine .inr (.inr ⟨.unknownMessage name, funext fun s => ?_⟩)
        cases n <;> simp only [refillElement, hm]
      | some m =>
        cases n with
        | zero =>
          refine .inr (.inr ⟨.endless name, funext fun s => ?_⟩)
          simp only [refillElement, hm]
        | succ k => exact .inr (.inl ⟨k, name, m, slots, rfl, rfl, rfl, hm⟩)

theorem refillElement_passes (reg : Registry) (n : Nat) (kind : Kind) :
    SlotReader.GoesForward (reg.refillElement n kind) := by
  intro slot s
  rcases reg.refillElement_cases n kind slot with
    ⟨d, rfl, rfl⟩ | ⟨k, name, m, slots, rfl, rfl, rfl, hm⟩ | ⟨e, h⟩
  · rw [outcome_refillElement_primitive]
    exact d.primitive.read_passes s
  · rw [outcome_refillElement_message hm]
    exact refillFields_passes reg m.package (reg.refillElement_passes k) m.fields slots s
  · rw [h]
    exact .refl s

end Registry

/-! ## All elements or none -/

/-- Whenever a step succeeds it has taken nothing. -/
def Decoded.TakesNothing {α : Type} (read : Source → Decoded α) : Prop :=
  ∀ s a t, read s = (.ok a, t) → t.consumed = s.consumed

/-- A reader that has once taken nothing never takes anything. -/
def Decoded.TakesAllOrNothing {α : Type} (read : Source → Decoded α) : Prop :=
  ∀ s a t, read s = (.ok a, t) → t.consumed = s.consumed → TakesNothing read

namespace Decoded

variable {α β : Type} {read : Source → Decoded α}

/-- That is so if it always takes something. -/
theorem TakesAllOrNothing.of_lt
    (h : ∀ s a t, read s = (.ok a, t) → s.consumed < t.consumed) : TakesAllOrNothing read := by
  intro s a t hread hsame
  exact absurd hsame (Nat.ne_of_gt (h s a t hread))

theorem TakesAllOrNothing.mapValue (make : α → β) (h : TakesAllOrNothing read) :
    TakesAllOrNothing fun s => Decoded.mapValue make (read s) := by
  intro s b t hread hsame s' b' t' hread'
  obtain ⟨a, ha, -⟩ := mapValue_eq_ok hread
  obtain ⟨a', ha', -⟩ := mapValue_eq_ok hread'
  exact h s a t ha hsame s' a' t' ha'

/-- Two readers one after the other, neither of which goes back. -/
theorem TakesAllOrNothing.andThen {next : Source → Decoded β} {γ : Type} {make : α → β → γ}
    (h : TakesAllOrNothing read) (hnext : TakesAllOrNothing next)
    (forward : ∀ s : Source, s.Passes (read s).2)
    (forwardNext : ∀ s : Source, s.Passes (next s).2) :
    TakesAllOrNothing fun s =>
      Decoded.andThen (read s) fun a t => Decoded.mapValue (make a) (next t) := by
  have hparts : ∀ {s c t}, Decoded.andThen (read s)
      (fun a t => Decoded.mapValue (make a) (next t)) = (.ok c, t) →
      ∃ a b u, read s = (.ok a, u) ∧ next u = (.ok b, t) ∧ s.consumed ≤ u.consumed ∧
        u.consumed ≤ t.consumed := by
    intro s c t hread
    obtain ⟨a, u, ha, hrest⟩ := andThen_eq_ok hread
    obtain ⟨b, hb, -⟩ := mapValue_eq_ok hrest
    have hfirst := (forward s).consumed_le
    have hsecond := (forwardNext u).consumed_le
    rw [ha] at hfirst
    rw [hb] at hsecond
    exact ⟨a, b, u, ha, hb, hfirst, hsecond⟩
  intro s c t hread hsame s' c' t' hread'
  obtain ⟨a, b, u, ha, hb, hsu, hut⟩ := hparts hread
  obtain ⟨a', b', u', ha', hb', -, -⟩ := hparts hread'
  have hnothing := h s a u ha (by omega) s' a' u' ha'
  have hnothingNext := hnext u b t hb (by omega) u' b' t' hb'
  exact hnothingNext.trans hnothing

end Decoded

section

variable {element : SlotReader} (forward : element.GoesForward)

include forward

/-- Every array takes some bytes, those of its count. -/
theorem refillArray_consumed_lt {items out : List Slot} {s t : Source}
    (h : (refillArray element items s).outcome = (.ok out, t)) : s.consumed < t.consumed := by
  rw [outcome_refillArray] at h
  obtain ⟨n, u, hcount, hrest⟩ := Decoded.andThen_eq_ok h
  split at hrest
  · have hpast := (refillItems_passes forward items u).consumed_le
    rw [hrest] at hpast
    exact Nat.lt_of_lt_of_le (consumed_lt_of_decodeCount hcount) hpast
  · cases hrest

theorem refillVector_consumed_lt {fresh : Slot} {items out : List Slot} {s t : Source}
    (h : (refillVector element fresh items s).outcome = (.ok out, t)) :
    s.consumed < t.consumed := by
  rw [outcome_refillVector] at h
  obtain ⟨n, u, hcount, hrest⟩ := Decoded.andThen_eq_ok h
  have hfirst := consumed_lt_of_decodeCount hcount
  cases n with
  | zero =>
    cases hrest
    exact hfirst
  | succ n =>
    have hcounted : (refillCounted element fresh n u).outcome = (.ok out, t) := hrest
    have hpast := (refillCounted_passes forward fresh n u).consumed_le
    rw [hcounted] at hpast
    exact Nat.lt_of_lt_of_le hfirst hpast

end

section

variable (reg : Registry) {element : Kind → SlotReader} (owner : String)
  (forward : ∀ kind, (element kind).GoesForward)
  (all : ∀ kind slot, Decoded.TakesAllOrNothing fun s => (element kind slot s).outcome)

include forward all

theorem refillField_takesAllOrNothing (f : Field) (slot : Slot) :
    Decoded.TakesAllOrNothing fun s => (refillField reg element owner f slot s).outcome := by
  rcases refillField_cases reg owner f slot with
    ⟨-, h⟩ | ⟨items, h⟩ | ⟨fresh, items, h⟩ | ⟨e, h⟩
  · rw [h]
    exact all f.kind slot
  · rw [h]
    refine .of_lt fun s out t hread => ?_
    rw [Refill.outcome_map] at hread
    obtain ⟨slots, hslots, -⟩ := Decoded.mapValue_eq_ok hread
    exact refillArray_consumed_lt (forward f.kind) hslots
  · rw [h]
    refine .of_lt fun s out t hread => ?_
    rw [Refill.outcome_map] at hread
    obtain ⟨slots, hslots, -⟩ := Decoded.mapValue_eq_ok hread
    exact refillVector_consumed_lt (forward f.kind) hslots
  · rw [h]
    intro s out t hread
    cases hread

theorem refillFields_takesAllOrNothing (fields : List Field) (slots : List Slot) :
    Decoded.TakesAllOrNothing
      fun s => (refillFields reg element owner fields slots s).outcome := by
  induction fields generalizing slots with
  | nil =>
    intro s out t _ _ s' out' t' hread
    cases hread
    rfl
  | cons f rest ih =>
    cases slots with
    | nil =>
      intro s out t _ _ s' out' t' hread
      cases hread
      rfl
    | cons slot others =>
      simp only [outcome_refillFields_cons]
      have hfield : Decoded.TakesAllOrNothing fun s =>
          Decoded.inField f.label (refillField reg element owner f slot s).outcome := by
        intro s out t hread hsame s' out' t' hread'
        exact refillField_takesAllOrNothing reg owner forward all f slot s out t
          (Decoded.inField_eq_ok hread) hsame s' out' t' (Decoded.inField_eq_ok hread')
      exact hfield.andThen (ih others)
        (fun s => refillField_passes reg owner forward f slot s)
        (fun s => refillFields_passes reg owner forward rest others s)

end

/-- An element of whatever slot always takes some bytes, or it never does. -/
theorem Registry.refillElement_takesAllOrNothing (reg : Registry) (n : Nat) (kind : Kind)
    (slot : Slot) :
    Decoded.TakesAllOrNothing fun s => (reg.refillElement n kind slot s).outcome := by
  rcases reg.refillElement_cases n kind slot with
    ⟨d, rfl, rfl⟩ | ⟨k, name, m, slots, rfl, rfl, rfl, hm⟩ | ⟨e, h⟩
  · simp only [outcome_refillElement_primitive]
    refine .of_lt fun s out t hread => ?_
    obtain ⟨datum, hdatum, -⟩ := Decoded.mapValue_eq_ok hread
    exact Primitive.consumed_lt_of_read (Primitive.decode_eq_ok hdatum)
  · simp only [outcome_refillElement_message hm]
    have hfields := refillFields_takesAllOrNothing reg m.package (reg.refillElement_passes k)
      (reg.refillElement_takesAllOrNothing k) m.fields slots
    exact hfields.mapValue (Slot.record name)
  · rw [h]
    intro s out t hread
    cases hread

/-! ## Sequences that are read -/

section

variable {element : SlotReader} {fresh : Slot}

/-- A sequence has no more items than it was to have. -/
theorem appendItems_length_le (n : Nat) (before : List Slot) (s : Source) :
    (appendItems element fresh n before s).value.length ≤ before.length + n := by
  induction n generalizing before s with
  | zero =>
    rw [appendItems, List.length_reverse]
    exact Nat.le_refl _
  | succ n ih =>
    rw [appendItems]
    rcases element fresh s with ⟨slot, e | ⟨⟩, t⟩
    · show before.reverse.length ≤ before.length + (n + 1)
      rw [List.length_reverse]
      exact Nat.le_add_right _ _
    · have hrest := ih (slot :: before) t
      rw [List.length_cons] at hrest
      show (appendItems element fresh n (slot :: before) t).value.length ≤ _
      omega

/-- If each item takes a byte, then a sequence has no more of them than were taken. -/
theorem appendItems_consumed (forward : element.GoesForward)
    (moves : ∀ s a t, (element fresh s).outcome = (.ok a, t) → s.consumed < t.consumed) (n : Nat)
    (before : List Slot) (s : Source) :
    s.consumed + (appendItems element fresh n before s).value.length
      ≤ (appendItems element fresh n before s).source.consumed + before.length := by
  induction n generalizing before s with
  | zero =>
    rw [appendItems, List.length_reverse]
  | succ n ih =>
    have hforward := (forward fresh s).consumed_le
    have hmoves := moves s
    rw [appendItems]
    generalize element fresh s = refill at hforward hmoves ⊢
    rcases refill with ⟨slot, e | ⟨⟩, t⟩
    · have hle : s.consumed ≤ t.consumed := hforward
      show s.consumed + before.reverse.length ≤ t.consumed + before.length
      rw [List.length_reverse]
      omega
    · have hlt : s.consumed < t.consumed := hmoves slot t rfl
      have hrest := ih (slot :: before) t
      rw [List.length_cons] at hrest
      show s.consumed + (appendItems element fresh n (slot :: before) t).value.length
        ≤ (appendItems element fresh n (slot :: before) t).source.consumed + before.length
      omega

/-- A counted sequence keeps to the limit, or took its bytes. -/
theorem refillCounted_length_le (forward : element.GoesForward)
    (all : Decoded.TakesAllOrNothing fun s => (element fresh s).outcome) (n : Nat) (s : Source) :
    (refillCounted element fresh n s).value.length ≤ maxEmptyElements ∨
      s.consumed + (refillCounted element fresh n s).value.length
        ≤ (refillCounted element fresh n s).source.consumed := by
  rw [refillCounted]
  rcases hfirst : element fresh s with ⟨first, e | ⟨⟩, t⟩
  · exact .inl (Nat.zero_le _)
  · have hread : (element fresh s).outcome = (.ok first, t) := by
      rw [hfirst]
      rfl
    by_cases hsame : t.consumed = s.consumed
    · -- the count is judged: it keeps to the limit, or nothing is kept
      left
      simp only [if_pos hsame]
      by_cases hfew : n + 1 ≤ maxEmptyElements
      · rw [checkEmptyElements, if_pos hfew]
        have hlength := @appendItems_length_le element fresh n [first] t
        rw [List.length_singleton] at hlength
        show (appendItems element fresh n [first] t).value.length ≤ maxEmptyElements
        omega
      · rw [checkEmptyElements, if_neg hfew]
        exact Nat.zero_le _
    · right
      simp only [if_neg hsame]
      have hmoves : ∀ s a t, (element fresh s).outcome = (.ok a, t) → s.consumed < t.consumed := by
        intro s' a t' hread'
        have hle := (forward fresh s').consumed_le
        rw [hread'] at hle
        refine Nat.lt_of_le_of_ne hle fun heq => hsame ?_
        exact all s' a t' hread' heq.symm s first t hread
      have hlt := hmoves s first t hread
      have htaken := appendItems_consumed forward hmoves n [first] t
      rw [List.length_singleton] at htaken
      omega

end

/-! ## On every byte string -/

namespace Registry

variable (reg : Registry)

/-- A sequence read at any place of a byte string, whether or not it is read to its end.  It only
grows while it is read, so it was never longer. -/
theorem refillVector_length_le {bytes : Bytes} {s : Source} (hs : (Source.ofBytes bytes).Passes s)
    (n : Nat) (kind : Kind) (fresh : Slot) (items : List Slot) {count : Nat} {t : Source}
    (hcount : readCount s = (.ok count, t)) :
    (refillVector (reg.refillElement n kind) fresh items s).value.length
      ≤ max maxEmptyElements bytes.length := by
  rw [refillVector_eq, hcount]
  cases count with
  | zero => exact Nat.zero_le _
  | succ count =>
    show (refillCounted (reg.refillElement n kind) fresh count t).value.length ≤ _
    have hforward := reg.refillElement_passes n kind
    have ht : (Source.ofBytes bytes).Passes t := hs.trans ⟨_, (reads_of_readCount hcount).2⟩
    have hend : (refillCounted (reg.refillElement n kind) fresh count t).source.consumed
        ≤ bytes.length :=
      (ht.trans (refillCounted_passes hforward fresh count t)).consumed_le_length
    rcases refillCounted_length_le hforward (reg.refillElement_takesAllOrNothing n kind fresh) count
      t with hlimit | htaken <;> omega

/-- **No count makes more work than the input is long.**  If no type without bytes is nested too
deep for the test to see it, then every list in a decoded message, and every list that decoding puts
together on its way to a result or to an error, has at most as many items as the input has bytes, or
as elements without bytes may be.  So has every sequence that an emitted type reads, however deep
its types are nested. -/
theorem counts_bounded (bytes : Bytes) :
    (reg.HasShallowTypes →
      (∀ name n members items, reg.decode name bytes = (n, .ok members) →
        (Value.struct members).HasList items →
        items.length ≤ max maxEmptyElements bytes.length) ∧
      ∀ budget m k m' s f t count items u, reg.GetsTo budget m (.ofBytes bytes) k m' s →
        reg.ComesTo k m' s f t → reg.Gathers k m' f t count items u →
        items.length ≤ max maxEmptyElements bytes.length) ∧
    ∀ budget kind fresh items s count t, (Source.ofBytes bytes).Passes s →
      readCount s = (.ok count, t) →
      (refillVector (reg.refillElement budget kind) fresh items s).value.length
        ≤ max maxEmptyElements bytes.length := by
  refine ⟨fun shallow => ?_, fun budget kind fresh items s count t hs hcount =>
    reg.refillVector_length_le hs budget kind fresh items hcount⟩
  have hgathered : ∀ budget m k m' s f t count items u,
      reg.GetsTo budget m (.ofBytes bytes) k m' s → reg.ComesTo k m' s f t →
      reg.Gathers k m' f t count items u → items.length ≤ max maxEmptyElements bytes.length := by
    intro budget m k m' s f t count items u hgets hcomes hgathers
    have hend := ((hgets.passes.trans hcomes.passes).trans hgathers.passes).consumed_le_length
    rcases hgathers.length_le shallow with hlimit | htaken <;> omega
  refine ⟨fun name n members items hd hlist => ?_, hgathered⟩
  cases hm : reg.find? name with
  | none =>
    simp only [decode, hm] at hd
    cases hd
  | some m =>
    rw [decode_eq_decodeWithin] at hd
    simp only [decodeWithin, hm] at hd
    obtain ⟨-, hok⟩ := Prod.mk.inj hd
    have hmessage : reg.decodeMessage (reg.nestingBudget bytes.length) m (.ofBytes bytes)
        = (.ok members, (reg.decodeMessage (reg.nestingBudget bytes.length) m
          (.ofBytes bytes)).2) := Prod.ext hok rfl
    cases hlist with
    | member hmem hinner =>
      obtain ⟨k, m', s, f, t, count, u, hgets, hcomes, -, hgathers⟩ :=
        gathers_of_hasList hmessage hmem hinner
      exact hgathered _ m k m' s f t count items u hgets hcomes hgathers

end Registry

namespace Forest

/-- The marks of a tree with one tree below it, and two marks read from their count. -/
theorem counts_of_grove : registry.HasShallowTypes ∧
    (registry.decode "forest/Tree" (7 :: grove.tail) = (28, .ok groveRead) ∧
      (Value.struct groveRead).HasList [.struct [], .struct []] ∧
      [Value.struct [], Value.struct []].length ≤ max maxEmptyElements 28) ∧
    (refillVector (registry.refillElement 1 .message) (.record "forest/Mark" []) []
      (.ofBytes [2, 0, 0, 0])).value.length ≤ max maxEmptyElements 4 := by
  obtain ⟨decoder, -⟩ := Registry.counts_bounded registry (7 :: grove.tail)
  obtain ⟨-, fromFour⟩ := Registry.counts_bounded registry [2, 0, 0, 0]
  have hdecode : registry.decode "forest/Tree" (7 :: grove.tail) = (28, .ok groveRead) := rfl
  have hmarks : ("marks", Value.list [.struct [], .struct []]) ∈ groveRead :=
    List.mem_cons_of_mem _ List.mem_cons_self
  have hlist : (Value.struct groveRead).HasList [.struct [], .struct []] :=
    .member hmarks (.here _)
  exact ⟨hasShallowTypes,
    ⟨hdecode, hlist, (decoder hasShallowTypes).1 _ _ _ _ hdecode hlist⟩,
    fromFour 1 .message _ [] _ 2 ⟨[], 4, .ended⟩ (.refl _) rfl⟩

end Forest

end Missive
