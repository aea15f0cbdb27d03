import Missive.Proofs.Overwriting
/-!
# Where a source stops

A source has no more bytes because it ends or because it fails, and a read that needs more of them
says which.  Whatever else a read comes to, a value or an error, is decided by the bytes that it has
taken: every source that starts with them makes it the same, be it that there are no others behind
them, and every source that stops inside of them shows how it stopped.

* `Stop.Interrupts` -- the result of a read that a source stopped;
* `Decided` -- some bytes decide what a read comes to;
* `Decides` -- the invariant: unless a read is interrupted, the bytes it takes decide what another
  one comes to;
* `Decides.andThen`, `Decides.behindCount` -- reads one after the other;
* `decodeBytes_decides` -- the one read that sees a source stop;
* `refillItems_decides`, `refillVector_decides`, `refillFields_decides` -- arrays and messages, if
  it holds of their elements;
* `Registry.refillElement_decides` -- elements, with any two budgets that suffice;
* `Registry.deserialize_interrupted` -- whole instances.
-/

namespace Missive

/-! ## Results of reads that were interrupted -/

/-- The result is the error of a source that stopped in this way inside an element. -/
def Stop.Interrupts {α : Type} (stop : Stop) (result : Except CodecError α) : Prop :=
  ∃ e kind, result = .error (.wire e) ∧ e.root = stop.error kind

namespace Stop.Interrupts

variable {α β : Type} {stop : Stop} {result : Except CodecError α}

theorem map (make : α → β) (h : stop.Interrupts result) : stop.Interrupts (result.map make) := by
  obtain ⟨e, kind, rfl, hroot⟩ := h
  exact ⟨e, kind, rfl, hroot⟩

theorem labelled (label : String) (h : stop.Interrupts result) :
    stop.Interrupts (labelled label result) := by
  obtain ⟨e, kind, rfl, hroot⟩ := h
  exact ⟨.inField label e, kind, rfl, hroot⟩

theorem andThen {r : Decoded α} (h : stop.Interrupts r.1) (next : α → Source → Decoded β) :
    stop.Interrupts (Decoded.andThen r next).1 := by
  obtain ⟨e, kind, he, hroot⟩ := h
  rcases r with ⟨e' | a, t⟩
  · obtain rfl : e' = .wire e := Except.error.inj he
    exact ⟨e, kind, rfl, hroot⟩
  · cases he

theorem status {r : Refill α} (h : stop.Interrupts r.outcome.1) : stop.Interrupts r.status := by
  obtain ⟨e, kind, he, hroot⟩ := h
  rcases r with ⟨value, e' | ⟨⟩, t⟩
  · obtain rfl : e' = .wire e := Except.error.inj he
    exact ⟨e, kind, rfl, hroot⟩
  · cases he

end Stop.Interrupts

/-! ## Reads that are decided by the bytes they take -/

/-- These bytes decide that `read` comes to this result: sources that start with them make it so and
keep what is behind them, and sources that stop inside of them interrupt it. -/
structure Decided {α : Type} (within : Source → Prop) (read : Source → Decoded α) (bytes : Bytes)
    (result : Except CodecError α) : Prop where
  whole : ∀ s t, within s → s.Reads bytes t → read s = (result, t)
  part : ∀ s, within s → s.StopsInside bytes → s.stop.Interrupts (read s).1

/-- Unless `read` is interrupted on a source in `within`, the bytes that it takes decide that
`again` comes to the same on sources in `within'`. -/
def Decides {α : Type} (within within' : Source → Prop) (read again : Source → Decoded α) : Prop :=
  ∀ s, within s → s.stop.Interrupts (read s).1 ∨
    ∃ bytes, s.Reads bytes (read s).2 ∧ Decided within' again bytes (read s).1

namespace Decides

variable {α β : Type} {within within' inner inner' : Source → Prop}
  {read again : Source → Decoded α}

/-- A read of nothing. -/
theorem of_result (result : Except CodecError α) :
    Decides within within' (fun s => (result, s)) (fun s => (result, s)) := by
  intro s _
  refine .inr ⟨[], .refl s, fun s' t' _ hr => ?_, fun s' _ hs => ?_⟩
  · rw [(hr.unique (.refl s') rfl).2]
  · exact absurd hs Source.StopsInside.not_nil

/-- For the sources in question it only matters what the readers do there. -/
theorem narrow {outer outer' : Source → Prop} {read' again' : Source → Decoded α}
    (h : Decides within within' read again) (hr : ∀ s, outer s → within s ∧ read' s = read s)
    (ha : ∀ s, outer' s → within' s ∧ again' s = again s) : Decides outer outer' read' again' := by
  intro s hs
  rw [(hr s hs).2]
  refine (h s (hr s hs).1).imp_right ?_
  rintro ⟨bytes, htaken, hdecided⟩
  refine ⟨bytes, htaken, fun s' t' hs' hread => ?_, fun s' hs' hin => ?_⟩
  · rw [(ha s' hs').2]
    exact hdecided.whole s' t' (ha s' hs').1 hread
  · rw [(ha s' hs').2]
    exact hdecided.part s' (ha s' hs').1 hin

/-- The other reader may be chosen by the source that it reads. -/
theorem indexed {ι : Type} {around : ι → Source → Prop} {readers : ι → Source → Decoded α}
    (index : Source → ι) (hindex : ∀ s, around (index s) s)
    (h : ∀ i, Decides within (around i) read (readers i)) :
    Decides within (fun _ => True) read (fun s => readers (index s) s) := by
  intro s hs
  by_cases hstop : s.stop.Interrupts (read s).1
  · exact .inl hstop
  obtain ⟨bytes, htaken, -⟩ := (h (index s) s hs).resolve_left hstop
  -- the bytes taken are the same for each of the readers
  have hdecided (i : ι) : Decided (around i) (readers i) bytes (read s).1 := by
    obtain ⟨bytes', htaken', hdecided⟩ := (h i s hs).resolve_left hstop
    have hlength := htaken.consumed.symm.trans htaken'.consumed
    obtain ⟨rfl, -⟩ := htaken.unique htaken' (by omega)
    exact hdecided
  exact .inr ⟨bytes, htaken,
    fun s' t' _ hr => (hdecided (index s')).whole s' t' (hindex s') hr,
    fun s' _ hin => (hdecided (index s')).part s' (hindex s') hin⟩

/-- What is made of the result alone is decided as the result is. -/
theorem result {make : Except CodecError α → Except CodecError β}
    (h : Decides within within' read again)
    (hm : ∀ stop r, Stop.Interrupts stop r → stop.Interrupts (make r)) :
    Decides within within' (fun s => (make (read s).1, (read s).2))
      (fun s => (make (again s).1, (again s).2)) := by
  intro s hs
  refine (h s hs).imp (hm s.stop _) ?_
  rintro ⟨bytes, htaken, hdecided⟩
  refine ⟨bytes, htaken, fun s' t' hs' hr => ?_, fun s' hs' hin => ?_⟩
  · simp only [hdecided.whole s' t' hs' hr]
  · exact hm s'.stop _ (hdecided.part s' hs' hin)

theorem mapValue (make : α → β) (h : Decides within within' read again) :
    Decides within within' (fun s => Decoded.mapValue make (read s))
      (fun s => Decoded.mapValue make (again s)) :=
  h.result fun _ _ hr => hr.map make

theorem inField (label : String) (h : Decides within within' read again) :
    Decides within within' (fun s => Decoded.inField label (read s))
      (fun s => Decoded.inField label (again s)) :=
  h.result fun _ _ hr => hr.labelled label

/-- One read after the other.  The second one may depend on whether the first one took any bytes. -/
theorem andThenMoved {next nextAgain : Bool → α → Source → Decoded β}
    (h : Decides within within' read again)
    (hi : ∀ s a t, within s → read s = (.ok a, t) → s.Passes t → inner t)
    (hi' : ∀ s a t, within' s → again s = (.ok a, t) → s.Passes t → inner' t)
    (hn : ∀ moved a, Decides inner inner' (next moved a) (nextAgain moved a)) :
    Decides within within'
      (fun s => Decoded.andThen (read s) fun a t => next (t.consumed != s.consumed) a t)
      (fun s => Decoded.andThen (again s) fun a t => nextAgain (t.consumed != s.consumed) a t) := by
  intro s hs
  rcases h s hs with hstop | ⟨first, hfirst, hdecided⟩
  · exact .inl (hstop.andThen _)
  rcases hread : read s with ⟨e | a, t⟩
  · -- the second one is not reached, here or on any other source
    simp only [hread, Decoded.andThen_error] at hfirst hdecided ⊢
    refine .inr ⟨first, hfirst, fun s' t' hs' hr => ?_, fun s' hs' hin => ?_⟩
    · simp only [hdecided.whole s' t' hs' hr, Decoded.andThen_error]
    · exact (hdecided.part s' hs' hin).andThen _
  · simp only [hread, Decoded.andThen_ok] at hfirst hdecided ⊢
    have hafter (s' t' : Source) (hs' : within' s') (hr : s'.Reads first t') :
        again s' = (.ok a, t') ∧ (t'.consumed != s'.consumed) = (t.consumed != s.consumed) ∧
          inner' t' := by
      have hagain := hdecided.whole s' t' hs' hr
      -- in terms of the bytes, so that it is the same for every source that starts with them
      refine ⟨hagain, ?_, hi' s' a t' hs' hagain ⟨first, hr⟩⟩
      rw [Delimits.moved_iff hr, Delimits.moved_iff hfirst]
    rcases hn (t.consumed != s.consumed) a t (hi s a t hs hread ⟨first, hfirst⟩) with
      hstop | ⟨second, hsecond, hlater⟩
    · rw [hfirst.stop] at hstop
      exact .inl hstop
    · refine .inr ⟨first ++ second, hfirst.append hsecond, fun s' u' hs' hr => ?_,
        fun s' hs' hin => ?_⟩
      · obtain ⟨t', hr₁, hr₂⟩ := hr.split
        obtain ⟨hagain, hmoved, hinner⟩ := hafter s' t' hs' hr₁
        simp only [hagain, Decoded.andThen_ok, hmoved]
        exact hlater.whole t' u' hinner hr₂
      · rcases hin.split with hin | ⟨t', hr₁, hin⟩
        · exact (hdecided.part s' hs' hin).andThen _
        · obtain ⟨hagain, hmoved, hinner⟩ := hafter s' t' hs' hr₁
          have hpart := hlater.part t' hinner hin
          rw [hr₁.stop] at hpart
          simp only [hagain, Decoded.andThen_ok, hmoved]
          exact hpart

theorem andThen {next nextAgain : α → Source → Decoded β}
    (shrinks : ∀ s t, within s → s.Passes t → within t)
    (shrinks' : ∀ s t, within' s → s.Passes t → within' t)
    (h : Decides within within' read again)
    (hn : ∀ a, Decides within within' (next a) (nextAgain a)) :
    Decides within within' (fun s => Decoded.andThen (read s) next)
      (fun s => Decoded.andThen (again s) nextAgain) :=
  h.andThenMoved (fun s _ t hs _ hp => shrinks s t hs hp)
    (fun s _ t hs _ hp => shrinks' s t hs hp) fun _ a => hn a

end Decides

/-! ## Counts and elements -/

/-- Reads `n` bytes of an element of this kind, as a step of decoding. -/
def decodeBytes (kind : Kind) (n : Nat) (s : Source) : Decoded Bytes :=
  ((s.exact n).1.mapError fun stop => .wire (stop.error kind), (s.exact n).2)

/-- This is the one read that sees a source stop. -/
theorem decodeBytes_decides (within within' : Source → Prop) (kind : Kind) (n : Nat) :
    Decides within within' (decodeBytes kind n) (decodeBytes kind n) := by
  intro s _
  rcases s.exact_cases n with ⟨bytes, t, he, rfl, hr⟩ | ⟨-, he, -⟩
  · refine .inr ⟨bytes, ?_, fun s' t' _ hr' => ?_,
      fun s' _ hin => ⟨s'.stop.error kind, kind, ?_, ?_⟩⟩
    · rw [decodeBytes, he]
      exact hr
    · rw [decodeBytes, decodeBytes, he, Source.exact_of_reads hr']
    · rw [decodeBytes, Source.exact_of_short hin.length_lt]
      rfl
    · cases s'.stop <;> rfl
  · refine .inl ⟨s.stop.error kind, kind, ?_, ?_⟩
    · rw [decodeBytes, he]
      rfl
    · cases s.stop <;> rfl

theorem decodeCount_eq_decodeBytes (s : Source) :
    decodeCount s = Decoded.mapValue Bytes.toNat (decodeBytes (.primitive .uint32) 4 s) := by
  rw [decodeCount, readCount, decodeBytes]
  rcases s.exact 4 with ⟨stop | bytes, t⟩ <;> rfl

theorem decodeCount_decides (within within' : Source → Prop) :
    Decides within within' decodeCount decodeCount := by
  rw [funext decodeCount_eq_decodeBytes]
  exact (decodeBytes_decides within within' (.primitive .uint32) 4).mapValue Bytes.toNat

/-- Behind a count sources are shorter than before. -/
theorem Decides.behindCount {β : Type} {within within' inner inner' : Source → Prop}
    (hi : ∀ s t : Source, within s → t.pending.length < s.pending.length → inner t)
    (hi' : ∀ s t : Source, within' s → t.pending.length < s.pending.length → inner' t)
    {next nextAgain : Nat → Source → Decoded β}
    (hn : ∀ n, Decides inner inner' (next n) (nextAgain n)) :
    Decides within within' (fun s => Decoded.andThen (decodeCount s) next)
      (fun s => Decoded.andThen (decodeCount s) nextAgain) := by
  have hshorter {s t : Source} {n : Nat} (h : decodeCount s = (.ok n, t)) :
      t.pending.length < s.pending.length :=
    pending_lt_of_readCount (Nat.le_refl _) (readCount_of_decodeCount h)
  exact (decodeCount_decides within within').andThenMoved
    (fun s n t hs hread _ => hi s t hs (hshorter hread))
    (fun s n t hs hread _ => hi' s t hs (hshorter hread)) fun _ n => hn n

/-- What the bytes of a text are, if they are one. -/
def decodeText (body : Bytes) : Except CodecError Datum :=
  match Text.Utf8.decode body with
  | .error fault => .error (.wire (.encoding fault))
  | .ok text => .ok (.string text)

namespace Primitive

theorem decode_of_width {p : Primitive} {width : Nat} (h : p.width = some width) (s : Source) :
    p.decode s = Decoded.mapValue (Datum.ofBytes p) (decodeBytes (.primitive p) width s) := by
  rw [decode, read_of_width h, decodeBytes]
  rcases s.exact width with ⟨stop | bytes, t⟩ <;> rfl

theorem decode_string (s : Source) :
    Primitive.string.decode s = Decoded.andThen (decodeCount s) fun n t =>
      Decoded.andThen (decodeBytes (.primitive .string) n t) fun body u =>
        (decodeText body, u) := by
  rw [decode, read_string, decodeCount]
  rcases readCount s with ⟨e | n, t⟩
  · rfl
  · simp only [decodeBytes, Except.mapError_ok, Decoded.andThen_ok, decodeText]
    rcases t.exact n with ⟨stop | body, u⟩
    · rfl
    · simp only [Except.mapError_ok, Decoded.andThen_ok]
      cases Text.Utf8.decode body <;> rfl

/-- An element of a fixed width, or a text behind its length, which is judged when all of it is
there. -/
theorem decode_decides (p : Primitive) (within within' : Source → Prop) :
    Decides within within' p.decode p.decode := by
  cases hw : p.width with
  | some width =>
    rw [funext (decode_of_width hw)]
    exact (decodeBytes_decides within within' (.primitive p) width).mapValue (Datum.ofBytes p)
  | none =>
    cases p <;> simp only [width, reduceCtorEq] at hw
    case string =>
      rw [funext decode_string]
      have htext (n : Nat) : Decides (fun _ => True) (fun _ => True)
          (fun t => Decoded.andThen (decodeBytes (.primitive .string) n t) fun body u =>
            (decodeText body, u))
          (fun t => Decoded.andThen (decodeBytes (.primitive .string) n t) fun body u =>
            (decodeText body, u)) :=
        .andThen (fun _ _ _ _ => trivial) (fun _ _ _ _ => trivial)
          (decodeBytes_decides _ _ (.primitive .string) n) fun body => .of_result (decodeText body)
      exact .behindCount (fun _ _ _ _ => trivial) (fun _ _ _ _ => trivial) htext

end Primitive

/-! ## Arrays -/

section

variable {element again : SlotReader} {fits : Slot → Prop} {within within' : Source → Prop}
  (shrinks : ∀ s t, within s → s.Passes t → within t)
  (shrinks' : ∀ s t, within' s → s.Passes t → within' t)
  (decides : ∀ slot, fits slot →
    Decides within within' (fun s => (element slot s).outcome) (fun s => (again slot s).outcome))

include shrinks shrinks' decides

theorem refillItems_decides {slots : List Slot} (hslots : ∀ slot ∈ slots, fits slot) :
    Decides within within' (fun s => (refillItems element slots s).outcome)
      (fun s => (refillItems again slots s).outcome) := by
  induction slots with
  | nil => exact .of_result (.ok [])
  | cons slot rest ih =>
    rw [List.forall_mem_cons] at hslots
    simp only [outcome_refillItems_cons]
    exact (decides slot hslots.1).andThen shrinks shrinks' fun slot =>
      (ih hslots.2).mapValue (slot :: ·)

theorem appendItems_decides {fresh : Slot} (hfresh : fits fresh) (n : Nat) (before : List Slot) :
    Decides within within' (fun s => (appendItems element fresh n before s).outcome)
      (fun s => (appendItems again fresh n before s).outcome) := by
  induction n generalizing before with
  | zero => exact .of_result (.ok before.reverse)
  | succ n ih =>
    simp only [outcome_appendItems_succ]
    exact (decides fresh hfresh).andThen shrinks shrinks' fun slot => ih (slot :: before)

theorem refillCounted_decides {fresh : Slot} (hfresh : fits fresh) (n : Nat) :
    Decides within within' (fun s => (refillCounted element fresh n s).outcome)
      (fun s => (refillCounted again fresh n s).outcome) := by
  have hnext : ∀ (moved : Bool) (slot : Slot), Decides within within'
      (fun t => Decoded.andThen (admitMoved moved (n + 1), t) fun _ t =>
        (appendItems element fresh n [slot] t).outcome)
      (fun t => Decoded.andThen (admitMoved moved (n + 1), t) fun _ t =>
        (appendItems again fresh n [slot] t).outcome) := fun moved slot =>
    .andThen shrinks shrinks' (.of_result (admitMoved moved (n + 1))) fun _ =>
      appendItems_decides shrinks shrinks' decides hfresh n [slot]
  simp only [outcome_refillCounted]
  exact (decides fresh hfresh).andThenMoved (fun s _ t hs _ hp => shrinks s t hs hp)
    (fun s _ t hs _ hp => shrinks' s t hs hp) hnext

variable {around around' : Source → Prop}
  (behind : ∀ s t : Source, around s → t.pending.length < s.pending.length → within t)
  (behind' : ∀ s t : Source, around' s → t.pending.length < s.pending.length → within' t)

include behind behind'

theorem refillVector_decides {fresh : Slot} (hfresh : fits fresh) (items : List Slot) :
    Decides around around' (fun s => (refillVector element fresh items s).outcome)
      (fun s => (refillVector again fresh items s).outcome) := by
  simp only [outcome_refillVector]
  refine .behindCount behind behind' fun n => ?_
  cases n with
  | zero => exact .of_result (.ok [])
  | succ n => exact refillCounted_decides shrinks shrinks' decides hfresh n

theorem refillArray_decides {items : List Slot} (hitems : ∀ slot ∈ items, fits slot) :
    Decides around around' (fun s => (refillArray element items s).outcome)
      (fun s => (refillArray again items s).outcome) := by
  simp only [outcome_refillArray]
  refine .behindCount behind behind' fun n => ?_
  by_cases hn : n = items.length
  · simp only [hn, if_true]
    exact refillItems_decides shrinks shrinks' decides hitems
  · simp only [hn, if_false]
    exact .of_result (.error _)

end

/-! ## Messages -/

namespace Registry

/-- What an element comes to with a budget of `n` is decided for a budget of `k`, if both of them
suffice. -/
def DecidesWithin (reg : Registry) (n k : Nat) : Prop :=
  ∀ (owner : String) (type : TypeRef) (r : Nat) (slot : Slot),
    reg.FinitelyNested owner type → (∃ zero, reg.zeroElement r owner type = .ok zero) →
    reg.Holds owner type .single slot →
    Decides (reg.Affords n r) (reg.Affords k r)
      (fun s => (reg.refillElement n type.kind slot s).outcome)
      (fun s => (reg.refillElement k type.kind slot s).outcome)

end Registry

section

variable {reg : Registry} (keyed : reg.IsKeyed) {n k : Nat} (decides : reg.DecidesWithin n k)
  {owner : String} {r : Nat}

include keyed decides

theorem refillField_decides {f : Field} {slot : Slot} (nested : reg.FinitelyNested owner f.type)
    (hz : f.shape ≠ .many → ∃ zero, reg.zeroElement r owner f.type = .ok zero)
    (hslot : reg.Holds owner f.type f.shape slot) :
    Decides (reg.Affords n r) (reg.Affords k r)
      (fun s => (refillField reg (reg.refillElement n) owner f slot s).outcome)
      (fun s => (refillField reg (reg.refillElement k) owner f slot s).outcome) := by
  have hshrinks : ∀ i j s t, reg.Affords i j s → s.Passes t → reg.Affords i j t :=
    fun _ _ _ _ hs hp => hs.passes hp
  cases hs : f.shape with
  | single =>
    rw [hs] at hslot
    simp only [refillField, hs]
    exact decides owner f.type r slot nested (hz (by simp [hs])) hslot
  | exactly count =>
    rw [hs] at hslot
    obtain ⟨items, -, his, rfl⟩ := hslot.eq_sequence rfl
    have helement := fun slot => decides owner f.type r slot nested (hz (by simp [hs]))
    simp only [refillField, hs, Refill.outcome_map]
    exact (refillArray_decides (hshrinks n r) (hshrinks k r) helement
      (fun _ _ hs hlt => hs.behindCount (Nat.le_add_left _ _) hlt)
      (fun _ _ hs hlt => hs.behindCount (Nat.le_add_left _ _) hlt) his).mapValue Slot.sequence
  | many =>
    rw [hs] at hslot
    obtain ⟨items, -, -, rfl⟩ := hslot.eq_sequence rfl
    obtain ⟨fresh, hfresh⟩ := nested.isFinite.zeroOf_ok
    have helement := fun slot => decides owner f.type (reg.size + 1) slot nested ⟨fresh, hfresh⟩
    simp only [refillField, hs, hfresh, Refill.outcome_map]
    exact (refillVector_decides (hshrinks n _) (hshrinks k _) helement
      (fun _ _ hs hlt => hs.behindCount (Nat.le_add_right _ _) hlt)
      (fun _ _ hs hlt => hs.behindCount (Nat.le_add_right _ _) hlt)
      (Registry.holds_of_zeroElement keyed hfresh) items).mapValue Slot.sequence

theorem refillFields_decides {fields : List Field} {slots : List Slot}
    (nested : ∀ f ∈ fields, reg.FinitelyNested owner f.type)
    (hz : ∀ f ∈ fields, f.shape ≠ .many → ∃ zero, reg.zeroElement r owner f.type = .ok zero)
    (hslots : reg.HoldsFields owner fields slots) :
    Decides (reg.Affords n r) (reg.Affords k r)
      (fun s => (refillFields reg (reg.refillElement n) owner fields slots s).outcome)
      (fun s => (refillFields reg (reg.refillElement k) owner fields slots s).outcome) := by
  induction fields generalizing slots with
  | nil =>
    cases hslots
    exact .of_result (.ok [])
  | cons f rest ih =>
    rw [List.forall_mem_cons] at nested hz
    cases hslots with
    | cons hslot hnext =>
      simp only [outcome_refillFields_cons]
      have hfield := refillField_decides keyed decides nested.1 hz.1 hslot
      exact (hfield.inField f.label).andThen (fun _ _ hs hp => hs.passes hp)
        (fun _ _ hs hp => hs.passes hp) fun slot =>
          (ih nested.2 hz.2 hnext).mapValue (slot :: ·)

end

namespace Registry

variable {reg : Registry}

/-- Unless it is interrupted, an element is decided by the bytes that it takes. -/
theorem refillElement_decides (keyed : reg.IsKeyed) (n k : Nat) : reg.DecidesWithin n k := by
  intro owner type r slot nested hz hslot
  rcases reg.type_cases owner type with ⟨p, rfl⟩ | ⟨e, hk, he⟩ | ⟨m, hm⟩
  · obtain ⟨d, rfl, rfl⟩ := hslot.eq_datum
    simp only [TypeRef.kind, outcome_refillElement_primitive]
    exact (d.primitive.decode_decides _ _).mapValue Slot.datum
  · obtain ⟨zero, hz⟩ := hz
    rw [zeroElement_unresolved hk he] at hz
    cases hz
  · obtain ⟨hkey, hfind⟩ := key_of_resolve_keyed keyed hm
    obtain ⟨slots, hslots, rfl⟩ := hslot.eq_record hkey hfind
    rw [kind_of_resolve hm]
    cases r with
    | zero =>
      obtain ⟨zero, hz⟩ := hz
      rw [zeroElement_zero hm] at hz
      cases hz
    | succ r =>
      rw [zeroElement_succ_ok_iff hm, zeroFields_ok_iff] at hz
      -- a budget that suffices for a source pays for this level
      have hpays (i : Nat) (s : Source) (hs : reg.Affords i (r + 1) s) :
          reg.Affords (i - 1) r s ∧
            (reg.refillElement i .message (.record m.fullName slots) s).outcome
              = Decoded.mapValue (Slot.record m.fullName) (refillFields reg
                (reg.refillElement (i - 1)) m.package m.fields slots s).outcome := by
        rw [Affords] at hs
        cases i with
        | zero => omega
        | succ i =>
          refine ⟨?_, outcome_refillElement_message hfind i slots s⟩
          rw [Affords, Nat.add_sub_cancel]
          omega
      cases n with
      | zero =>
        intro s hs
        rw [Affords] at hs
        omega
      | succ n =>
        have hfields := refillFields_decides keyed (refillElement_decides keyed n (k - 1))
          (fun f hf => nested.field hm hf) hz hslots
        exact (hfields.mapValue (Slot.record m.fullName)).narrow (hpays (n + 1)) (hpays k)

/-! ## Whole instances -/

/-- Unless it is interrupted, a whole instance is decided by the bytes that it takes, with the
budget that each source gets. -/
theorem readElement_decides (keyed : reg.IsKeyed) {name : String} {m : Message}
    (hm : reg.find? name = some m) (nested : ∀ f ∈ m.fields, reg.FinitelyNested m.package f.type)
    {slots : List Slot} (hslots : reg.HoldsFields m.package m.fields slots) :
    Decides (fun _ => True) (fun _ => True)
      (fun s => (reg.readElement .message (.record name slots) s).outcome)
      (fun s => (reg.readElement .message (.record name slots) s).outcome) := by
  have hbudgets (n k : Nat) : Decides (reg.Affords n (reg.size + 1)) (reg.Affords k (reg.size + 1))
      (fun s => (reg.refillElement (n + 1) .message (.record name slots) s).outcome)
      (fun s => (reg.refillElement (k + 1) .message (.record name slots) s).outcome) := by
    simp only [outcome_refillElement_message hm]
    exact (refillFields_decides keyed (refillElement_decides keyed n k) nested
      (fun f hf _ => (nested f hf).isFinite.zeroOf_ok) hslots).mapValue (Slot.record name)
  have hown (s : Source) : reg.Affords (reg.nestingBudget s.pending.length) (reg.size + 1) s :=
    Nat.le_of_eq rfl
  intro s _
  exact Decides.indexed (fun s' => reg.nestingBudget s'.pending.length) hown
    (hbudgets (reg.nestingBudget s.pending.length)) s (hown s)

/-- **An ending source and a failing one are told apart at every byte.**  Let a byte string be read
into an instance with a result other than that it is too short.  Sources that have the bytes taken
give that result, and the same instance if there is one, whatever they have behind those bytes and
be it only their end or a failure: no other byte is asked for.  Sources that stop anywhere inside of
them give the error of their stop. -/
theorem deserialize_interrupted (keyed : reg.IsKeyed) {name : String} {m : Message}
    (hm : reg.find? name = some m) (nested : ∀ f ∈ m.fields, reg.FinitelyNested m.package f.type)
    {slots : List Slot} (hslots : reg.HoldsFields m.package m.fields slots) {bytes : Bytes}
    {read : Refill Slot} (hread : reg.deserialize (.record name slots) bytes = read)
    (whole : ∀ e kind, read.status = .error (.wire e) → e.root ≠ .truncated kind) :
    (∀ k stop, read.source.consumed ≤ k → ∃ again,
      reg.readElement .message (.record name slots) ⟨bytes.take k, 0, stop⟩
          = ⟨again, read.status,
            ⟨(bytes.take k).drop read.source.consumed, read.source.consumed, stop⟩⟩ ∧
        (read.status = .ok () → again = read.value)) ∧
    (∀ k stop, k < read.source.consumed → ∃ e kind,
      (reg.readElement .message (.record name slots) ⟨bytes.take k, 0, stop⟩).status
          = .error (.wire e) ∧
        e.root = stop.error kind) ∧
    ∀ more stop, ∃ again,
      reg.readElement .message (.record name slots)
          ⟨bytes.take read.source.consumed ++ more, 0, stop⟩
          = ⟨again, read.status, ⟨more, read.source.consumed, stop⟩⟩ ∧
        (read.status = .ok () → again = read.value) := by
  have hdecides := readElement_decides keyed hm nested hslots (.ofBytes bytes) trivial
  have hread : reg.readElement .message (.record name slots) (.ofBytes bytes) = read := hread
  simp only [hread] at hdecides
  rcases hdecides with hstop | ⟨piece, htaken, hdecided⟩
  · obtain ⟨e, kind, he, hroot⟩ := hstop.status
    exact absurd hroot (whole e kind he)
  have htaken : (Source.ofBytes bytes).Reads piece read.source := htaken
  have hpiece := Source.take_of_reads htaken
  have hlength := Source.length_of_reads htaken
  have hbehind (more : Bytes) (stop : Stop) :=
    Refill.exists_of_outcome (hdecided.whole ⟨piece ++ more, 0, stop⟩ ⟨more, piece.length, stop⟩
      trivial ⟨rfl, (Nat.zero_add _).symm, rfl⟩)
  rw [hlength, ← hpiece] at hbehind
  refine ⟨fun k stop hk => ?_, fun k stop hk => ?_, hbehind⟩
  · -- these are the bytes taken and some that are left
    have hsplit := List.take_append_drop read.source.consumed (bytes.take k)
    rw [List.take_take, Nat.min_eq_left hk] at hsplit
    have hagain := hbehind ((bytes.take k).drop read.source.consumed) stop
    rw [hsplit] at hagain
    exact hagain
  · have hcut : (⟨bytes.take k, 0, stop⟩ : Source).StopsInside piece :=
      (Source.cuts_of_take htaken hk).stopsInside
    exact (hdecided.part _ trivial hcut).status

end Registry

namespace Forest

/-- A grove is read in front of other bytes, and from a source that fails right behind it.  Where
the source stops inside the tree below, its end and its failure are two errors.  A tree of three
marks is an error as soon as their count is read, also if the source fails right behind that. -/
theorem deserialize_interrupted_grove : registry.IsKeyed ∧
    registry.find? "forest/Tree" = some tree ∧
    (∀ f ∈ tree.fields, registry.FinitelyNested tree.package f.type) ∧
    registry.HoldsFields tree.package tree.fields staleSlots ∧
    registry.deserialize (.record "forest/Tree" staleSlots) (grove ++ [7])
      = ⟨.record "forest/Tree" groveSlots, .ok (), ⟨[7], 28, .ended⟩⟩ ∧
    registry.readElement .message (.record "forest/Tree" staleSlots) ⟨grove, 0, .failed⟩
      = ⟨.record "forest/Tree" groveSlots, .ok (), ⟨[], 28, .failed⟩⟩ ∧
    (∃ e kind, (registry.readElement .message (.record "forest/Tree" staleSlots)
        ⟨grove.take 20, 0, .ended⟩).status = .error (.wire e) ∧ e.root = .truncated kind) ∧
    (∃ e, (registry.readElement .message (.record "forest/Tree" staleSlots)
        ⟨grove.take 20, 0, .failed⟩).status = .error (.wire e) ∧
      e.root = .transfer .sourceFailed) ∧
    ∃ left, registry.readElement .message (.record "forest/Tree" staleSlots)
        ⟨[0, 1, 0, 0, 0, 97, 3, 0, 0, 0], 0, .failed⟩
      = ⟨left, .error (.wire (.inField "Marks" (.arrayLength 2 3))), ⟨[], 10, .failed⟩⟩ := by
  have nested : ∀ f ∈ tree.fields, registry.FinitelyNested tree.package f.type :=
    fun f hf => finitelyNested ⟨_, find?_tree⟩ hf
  have hread : registry.deserialize (.record "forest/Tree" staleSlots) (grove ++ [7])
      = ⟨.record "forest/Tree" groveSlots, .ok (), ⟨[7], 28, .ended⟩⟩ := rfl
  obtain ⟨hwhole, hpart, -⟩ := Registry.deserialize_interrupted isEmittable.keyed find?_tree nested
    holdsFields_stale hread (fun e kind h => by cases h)
  obtain ⟨again, hagain, hvalue⟩ := hwhole 28 .failed (Nat.le_refl _)
  obtain rfl : again = .record "forest/Tree" groveSlots := hvalue rfl
  obtain ⟨left, t, hcrowded, ht⟩ : ∃ left t,
      registry.deserialize (.record "forest/Tree" staleSlots) [0, 1, 0, 0, 0, 97, 3, 0, 0, 0, 1, 1]
        = ⟨left, .error (.wire (.inField "Marks" (.arrayLength 2 3))), t⟩ ∧ t.consumed = 10 :=
    ⟨_, _, rfl, rfl⟩
  obtain ⟨hcrowdedWhole, -, -⟩ := Registry.deserialize_interrupted isEmittable.keyed find?_tree
    nested holdsFields_stale hcrowded (fun e kind h => by cases h; simp [WireError.root])
  rw [ht] at hcrowdedWhole
  obtain ⟨left, hleft, -⟩ := hcrowdedWhole 10 .failed (Nat.le_refl _)
  obtain ⟨e, kind, he, hroot⟩ := hpart 20 .failed (by decide)
  exact ⟨isEmittable.keyed, find?_tree, nested, holdsFields_stale, hread, hagain,
    hpart 20 .ended (by decide), ⟨e, he, hroot⟩, left, hleft⟩

end Forest

end Missive
