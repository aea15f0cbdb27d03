import Missive.Proofs.Conformance
import Missive.Proofs.Counts
import Missive.Proofs.Prefixes
import Missive.Proofs.Sizes
/-!
# Declared sizes and the counts on the wire

An array of a declared size is written only if its list has that many items, and it is read only if
that is the count in front of it: by the decoder, by the walk, and by emitted types.  Any other
count is refused by all of them with the same error, before an element is looked at.  An open array
takes any count.

* `Registry.DecodesCount`, `Registry.WalksCount`, `Registry.RefillsCount` -- the count that is read
  behind some fields of a message;
* `EnforcesCount` -- a reader refuses every count but one;
* `Registry.EnforcesSize`, `Registry.enforcesSize` -- arrays of a declared size;
* `Registry.AcceptsCounts`, `Registry.acceptsCounts` -- open arrays;
* `Resolver.size_enforced` -- a line with brackets, and what becomes of the number in them.
-/

namespace Missive

/-! ## Some fields, and those behind them -/

theorem decodeFields_append (reg : Registry) (element : ElementDecoder) (owner : String)
    (before after : List Field) (members : Members) (s : Source) :
    decodeFields reg element owner (before ++ after) members s
      = Decoded.andThen (decodeFields reg element owner before members s) fun mid t =>
          decodeFields reg element owner after mid t := by
  induction before generalizing members s with
  | nil => rfl
  | cons f rest ih =>
    rw [List.cons_append, decodeFields_step, decodeFields_step]
    rcases Decoded.inField f.label (decodeField reg element owner f s) with ⟨e | v, t⟩
    · rfl
    · exact ih _ t

theorem Walker.skipFields_append (reg : Registry) (element : ElementWalker) (owner : String)
    (before after : List Field) (w : Walker) :
    skipFields reg element owner (before ++ after) w
      = (skipFields reg element owner before w).andThen (skipFields reg element owner after) := by
  induction before generalizing w with
  | nil => rfl
  | cons f rest ih =>
    rw [List.cons_append, skipFields_cons, skipFields_cons]
    rcases Walked.inField f.label (skipField reg element owner f w) with ⟨e | ⟨⟩, u⟩
    · rfl
    · exact ih u

theorem outcome_refillFields_append (reg : Registry) (element : Kind → SlotReader)
    (owner : String) {before : List Field} {slots : List Slot} (h : before.length = slots.length)
    (after : List Field) (others : List Slot) (s : Source) :
    (refillFields reg element owner (before ++ after) (slots ++ others) s).outcome
      = Decoded.andThen (refillFields reg element owner before slots s).outcome fun read t =>
          Decoded.mapValue (read ++ ·) (refillFields reg element owner after others t).outcome := by
  induction before generalizing slots s with
  | nil =>
    obtain rfl := List.length_eq_zero_iff.1 h.symm
    show (refillFields reg element owner after others s).outcome
      = Decoded.mapValue id (refillFields reg element owner after others s).outcome
    rcases (refillFields reg element owner after others s).outcome with ⟨_ | _, _⟩ <;> rfl
  | cons f rest ih =>
    cases slots with
    | nil => cases h
    | cons slot slots =>
      rw [List.cons_append, List.cons_append, outcome_refillFields_cons, outcome_refillFields_cons]
      rcases Decoded.inField f.label (refillField reg element owner f slot s).outcome with
        ⟨e | first, t⟩
      · rfl
      · simp only [Decoded.andThen_ok, ih (Nat.succ.inj h)]
        rcases (refillFields reg element owner rest slots t).outcome with ⟨e | read, u⟩
        · rfl
        · simp only [Decoded.andThen_ok, Decoded.mapValue_ok, Decoded.mapValue_mapValue]
          rfl

/-! ## The count that is read -/

namespace Registry

section

variable (reg : Registry) (m : Message) (before : List Field)

/-- Behind these fields of a message the decoder reads this count. -/
def DecodesCount (bytes : Bytes) (count : Nat) : Prop :=
  ∃ members s t,
    decodeFields reg (reg.decodeElement (reg.nestingBudget bytes.length)) m.package before []
      (.ofBytes bytes) = (.ok members, s) ∧
    readCount s = (.ok count, t)

/-- Behind these fields of a message the walker reads this count. -/
def WalksCount (bytes : Bytes) (count : Nat) : Prop :=
  ∃ w u,
    Walker.skipFields reg (Walker.skipElement reg (reg.nestingBudget bytes.length)) m.package
      before (.ofBytes bytes) = (.ok (), w) ∧
    w.readCount = (.ok count, u)

/-- Behind these fields an instance with these slots, when it is read, reads this count. -/
def RefillsCount (slots : List Slot) (bytes : Bytes) (count : Nat) : Prop :=
  ∃ read s t,
    (refillFields reg (reg.refillElement (reg.nestingBudget bytes.length)) m.package before
      (slots.take before.length) (.ofBytes bytes)).outcome = (.ok read, s) ∧
    readCount s = (.ok count, t)

end

end Registry

/-- A reader of byte strings reads a count for a field and succeeds only if it is this one; any
other count is an error that says so. -/
structure EnforcesCount (f : Field) (size : Nat) (reads : Bytes → Nat → Prop)
    (status : Bytes → Except CodecError Unit) : Prop where
  accepted : ∀ bytes, status bytes = .ok () → reads bytes size
  refused : ∀ bytes count, reads bytes count → count ≠ size →
    status bytes = .error (.wire (.inField f.label (.arrayLength size count)))

/-! ## Arrays of a declared size -/

section

variable {reg : Registry} {owner : String} {f : Field} {size : Nat} (hf : f.shape = .exactly size)

include hf

theorem isArray_of_exactly : f.shape.isArray = true := by
  rw [hf]
  rfl

/-- The condition on which a count is refused. -/
theorem isFixed_of_other {count : Nat} (h : count ≠ size) :
    (f.shape.isFixed && count != f.shape.count) = true := by
  rw [hf]
  exact bne_iff_ne.2 h

theorem admitCount_other {count : Nat} (h : count ≠ size) :
    admitCount reg owner f count = .error (.wire (.arrayLength size count)) := by
  rw [admitCount, if_pos (isFixed_of_other hf h), hf]
  rfl

theorem eq_of_admitCount {count : Nat} (h : admitCount reg owner f count = .ok ()) :
    count = size := by
  by_contra hne
  rw [admitCount_other hf hne] at h
  cases h

theorem decodeField_exactly {element : ElementDecoder} {s t : Source} {v : Value}
    (h : decodeField reg element owner f s = (.ok v, t)) : ∃ u, readCount s = (.ok size, u) := by
  obtain ⟨n, items, u, hlimit, hreads, hadmits, -⟩ :=
    decodeField_array_eq_ok (isArray_of_exactly hf) h
  obtain rfl := eq_of_admitCount hf hadmits
  exact ⟨u, readCount_of_reads hlimit hreads⟩

theorem decodeField_other {element : ElementDecoder} {s t : Source} {count : Nat}
    (hcount : readCount s = (.ok count, t)) (h : count ≠ size) :
    decodeField reg element owner f s = (.error (.wire (.arrayLength size count)), t) := by
  rw [decodeField_array reg element owner (isArray_of_exactly hf), decodeArray, decodeCount, hcount]
  simp only [Except.mapError_ok, Decoded.andThen_ok, admitCount_other hf h]
  rfl

theorem skipField_other {element : ElementWalker} {w u : Walker} {count : Nat}
    (hcount : w.readCount = (.ok count, u)) (h : count ≠ size) :
    Walker.skipField reg element owner f w = (.error (.wire (.arrayLength size count)), u) := by
  rw [Walker.skipField, if_pos (isArray_of_exactly hf), hcount]
  show Walker.skipArray reg element owner f count u = _
  rw [Walker.skipArray, if_pos (isFixed_of_other hf h), hf]
  rfl

theorem skipField_exactly {element : ElementWalker} {w u : Walker}
    (h : Walker.skipField reg element owner f w = (.ok (), u)) :
    ∃ v, w.readCount = (.ok size, v) := by
  rcases hcount : w.readCount with ⟨e | count, v⟩
  · rw [Walker.skipField, if_pos (isArray_of_exactly hf), hcount] at h
    cases h
  · by_cases hsize : count = size
    · exact ⟨v, by rw [hsize]⟩
    · rw [skipField_other hf hcount hsize] at h
      cases h

theorem outcome_refillField_exactly {element : Kind → SlotReader} (items : List Slot)
    (s : Source) :
    (refillField reg element owner f (.sequence items) s).outcome
      = Decoded.mapValue .sequence (refillArray (element f.kind) items s).outcome := by
  simp only [refillField, hf]
  exact Refill.outcome_map _ _

theorem refillField_exactly {element : Kind → SlotReader} {items : List Slot}
    (hlength : items.length = size) {s t : Source} {slot : Slot}
    (h : (refillField reg element owner f (.sequence items) s).outcome = (.ok slot, t)) :
    ∃ u, readCount s = (.ok size, u) := by
  rw [outcome_refillField_exactly hf] at h
  obtain ⟨out, harray, -⟩ := Decoded.mapValue_eq_ok h
  rw [outcome_refillArray] at harray
  obtain ⟨count, u, hcount, hitems⟩ := Decoded.andThen_eq_ok harray
  split at hitems
  · rename_i heq
    obtain rfl : count = size := heq.trans hlength
    exact ⟨u, readCount_of_decodeCount hcount⟩
  · cases hitems

theorem refillField_other {element : Kind → SlotReader} {items : List Slot}
    (hlength : items.length = size) {s t : Source} {count : Nat}
    (hcount : readCount s = (.ok count, t)) (h : count ≠ size) :
    (refillField reg element owner f (.sequence items) s).outcome
      = (.error (.wire (.arrayLength size count)), t) := by
  rw [outcome_refillField_exactly hf, outcome_refillArray, decodeCount, hcount]
  simp only [Except.mapError_ok, Decoded.andThen_ok, hlength, if_neg h]
  rfl

end

/-- Of a message that is encoded every member is. -/
theorem encodesMember_of_mem {reg : Registry} {m : Message} {members : Members}
    {fields : List Field} {bytes : Bytes}
    (h : encodeFields m (Value.encoders reg members) fields = .ok bytes) {f : Field}
    (hf : f ∈ fields) : reg.EncodesMember m members f := by
  induction fields generalizing bytes with
  | nil => cases hf
  | cons g rest ih =>
    obtain ⟨v, chunk, others, hv, hchunk, hothers, -⟩ := encodeFields_cons_eq_ok_iff.1 h
    rcases List.mem_cons.1 hf with rfl | hf
    · exact ⟨v, chunk, hv, hchunk⟩
    · exact ih hothers hf

/-- The status of a read tells whether it is a step of decoding that succeeded. -/
theorem Refill.status_eq {α : Type} (r : Refill α) : r.status = r.outcome.1.map fun _ => () := by
  rcases r with ⟨value, e | ⟨⟩, s⟩ <;> rfl

/-! ## Messages with an array of a declared size -/

namespace Registry

theorem HoldsFields.split {reg : Registry} {owner : String} {before after : List Field} {f : Field}
    {slots : List Slot} (h : reg.HoldsFields owner (before ++ f :: after) slots) :
    ∃ olds slot others, before.length = olds.length ∧ reg.Holds owner f.type f.shape slot ∧
      slots = olds ++ slot :: others := by
  induction before generalizing slots with
  | nil => cases h with
    | cons hslot _ => exact ⟨[], _, _, rfl, hslot, rfl⟩
  | cons g rest ih => cases h with
    | cons _ hrest =>
      obtain ⟨olds, slot, others, hlength, hslot, rfl⟩ := ih hrest
      exact ⟨_ :: olds, slot, others, congrArg Nat.succ hlength, hslot, rfl⟩

variable {reg : Registry} {key : String} {m : Message} {before after : List Field} {f : Field}
  {size : Nat} (hm : reg.find? key = some m) (hfields : m.fields = before ++ f :: after)
  (hf : f.shape = .exactly size)

theorem decode_of_find? (hm : reg.find? key = some m) (bytes : Bytes) :
    (reg.decode key bytes).2
      = (reg.decodeMessage (reg.nestingBudget bytes.length) m (.ofBytes bytes)).1 := by
  simp only [decode, hm]
  rfl

include hm hfields hf

theorem decode_enforces :
    EnforcesCount f size (reg.DecodesCount m before)
      fun bytes => (reg.decode key bytes).2.map fun _ => () := by
  constructor
  · intro bytes h
    rw [decode_of_find? hm] at h
    obtain ⟨out, hout, -⟩ := Except.map_eq_ok_iff.1 h
    have hread : reg.decodeMessage (reg.nestingBudget bytes.length) m (.ofBytes bytes)
        = (.ok out, (reg.decodeMessage (reg.nestingBudget bytes.length) m (.ofBytes bytes)).2) :=
      Prod.ext hout rfl
    rw [decodeMessage, hfields, decodeFields_append] at hread
    obtain ⟨members, s, hbefore, hrest⟩ := Decoded.andThen_eq_ok hread
    rw [decodeFields_step] at hrest
    obtain ⟨v, t, hv, -⟩ := Decoded.andThen_eq_ok hrest
    obtain ⟨u, hcount⟩ := decodeField_exactly hf (Decoded.inField_eq_ok hv)
    exact ⟨members, s, u, hbefore, hcount⟩
  · rintro bytes count ⟨members, s, t, hbefore, hcount⟩ hne
    rw [decode_of_find? hm, decodeMessage, hfields, decodeFields_append, hbefore,
      Decoded.andThen_ok, decodeFields_step, decodeField_other hf hcount hne]
    rfl

theorem extent_enforces :
    EnforcesCount f size (reg.WalksCount m before)
      fun bytes => (reg.extent key bytes).map fun _ => () := by
  constructor
  · intro bytes h
    rw [extent_of_find? hm] at h
    obtain ⟨position, hposition, -⟩ := Except.map_eq_ok_iff.1 h
    obtain ⟨⟨⟩, hout, -⟩ := Except.map_eq_ok_iff.1 hposition
    have hwalk : Walker.skipFields reg (Walker.skipElement reg (reg.nestingBudget bytes.length))
        m.package m.fields (.ofBytes bytes) = (.ok (), _) := Prod.ext hout rfl
    rw [hfields, Walker.skipFields_append] at hwalk
    obtain ⟨w, hbefore, hrest⟩ := Walked.andThen_eq_ok hwalk
    rw [Walker.skipFields_cons] at hrest
    obtain ⟨u, hu, -⟩ := Walked.andThen_eq_ok hrest
    obtain ⟨v, hcount⟩ := skipField_exactly hf (Walked.inField_eq_ok hu)
    exact ⟨w, v, hbefore, hcount⟩
  · rintro bytes count ⟨w, u, hbefore, hcount⟩ hne
    rw [extent_of_find? hm, hfields, Walker.skipFields_append, hbefore]
    show Except.map _ (Except.map _ (Walker.skipFields reg _ m.package (f :: after) w).1) = _
    rw [Walker.skipFields_cons, skipField_other hf hcount hne]
    rfl

theorem deserialize_enforces {slots : List Slot}
    (hslots : reg.HoldsFields m.package m.fields slots) :
    EnforcesCount f size (reg.RefillsCount m before slots)
      fun bytes => (reg.deserialize (.record key slots) bytes).status := by
  -- the slots are those of the fields in front, the array's and the others
  rw [hfields] at hslots
  obtain ⟨olds, items, others, hlength, hsize, rfl⟩ : ∃ olds items others,
      before.length = olds.length ∧ items.length = size ∧
        slots = olds ++ Slot.sequence items :: others := by
    obtain ⟨olds, slot, others, hlength, hslot, rfl⟩ := hslots.split
    obtain ⟨items, hfixed, -, rfl⟩ := hslot.eq_sequence (isArray_of_exactly hf)
    rw [hf] at hfixed
    exact ⟨olds, items, others, hlength, hfixed rfl, rfl⟩
  have hoolds : (olds ++ Slot.sequence items :: others).take before.length = olds := by
    rw [hlength, List.take_left]
  have hstatus : ∀ bytes,
      (reg.deserialize (.record key (olds ++ Slot.sequence items :: others)) bytes).status
        = (refillFields reg (reg.refillElement (reg.nestingBudget bytes.length)) m.package
            (before ++ f :: after) (olds ++ Slot.sequence items :: others)
            (.ofBytes bytes)).outcome.1.map fun _ => () := by
    intro bytes
    rw [← hfields, Refill.status_eq, outcome_deserialize hm]
    rcases (refillFields reg _ m.package m.fields _ _).outcome with ⟨e | read, t⟩ <;> rfl
  constructor
  · intro bytes h
    rw [hstatus] at h
    obtain ⟨read, hread, -⟩ := Except.map_eq_ok_iff.1 h
    have hall : (refillFields reg (reg.refillElement (reg.nestingBudget bytes.length)) m.package
        (before ++ f :: after) (olds ++ Slot.sequence items :: others)
        (.ofBytes bytes)).outcome = (.ok read, _) := Prod.ext hread rfl
    rw [outcome_refillFields_append reg _ _ hlength] at hall
    obtain ⟨first, s, hbefore, hrest⟩ := Decoded.andThen_eq_ok hall
    obtain ⟨later, hlater, -⟩ := Decoded.mapValue_eq_ok hrest
    rw [outcome_refillFields_cons] at hlater
    obtain ⟨slot, t, hslot, -⟩ := Decoded.andThen_eq_ok hlater
    obtain ⟨u, hcount⟩ := refillField_exactly hf hsize (Decoded.inField_eq_ok hslot)
    exact ⟨first, s, u, by rw [hoolds, hbefore], hcount⟩
  · rintro bytes count ⟨read, s, t, hbefore, hcount⟩ hne
    rw [hoolds] at hbefore
    rw [hstatus, outcome_refillFields_append reg _ _ hlength, hbefore, Decoded.andThen_ok,
      outcome_refillFields_cons, refillField_other hf hsize hcount hne]
    rfl

theorem encode_exactly {members : Members} {bytes : Bytes}
    (h : reg.encode key members = .ok bytes) :
    ∃ items, members.lookup f.name = some (.list items) ∧ items.length = size := by
  have hmem : f ∈ m.fields := hfields ▸ List.mem_append_right before List.mem_cons_self
  rw [encode, hm] at h
  obtain ⟨v, chunk, hv, hchunk⟩ := encodesMember_of_mem h hmem
  obtain ⟨items, body, rfl, hfixed, -⟩ :=
    (Value.encode_array_eq_ok_iff (isArray_of_exactly hf)).1 hchunk
  rw [hf] at hfixed
  exact ⟨items, hv, hfixed rfl⟩

theorem encode_other {members : Members} {items : List Value}
    (hbefore : ∀ g ∈ before, reg.EncodesMember m members g)
    (hlist : members.lookup f.name = some (.list items)) (hne : items.length ≠ size) :
    reg.encode key members
      = .error (.wire (.inField f.label (.arrayLength size items.length))) := by
  have hfixed : f.shape.isFixed = true := by rw [hf]; rfl
  have hcount : items.length ≠ f.shape.count := by rw [hf]; exact hne
  have hrefused : (Value.list items).encode reg m.package f.type f.shape
      = .error (.wire (.arrayLength size items.length)) := by
    rw [encode_otherCount hfixed hcount, hf]
    rfl
  rw [encode, hm]
  show encodeFields m _ m.fields = _
  rw [hfields, encodeFields_member hbefore hlist hrefused]
  rfl

end Registry

/-! ## Open arrays -/

section

variable {reg : Registry} {owner : String} {f : Field}

/-- Elements of an open array are admitted in any number, as long as they take bytes. -/
theorem admitCount_open (closed : reg.IsClosed) (resolves : reg.Resolves owner f.type)
    (hf : f.shape = .many) {n count : Nat} {s t : Source} {items : List Value}
    (hitems : decodeItems (reg.decodeElement n owner f.type) count [] s = (.ok items, t))
    (h : count ≤ maxEmptyElements ∨ s.consumed < t.consumed) :
    admitCount reg owner f count = .ok () := by
  obtain ⟨empty, hempty⟩ := Registry.isEmptyWithin_ok closed Registry.emptinessLevels resolves
  have hopen : ¬(f.shape.isFixed && count != f.shape.count) = true := by
    rw [hf]
    exact Bool.false_ne_true
  rw [admitCount, if_neg hopen, Registry.isEmptyElement, hempty]
  cases empty with
  | false => rfl
  | true =>
    have hstays := decodeItems_stays (Registry.decodeElement_stays
      (Registry.isEmptyWithin_eq_true_iff.1 hempty) n s) count
    have hsmall : count ≤ maxEmptyElements := by
      rcases h with h | h
      · exact h
      · rcases hstays with ⟨name, hname⟩ | ⟨items', hsame⟩
        · rw [hitems] at hname
          cases hname
        · rw [hitems] at hsame
          rw [(Prod.mk.inj hsame).2] at h
          exact absurd h (Nat.lt_irrefl _)
    show (checkEmptyElements count).mapError CodecError.wire = .ok ()
    rw [checkEmptyElements, if_pos hsmall]
    rfl

theorem decodeField_open (closed : reg.IsClosed) (resolves : reg.Resolves owner f.type)
    (hf : f.shape = .many) {n count : Nat} {s t u : Source} {items : List Value}
    (hcount : readCount s = (.ok count, t))
    (hitems : decodeItems (reg.decodeElement n owner f.type) count [] t = (.ok items, u))
    (h : count ≤ maxEmptyElements ∨ t.consumed < u.consumed) :
    decodeField reg (reg.decodeElement n) owner f s = (.ok (.list items), u) := by
  have ha : f.shape.isArray = true := by rw [hf]; rfl
  rw [decodeField_array reg _ owner ha, decodeArray, decodeCount, hcount]
  simp only [Except.mapError_ok, Decoded.andThen_ok, admitCount_open closed resolves hf hitems h,
    hitems, Decoded.mapValue_ok]

/-- What is decoded is passed. -/
theorem skipField_of_decodeField {n : Nat} {w : Walker} {v : Value} {u : Source}
    (h : decodeField reg (reg.decodeElement n) owner f w.source = (.ok v, u)) :
    ∃ w', Walker.skipField reg (Walker.skipElement reg n) owner f w = (.ok (), w') ∧
      w'.source = u := by
  have hshadows := Walker.skipField_shadows (Walker.skipElement_shadows reg n) owner f w
  rw [h] at hshadows
  cases hskip : Walker.skipField reg (Walker.skipElement reg n) owner f w with
  | mk status w' =>
    rw [hskip] at hshadows
    cases hshadows
    exact ⟨w', rfl, rfl⟩

end

section

variable {element : SlotReader} {fresh : Slot}

/-- More elements are read as into fresh slots. -/
theorem outcome_appendItems (n : Nat) (before : List Slot) (s : Source) :
    (appendItems element fresh n before s).outcome
      = Decoded.mapValue (before.reverse ++ ·)
          (refillItems element (List.replicate n fresh) s).outcome := by
  induction n generalizing before s with
  | zero =>
    show (Except.ok before.reverse, s) = (Except.ok (before.reverse ++ []), s)
    rw [List.append_nil]
  | succ n ih =>
    rw [outcome_appendItems_succ, List.replicate_succ, outcome_refillItems_cons]
    rcases (element fresh s).outcome with ⟨e | slot, t⟩
    · rfl
    · simp only [Decoded.andThen_ok, ih, Decoded.mapValue_mapValue, List.reverse_cons,
        List.append_assoc, List.singleton_append]

/-- Elements that take nothing take nothing together. -/
theorem refillItems_takesNothing (h : Decoded.TakesNothing fun s => (element fresh s).outcome)
    (n : Nat) :
    Decoded.TakesNothing fun s => (refillItems element (List.replicate n fresh) s).outcome := by
  induction n with
  | zero =>
    intro s slots t hread
    cases hread
    rfl
  | succ n ih =>
    intro s slots t hread
    simp only [List.replicate_succ, outcome_refillItems_cons] at hread
    obtain ⟨slot, u, hslot, hrest⟩ := Decoded.andThen_eq_ok hread
    obtain ⟨others, hothers, -⟩ := Decoded.mapValue_eq_ok hrest
    exact (ih u others t hothers).trans (h s slot u hslot)

theorem refillVector_open (all : Decoded.TakesAllOrNothing fun s => (element fresh s).outcome)
    {olds slots : List Slot} {count : Nat} {s t u : Source} (hcount : readCount s = (.ok count, t))
    (hitems : (refillItems element (List.replicate count fresh) t).outcome = (.ok slots, u))
    (h : count ≤ maxEmptyElements ∨ t.consumed < u.consumed) :
    (refillVector element fresh olds s).outcome = (.ok slots, u) := by
  rw [outcome_refillVector, decodeCount, hcount]
  cases count with
  | zero => exact hitems
  | succ n =>
    show (refillCounted element fresh n t).outcome = (.ok slots, u)
    rw [List.replicate_succ, outcome_refillItems_cons] at hitems
    obtain ⟨slot, v, hslot, hrest⟩ := Decoded.andThen_eq_ok hitems
    have hadmits : admitMoved (v.consumed != t.consumed) (n + 1) = .ok () := by
      rw [admitMoved]
      split
      · rfl
      · rename_i hsame
        have hsmall : n + 1 ≤ maxEmptyElements := by
          rcases h with h | h
          · exact h
          · -- the first element took nothing, so neither did the others
            have hstill : v.consumed = t.consumed := by simpa using hsame
            obtain ⟨others, hothers, -⟩ := Decoded.mapValue_eq_ok hrest
            have hnothing := refillItems_takesNothing (all t slot v hslot hstill) n v others u
              hothers
            omega
        rw [checkEmptyElements, if_pos hsmall]
        rfl
    rw [outcome_refillCounted, hslot, Decoded.andThen_ok, hadmits, Decoded.andThen_ok,
      outcome_appendItems]
    exact hrest

end

/-! ## Lines with brackets -/

namespace Registry

/-- An array of a message, behind some fields of it, has this many items in every value that is
encoded, and in all bytes that are decoded, passed, or read into an instance.  Any other number is
refused with the same error, unless something in front of the array is refused before it. -/
structure EnforcesSize (reg : Registry) (key : String) (m : Message) (before : List Field)
    (f : Field) (size : Nat) : Prop where
  encoded : ∀ members bytes, reg.encode key members = .ok bytes →
    ∃ items, members.lookup f.name = some (.list items) ∧ items.length = size
  notEncoded : ∀ members items, (∀ g ∈ before, reg.EncodesMember m members g) →
    members.lookup f.name = some (.list items) → items.length ≠ size →
    reg.encode key members = .error (.wire (.inField f.label (.arrayLength size items.length)))
  decoded : EnforcesCount f size (reg.DecodesCount m before)
    fun bytes => (reg.decode key bytes).2.map fun _ => ()
  walked : EnforcesCount f size (reg.WalksCount m before)
    fun bytes => (reg.extent key bytes).map fun _ => ()
  deserialized : ∀ slots, reg.HoldsFields m.package m.fields slots →
    EnforcesCount f size (reg.RefillsCount m before slots)
      fun bytes => (reg.deserialize (.record key slots) bytes).status

/-- An array of a message takes any number of items that its count can say, if there are as many,
and if they take some bytes or are no more than the limit for elements without bytes. -/
structure AcceptsCounts (reg : Registry) (key : String) (m : Message) (before after : List Field)
    (f : Field) : Prop where
  encoded : ∀ members items, (∀ g ∈ before ++ after, reg.EncodesMember m members g) →
    members.lookup f.name = some (.list items) → items.length < lengthLimit →
    (∀ v ∈ items, ∃ chunk, v.encode reg m.package f.type .single = .ok chunk) →
    ∃ bytes, reg.encode key members = .ok bytes
  decoded : ∀ n count items s t u, readCount s = (.ok count, t) →
    decodeItems (reg.decodeElement n m.package f.type) count [] t = (.ok items, u) →
    (count ≤ maxEmptyElements ∨ t.consumed < u.consumed) →
    decodeField reg (reg.decodeElement n) m.package f s = (.ok (.list items), u)
  walked : ∀ n count items (w : Walker) t u, readCount w.source = (.ok count, t) →
    decodeItems (reg.decodeElement n m.package f.type) count [] t = (.ok items, u) →
    (count ≤ maxEmptyElements ∨ t.consumed < u.consumed) →
    ∃ w', Walker.skipField reg (Walker.skipElement reg n) m.package f w = (.ok (), w') ∧
      w'.source = u
  deserialized : ∀ n fresh olds count slots s t u, reg.zeroOf m.package f.type = .ok fresh →
    readCount s = (.ok count, t) →
    (refillItems (reg.refillElement n f.kind) (List.replicate count fresh) t).outcome
      = (.ok slots, u) →
    (count ≤ maxEmptyElements ∨ t.consumed < u.consumed) →
    (refillField reg (reg.refillElement n) m.package f (.sequence olds) s).outcome
      = (.ok (.sequence slots), u)

variable {reg : Registry} {key : String} {m : Message} {before after : List Field} {f : Field}
  {size : Nat}

theorem enforcesSize (hm : reg.find? key = some m) (hfields : m.fields = before ++ f :: after)
    (hf : f.shape = .exactly size) : reg.EnforcesSize key m before f size where
  encoded _ _ := encode_exactly hm hfields hf
  notEncoded _ _ := encode_other hm hfields hf
  decoded := decode_enforces hm hfields hf
  walked := extent_enforces hm hfields hf
  deserialized _ := deserialize_enforces hm hfields hf

theorem acceptsCounts (closed : reg.IsClosed) (hm : reg.find? key = some m)
    (hfields : m.fields = before ++ f :: after) (hf : f.shape = .many) :
    reg.AcceptsCounts key m before after f := by
  have hmem : f ∈ m.fields := hfields ▸ List.mem_append_right before List.mem_cons_self
  have resolves : reg.Resolves m.package f.type := closed m ⟨key, hm⟩ f hmem
  refine ⟨?_, ?_, ?_, ?_⟩
  · intro members items hothers hlist hlength hitems
    obtain ⟨body, hbody⟩ := Value.encodeItems_eq_ok hitems
    have harray : f.shape.isArray = true := by rw [hf]; rfl
    have hopen : f.shape.isFixed = true → items.length = f.shape.count := by
      intro hfixed
      rw [hf] at hfixed
      cases hfixed
    have hself : reg.EncodesMember m members f :=
      ⟨.list items, _, hlist, (Value.encode_array_eq_ok_iff harray).2
        ⟨items, body, rfl, hopen, hlength, hbody, rfl⟩⟩
    rw [encode, hm]
    refine encodeFields_eq_ok fun g hg => ?_
    rw [hfields] at hg
    rcases List.mem_append.1 hg with hg | hg
    · exact hothers g (List.mem_append_left after hg)
    · rcases List.mem_cons.1 hg with rfl | hg
      · exact hself
      · exact hothers g (List.mem_append_right before hg)
  · intro n count items s t u hcount hitems h
    exact decodeField_open closed resolves hf hcount hitems h
  · intro n count items w t u hcount hitems h
    exact skipField_of_decodeField (decodeField_open closed resolves hf hcount hitems h)
  · intro n fresh olds count slots s t u hfresh hcount hitems h
    simp only [refillField, hf, hfresh]
    rw [Refill.outcome_map, refillVector_open
      (reg.refillElement_takesAllOrNothing n f.kind fresh) hcount hitems h]
    rfl

end Registry

namespace Resolver

/-- **What becomes of the number in brackets.**  A line with brackets declares an array.  If the
number in them is not zero, with leading zeros or without, then the array is of that size: in every
registry that has the message, neither encoder nor decoder nor walker nor emitted type accepts any
other number of items, and each of them says so.  If it is zero, or if there is none, then the array
is open and takes any number of items. -/
theorem size_enforced (r : Resolver) {name text : String} {m : Message}
    (hread : r.readMessageText name text = .ok m) {l : FieldLine} {digits : List Char}
    (hdigits : l.digits = some digits) (hline : l.text ∈ significantLines text.toList) :
    sizeOf digits < Decimal.countLimit ∧
    ∃ before f after, m.fields = before ++ f :: after ∧ f.name = String.ofList l.name ∧
      f.typeToken = String.ofList l.type ∧ f.shape = Shape.ofSize (sizeOf digits) ∧
      ∀ (reg : Registry) (key : String), reg.IsClosed → reg.find? key = some m →
        (sizeOf digits ≠ 0 → reg.EnforcesSize key m before f (sizeOf digits)) ∧
        (sizeOf digits = 0 → reg.AcceptsCounts key m before after f) := by
  obtain ⟨before, f, after, hfields, hname, htoken, hlimit, hshape⟩ :=
    r.field_of_sizedLine hread hdigits hline
  refine ⟨hlimit, before, f, after, hfields, hname, htoken, hshape, fun reg key closed hm => ?_⟩
  constructor
  · intro hsize
    obtain ⟨n, hn⟩ := Nat.exists_eq_succ_of_ne_zero hsize
    rw [hn] at hshape ⊢
    exact Registry.enforcesSize hm hfields hshape
  · intro hzero
    rw [hzero] at hshape
    exact Registry.acceptsCounts closed hm hfields hshape

end Resolver

/-! ## A row of pots -/

namespace Garden

def rowText : String := "uint8 width\nPot[02] pots\nPot[0] spare\n"

def pot : Message :=
  ⟨"garden", "Pot", "uint8 size\n", [⟨"size", "uint8", .single, .primitive .uint8⟩], [], .empty⟩

/-- Two pots, and any number of spare ones. -/
def row : Message :=
  ⟨"garden", "Row", rowText,
    [⟨"width", "uint8", .single, .primitive .uint8⟩, ⟨"pots", "Pot", .exactly 2, .own "Pot"⟩,
      ⟨"spare", "Pot", .many, .own "Pot"⟩], [], .empty⟩

def rows : Registry :=
  .ofMessages [pot, row]

theorem readMessageText_row : resolver.readMessageText "Row" rowText = .ok row := rfl

theorem find?_row : rows.find? "garden/Row" = some row := rfl

theorem rows_isClosed : rows.IsClosed :=
  Registry.isClosed_of_entries (by decide)

theorem isRun_pot : IsRun isTypeChar ['P', 'o', 't'] := by decide

theorem isRun_space : IsRun isGap [' '] := by decide

/-- The line `Pot[digits] name`. -/
def potsLine (digits name : List Char) (hdigits : ∀ c ∈ digits, c.isDigit = true)
    (hname : IsRun isNameChar name) : FieldLine where
  type := ['P', 'o', 't']
  digits := some digits
  gap := [' ']
  name := name
  trailer := []
  type_run := isRun_pot
  digits_all := by
    intro ds hds
    obtain rfl := Option.some.inj hds
    exact hdigits
  gap_run := isRun_space
  name_run := hname
  trailer_stops := stopsAt_nil _

/-- A row with pots of these sizes, and spare ones. -/
def rowOf (pots spare : List UInt8) : Members :=
  [("width", .datum (.uint8 9)),
    ("pots", .list (pots.map fun size => .struct [("size", .datum (.uint8 size))])),
    ("spare", .list (spare.map fun size => .struct [("size", .datum (.uint8 size))]))]

/-- The pots of a row stand behind its width. -/
theorem split_of_pots {before after : List Field} {f : Field}
    (hfields : row.fields = before ++ f :: after) (hname : f.name = "pots") :
    before = [⟨"width", "uint8", .single, .primitive .uint8⟩] ∧
      f = ⟨"pots", "Pot", .exactly 2, .own "Pot"⟩ := by
  rcases before with _ | ⟨first, _ | ⟨second, _ | ⟨third, rest⟩⟩⟩
  · obtain ⟨rfl, -⟩ := List.cons.inj hfields
    exact absurd hname (by decide)
  · obtain ⟨rfl, hrest⟩ := List.cons.inj hfields
    exact ⟨rfl, (List.cons.inj hrest).1.symm⟩
  · obtain ⟨-, hrest⟩ := List.cons.inj hfields
    obtain ⟨rfl, -⟩ := List.cons.inj (List.cons.inj hrest).2
    exact absurd hname (by decide)
  · obtain ⟨-, hrest⟩ := List.cons.inj hfields
    obtain ⟨-, hnil⟩ := List.cons.inj (List.cons.inj hrest).2
    cases rest <;> cases hnil

/-- Three pots are one too many, be they written or read. -/
theorem size_of_pots :
    rows.encode "garden/Row" (rowOf [1, 2, 3] [])
      = .error (.wire (.inField "Pots" (.arrayLength 2 3))) ∧
    (rows.decode "garden/Row" [9, 3, 0, 0, 0, 1, 2, 3]).2.map (fun _ => ())
      = .error (.wire (.inField "Pots" (.arrayLength 2 3))) ∧
    (rows.extent "garden/Row" [9, 3, 0, 0, 0, 1, 2, 3]).map (fun _ => ())
      = .error (.wire (.inField "Pots" (.arrayLength 2 3))) := by
  obtain ⟨-, before, f, after, hfields, hname, -, -, hcounts⟩ :=
    Resolver.size_enforced resolver readMessageText_row
      (l := potsLine ['0', '2'] ['p', 'o', 't', 's'] (List.all_eq_true.1 rfl) (by decide)) rfl
      (by decide)
  obtain ⟨rfl, rfl⟩ := split_of_pots hfields hname
  obtain ⟨henforced, -⟩ := hcounts rows "garden/Row" rows_isClosed find?_row
  have hsize := henforced (by decide)
  refine ⟨hsize.notEncoded (rowOf [1, 2, 3] []) _ ?_ rfl (by decide), hsize.decoded.refused _ 3 ?_
    (by decide), hsize.walked.refused _ 3 ?_ (by decide)⟩
  · intro g hg
    obtain rfl := List.mem_singleton.1 hg
    exact ⟨_, _, rfl, rfl⟩
  · exact ⟨_, _, _, rfl, rfl⟩
  · exact ⟨_, _, rfl, rfl⟩

/-- Of the spare pots none are declared, and nevertheless one is written and read. -/
theorem size_of_sparePots :
    (potsLine ['0'] ['s', 'p', 'a', 'r', 'e'] (List.all_eq_true.1 rfl) (by decide)).text
        ∈ Resolver.significantLines rowText.toList ∧
    resolver.readMessageText "Row" rowText = .ok row ∧
    row.fields[2]? = some ⟨"spare", "Pot", .many, .own "Pot"⟩ ∧
    rows.encode "garden/Row" (rowOf [1, 2] [3])
      = .ok [9, 2, 0, 0, 0, 1, 2, 1, 0, 0, 0, 3] ∧
    rows.decode "garden/Row" [9, 2, 0, 0, 0, 1, 2, 1, 0, 0, 0, 3]
      = (12, .ok (rowOf [1, 2] [3])) ∧
    rows.extent "garden/Row" [9, 2, 0, 0, 0, 1, 2, 1, 0, 0, 0, 3] = .ok 12 :=
  ⟨by decide, rfl, rfl, rfl, rfl, rfl⟩

end Garden

end Missive
