import Missive.Proofs.Delimiting
import Missive.Proofs.Restoring
/-!
# Where instances end

Reading into an instance, if it succeeds, is a step of decoding like any other.  Seen in this way
the bytes of an instance tell where it ends, as those of a message do, and both end at the same
place.

* `Refill.outcome` -- a read into something as a step of decoding;
* `refillItems_delimits`, `refillVector_delimits`, `refillFields_delimits` -- arrays and messages,
  if it holds of their elements;
* `Registry.refillElement_delimits` -- the bytes of an element tell where it ends, whatever slot
  they are read into, with any budget that suffices;
* `Decoded.Meets`, `Registry.refillElement_meets` -- if an element is both read and decoded, then up
  to the same place.
-/

namespace Missive

/-! ## Outcomes -/

namespace Refill

variable {α β : Type}

/-- What a read amounts to, if what a failed read leaves behind is forgotten. -/
def outcome (r : Refill α) : Decoded α :=
  (r.status.map fun _ => r.value, r.source)

theorem outcome_map (make : α → β) (r : Refill α) :
    (r.map make).outcome = Decoded.mapValue make r.outcome := by
  rcases r with ⟨value, e | ⟨⟩, s⟩ <;> rfl

theorem outcome_inField (label : String) (r : Refill α) :
    (r.inField label).outcome = Decoded.inField label r.outcome := by
  rcases r with ⟨value, e | ⟨⟩, s⟩ <;> rfl

end Refill

section

variable (element : SlotReader) (fresh : Slot)

theorem outcome_refillItems_cons (slot : Slot) (rest : List Slot) (s : Source) :
    (refillItems element (slot :: rest) s).outcome
      = Decoded.andThen (element slot s).outcome fun slot t =>
          Decoded.mapValue (slot :: ·) (refillItems element rest t).outcome := by
  rw [refillItems]
  rcases element slot s with ⟨slot, e | ⟨⟩, t⟩
  · rfl
  · exact Refill.outcome_map _ _

theorem outcome_appendItems_succ (n : Nat) (before : List Slot) (s : Source) :
    (appendItems element fresh (n + 1) before s).outcome
      = Decoded.andThen (element fresh s).outcome fun slot t =>
          (appendItems element fresh n (slot :: before) t).outcome := by
  rw [appendItems]
  rcases element fresh s with ⟨slot, e | ⟨⟩, t⟩ <;> rfl

/-- Whether there may be so many elements, the first of which took some bytes or did not. -/
def admitMoved (moved : Bool) (n : Nat) : Except CodecError Unit :=
  if moved then .ok () else (checkEmptyElements n).mapError .wire

theorem outcome_refillCounted (n : Nat) (s : Source) :
    (refillCounted element fresh n s).outcome
      = Decoded.andThen (element fresh s).outcome fun slot t =>
          Decoded.andThen (admitMoved (t.consumed != s.consumed) (n + 1), t) fun _ t =>
            (appendItems element fresh n [slot] t).outcome := by
  rw [refillCounted]
  rcases element fresh s with ⟨slot, e | ⟨⟩, t⟩
  · rfl
  · show Refill.outcome (if t.consumed = s.consumed then _ else _)
      = Decoded.andThen (admitMoved (t.consumed != s.consumed) (n + 1), t) _
    by_cases hc : t.consumed = s.consumed
    · rw [if_pos hc, hc, bne_self_eq_false, admitMoved, if_neg Bool.false_ne_true]
      cases checkEmptyElements (n + 1) <;> rfl
    · rw [if_neg hc, bne_iff_ne.2 hc, admitMoved, if_pos rfl]
      rfl

theorem outcome_refillVector (items : List Slot) (s : Source) :
    (refillVector element fresh items s).outcome
      = Decoded.andThen (decodeCount s) fun n t => match n with
          | 0 => (.ok [], t)
          | n + 1 => (refillCounted element fresh n t).outcome := by
  rw [refillVector_eq, decodeCount]
  rcases readCount s with ⟨e | _ | n, t⟩ <;> rfl

theorem outcome_refillArray (items : List Slot) (s : Source) :
    (refillArray element items s).outcome
      = Decoded.andThen (decodeCount s) fun n t =>
          if n = items.length then (refillItems element items t).outcome
          else (.error (.wire (.arrayLength items.length n)), t) := by
  rw [refillArray, decodeCount]
  rcases readCount s with ⟨e | n, t⟩
  · rfl
  · show Refill.outcome (if n = items.length then _ else _) = ite _ _ _
    by_cases hn : n = items.length
    · rw [if_pos hn, if_pos hn]
    · rw [if_neg hn, if_neg hn]
      rfl

end

theorem outcome_refillFields_cons (reg : Registry) (element : Kind → SlotReader) (owner : String)
    (f : Field) (fields : List Field) (slot : Slot) (slots : List Slot) (s : Source) :
    (refillFields reg element owner (f :: fields) (slot :: slots) s).outcome
      = Decoded.andThen
          (Decoded.inField f.label (refillField reg element owner f slot s).outcome)
          fun slot t => Decoded.mapValue (slot :: ·)
            (refillFields reg element owner fields slots t).outcome := by
  rw [refillFields, ← Refill.outcome_inField]
  rcases (refillField reg element owner f slot s).inField f.label with ⟨slot, e | ⟨⟩, t⟩
  · rfl
  · exact Refill.outcome_map _ _

namespace Registry

theorem outcome_refillElement_primitive (reg : Registry) (n : Nat) (d : Datum) (s : Source) :
    (reg.refillElement n (.primitive d.primitive) (.datum d) s).outcome
      = Decoded.mapValue Slot.datum (d.primitive.decode s) := by
  rw [refillElement_primitive, Primitive.decode, ← Datum.outcome_refill, Datum.Refilled.outcome]
  rcases d.refill s with ⟨datum, e | ⟨⟩, t⟩ <;> rfl

theorem outcome_refillElement_message {reg : Registry} {m : Message} {name : String}
    (hm : reg.find? name = some m) (n : Nat) (slots : List Slot) (s : Source) :
    (reg.refillElement (n + 1) .message (.record name slots) s).outcome
      = Decoded.mapValue (Slot.record name)
          (refillFields reg (reg.refillElement n) m.package m.fields slots s).outcome := by
  rw [refillElement_message hm, Refill.outcome_map]

theorem outcome_refillElement_zero {reg : Registry} {m : Message} {name : String}
    (hm : reg.find? name = some m) (slots : List Slot) (s : Source) :
    (reg.refillElement 0 .message (.record name slots) s).outcome
      = (.error (.endless name), s) := by
  simp only [refillElement, hm]
  rfl

end Registry

/-! ## Where arrays end -/

section

variable {element again : SlotReader} {fits : Slot → Prop} {within : Source → Prop}
  (shrinks : ∀ s t, within s → s.Passes t → within t)
  (delimits : ∀ slot old, fits slot → fits old →
    Delimits within (fun s => (element slot s).outcome) (fun s => (again old s).outcome))

include shrinks delimits

theorem refillItems_delimits {slots olds : List Slot} (hl : olds.length = slots.length)
    (hslots : ∀ slot ∈ slots, fits slot) (holds : ∀ old ∈ olds, fits old) :
    Delimits within (fun s => (refillItems element slots s).outcome)
      (fun s => (refillItems again olds s).outcome) := by
  induction slots generalizing olds with
  | nil =>
    obtain rfl := List.length_eq_zero_iff.1 hl
    exact .of_result (.ok [])
  | cons slot rest ih =>
    obtain ⟨old, others, rfl⟩ := List.exists_cons_of_length_eq_add_one hl
    rw [List.forall_mem_cons] at hslots holds
    simp only [outcome_refillItems_cons]
    exact (delimits slot old hslots.1 holds.1).andThen shrinks fun slot =>
      (ih (Nat.succ.inj hl) hslots.2 holds.2).mapValue (slot :: ·)

theorem appendItems_delimits {fresh : Slot} (hfresh : fits fresh) (n : Nat) (before : List Slot) :
    Delimits within (fun s => (appendItems element fresh n before s).outcome)
      (fun s => (appendItems again fresh n before s).outcome) := by
  induction n generalizing before with
  | zero => exact .of_result (.ok before.reverse)
  | succ n ih =>
    simp only [outcome_appendItems_succ]
    exact (delimits fresh fresh hfresh hfresh).andThen shrinks fun slot => ih (slot :: before)

theorem refillCounted_delimits {fresh : Slot} (hfresh : fits fresh) (n : Nat) :
    Delimits within (fun s => (refillCounted element fresh n s).outcome)
      (fun s => (refillCounted again fresh n s).outcome) := by
  have hnext : ∀ (moved : Bool) (slot : Slot), Delimits within
      (fun t => Decoded.andThen (admitMoved moved (n + 1), t) fun _ t =>
        (appendItems element fresh n [slot] t).outcome)
      (fun t => Decoded.andThen (admitMoved moved (n + 1), t) fun _ t =>
        (appendItems again fresh n [slot] t).outcome) := fun moved slot =>
    .andThen shrinks (.of_result (admitMoved moved (n + 1))) fun _ =>
      appendItems_delimits shrinks delimits hfresh n [slot]
  simp only [outcome_refillCounted]
  exact (delimits fresh fresh hfresh hfresh).andThenMoved
    (fun _ _ _ bytes _ _ s t hs hr => shrinks s t hs ⟨bytes, hr⟩) hnext

variable {around : Source → Prop}
  (behind : ∀ s t : Source, around s → t.pending.length < s.pending.length → within t)

include behind

theorem refillVector_delimits {fresh : Slot} (hfresh : fits fresh) (items olds : List Slot) :
    Delimits around (fun s => (refillVector element fresh items s).outcome)
      (fun s => (refillVector again fresh olds s).outcome) := by
  simp only [outcome_refillVector]
  refine .behindCount behind fun n => ?_
  cases n with
  | zero => exact .of_result (.ok [])
  | succ n => exact refillCounted_delimits shrinks delimits hfresh n

theorem refillArray_delimits {items olds : List Slot} (hl : olds.length = items.length)
    (hitems : ∀ slot ∈ items, fits slot) (holds : ∀ old ∈ olds, fits old) :
    Delimits around (fun s => (refillArray element items s).outcome)
      (fun s => (refillArray again olds s).outcome) := by
  simp only [outcome_refillArray, hl]
  refine .behindCount behind fun n => ?_
  by_cases hn : n = items.length
  · simp only [hn, if_true]
    exact refillItems_delimits shrinks delimits hl hitems holds
  · simp only [hn, if_false]
    exact .of_result (.error _)

end

/-! ## Where instances end -/

namespace Registry

/-- What is taken off a source with a budget of `n`, by any slot, is taken with one of `k` by any
other slot of the type, if that budget suffices. -/
def DelimitsWithin (reg : Registry) (n k : Nat) : Prop :=
  ∀ (owner : String) (type : TypeRef) (r : Nat) (slot old : Slot),
    reg.FinitelyNested owner type → (∃ zero, reg.zeroElement r owner type = .ok zero) →
    reg.Holds owner type .single slot → reg.Holds owner type .single old →
    Delimits (reg.Affords k r) (fun s => (reg.refillElement n type.kind slot s).outcome)
      (fun s => (reg.refillElement k type.kind old s).outcome)

end Registry

section

variable {reg : Registry} (keyed : reg.IsKeyed) {n k : Nat} (delimits : reg.DelimitsWithin n k)
  {owner : String} {r : Nat}

include keyed delimits

theorem refillField_delimits {f : Field} {slot old : Slot}
    (nested : reg.FinitelyNested owner f.type)
    (hz : f.shape ≠ .many → ∃ zero, reg.zeroElement r owner f.type = .ok zero)
    (hslot : reg.Holds owner f.type f.shape slot) (hold : reg.Holds owner f.type f.shape old) :
    Delimits (reg.Affords k r)
      (fun s => (refillField reg (reg.refillElement n) owner f slot s).outcome)
      (fun s => (refillField reg (reg.refillElement k) owner f old s).outcome) := by
  have hshrinks : ∀ i s t, reg.Affords k i s → s.Passes t → reg.Affords k i t :=
    fun _ _ _ hs hp => hs.passes hp
  cases hs : f.shape with
  | single =>
    rw [hs] at hslot hold
    simp only [refillField, hs]
    exact delimits owner f.type r slot old nested (hz (by simp [hs])) hslot hold
  | exactly count =>
    rw [hs] at hslot hold
    obtain ⟨items, hli, his, rfl⟩ := hslot.eq_sequence rfl
    obtain ⟨olds, hlo, hos, rfl⟩ := hold.eq_sequence rfl
    have helement := fun slot old =>
      delimits owner f.type r slot old nested (hz (by simp [hs]))
    simp only [refillField, hs, Refill.outcome_map]
    exact (refillArray_delimits (hshrinks r) helement
      (fun s t hs hlt => hs.behindCount (Nat.le_add_left _ _) hlt) ((hlo rfl).trans (hli rfl).symm)
      his hos).mapValue Slot.sequence
  | many =>
    rw [hs] at hslot hold
    obtain ⟨items, -, his, rfl⟩ := hslot.eq_sequence rfl
    obtain ⟨olds, -, hos, rfl⟩ := hold.eq_sequence rfl
    obtain ⟨fresh, hfresh⟩ := nested.isFinite.zeroOf_ok
    have helement := fun slot old =>
      delimits owner f.type (reg.size + 1) slot old nested ⟨fresh, hfresh⟩
    simp only [refillField, hs, hfresh, Refill.outcome_map]
    exact (refillVector_delimits (hshrinks (reg.size + 1)) helement
      (fun s t hs hlt => hs.behindCount (Nat.le_add_right _ _) hlt)
      (Registry.holds_of_zeroElement keyed hfresh) items olds).mapValue Slot.sequence

theorem refillFields_delimits {fields : List Field} {slots olds : List Slot}
    (nested : ∀ f ∈ fields, reg.FinitelyNested owner f.type)
    (hz : ∀ f ∈ fields, f.shape ≠ .many → ∃ zero, reg.zeroElement r owner f.type = .ok zero)
    (hslots : reg.HoldsFields owner fields slots) (holds : reg.HoldsFields owner fields olds) :
    Delimits (reg.Affords k r)
      (fun s => (refillFields reg (reg.refillElement n) owner fields slots s).outcome)
      (fun s => (refillFields reg (reg.refillElement k) owner fields olds s).outcome) := by
  induction fields generalizing slots olds with
  | nil =>
    cases hslots
    cases holds
    exact .of_result (.ok [])
  | cons f rest ih =>
    rw [List.forall_mem_cons] at nested hz
    cases hslots with
    | cons hslot hnext =>
      cases holds with
      | cons hold hothers =>
        simp only [outcome_refillFields_cons]
        have hfield := refillField_delimits keyed delimits nested.1 hz.1 hslot hold
        exact (hfield.inField f.label).andThen (fun _ _ hs hp => hs.passes hp) fun slot =>
          (ih nested.2 hz.2 hnext hothers).mapValue (slot :: ·)

end

namespace Registry

variable {reg : Registry}

/-- The bytes of an element tell where it ends, whatever slot they are read into. -/
theorem refillElement_delimits (keyed : reg.IsKeyed) (n k : Nat) : reg.DelimitsWithin n k := by
  intro owner type r slot old nested hz hslot hold
  rcases reg.type_cases owner type with ⟨p, rfl⟩ | ⟨e, hk, he⟩ | ⟨m, hm⟩
  · obtain ⟨d, hd, rfl⟩ := hslot.eq_datum
    obtain ⟨stale, hstale, rfl⟩ := hold.eq_datum
    rw [TypeRef.kind]
    have hread : ∀ i s, (reg.refillElement i (.primitive p) (.datum d) s).outcome
        = Decoded.mapValue Slot.datum (p.decode s) := by
      intro i s
      rw [← hd]
      exact reg.outcome_refillElement_primitive i d s
    have hagain : ∀ i s, (reg.refillElement i (.primitive p) (.datum stale) s).outcome
        = Decoded.mapValue Slot.datum (p.decode s) := by
      intro i s
      rw [← hstale]
      exact reg.outcome_refillElement_primitive i stale s
    simp only [hread, hagain]
    exact (p.decode_delimits _).mapValue Slot.datum
  · obtain ⟨zero, hz⟩ := hz
    rw [zeroElement_unresolved hk he] at hz
    cases hz
  · obtain ⟨hkey, hfind⟩ := key_of_resolve_keyed keyed hm
    obtain ⟨slots, hslots, rfl⟩ := hslot.eq_record hkey hfind
    obtain ⟨olds, holds, rfl⟩ := hold.eq_record hkey hfind
    rw [kind_of_resolve hm]
    cases n with
    | zero => exact .of_error (outcome_refillElement_zero hfind slots)
    | succ n =>
      cases r with
      | zero =>
        obtain ⟨zero, hz⟩ := hz
        rw [zeroElement_zero hm] at hz
        cases hz
      | succ r =>
        rw [zeroElement_succ_ok_iff hm, zeroFields_ok_iff] at hz
        simp only [outcome_refillElement_message hfind]
        -- a budget of nothing suffices for no source, so what is shown for that one is never used
        refine ((refillFields_delimits keyed (refillElement_delimits keyed n (k - 1))
          (fun f hf => nested.field hm hf) hz hslots holds).mapValue
            (Slot.record m.fullName)).congr fun s hs => ?_
        cases k with
        | zero => exact absurd hs (by rw [Affords]; omega)
        | succ k =>
          refine ⟨?_, outcome_refillElement_message hfind k olds s⟩
          rw [Affords] at hs ⊢
          omega

end Registry

/-! ## Reading and decoding up to the same place -/

/-- If both steps succeed, they end at the same place. -/
def Decoded.Meets {α β : Type} (r : Decoded α) (r' : Decoded β) : Prop :=
  ∀ a t b u, r = (.ok a, t) → r' = (.ok b, u) → t = u

namespace Decoded.Meets

variable {α β γ δ : Type} {r : Decoded α} {r' : Decoded β}

theorem mapValue (make : α → γ) (make' : β → δ) (h : Meets r r') :
    Meets (Decoded.mapValue make r) (Decoded.mapValue make' r') := by
  intro c t d u hr hr'
  obtain ⟨a, ha, -⟩ := Decoded.mapValue_eq_ok hr
  obtain ⟨b, hb, -⟩ := Decoded.mapValue_eq_ok hr'
  exact h a t b u ha hb

theorem inField (label : String) (h : Meets r r') :
    Meets (Decoded.inField label r) (Decoded.inField label r') := by
  intro a t b u hr hr'
  exact h a t b u (Decoded.inField_eq_ok hr) (Decoded.inField_eq_ok hr')

theorem andThen {next : α → Source → Decoded γ} {next' : β → Source → Decoded δ} (h : Meets r r')
    (hn : ∀ a b t, Meets (next a t) (next' b t)) :
    Meets (Decoded.andThen r next) (Decoded.andThen r' next') := by
  intro c t d u hr hr'
  obtain ⟨a, v, ha, hc⟩ := Decoded.andThen_eq_ok hr
  obtain ⟨b, w, hb, hd⟩ := Decoded.andThen_eq_ok hr'
  obtain rfl := h a v b w ha hb
  exact hn a b v c t d u hc hd

end Decoded.Meets

section

variable {element : SlotReader} {decoder : Source → Decoded Value} {fits : Slot → Prop}
  (meets : ∀ slot s, fits slot → Decoded.Meets (element slot s).outcome (decoder s))

include meets

theorem refillItems_meets {slots : List Slot} (hslots : ∀ slot ∈ slots, fits slot) (s : Source) :
    Decoded.Meets (refillItems element slots s).outcome
      (decodeItems decoder slots.length [] s) := by
  induction slots generalizing s with
  | nil =>
    intro a t b u hr hr'
    cases hr
    cases hr'
    rfl
  | cons slot rest ih =>
    rw [List.forall_mem_cons] at hslots
    rw [outcome_refillItems_cons, List.length_cons, decodeItems_succ]
    exact (meets slot s hslots.1).andThen fun slot v t =>
      (ih hslots.2 t).mapValue (slot :: ·) (v :: ·)

theorem appendItems_meets {fresh : Slot} (hfresh : fits fresh) (n : Nat) (before : List Slot)
    (s : Source) :
    Decoded.Meets (appendItems element fresh n before s).outcome (decodeItems decoder n [] s) := by
  induction n generalizing before s with
  | zero =>
    intro a t b u hr hr'
    cases hr
    cases hr'
    rfl
  | succ n ih =>
    rw [outcome_appendItems_succ, decodeItems_succ]
    refine (meets fresh s hfresh).andThen fun slot v t c u d w hr hr' => ?_
    obtain ⟨items, hitems, -⟩ := Decoded.mapValue_eq_ok hr'
    exact ih (slot :: before) t c u items w hr hitems

theorem refillCounted_meets {fresh : Slot} (hfresh : fits fresh) (n : Nat) (s : Source) :
    Decoded.Meets (refillCounted element fresh n s).outcome
      (decodeItems decoder (n + 1) [] s) := by
  rw [outcome_refillCounted, decodeItems_succ]
  refine (meets fresh s hfresh).andThen fun slot v t c u d w hr hr' => ?_
  -- only the read judges the number of items here; the decoder did so before the first one
  obtain ⟨⟨⟩, t', hadmit, happend⟩ := Decoded.andThen_eq_ok hr
  obtain rfl : t = t' := congrArg Prod.snd hadmit
  obtain ⟨items, hitems, -⟩ := Decoded.mapValue_eq_ok hr'
  exact appendItems_meets meets hfresh n [slot] t c u items w happend hitems

variable {reg : Registry} {dec : ElementDecoder} {owner : String} {f : Field}
  (hdecoder : dec owner f.type = decoder)

include hdecoder

theorem refillVector_meets {fresh : Slot} (hfresh : fits fresh) (items : List Slot) (s : Source) :
    Decoded.Meets (refillVector element fresh items s).outcome
      (decodeArray reg dec owner f s) := by
  intro a t b u hr hr'
  rw [outcome_refillVector] at hr
  obtain ⟨n, v, hn, hread⟩ := Decoded.andThen_eq_ok hr
  obtain ⟨n', v', hn', hrest⟩ := Decoded.andThen_eq_ok hr'
  obtain ⟨hcount, rfl⟩ := Prod.mk.inj (hn.symm.trans hn')
  obtain rfl := Except.ok.inj hcount
  obtain ⟨⟨⟩, w, hadmit, hitems⟩ := Decoded.andThen_eq_ok hrest
  obtain rfl : v = w := congrArg Prod.snd hadmit
  rw [hdecoder] at hitems
  cases n with
  | zero =>
    cases hread
    cases hitems
    rfl
  | succ n => exact refillCounted_meets meets hfresh n v a t b u hread hitems

theorem refillArray_meets {items : List Slot} (hitems : ∀ slot ∈ items, fits slot) (s : Source) :
    Decoded.Meets (refillArray element items s).outcome (decodeArray reg dec owner f s) := by
  intro a t b u hr hr'
  rw [outcome_refillArray] at hr
  obtain ⟨n, v, hn, hread⟩ := Decoded.andThen_eq_ok hr
  obtain ⟨n', v', hn', hrest⟩ := Decoded.andThen_eq_ok hr'
  obtain ⟨hcount, rfl⟩ := Prod.mk.inj (hn.symm.trans hn')
  obtain rfl := Except.ok.inj hcount
  obtain ⟨⟨⟩, w, hadmit, hdecoded⟩ := Decoded.andThen_eq_ok hrest
  obtain rfl : v = w := congrArg Prod.snd hadmit
  rw [hdecoder] at hdecoded
  by_cases hl : n = items.length
  · rw [if_pos hl] at hread
    subst hl
    exact refillItems_meets meets hitems v a t b u hread hdecoded
  · rw [if_neg hl] at hread
    cases hread

end

section

variable {reg : Registry} (keyed : reg.IsKeyed) {n k : Nat}
  (meets : ∀ owner type slot s, reg.Holds owner type .single slot →
    Decoded.Meets (reg.refillElement n type.kind slot s).outcome (reg.decodeElement k owner type s))
  {owner : String}

include keyed meets

theorem refillField_meets {f : Field} {slot : Slot} (hslot : reg.Holds owner f.type f.shape slot)
    (s : Source) :
    Decoded.Meets (refillField reg (reg.refillElement n) owner f slot s).outcome
      (decodeField reg (reg.decodeElement k) owner f s) := by
  have helement := meets owner f.type
  cases hs : f.shape with
  | single =>
    rw [hs] at hslot
    rw [decodeField_single reg _ owner (by rw [hs]; rfl)]
    simp only [refillField, hs]
    exact helement slot s hslot
  | exactly count =>
    rw [hs] at hslot
    obtain ⟨items, -, his, rfl⟩ := hslot.eq_sequence rfl
    rw [decodeField_array reg _ owner (by rw [hs]; rfl)]
    simp only [refillField, hs, Refill.outcome_map]
    exact (refillArray_meets helement rfl his s).mapValue Slot.sequence Value.list
  | many =>
    rw [hs] at hslot
    obtain ⟨items, -, -, rfl⟩ := hslot.eq_sequence rfl
    rw [decodeField_array reg _ owner (by rw [hs]; rfl)]
    simp only [refillField, hs]
    cases hz : reg.zeroOf owner f.type with
    | error e =>
      intro a t b u hr
      cases hr
    | ok fresh =>
      have hfresh := Registry.holds_of_zeroElement keyed hz
      simp only [Refill.outcome_map]
      exact (refillVector_meets helement rfl hfresh items s).mapValue Slot.sequence Value.list

theorem refillFields_meets {fields : List Field} {slots : List Slot}
    (hslots : reg.HoldsFields owner fields slots) (members : Members) (s : Source) :
    Decoded.Meets (refillFields reg (reg.refillElement n) owner fields slots s).outcome
      (decodeFields reg (reg.decodeElement k) owner fields members s) := by
  induction fields generalizing slots members s with
  | nil =>
    cases hslots
    intro a t b u hr hr'
    cases hr
    cases hr'
    rfl
  | cons f rest ih =>
    cases hslots with
    | cons hslot hothers =>
      rw [outcome_refillFields_cons, decodeFields_step]
      refine ((refillField_meets keyed meets hslot s).inField f.label).andThen
        fun slot v t c u d w hr hr' => ?_
      obtain ⟨slots, hread, -⟩ := Decoded.mapValue_eq_ok hr
      exact ih hothers _ t slots u d w hread hr'

end

namespace Registry

variable {reg : Registry}

/-- If an element is both read and decoded, then up to the same place. -/
theorem refillElement_meets (keyed : reg.IsKeyed) (n k : Nat) (owner : String) (type : TypeRef)
    (slot : Slot) (s : Source) (hslot : reg.Holds owner type .single slot) :
    Decoded.Meets (reg.refillElement n type.kind slot s).outcome
      (reg.decodeElement k owner type s) := by
  cases hslot with
  | @datum owner d =>
    rw [TypeRef.kind, outcome_refillElement_primitive, decodeElement_primitive_eq]
    refine Decoded.Meets.mapValue _ _ fun a t b u hr hr' => ?_
    cases hr.symm.trans hr'
    rfl
  | @record owner type name m slots hkey hm hslots =>
    rw [TypeRef.kind_of_key hkey]
    have hr := resolve_of_key hkey hm
    cases n with
    | zero =>
      rw [outcome_refillElement_zero hm]
      intro a t b u hr
      cases hr
    | succ n =>
      cases k with
      | zero =>
        rw [decodeElement_zero hr]
        intro a t b u _ hr'
        cases hr'
      | succ k =>
        rw [outcome_refillElement_message hm, decodeElement_succ hr]
        have hfields := refillFields_meets keyed (refillElement_meets keyed n k) hslots [] s
        exact hfields.mapValue (Slot.record name) Value.struct
  | sequence ha => cases ha

end Registry

end Missive
