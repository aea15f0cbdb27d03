import Missive.Proofs.Mirroring
import Missive.Proofs.Writing
/-!
# What was written is read into any instance

An instance is read in place, so what it held before could leave a trace: in the strings, in the
items of a sequence, in nested records.  It does not.  Whatever an instance of the type holds, it
becomes the one that was written, and what is behind the bytes of that one is left unread.

* `Registry.weightless_of_writtenAs_nil` -- only slots of types without bytes are written as none;
* `Registry.Crowded` -- some open array holds too many elements that take no bytes, which it does
  only if it is that long (`Registry.Crowded.lt_longest`);
* `refillItems_restores`, `refillVector_restores`, `refillFields_restores` -- arrays and messages,
  if elements are restored;
* `Registry.Affords` -- a budget suffices for a source and a zero value;
* `Registry.refillElement_restores` -- elements, with a budget that suffices;
* `Registry.deserialize_restores` -- whole instances.
-/

namespace Missive

/-! ## Slots without bytes -/

/-- Every element of a primitive has some bytes. -/
theorem Datum.encode_ne_nil (d : Datum) : d.encode ≠ .ok [] := by
  intro h
  have hread := Datum.read_of_encode h (.refl (.ofBytes []))
  exact absurd (Primitive.consumed_lt_of_read hread) (Nat.lt_irrefl _)

namespace Registry

variable {reg : Registry}

mutual

/-- A slot that is written as no bytes is of a type without bytes. -/
theorem weightless_of_writtenAs_nil (slot : Slot) {owner : String} {type : TypeRef} {shape : Shape}
    (h : reg.Holds owner type shape slot) (hw : slot.WrittenAs []) :
    shape = .single ∧ ∃ height, reg.Weightless height owner type := by
  cases h with
  | @datum owner d =>
    cases hw with
    | datum hd => exact absurd hd d.encode_ne_nil
  | record hkey hm hslots =>
    cases hw with
    | record hall =>
      have hfields := weightless_of_allWrittenAs_nil _ hslots hall
      exact ⟨rfl, weightless_of_fields (resolve_of_key hkey hm) hfields⟩
  | @sequence owner type shape items harray =>
    -- even an empty array has the bytes of its count
    generalize hnil : ([] : Bytes) = bytes at hw
    cases hw with
    | sequence => simp [Bytes.ofNat] at hnil

theorem weightless_of_allWrittenAs_nil (slots : List Slot) {owner : String} {fields : List Field}
    (h : reg.HoldsFields owner fields slots) (hw : Slot.AllWrittenAs slots []) :
    ∀ f ∈ fields, f.shape = .single ∧ ∃ height, reg.Weightless height owner f.type := by
  cases slots with
  | nil =>
    cases h with
    | nil => simp
  | cons slot rest =>
    cases h with
    | cons hslot hothers =>
      generalize hnil : ([] : Bytes) = bytes at hw
      cases hw with
      | cons ha hb =>
        obtain ⟨rfl, rfl⟩ := List.append_eq_nil_iff.1 hnil.symm
        exact List.forall_mem_cons.2 ⟨weightless_of_writtenAs_nil slot hslot ha,
          weightless_of_allWrittenAs_nil rest hothers hb⟩

end

/-! ## Arrays that are too long -/

/-- Somewhere in a slot of a type and a shape, an open array of elements that take no bytes holds
more of them than a reader accepts. -/
inductive Crowded (reg : Registry) : String → TypeRef → Shape → Slot → Prop
  | array {owner : String} {type : TypeRef} {items : List Slot} {height : Nat} :
      reg.Weightless height owner type → maxEmptyElements < items.length →
      Crowded reg owner type .many (.sequence items)
  | item {owner : String} {type : TypeRef} {shape : Shape} {items : List Slot} {slot : Slot} :
      slot ∈ items → Crowded reg owner type .single slot →
      Crowded reg owner type shape (.sequence items)
  | member {owner : String} {type : TypeRef} {m : Message} {name : String} {slots : List Slot}
      {f : Field} {slot : Slot} :
      reg.resolve owner type = .ok m → (f, slot) ∈ m.fields.zip slots →
      Crowded reg m.package f.type f.shape slot →
      Crowded reg owner type .single (.record name slots)

/-- The same, somewhere in the slots of a message. -/
def CrowdedMember (reg : Registry) (owner : String) (fields : List Field) (slots : List Slot) :
    Prop :=
  ∃ member ∈ fields.zip slots, reg.Crowded owner member.1.type member.1.shape member.2

/-- The slots of a message that is not crowded are not, either. -/
theorem not_crowded_cons {owner : String} {f : Field} {fields : List Field} {slot : Slot}
    {slots : List Slot} (h : ¬reg.CrowdedMember owner (f :: fields) (slot :: slots)) :
    ¬reg.Crowded owner f.type f.shape slot ∧ ¬reg.CrowdedMember owner fields slots := by
  constructor
  · intro hc
    exact h ⟨(f, slot), List.mem_cons_self, hc⟩
  · rintro ⟨member, hmem, hc⟩
    exact h ⟨member, List.mem_cons_of_mem _ hmem, hc⟩

end Registry

namespace Slot

mutual

/-- The length of the longest sequence in a slot. -/
def longest : Slot → Nat
  | datum _ => 0
  | record _ slots => longestOf slots
  | sequence items => max items.length (longestOf items)

/-- The length of the longest sequence in some slots. -/
def longestOf : List Slot → Nat
  | [] => 0
  | slot :: rest => max (longest slot) (longestOf rest)

end

theorem longest_le_of_mem {slot : Slot} {slots : List Slot} (h : slot ∈ slots) :
    slot.longest ≤ longestOf slots := by
  induction slots with
  | nil => cases h
  | cons first rest ih =>
    rw [longestOf]
    rcases List.mem_cons.1 h with rfl | h
    · exact Nat.le_max_left _ _
    · exact (ih h).trans (Nat.le_max_right _ _)

end Slot

namespace Registry

variable {reg : Registry}

/-- A slot is crowded only if some sequence in it is that long. -/
theorem Crowded.lt_longest {owner : String} {type : TypeRef} {shape : Shape} {slot : Slot}
    (h : reg.Crowded owner type shape slot) : maxEmptyElements < slot.longest := by
  induction h with
  | array _ hlong => exact Nat.lt_of_lt_of_le hlong (Nat.le_max_left _ _)
  | item hmem _ ih =>
    have hle := Slot.longest_le_of_mem hmem
    exact Nat.lt_of_lt_of_le ih (hle.trans (Nat.le_max_right _ _))
  | member _ hmem _ ih =>
    have hle := Slot.longest_le_of_mem (List.of_mem_zip hmem).2
    exact Nat.lt_of_lt_of_le ih hle

theorem not_crowdedMember_of_longest {owner : String} {fields : List Field} {slots : List Slot}
    (h : Slot.longestOf slots ≤ maxEmptyElements) : ¬reg.CrowdedMember owner fields slots := by
  rintro ⟨member, hmem, hc⟩
  have hle := Slot.longest_le_of_mem (List.of_mem_zip hmem).2
  exact Nat.lt_irrefl _ (Nat.lt_of_lt_of_le hc.lt_longest (hle.trans h))

end Registry

/-! ## Elements -/

/-- Reading into an element gives what reading gives; nothing of the old element is left. -/
theorem Datum.outcome_refill (d : Datum) (s : Source) :
    (d.refill s).outcome = d.primitive.read s := by
  cases d with
  | string text =>
    rw [primitive, Primitive.read_string, refill, refillString]
    rcases readCount s with ⟨e | n, t⟩
    · rfl
    · simp only
      rcases t.exact_cases n with ⟨bytes, u, hu, -, -⟩ | ⟨-, hu, -⟩
      · simp only [hu]
        cases Text.Utf8.decode bytes <;> rfl
      · simp only [hu]
        rfl
  | time t =>
    rw [primitive, Primitive.read_of_width rfl]
    exact outcome_refillPair _ _ _ s
  | duration t =>
    rw [primitive, Primitive.read_of_width rfl]
    exact outcome_refillPair _ _ _ s
  | _ =>
    rw [primitive, Primitive.read_of_width rfl]
    exact outcome_refillNumber _ _ _ s

/-- An element is read back from its encoding into any other one of its primitive. -/
theorem Datum.refill_of_encode {d old : Datum} {bytes : Bytes} {s t : Source}
    (hp : old.primitive = d.primitive) (h : d.encode = .ok bytes) (hr : s.Reads bytes t) :
    old.refill s = ⟨d, .ok (), t⟩ := by
  have hread : (old.refill s).outcome = (.ok d, t) := by
    rw [outcome_refill, hp]
    exact read_of_encode h hr
  generalize old.refill s = refilled at hread ⊢
  rcases refilled with ⟨datum, e | ⟨⟩, u⟩
  · cases hread
  · cases hread
    rfl

/-! ## Arrays -/

section

variable {element : SlotReader} {holds fits : Slot → Prop} {within : Source → Prop}
  (shrinks : ∀ s t, within s → s.Passes t → within t)
  (restores : ∀ (old slot : Slot) (bytes : Bytes) (s t : Source), holds old → fits slot →
    slot.WrittenAs bytes → s.Reads bytes t → within s → element old s = ⟨slot, .ok (), t⟩)

include shrinks restores

/-- Items are read into as many others. -/
theorem refillItems_restores {old items : List Slot} {bytes : Bytes} {s t : Source}
    (hold : ∀ slot ∈ old, holds slot) (hl : old.length = items.length)
    (hfits : ∀ slot ∈ items, fits slot) (hw : Slot.AllWrittenAs items bytes)
    (hr : s.Reads bytes t) (hs : within s) :
    refillItems element old s = ⟨items, .ok (), t⟩ := by
  induction items generalizing old bytes s with
  | nil =>
    obtain rfl := List.length_eq_zero_iff.1 hl
    cases hw with
    | nil =>
      obtain ⟨-, rfl⟩ := hr.unique (.refl s) rfl
      rfl
  | cons slot rest ih =>
    obtain ⟨stale, others, rfl⟩ := List.exists_cons_of_length_eq_add_one hl
    cases hw with
    | cons ha hb =>
      rw [List.forall_mem_cons] at hold hfits
      obtain ⟨u, hfirst, hrest⟩ := hr.split
      have hu := shrinks s u hs ⟨_, hfirst⟩
      have hstep := restores stale slot _ s u hold.1 hfits.1 ha hfirst hs
      have hothers := ih hold.2 (Nat.succ.inj hl) hfits.2 hb hrest hu
      simp only [refillItems, hstep, hothers]
      rfl

/-- Items are read into fresh slots and put behind those that are already there. -/
theorem appendItems_restores {fresh : Slot} {before items : List Slot} {bytes : Bytes}
    {s t : Source} (hfresh : holds fresh) (hfits : ∀ slot ∈ items, fits slot)
    (hw : Slot.AllWrittenAs items bytes) (hr : s.Reads bytes t) (hs : within s) :
    appendItems element fresh items.length before s
      = ⟨before.reverse ++ items, .ok (), t⟩ := by
  induction items generalizing before bytes s with
  | nil =>
    cases hw with
    | nil =>
      obtain ⟨-, rfl⟩ := hr.unique (.refl s) rfl
      simp [appendItems]
  | cons slot rest ih =>
    cases hw with
    | cons ha hb =>
      rw [List.forall_mem_cons] at hfits
      obtain ⟨u, hfirst, hrest⟩ := hr.split
      have hu := shrinks s u hs ⟨_, hfirst⟩
      have hstep := restores fresh slot _ s u hfresh hfits.1 ha hfirst hs
      simp only [List.length_cons, appendItems, hstep]
      rw [ih hfits.2 hb hrest hu]
      simp

variable {around : Source → Prop}
  (behind : ∀ s t : Source, around s → t.pending.length < s.pending.length → within t)

include behind

/-- Whatever an array of a declared length holds, it becomes what was written. -/
theorem refillArray_restores {old items : List Slot} {bytes : Bytes} {s t : Source}
    (hold : ∀ slot ∈ old, holds slot) (hl : old.length = items.length)
    (hfits : ∀ slot ∈ items, fits slot) (hw : (Slot.sequence items).WrittenAs bytes)
    (hr : s.Reads bytes t) (hs : around s) :
    refillArray element old s = ⟨items, .ok (), t⟩ := by
  cases hw with
  | sequence hlimit hall =>
    obtain ⟨u, hprefix, hrest⟩ := hr.split
    have hcount := readCount_of_reads hlimit hprefix
    have hu := behind s u hs (pending_lt_of_readCount (Nat.le_refl _) hcount)
    have hitems := refillItems_restores shrinks restores hold hl hfits hall hrest hu
    simp only [refillArray, hcount, hl, if_true, hitems]

/-- Whatever an open array holds, it becomes what was written, if the items have some bytes or are
not too many. -/
theorem refillVector_restores {fresh : Slot} {old items : List Slot} {bytes : Bytes}
    {s t : Source} (hfresh : holds fresh) (hfits : ∀ slot ∈ items, fits slot)
    (hfew : ∀ slot ∈ items, slot.WrittenAs [] → items.length ≤ maxEmptyElements)
    (hw : (Slot.sequence items).WrittenAs bytes) (hr : s.Reads bytes t) (hs : around s) :
    refillVector element fresh old s = ⟨items, .ok (), t⟩ := by
  cases hw with
  | sequence hlimit hall =>
    obtain ⟨u, hprefix, hrest⟩ := hr.split
    have hcount := readCount_of_reads hlimit hprefix
    have hu := behind s u hs (pending_lt_of_readCount (Nat.le_refl _) hcount)
    rw [refillVector_eq, hcount]
    cases hall with
    | nil =>
      obtain ⟨-, rfl⟩ := hrest.unique (.refl u) rfl
      rfl
    | @cons slot rest a b ha hb =>
      rw [List.forall_mem_cons] at hfits
      obtain ⟨v, hfirst, hothers⟩ := hrest.split
      have hv := shrinks u v hu ⟨_, hfirst⟩
      have hstep := restores fresh slot a u v hfresh hfits.1 ha hfirst hu
      have hrest : appendItems element fresh rest.length [slot] v = ⟨slot :: rest, .ok (), t⟩ :=
        appendItems_restores shrinks restores hfresh hfits.2 hb hothers hv
      simp only [List.length_cons, refillCounted, hstep, hrest]
      split
      · next hstays =>
        -- the first item has no bytes, so the number of items is judged
        have hnil : a = [] := by
          rw [hfirst.consumed] at hstays
          exact List.length_eq_zero_iff.1 (Nat.add_eq_left.1 hstays)
        subst hnil
        have hle := hfew slot List.mem_cons_self ha
        rw [List.length_cons] at hle
        simp only [checkEmptyElements, hle, if_true]
      · rfl

end

/-! ## Messages -/

namespace Registry

/-- A budget of `n` suffices for this source, if the zero value needs one of `r`. -/
def Affords (reg : Registry) (n r : Nat) (s : Source) : Prop :=
  (reg.size + 1) * s.pending.length + r ≤ n

variable {reg : Registry}

theorem Affords.passes {n r : Nat} {s t : Source} (h : reg.Affords n r s) (hp : s.Passes t) :
    reg.Affords n r t := by
  have hle := Nat.mul_le_mul_left (reg.size + 1) hp.length_le
  rw [Affords] at h ⊢
  omega

/-- Behind a count there is budget enough for another zero value of any element. -/
theorem Affords.behindCount {n r k : Nat} {s t : Source} (h : reg.Affords n r s)
    (hk : k ≤ reg.size + 1 + r) (hlt : t.pending.length < s.pending.length) :
    reg.Affords n k t := by
  have hle := Nat.mul_le_mul_left (reg.size + 1) (Nat.succ_le_of_lt hlt)
  rw [Nat.mul_succ] at hle
  rw [Affords] at h ⊢
  omega

/-- With a budget of `n`, if it suffices, what was written of an element is read into any slot of
its type. -/
def RestoresWithin (reg : Registry) (n : Nat) : Prop :=
  ∀ (owner : String) (type : TypeRef) (r : Nat) (old slot : Slot) (bytes : Bytes) (s t : Source),
    reg.FinitelyNested owner type → (∃ zero, reg.zeroElement r owner type = .ok zero) →
    reg.Holds owner type .single old →
    reg.Holds owner type .single slot ∧ ¬reg.Crowded owner type .single slot →
    slot.WrittenAs bytes → s.Reads bytes t → reg.Affords n r s →
    reg.refillElement n type.kind old s = ⟨slot, .ok (), t⟩

end Registry

section

variable {reg : Registry} (keyed : reg.IsKeyed) {n : Nat} (restores : reg.RestoresWithin n)
  {owner : String} {r : Nat}

include keyed restores

theorem refillField_restores {f : Field} {old slot : Slot} {bytes : Bytes} {s t : Source}
    (nested : reg.FinitelyNested owner f.type)
    (hz : f.shape ≠ .many → ∃ zero, reg.zeroElement r owner f.type = .ok zero)
    (hold : reg.Holds owner f.type f.shape old) (hslot : reg.Holds owner f.type f.shape slot)
    (hfew : ¬reg.Crowded owner f.type f.shape slot) (hw : slot.WrittenAs bytes)
    (hr : s.Reads bytes t) (hn : reg.Affords n r s) :
    refillField reg (reg.refillElement n) owner f old s = ⟨slot, .ok (), t⟩ := by
  cases hs : f.shape with
  | single =>
    rw [hs] at hold hslot hfew
    simp only [refillField, hs]
    have hzero := hz (by simp [hs])
    exact restores owner f.type r old slot bytes s t nested hzero hold ⟨hslot, hfew⟩ hw hr hn
  | exactly count =>
    rw [hs] at hold hslot hfew
    obtain ⟨olds, hlo, hos, rfl⟩ := hold.eq_sequence rfl
    obtain ⟨items, hli, his, rfl⟩ := hslot.eq_sequence rfl
    have hfits : ∀ item ∈ items,
        reg.Holds owner f.type .single item ∧ ¬reg.Crowded owner f.type .single item :=
      fun item hi => ⟨his item hi, fun hc => hfew (.item hi hc)⟩
    have helement := fun old slot bytes s t =>
      restores owner f.type r old slot bytes s t nested (hz (by simp [hs]))
    have harray := refillArray_restores (fun _ _ hs hp => hs.passes hp) helement
      (fun _ _ hs hlt => hs.behindCount (Nat.le_add_left _ _) hlt) hos
      ((hlo rfl).trans (hli rfl).symm) hfits hw hr hn
    simp only [refillField, hs]
    rw [Field.kind, harray]
    rfl
  | many =>
    rw [hs] at hold hslot hfew
    obtain ⟨olds, -, -, rfl⟩ := hold.eq_sequence rfl
    obtain ⟨items, -, his, rfl⟩ := hslot.eq_sequence rfl
    -- items are read into zero values, so the budget has to suffice for another one of those
    obtain ⟨fresh, hfresh⟩ := nested.isFinite.zeroOf_ok
    have hfits : ∀ item ∈ items,
        reg.Holds owner f.type .single item ∧ ¬reg.Crowded owner f.type .single item :=
      fun item hi => ⟨his item hi, fun hc => hfew (.item hi hc)⟩
    have hlength : ∀ item ∈ items, item.WrittenAs [] → items.length ≤ maxEmptyElements := by
      intro item hi hnil
      obtain ⟨-, height, hweightless⟩ := reg.weightless_of_writtenAs_nil item (his item hi) hnil
      by_contra hlong
      exact hfew (.array hweightless (Nat.lt_of_not_le hlong))
    have helement := fun old slot bytes s t =>
      restores owner f.type (reg.size + 1) old slot bytes s t nested ⟨fresh, hfresh⟩
    have hvector : refillVector _ fresh olds s = ⟨items, .ok (), t⟩ := refillVector_restores
      (fun _ _ hs hp => hs.passes hp) helement
      (fun _ _ hs hlt => hs.behindCount (Nat.le_add_right _ _) hlt)
      (Registry.holds_of_zeroElement keyed hfresh) hfits hlength hw hr hn
    simp only [refillField, hs, hfresh]
    rw [Field.kind, hvector]
    rfl

theorem refillFields_restores {fields : List Field} {old slots : List Slot} {bytes : Bytes}
    {s t : Source} (nested : ∀ f ∈ fields, reg.FinitelyNested owner f.type)
    (hz : ∀ f ∈ fields, f.shape ≠ .many → ∃ zero, reg.zeroElement r owner f.type = .ok zero)
    (hold : reg.HoldsFields owner fields old) (hslots : reg.HoldsFields owner fields slots)
    (hfew : ¬reg.CrowdedMember owner fields slots) (hw : Slot.AllWrittenAs slots bytes)
    (hr : s.Reads bytes t) (hn : reg.Affords n r s) :
    refillFields reg (reg.refillElement n) owner fields old s = ⟨slots, .ok (), t⟩ := by
  induction fields generalizing old slots bytes s with
  | nil =>
    cases hold
    cases hslots
    cases hw
    obtain ⟨-, rfl⟩ := hr.unique (.refl s) rfl
    rfl
  | cons f rest ih =>
    rw [List.forall_mem_cons] at nested hz
    cases hold with
    | cons hstale hothers =>
      cases hslots with
      | cons hslot hnext =>
        cases hw with
        | cons ha hb =>
          obtain ⟨hfirst, hafter⟩ := Registry.not_crowded_cons hfew
          obtain ⟨u, hread, hrest⟩ := hr.split
          have hfield := refillField_restores keyed restores nested.1 hz.1 hstale hslot hfirst ha
            hread hn
          have hfields := ih nested.2 hz.2 hothers hnext hafter hb hrest (hn.passes ⟨_, hread⟩)
          simp only [refillFields, hfield, Refill.inField, labelled, Except.mapError_ok, hfields]
          rfl

end

namespace Registry

variable {reg : Registry}

/-- What was written of an element is read into any slot of its type. -/
theorem refillElement_restores (keyed : reg.IsKeyed) (n : Nat) : reg.RestoresWithin n := by
  rintro owner type r old slot bytes s t nested hz hold ⟨hslot, hfew⟩ hw hr hn
  rcases reg.type_cases owner type with ⟨p, rfl⟩ | ⟨e, hk, he⟩ | ⟨m, hm⟩
  · obtain ⟨stale, hp, rfl⟩ := hold.eq_datum
    obtain ⟨d, rfl, rfl⟩ := hslot.eq_datum
    cases hw with
    | datum hd =>
      have hstep := refillElement_primitive reg n stale s
      rw [hp, Datum.refill_of_encode hp hd hr] at hstep
      exact hstep
  · obtain ⟨zero, hz⟩ := hz
    rw [zeroElement_unresolved hk he] at hz
    cases hz
  · obtain ⟨hkey, hfind⟩ := key_of_resolve_keyed keyed hm
    obtain ⟨olds, holds, rfl⟩ := hold.eq_record hkey hfind
    obtain ⟨slots, hslots, rfl⟩ := hslot.eq_record hkey hfind
    cases r with
    | zero =>
      obtain ⟨zero, hz⟩ := hz
      rw [zeroElement_zero hm] at hz
      cases hz
    | succ r =>
      -- the zero value of a message needs one more than those of its fields, which pays for this
      -- level of nesting even if no byte is taken
      rw [zeroElement_succ_ok_iff hm, zeroFields_ok_iff] at hz
      rw [Affords] at hn
      cases n with
      | zero => omega
      | succ n =>
        cases hw with
        | record hall =>
          have hmember : ¬reg.CrowdedMember m.package m.fields slots := by
            rintro ⟨member, hmem, hc⟩
            exact hfew (.member hm hmem hc)
          have hfields := refillFields_restores keyed (refillElement_restores keyed n)
            (fun f hf => nested.field hm hf) hz holds hslots hmember hall hr
            (by rw [Affords]; omega)
          rw [kind_of_resolve hm, refillElement_message hfind, hfields]
          rfl

/-- The bytes of some slots are read into any others of the same message. -/
theorem deserialize_of_allWrittenAs (keyed : reg.IsKeyed) {name : String} {m : Message}
    (hm : reg.find? name = some m) (nested : ∀ f ∈ m.fields, reg.FinitelyNested m.package f.type)
    {slots old : List Slot} {bytes : Bytes} (hslots : reg.HoldsFields m.package m.fields slots)
    (hall : Slot.AllWrittenAs slots bytes) (hfew : ¬reg.CrowdedMember m.package m.fields slots)
    (hold : reg.HoldsFields m.package m.fields old) (rest : Bytes) :
    reg.deserialize (.record name old) (bytes ++ rest)
      = ⟨.record name slots, .ok (), ⟨rest, bytes.length, .ended⟩⟩ := by
  have hread := Source.reads_front bytes rest
  have hfields := refillFields_restores keyed
    (refillElement_restores keyed (reg.nestingBudget (bytes ++ rest).length)) nested
    (fun f hf _ => (nested f hf).isFinite.zeroOf_ok) hold hslots hfew hall hread (Nat.le_of_eq rfl)
  rw [deserialize, readElement, refillElement_message hm]
  rw [Source.ofBytes] at hfields ⊢
  rw [hfields]
  rfl

/-- **What was written is read into any instance.**  Whatever an instance of the type holds, it
becomes the one that was written, and what is behind the bytes is left unread. -/
theorem deserialize_restores (keyed : reg.IsKeyed) {name : String} {m : Message}
    (hm : reg.find? name = some m) (nested : ∀ f ∈ m.fields, reg.FinitelyNested m.package f.type)
    {slots old : List Slot} {bytes : Bytes} (hslots : reg.HoldsFields m.package m.fields slots)
    (hb : (Slot.record name slots).toBytes reg = .ok bytes)
    (hfew : ¬reg.CrowdedMember m.package m.fields slots)
    (hold : reg.HoldsFields m.package m.fields old) (rest : Bytes) :
    reg.deserialize (.record name old) (bytes ++ rest)
      = ⟨.record name slots, .ok (), ⟨rest, bytes.length, .ended⟩⟩ := by
  have hall := Slot.allWrittenAs_of_toBytes hm hslots hb
  exact deserialize_of_allWrittenAs keyed hm nested hslots hall hfew hold rest

end Registry

namespace Forest

theorem finitelyNested {m : Message} (hm : registry.Registered m) {f : Field} (hf : f ∈ m.fields) :
    registry.FinitelyNested m.package f.type :=
  isEmittable.zeros.finitelyNested isClosed (isClosed m hm f hf)

/-- A grove is read, from in front of other bytes, into a tree that holds another label and no
trees. -/
theorem deserialize_stale : registry.IsKeyed ∧ registry.find? "forest/Tree" = some tree ∧
    (∀ f ∈ tree.fields, registry.FinitelyNested tree.package f.type) ∧
    registry.HoldsFields tree.package tree.fields groveSlots ∧
    (Slot.record "forest/Tree" groveSlots).toBytes registry = .ok grove ∧
    ¬registry.CrowdedMember tree.package tree.fields groveSlots ∧
    registry.HoldsFields tree.package tree.fields
      [.record "forest/Leaf" (leafSlots true "stale"), markSlots, .sequence []] ∧
    registry.deserialize (.record "forest/Tree"
        [.record "forest/Leaf" (leafSlots true "stale"), markSlots, .sequence []]) (grove ++ [7, 7])
      = ⟨.record "forest/Tree" groveSlots, .ok (), ⟨[7, 7], 28, .ended⟩⟩ := by
  have nested : ∀ f ∈ tree.fields, registry.FinitelyNested tree.package f.type :=
    fun f hf => finitelyNested ⟨_, find?_tree⟩ hf
  have hfew : ¬registry.CrowdedMember tree.package tree.fields groveSlots :=
    Registry.not_crowdedMember_of_longest (by decide)
  have hstale : registry.HoldsFields tree.package tree.fields
      [.record "forest/Leaf" (leafSlots true "stale"), markSlots, .sequence []] :=
    holdsFields_tree true "stale" (by simp)
  exact ⟨isEmittable.keyed, find?_tree, nested, holdsFields_grove, rfl, hfew, hstale,
    Registry.deserialize_restores isEmittable.keyed find?_tree nested holdsFields_grove rfl hfew
      hstale [7, 7]⟩

end Forest

end Missive
