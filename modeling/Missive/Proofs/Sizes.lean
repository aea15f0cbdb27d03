import Missive.Proofs.Assignments
import Missive.Proofs.Readers
import Missive.Proofs.Zeros
/-!
# Declared sizes

What is between the brackets of a field is read as a number.  If it is small enough it is the size
of the array, and the size zero, in whatever way it is written, is that of an open array: it is not
told apart from brackets with nothing between them.

* `Decimal.countFrom_of_digits` -- digits are read as the number that they are, up to the limit;
* `Shape.read_digits` -- the shape of a field with brackets;
* `FieldLine.not_constant` -- a line with brackets is never read as a constant;
* `Resolver.field_of_sizedLine` -- the field of such a line, at its place in the message.
-/

namespace Missive

/-! ## Digits -/

namespace Decimal

theorem le_ofDigitChars (before : Nat) (cs : List Char) :
    before ≤ Nat.ofDigitChars 10 cs before := by
  induction cs generalizing before with
  | nil => exact Nat.le_refl _
  | cons c rest ih =>
    rw [Nat.ofDigitChars_cons]
    have hrest := ih (10 * before + (c.toNat - '0'.toNat))
    omega

/-- Digits are read as the number that they are, unless this is beyond the limit. -/
theorem countFrom_of_digits {before : Nat} {cs : List Char} (hbefore : before < countLimit)
    (h : ∀ c ∈ cs, c.isDigit = true) :
    countFrom before cs
      = if Nat.ofDigitChars 10 cs before < countLimit then .ok (Nat.ofDigitChars 10 cs before)
        else .error .tooLarge := by
  induction cs generalizing before with
  | nil => exact (if_pos hbefore).symm
  | cons c rest ih =>
    have hc : digit? c = some (c.toNat - '0'.toNat) := by
      rw [digit?, if_pos (h c List.mem_cons_self)]
    rw [countFrom, hc, Nat.ofDigitChars_cons, Nat.mul_comm 10 before]
    show (if before * 10 + (c.toNat - '0'.toNat) < countLimit then _ else _) = _
    by_cases hnext : before * 10 + (c.toNat - '0'.toNat) < countLimit
    · rw [if_pos hnext, ih hnext fun d hd => h d (List.mem_cons_of_mem c hd)]
    · have hle := le_ofDigitChars (before * 10 + (c.toNat - '0'.toNat)) rest
      rw [if_neg hnext, if_neg (by omega)]

/-- A count of digits only is read from its first digit on. -/
theorem readCount_of_digits {cs : List Char} (hne : cs ≠ []) (h : ∀ c ∈ cs, c.isDigit = true) :
    readCount cs = countFrom 0 cs := by
  obtain ⟨c, rest, rfl⟩ := List.exists_cons_of_ne_nil hne
  have hplus : c ≠ '+' := by
    rintro rfl
    exact absurd (h '+' List.mem_cons_self) (by decide)
  rw [readCount.eq_def]
  split
  · rename_i heq
    cases heq
  · rename_i heq
    exact absurd (List.cons.inj heq).1 hplus
  · rename_i heq
    exact absurd (List.cons.inj heq).1 hplus
  · rfl

end Decimal

/-! ## Brackets -/

/-- The number between the brackets of a field; nothing counts as zero. -/
def sizeOf (digits : List Char) : Nat :=
  Nat.ofDigitChars 10 digits 0

/-- The shape of an array with this number between its brackets: zero does not declare a size. -/
def Shape.ofSize : Nat → Shape
  | 0 => .many
  | n + 1 => .exactly (n + 1)

/-- The shape that brackets declare. -/
theorem Shape.read_digits {digits : List Char} (h : ∀ c ∈ digits, c.isDigit = true) :
    Shape.read (some (String.ofList digits))
      = if sizeOf digits < Decimal.countLimit then .ok (Shape.ofSize (sizeOf digits))
        else .error (.arraySize (String.ofList digits) .tooLarge) := by
  cases digits with
  | nil => rfl
  | cons c rest =>
    have hcount : Decimal.readCount (c :: rest)
        = if sizeOf (c :: rest) < Decimal.countLimit then .ok (sizeOf (c :: rest))
          else .error .tooLarge :=
      (Decimal.readCount_of_digits (List.cons_ne_nil c rest) h).trans
        (Decimal.countFrom_of_digits (by decide) h)
    rw [Shape.read.eq_def]
    split
    · rename_i heq
      cases heq
    · rename_i heq
      have hnil := congrArg String.toList (Option.some.inj heq)
      rw [String.toList_ofList] at hnil
      cases hnil
    · rename_i text _ heq
      obtain rfl := Option.some.inj heq
      rw [String.toList_ofList, hcount]
      by_cases hlimit : sizeOf (c :: rest) < Decimal.countLimit
      · rw [if_pos hlimit, if_pos hlimit]
        cases sizeOf (c :: rest) <;> rfl
      · rw [if_neg hlimit, if_neg hlimit]

/-- Behind the type of a constant there is a gap, and no bracket. -/
theorem FieldLine.not_constant {l : FieldLine} {digits : List Char} (h : l.digits = some digits) :
    ¬∃ k : ConstantLine, k.text = l.text := by
  rintro ⟨k, hk⟩
  have hrest := (append_unique_of_stops k.type_run.all l.type_run.all k.type_stops l.type_stops
    hk).2
  obtain ⟨c, gap, hgap⟩ := List.exists_cons_of_ne_nil k.gap_run.ne_nil
  have hc : isGap c = true := k.gap_run.all c (hgap ▸ List.mem_cons_self)
  rw [hgap, h] at hrest
  obtain rfl : c = '[' := (List.cons.inj hrest).1
  cases hc

/-! ## The field of a line -/

theorem Except.exists_of_mapM {ε α β : Type} {f : α → Except ε β} {items : List α} {out : List β}
    (h : items.mapM f = .ok out) {a : α} (ha : a ∈ items) : ∃ b ∈ out, f a = .ok b := by
  induction items generalizing out with
  | nil => cases ha
  | cons first rest ih =>
    obtain ⟨b, bs, hb, hbs, rfl⟩ := mapM_cons_eq_ok_iff.1 h
    rcases List.mem_cons.1 ha with rfl | ha
    · exact ⟨b, List.mem_cons_self, hb⟩
    · obtain ⟨b', hmem, hb'⟩ := ih hbs ha
      exact ⟨b', List.mem_cons_of_mem b hmem, hb'⟩

namespace Resolver

variable (r : Resolver)

theorem shape_of_field {name token : String} {count path : Option String}
    {resolution : Resolution} (h : r.field name token count path = .ok resolution) :
    resolution.field.name = name ∧ resolution.field.typeToken = token ∧
      Shape.read count = .ok resolution.field.shape := by
  obtain ⟨_, _, hshape, -, rfl⟩ := field_eq_ok_iff.1 h
  exact ⟨rfl, rfl, hshape⟩

/-- What a line with brackets declares. -/
theorem readLine_of_digits {l : FieldLine} {digits : List Char} (h : l.digits = some digits)
    {e : Entry} (hread : r.readLine l.text = .ok e) :
    ∃ f, e.field? = some f ∧ f.name = String.ofList l.name ∧
      f.typeToken = String.ofList l.type ∧ sizeOf digits < Decimal.countLimit ∧
      f.shape = Shape.ofSize (sizeOf digits) := by
  rw [r.readLine_fieldLine l (FieldLine.not_constant h)] at hread
  obtain ⟨resolution, hfield, rfl⟩ := Except.map_eq_ok_iff.1 hread
  obtain ⟨hname, htoken, hshape⟩ := r.shape_of_field hfield
  rw [h, Option.map_some, Shape.read_digits (l.digits_all digits h)] at hshape
  refine ⟨resolution.field, rfl, hname, htoken, ?_⟩
  by_cases hlimit : sizeOf digits < Decimal.countLimit
  · rw [if_pos hlimit] at hshape
    exact ⟨hlimit, (Except.ok.inj hshape).symm⟩
  · rw [if_neg hlimit] at hshape
    cases hshape

/-- A line with brackets has a field of the message, whose shape is that of the number in them. -/
theorem field_of_sizedLine {name text : String} {m : Message}
    (hread : r.readMessageText name text = .ok m) {l : FieldLine} {digits : List Char}
    (h : l.digits = some digits) (hmem : l.text ∈ significantLines text.toList) :
    ∃ before f after, m.fields = before ++ f :: after ∧ f.name = String.ofList l.name ∧
      f.typeToken = String.ofList l.type ∧ sizeOf digits < Decimal.countLimit ∧
      f.shape = Shape.ofSize (sizeOf digits) := by
  obtain ⟨entries, hentries, rfl⟩ := readMessageText_eq_ok_iff.1 hread
  obtain ⟨e, hmem, he⟩ := Except.exists_of_mapM hentries hmem
  obtain ⟨before, after, rfl⟩ := List.append_of_mem hmem
  obtain ⟨f, hf, hrest⟩ := r.readLine_of_digits h he
  refine ⟨before.filterMap Entry.field?, f, after.filterMap Entry.field?, ?_, hrest⟩
  show (before ++ e :: after).filterMap Entry.field? = _
  rw [List.filterMap_append, List.filterMap_cons_some hf]

end Resolver

end Missive
