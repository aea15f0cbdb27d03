import Mathlib.Algebra.Group.Int.Defs
import Missive.Emission.Assembly
import Missive.Proofs.Lines
import Missive.Proofs.Readers
/-!
# Numerals of constants

The value of an integer constant may be written with a plus sign and with zeros in front.  Whatever
way it is written in, its literal is the one canonical numeral of the number, which is a value for
the same number again.  A number outside of its type has no literal, and neither has one that is
too large to be looked at, nor a text that is no numeral.

* `Denotes`, `IsCanonical` -- what a numeral stands for, and which of them are canonical;
* `Decimal.readInteger_eq_some_iff` -- the numerals that are read;
* `Denotes.eq_toString` -- every number has one canonical numeral;
* `IntegerType` -- the integer types by sign and size;
* `Constant.literal_of_integer` -- the literals of integer constants.
-/

namespace Missive

namespace Decimal

/-! ## Numerals -/

/-- The integer that is written by digits, of which there is at least one, behind an optional
sign. -/
inductive Denotes : List Char → Int → Prop
  | bare {digits : List Char} (h : IsRun Char.isDigit digits) :
    Denotes digits (Nat.ofDigitChars 10 digits 0)
  | plus {digits : List Char} (h : IsRun Char.isDigit digits) :
    Denotes ('+' :: digits) (Nat.ofDigitChars 10 digits 0)
  | minus {digits : List Char} (h : IsRun Char.isDigit digits) :
    Denotes ('-' :: digits) (-(Nat.ofDigitChars 10 digits 0))

/-- A canonical numeral has no plus sign, no zero in front of other digits, and a minus only in
front of a number that is not zero. -/
inductive IsCanonical : List Char → Prop
  | zero : IsCanonical ['0']
  | positive {digits : List Char} (h : IsRun Char.isDigit digits)
    (hlead : digits.head? ≠ some '0') : IsCanonical digits
  | negative {digits : List Char} (h : IsRun Char.isDigit digits)
    (hlead : digits.head? ≠ some '0') : IsCanonical ('-' :: digits)

/-! ## Reading numerals -/

theorem digitsValue_eq_some_iff {cs : List Char} {before n : Nat} :
    digitsValue before cs = some n ↔
      (∀ c ∈ cs, c.isDigit = true) ∧ Nat.ofDigitChars 10 cs before = n := by
  constructor
  · intro h
    have hdigits : ∀ c ∈ cs, c.isDigit = true := by
      induction cs generalizing before with
      | nil =>
        intro c hc
        cases hc
      | cons first rest ih =>
        rw [digitsValue, digit?] at h
        by_cases hfirst : first.isDigit = true
        · rw [if_pos hfirst] at h
          exact List.forall_mem_cons.2 ⟨hfirst, ih h⟩
        · rw [if_neg hfirst] at h
          cases h
    rw [digitsValue_of_digits hdigits] at h
    exact ⟨hdigits, Option.some.inj h⟩
  · intro h
    obtain ⟨hdigits, hvalue⟩ := h
    rw [digitsValue_of_digits hdigits, hvalue]

theorem magnitude?_eq_some_iff {cs : List Char} {n : Nat} :
    magnitude? cs = some n ↔ IsRun Char.isDigit cs ∧ Nat.ofDigitChars 10 cs 0 = n := by
  cases cs with
  | nil =>
    constructor
    · intro h
      cases h
    · intro h
      exact absurd rfl h.1.ne_nil
  | cons c rest =>
    show digitsValue 0 (c :: rest) = some n ↔ _
    rw [digitsValue_eq_some_iff]
    constructor
    · intro h
      exact ⟨⟨List.cons_ne_nil c rest, h.1⟩, h.2⟩
    · intro h
      exact ⟨h.1.all, h.2⟩

/-- No digit is a sign. -/
theorem not_isRun_sign {c : Char} (hc : c.isDigit = false) (rest : List Char) :
    ¬IsRun Char.isDigit (c :: rest) := by
  intro h
  have hdigit := h.all c List.mem_cons_self
  rw [hc] at hdigit
  cases hdigit

theorem signed?_eq_some_iff {cs : List Char} {n : Int} : signed? cs = some n ↔ Denotes cs n := by
  rw [signed?.eq_def]
  split
  · rename_i rest
    constructor
    · intro h
      obtain ⟨m, hm, rfl⟩ := Option.map_eq_some_iff.1 h
      obtain ⟨hrun, rfl⟩ := magnitude?_eq_some_iff.1 hm
      exact .plus hrun
    · intro h
      cases h with
      | bare hrun => exact absurd hrun (not_isRun_sign (by decide) rest)
      | plus hrun => rw [magnitude?_eq_some_iff.2 ⟨hrun, rfl⟩]; rfl
  · rename_i rest
    constructor
    · intro h
      obtain ⟨m, hm, rfl⟩ := Option.map_eq_some_iff.1 h
      obtain ⟨hrun, rfl⟩ := magnitude?_eq_some_iff.1 hm
      exact .minus hrun
    · intro h
      cases h with
      | bare hrun => exact absurd hrun (not_isRun_sign (by decide) rest)
      | minus hrun => rw [magnitude?_eq_some_iff.2 ⟨hrun, rfl⟩]; rfl
  · rename_i hplus hminus
    constructor
    · intro h
      obtain ⟨m, hm, rfl⟩ := Option.map_eq_some_iff.1 h
      obtain ⟨hrun, rfl⟩ := magnitude?_eq_some_iff.1 hm
      exact .bare hrun
    · intro h
      cases h with
      | bare hrun => rw [magnitude?_eq_some_iff.2 ⟨hrun, rfl⟩]; rfl
      | plus hrun => exact absurd rfl (hplus _)
      | minus hrun => exact absurd rfl (hminus _)

/-- Whether a number is looked at. -/
def Fits (n : Int) : Prop :=
  -2 ^ 127 ≤ n ∧ n < 2 ^ 127

instance (n : Int) : Decidable (Fits n) :=
  inferInstanceAs (Decidable (_ ∧ _))

/-- What is read is a numeral of a number that is not too large. -/
theorem readInteger_eq_some_iff {cs : List Char} {n : Int} :
    readInteger cs = some n ↔ Denotes cs n ∧ Fits n := by
  rw [readInteger, Option.filter_eq_some_iff, signed?_eq_some_iff, Bool.and_eq_true,
    decide_eq_true_iff, decide_eq_true_iff]
  rfl

/-- A numeral stands for one number. -/
theorem Denotes.unique {cs : List Char} {m n : Int} (hm : Denotes cs m) (hn : Denotes cs n) :
    m = n := by
  rw [← signed?_eq_some_iff] at hm hn
  rw [hm] at hn
  exact Option.some.inj hn

/-! ## Canonical numerals -/

theorem isRun_toDigits (n : Nat) : IsRun Char.isDigit (Nat.toDigits 10 n) :=
  ⟨Nat.toDigits_ne_nil, fun _ hc => Nat.isDigit_of_mem_toDigits (by decide) (by decide) hc⟩

/-- The digit that a character stands for. -/
theorem digit_of_isDigit {c : Char} (h : c.isDigit = true) :
    c.toNat - '0'.toNat < 10 ∧ (c.toNat - '0'.toNat).digitChar = c := by
  rw [Char.isDigit, Bool.and_eq_true, decide_eq_true_iff, decide_eq_true_iff] at h
  have hbounds : '0'.toNat ≤ c.toNat ∧ c.toNat ≤ '0'.toNat + 9 := h
  have hlt : c.toNat - '0'.toNat < 10 := by
    omega
  constructor
  · exact hlt
  · apply Char.toNat_inj.1
    rw [Nat.toNat_digitChar_of_lt_ten hlt]
    exact Nat.add_sub_of_le hbounds.1

/-- Digits without a zero in front are those of the number that they write. -/
theorem toDigits_ofDigitChars {digits : List Char} (h : IsRun Char.isDigit digits)
    (hlead : digits.head? ≠ some '0') :
    Nat.toDigits 10 (Nat.ofDigitChars 10 digits 0) = digits := by
  induction digits using List.reverseRecOn with
  | nil => exact absurd rfl h.ne_nil
  | append_singleton front c ih =>
    obtain ⟨hlt, hc⟩ := digit_of_isDigit (h.all c (by simp))
    have hvalue : Nat.ofDigitChars 10 (front ++ [c]) 0
        = 10 * Nat.ofDigitChars 10 front 0 + (c.toNat - '0'.toNat) := by
      rw [Nat.ofDigitChars_append, Nat.ofDigitChars_cons, Nat.ofDigitChars_nil]
    have hlast : Nat.toDigits 10 (c.toNat - '0'.toNat) = [c] := by
      rw [Nat.toDigits_of_lt_base hlt, hc]
    cases front with
    | nil =>
      rw [hvalue, Nat.ofDigitChars_nil, Nat.mul_zero, Nat.zero_add, hlast, List.nil_append]
    | cons first later =>
      have hfront : IsRun Char.isDigit (first :: later) :=
        ⟨List.cons_ne_nil first later, fun d hd => h.all d (List.mem_append_left _ hd)⟩
      have hdigits := ih hfront hlead
      -- zero has the digit zero only, which is not in front
      have hpos : 0 < Nat.ofDigitChars 10 (first :: later) 0 := by
        apply Nat.pos_of_ne_zero
        intro hzero
        rw [hzero, Nat.toDigits_zero] at hdigits
        rw [← hdigits] at hlead
        exact hlead rfl
      rw [hvalue, ← Nat.toDigits_append_toDigits (by decide) hpos hlt, hdigits, hlast]

theorem head?_toDigits {n : Nat} (h : n ≠ 0) : (Nat.toDigits 10 n).head? ≠ some '0' := by
  induction n using Nat.strongRecOn with
  | ind n ih =>
    by_cases hlt : n < 10
    · rw [Nat.toDigits_of_lt_base hlt]
      have hall : ∀ n < 10, n ≠ 0 → [n.digitChar].head? ≠ some '0' := by decide
      exact hall n hlt h
    · have hle : 10 ≤ n := Nat.le_of_not_lt hlt
      rw [Nat.toDigits_of_base_le (by decide) hle,
        List.head?_append_of_ne_nil _ Nat.toDigits_ne_nil]
      exact ih (n / 10) (by omega) (by omega)

theorem toString_ofNat (n : Nat) : (toString (n : Int)).toList = Nat.toDigits 10 n := by
  show n.repr.toList = _
  rw [Nat.repr_eq_ofList_toDigits, String.toList_ofList]

theorem toString_neg {n : Nat} (h : n ≠ 0) :
    (toString (-(n : Int))).toList = '-' :: Nat.toDigits 10 n := by
  obtain ⟨m, rfl⟩ := Nat.exists_eq_succ_of_ne_zero h
  show ("-" ++ m.succ.repr).toList = _
  rw [Nat.repr_eq_ofList_toDigits, String.toList_append, String.toList_ofList]
  simp

/-- The canonical numeral of a number. -/
theorem toString_canonical (n : Int) :
    IsCanonical (toString n).toList ∧ Denotes (toString n).toList n := by
  obtain ⟨m, rfl | rfl⟩ := n.eq_nat_or_neg
  · rw [toString_ofNat]
    have hdenotes := Denotes.bare (isRun_toDigits m)
    rw [Nat.ofDigitChars_ten_toDigits] at hdenotes
    refine ⟨?_, hdenotes⟩
    by_cases hm : m = 0
    · subst hm
      exact .zero
    · exact .positive (isRun_toDigits m) (head?_toDigits hm)
  · by_cases hm : m = 0
    · subst hm
      exact ⟨.zero, .bare (isRun_toDigits 0)⟩
    · rw [toString_neg hm]
      have hdenotes := Denotes.minus (isRun_toDigits m)
      rw [Nat.ofDigitChars_ten_toDigits] at hdenotes
      exact ⟨.negative (isRun_toDigits m) (head?_toDigits hm), hdenotes⟩

/-- A number has no other canonical numeral. -/
theorem Denotes.eq_toString {cs : List Char} {n : Int} (h : Denotes cs n)
    (hcanonical : IsCanonical cs) : cs = (toString n).toList := by
  cases hcanonical with
  | zero =>
    obtain rfl : n = 0 := h.unique (.bare ⟨List.cons_ne_nil _ _, List.forall_mem_singleton.2 rfl⟩)
    rfl
  | positive hrun hlead =>
    rw [h.unique (.bare hrun), toString_ofNat, toDigits_ofDigitChars hrun hlead]
  | negative hrun hlead =>
    rename_i digits
    have hdigits := toDigits_ofDigitChars hrun hlead
    have hne : Nat.ofDigitChars 10 digits 0 ≠ 0 := by
      intro hzero
      rw [hzero, Nat.toDigits_zero] at hdigits
      rw [← hdigits] at hlead
      exact hlead rfl
    rw [h.unique (.minus hrun), toString_neg hne, hdigits]

end Decimal

/-- A text without blanks is left as it is. -/
theorem Text.trim_of_blankless {cs : List Char} (h : ∀ c ∈ cs, isBlank c = false) :
    trim cs = cs := by
  have hfront (cs : List Char) (h : ∀ c ∈ cs, isBlank c = false) : cs.dropWhile isBlank = cs := by
    cases cs with
    | nil => rfl
    | cons c rest => rw [List.dropWhile_cons, h c List.mem_cons_self, if_neg Bool.false_ne_true]
  have hback : ∀ c ∈ cs.reverse, isBlank c = false := fun c hc => h c (List.mem_reverse.1 hc)
  rw [trim, trimEnd, hfront cs h, hfront cs.reverse hback, List.reverse_reverse]

namespace Decimal

/-- There is no blank in a numeral. -/
theorem Denotes.blankless {cs : List Char} {n : Int} (h : Denotes cs n) :
    ∀ c ∈ cs, Text.isBlank c = false := by
  have hdigit {c : Char} (hc : c.isDigit = true) : Text.isBlank c = false := by
    rw [← (digit_of_isDigit hc).2]
    have hall : ∀ n < 10, Text.isBlank n.digitChar = false := by decide
    exact hall _ (digit_of_isDigit hc).1
  cases h with
  | bare hrun => exact fun c hc => hdigit (hrun.all c hc)
  | plus hrun => exact List.forall_mem_cons.2 ⟨by decide, fun c hc => hdigit (hrun.all c hc)⟩
  | minus hrun => exact List.forall_mem_cons.2 ⟨by decide, fun c hc => hdigit (hrun.all c hc)⟩

end Decimal

/-! ## Integer types -/

/-- An integer type: whether its numbers have a sign, and how many bits they take. -/
structure IntegerType where
  signed : Bool
  bits : Nat
  deriving DecidableEq, Repr

namespace IntegerType

/-- The least number of a type. -/
def least (t : IntegerType) : Int :=
  if t.signed then -2 ^ (t.bits - 1) else 0

/-- The largest number of a type. -/
def largest (t : IntegerType) : Int :=
  if t.signed then 2 ^ (t.bits - 1) - 1 else 2 ^ t.bits - 1

/-- The name of a type in emitted code. -/
def source (t : IntegerType) : String :=
  (if t.signed then "i" else "u") ++ toString t.bits

/-- Whether a number is one of a type. -/
def Holds (t : IntegerType) (n : Int) : Prop :=
  t.least ≤ n ∧ n ≤ t.largest

instance (t : IntegerType) (n : Int) : Decidable (t.Holds n) :=
  inferInstanceAs (Decidable (_ ∧ _))

/-- The tokens of integer types. -/
def tokens : List (String × IntegerType) :=
  [("int8", ⟨true, 8⟩), ("byte", ⟨true, 8⟩), ("uint8", ⟨false, 8⟩), ("char", ⟨false, 8⟩),
   ("int16", ⟨true, 16⟩), ("uint16", ⟨false, 16⟩), ("int32", ⟨true, 32⟩), ("uint32", ⟨false, 32⟩),
   ("int64", ⟨true, 64⟩), ("uint64", ⟨false, 64⟩)]

variable {t : IntegerType} {token : String}

/-- The primitive of a token has the numbers of its type. -/
theorem exists_primitive (h : (token, t) ∈ tokens) : ∃ p, Primitive.ofToken? token = some p ∧
    p.range? = some (t.least, t.largest) ∧ p.source = t.source := by
  have hall : ∀ entry ∈ tokens, ∃ p ∈ Primitive.all, Primitive.ofToken? entry.1 = some p ∧
      p.range? = some (entry.2.least, entry.2.largest) ∧ p.source = entry.2.source := by
    decide
  obtain ⟨p, -, hp⟩ := hall _ h
  exact ⟨p, hp⟩

/-- A number of a type is not too large to be looked at. -/
theorem fits_of_holds (h : (token, t) ∈ tokens) {n : Int} (hn : t.Holds n) : Decimal.Fits n := by
  have hall : ∀ entry ∈ tokens, -2 ^ 127 ≤ entry.2.least ∧ entry.2.largest < 2 ^ 127 := by
    decide
  obtain ⟨hleast, hlargest⟩ := hall _ h
  exact ⟨Int.le_trans hleast hn.1, Int.lt_of_le_of_lt hn.2 hlargest⟩

end IntegerType

namespace Constant

variable {t : IntegerType} {token : String}

/-- A primitive with a range has integer literals. -/
theorem literalOf_range {p : Primitive} {least largest : Int} (h : p.range? = some (least, largest))
    (token value : String) :
    literalOf p token value = integerLiteral token value least largest := by
  cases p <;> cases h <;> rfl

theorem literal_eq (h : (token, t) ∈ IntegerType.tokens) (name value : String) :
    literal ⟨name, token, value⟩ = (integerLiteral token (Text.trimText value) t.least
      t.largest).map fun written => (t.source, written) := by
  obtain ⟨p, htoken, hrange, hsource⟩ := IntegerType.exists_primitive h
  have hstring : p ≠ .string := by
    rintro rfl
    cases hrange
  rw [literal, htoken]
  show (literalOf p token (Text.trimText value)).map _ = _
  rw [literalOf_range hrange, if_neg hstring, hsource]

/-- The literal of a numeral, if it is of a number of the type. -/
theorem literal_of_denotes (h : (token, t) ∈ IntegerType.tokens) (name : String) {value : String}
    {n : Int} (hvalue : Decimal.Denotes (Text.trim value.toList) n) (hn : t.Holds n) :
    literal ⟨name, token, value⟩ = .ok (t.source, toString n) := by
  have hread : Decimal.readInteger (Text.trimText value).toList = some n := by
    rw [Text.trimText, String.toList_ofList]
    exact Decimal.readInteger_eq_some_iff.2 ⟨hvalue, IntegerType.fits_of_holds h hn⟩
  have hinside : ¬(n < t.least ∨ t.largest < n) := by
    rw [IntegerType.Holds] at hn
    omega
  rw [literal_eq h, integerLiteral, hread]
  show (if n < t.least ∨ t.largest < n then _ else _ : Except ConstantFault String).map _ = _
  rw [if_neg hinside]
  rfl

/-- A number that is looked at and is not of the type. -/
theorem literal_of_outside (h : (token, t) ∈ IntegerType.tokens) (name : String) {value : String}
    {n : Int} (hvalue : Decimal.Denotes (Text.trim value.toList) n) (hfits : Decimal.Fits n)
    (hn : ¬t.Holds n) : literal ⟨name, token, value⟩ = .error (.outOfRange n token) := by
  have hread : Decimal.readInteger (Text.trimText value).toList = some n := by
    rw [Text.trimText, String.toList_ofList]
    exact Decimal.readInteger_eq_some_iff.2 ⟨hvalue, hfits⟩
  have houtside : n < t.least ∨ t.largest < n := by
    rw [IntegerType.Holds] at hn
    omega
  rw [literal_eq h, integerLiteral, hread]
  show (if n < t.least ∨ t.largest < n then _ else _ : Except ConstantFault String).map _ = _
  rw [if_pos houtside]
  rfl

/-- What is no numeral, or one of a number that is too large to be looked at. -/
theorem literal_of_unread (h : (token, t) ∈ IntegerType.tokens) (name : String) {value : String}
    (hvalue : ∀ n, Decimal.Denotes (Text.trim value.toList) n → ¬Decimal.Fits n) :
    literal ⟨name, token, value⟩ = .error (.notInteger (Text.trimText value)) := by
  have hread : Decimal.readInteger (Text.trimText value).toList = none := by
    rw [Text.trimText, String.toList_ofList, Option.eq_none_iff_forall_ne_some]
    intro n hn
    obtain ⟨hdenotes, hfits⟩ := Decimal.readInteger_eq_some_iff.1 hn
    exact hvalue n hdenotes hfits
  rw [literal_eq h, integerLiteral, hread]
  rfl

theorem item_of_error {c : Constant} {fault : ConstantFault} (h : c.literal = .error fault) :
    c.item = .error (.constant c.name fault) := by
  rw [item, h]

/-- **Literals of integer constants.**  For each integer type a constant has a literal exactly if
its value is, apart from blanks around it, a numeral of a number of the type, with or without a sign
and with any zeros in front.  The literal is the canonical numeral of this number; it is read as the
number again, and as a value it is its own literal.  Every other value is an error that names the
constant: a number outside of the type is reported as such, unless it is too large to be looked at,
and then it is reported like a text that is no numeral. -/
theorem literal_of_integer (h : (token, t) ∈ IntegerType.tokens) (name value : String) :
    (∀ type written, literal ⟨name, token, value⟩ = .ok (type, written) ↔
      type = t.source ∧ Decimal.IsCanonical written.toList ∧
      ∃ n, Decimal.Denotes (Text.trim value.toList) n ∧ t.Holds n ∧
        Decimal.Denotes written.toList n) ∧
    (∀ n, Decimal.Denotes (Text.trim value.toList) n → t.Holds n →
      literal ⟨name, token, value⟩ = .ok (t.source, toString n) ∧
      Decimal.readInteger (toString n).toList = some n ∧
      literal ⟨name, token, toString n⟩ = .ok (t.source, toString n)) ∧
    (∀ n, Decimal.Denotes (Text.trim value.toList) n → ¬t.Holds n →
      item ⟨name, token, value⟩ = .error (.constant name
        (if Decimal.Fits n then .outOfRange n token else .notInteger (Text.trimText value)))) ∧
    ((¬∃ n, Decimal.Denotes (Text.trim value.toList) n) →
      item ⟨name, token, value⟩
        = .error (.constant name (.notInteger (Text.trimText value)))) := by
  have hunread : (∀ n, Decimal.Denotes (Text.trim value.toList) n → ¬Decimal.Fits n) →
      item ⟨name, token, value⟩
        = .error (.constant name (.notInteger (Text.trimText value))) :=
    fun hvalue => item_of_error (literal_of_unread h name hvalue)
  have houtside : ∀ n, Decimal.Denotes (Text.trim value.toList) n → ¬t.Holds n →
      item ⟨name, token, value⟩ = .error (.constant name
        (if Decimal.Fits n then .outOfRange n token else .notInteger (Text.trimText value))) := by
    intro n hvalue hn
    by_cases hfits : Decimal.Fits n
    · rw [if_pos hfits]
      exact item_of_error (literal_of_outside h name hvalue hfits hn)
    · rw [if_neg hfits]
      apply hunread
      intro m hm
      rw [hm.unique hvalue]
      exact hfits
  refine ⟨fun type written => ?_, fun n hvalue hn => ?_, houtside, fun hnone => ?_⟩
  · constructor
    · intro hliteral
      -- in the other cases there is no literal
      by_cases hvalue : ∃ n, Decimal.Denotes (Text.trim value.toList) n ∧ t.Holds n
      · obtain ⟨n, hn, hholds⟩ := hvalue
        rw [literal_of_denotes h name hn hholds] at hliteral
        obtain ⟨rfl, rfl⟩ := Prod.mk.inj (Except.ok.inj hliteral)
        obtain ⟨hcanonical, hdenotes⟩ := Decimal.toString_canonical n
        exact ⟨rfl, hcanonical, n, hn, hholds, hdenotes⟩
      · have hitem : ∃ fault, item ⟨name, token, value⟩ = .error (.constant name fault) := by
          by_cases hnumeral : ∃ n, Decimal.Denotes (Text.trim value.toList) n
          · obtain ⟨n, hn⟩ := hnumeral
            exact ⟨_, houtside n hn fun hholds => hvalue ⟨n, hn, hholds⟩⟩
          · exact ⟨_, hunread fun n hn => absurd ⟨n, hn⟩ hnumeral⟩
        obtain ⟨fault, hfault⟩ := hitem
        rw [item, hliteral] at hfault
        cases hfault
    · intro hwritten
      obtain ⟨rfl, hcanonical, n, hn, hholds, hdenotes⟩ := hwritten
      rw [literal_of_denotes h name hn hholds]
      rw [String.toList_inj.1 (hdenotes.eq_toString hcanonical)]
  · have hdenotes := (Decimal.toString_canonical n).2
    have htrim : Text.trim (toString n).toList = (toString n).toList :=
      Text.trim_of_blankless hdenotes.blankless
    refine ⟨literal_of_denotes h name hvalue hn, ?_, ?_⟩
    · exact Decimal.readInteger_eq_some_iff.2 ⟨hdenotes, IntegerType.fits_of_holds h hn⟩
    · apply literal_of_denotes h name _ hn
      rw [htrim]
      exact hdenotes
  · exact hunread fun n hn => absurd ⟨n, hn⟩ hnone

end Constant

/-! ## Seeds -/

namespace Garden

/-- The least number of a type with blanks and zeros around it, a number that is one too large for
its type, one that is too large for all of them, and no number. -/
theorem literal_of_seeds :
    Constant.literal ⟨"SEEDS", "int64", "\t-0009223372036854775808 "⟩
      = .ok ("i64", "-9223372036854775808") ∧
    Constant.literal ⟨"SEEDS", "int64", "-9223372036854775808"⟩
      = .ok ("i64", "-9223372036854775808") ∧
    Constant.item ⟨"SEEDS", "char", "+256"⟩
      = .error (.constant "SEEDS" (.outOfRange 256 "char")) ∧
    Constant.item ⟨"SEEDS", "char", "170141183460469231731687303715884105728"⟩
      = .error (.constant "SEEDS" (.notInteger "170141183460469231731687303715884105728")) ∧
    Constant.item ⟨"SEEDS", "char", "1_0"⟩ = .error (.constant "SEEDS" (.notInteger "1_0")) := by
  have hint : ("int64", (⟨true, 64⟩ : IntegerType)) ∈ IntegerType.tokens := by decide
  have hchar : ("char", (⟨false, 8⟩ : IntegerType)) ∈ IntegerType.tokens := by decide
  obtain ⟨-, hliteral, -, -⟩ :=
    Constant.literal_of_integer hint "SEEDS" "\t-0009223372036854775808 "
  obtain ⟨hseeds, -, hagain⟩ := hliteral (-9223372036854775808)
    (Decimal.signed?_eq_some_iff.1 (by decide)) (by decide)
  obtain ⟨-, -, hlarge, -⟩ := Constant.literal_of_integer hchar "SEEDS" "+256"
  obtain ⟨-, -, hhuge, -⟩ :=
    Constant.literal_of_integer hchar "SEEDS" "170141183460469231731687303715884105728"
  obtain ⟨-, -, -, hnone⟩ := Constant.literal_of_integer hchar "SEEDS" "1_0"
  have hhuge := hhuge (2 ^ 127) (Decimal.signed?_eq_some_iff.1 (by decide)) (by decide)
  rw [if_neg (by decide)] at hhuge
  refine ⟨hseeds, hagain, hlarge 256 (Decimal.signed?_eq_some_iff.1 (by decide)) (by decide),
    hhuge, hnone ?_⟩
  have hsigned : Decimal.signed? (Text.trim "1_0".toList) = none := by decide
  intro hnumeral
  obtain ⟨n, hn⟩ := hnumeral
  rw [← Decimal.signed?_eq_some_iff, hsigned] at hn
  cases hn

end Garden

end Missive
