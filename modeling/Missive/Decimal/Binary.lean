/-!
# Binary floating-point numbers

The two interchange formats, as bit patterns.  A finite number is a significand times a power of
two, and all arithmetic here is exact.

* `Format`, `binary32`, `binary64` -- the layouts;
* `Number`, `Format.number` -- what a bit pattern stands for;
* `Format.round` -- the pattern nearest to a fraction, ties to the even significand;
* `widen` -- a single-precision pattern as a double-precision one;
* `equalBits` -- equality of numbers: a NaN differs from itself, the two zeros agree.
-/

namespace Missive.Decimal

/-- Widths of the fraction and exponent fields; one sign bit is in front of them. -/
structure Format where
  fraction : Nat
  exponent : Nat

/-- Single precision. -/
def binary32 : Format := ⟨23, 8⟩

/-- Double precision. -/
def binary64 : Format := ⟨52, 11⟩

namespace Format

/-- The exponent field of infinities and NaNs. -/
def top (f : Format) : Nat := Nat.pow 2 f.exponent - 1

/-- The power of two of the smallest positive number. -/
def lowest (f : Format) : Int :=
  2 - (Nat.pow 2 (f.exponent - 1) : Int) - f.fraction

/-- The position of the sign bit. -/
def signBit (f : Format) : Nat := Nat.pow 2 (f.fraction + f.exponent)

/-- The pattern of positive infinity. -/
def infinity (f : Format) : Nat := f.top * Nat.pow 2 f.fraction

end Format

/-- A number: its sign, and a significand times a power of two, or what is no number. -/
inductive Number where
  | finite (negative : Bool) (significand : Nat) (power : Int)
  | infinite (negative : Bool)
  | nan
  deriving DecidableEq, Repr

namespace Format

/-- What a bit pattern stands for. -/
def number (f : Format) (bits : Nat) : Number :=
  let negative := bits / f.signBit % 2 == 1
  let e := bits / Nat.pow 2 f.fraction % Nat.pow 2 f.exponent
  let m := bits % Nat.pow 2 f.fraction
  if e == f.top then
    if m == 0 then .infinite negative else .nan
  else if e == 0 then .finite negative m f.lowest
  else .finite negative (m + Nat.pow 2 f.fraction) (f.lowest + e - 1)

end Format

/-- The quotient rounded to the nearest integer, a tie to the even one. -/
def roundEven (num den : Nat) : Nat :=
  let q := num / den
  let twice := 2 * (num % den)
  if twice < den then q
  else if den < twice then q + 1
  else if q % 2 == 0 then q else q + 1

/-- A fraction times a power of two, as numerator and denominator. -/
def scaled (num den : Nat) (power : Int) : Nat × Nat :=
  if 0 ≤ power then (num * Nat.pow 2 power.toNat, den) else (num, den * Nat.pow 2 (-power).toNat)

/-- The floor of the binary logarithm of a positive fraction. -/
def floorLog2 (num den : Nat) : Int :=
  let k : Int := (Nat.log2 num : Int) - Nat.log2 den
  let (n, d) := scaled num den (-k)
  if d ≤ n then k else k - 1

namespace Format

/-- The pattern of the non-negative number nearest to `num / den`.  A significand that rounds up
to the next power of two carries into the exponent field by itself. -/
def round (f : Format) (num den : Nat) : Nat :=
  if num == 0 then 0
  else
    let power := max (floorLog2 num den - f.fraction) f.lowest
    let (n, d) := scaled num den (-power)
    let bits := (power - f.lowest).toNat * Nat.pow 2 f.fraction + roundEven n d
    min bits f.infinity

end Format

/-- A single-precision pattern in double precision.  A NaN keeps its payload and becomes quiet. -/
def widen (bits : UInt32) : UInt64 :=
  let sign : Nat := bits.toNat / binary32.signBit * binary64.signBit
  match binary32.number bits.toNat with
  | .finite _ m p =>
    let (n, d) := scaled m 1 p
    (sign + binary64.round n d).toUInt64
  | .infinite _ => (sign + binary64.infinity).toUInt64
  | .nan =>
    let payload := bits.toNat % Nat.pow 2 22
    (sign + binary64.infinity + Nat.pow 2 51 + payload * Nat.pow 2 29).toUInt64

/-- Equality of the numbers that two patterns of one format stand for. -/
def equalBits (f : Format) (a b : Nat) : Bool :=
  match f.number a, f.number b with
  | .nan, _ => false
  | _, .nan => false
  | .finite _ 0 _, .finite _ 0 _ => true
  | _, _ => a == b

end Missive.Decimal
