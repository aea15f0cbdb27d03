import Missive.Decimal.Integer
import Missive.Decimal.Shortest
/-!
# Decimal literals of floating-point numbers

Reading and writing of floating-point numbers as text.

* `Literal`, `readLiteral` -- the accepted texts: digits with an optional point and exponent, and
  the names of infinity and NaN in any case;
* `Format.ofLiteral` -- the nearest number;
* `Layout.write` -- the text of a finite number, under a record of the format's decisions;
* `constantLayout` -- the decisions for constants in emitted code.
-/

namespace Missive.Decimal

/-- A number as it was written. -/
inductive Literal where
  /-- Digits times a power of ten; `length` is how many digits there are, without leading zeros. -/
  | decimal (negative : Bool) (digits : Nat) (length : Nat) (power : Int)
  | infinite (negative : Bool)
  | nan
  deriving DecidableEq, Repr

/-- The exponent after its mark: an optional sign and at least one digit. -/
def readExponent : List Char → Option Int :=
  signed?

/-- A number made of these digits. -/
def ofDigits (negative : Bool) (digits : List Char) (power : Int) : Literal :=
  .decimal negative ((digitsValue 0 digits).getD 0) (digits.dropWhile (· == '0')).length power

/-- Digits, an optional point with digits, an optional exponent; at least one digit before the
exponent. -/
def readUnsigned (negative : Bool) (cs : List Char) : Option Literal :=
  let whole := cs.takeWhile Char.isDigit
  let rest := cs.dropWhile Char.isDigit
  let (part, tail) :=
    match rest with
    | '.' :: after => (after.takeWhile Char.isDigit, after.dropWhile Char.isDigit)
    | _ => ([], rest)
  let digits := whole ++ part
  if digits.isEmpty then none
  else
    match tail with
    | [] => some (ofDigits negative digits (-part.length))
    | mark :: exponent =>
      if mark == 'e' || mark == 'E' then
        (readExponent exponent).map fun e => ofDigits negative digits (e - part.length)
      else none

/-- A literal without its sign. -/
def readMagnitude (negative : Bool) (cs : List Char) : Option Literal :=
  let name := String.ofList (cs.map Char.toLower)
  if name == "inf" || name == "infinity" then some (.infinite negative)
  else if name == "nan" then some .nan
  else readUnsigned negative cs

/-- A literal with an optional sign. -/
def readLiteral : List Char → Option Literal
  | '+' :: rest => readMagnitude false rest
  | '-' :: rest => readMagnitude true rest
  | cs => readMagnitude false cs

namespace Format

/-- The bit pattern nearest to `digits` times ten to the `power`.  Far outside the range the
answer is known without computing it. -/
def nearest (f : Format) (digits length : Nat) (power : Int) : Nat :=
  if digits == 0 then 0
  else if 400 < power + length then f.infinity
  else if power + length < -400 then 0
  else if 0 ≤ power then f.round (digits * Nat.pow 10 power.toNat) 1
  else f.round digits (Nat.pow 10 (-power).toNat)

/-- The bit pattern of a literal. -/
def ofLiteral (f : Format) : Literal → Nat
  | .decimal negative digits length power =>
    (if negative then f.signBit else 0) + f.nearest digits length power
  | .infinite negative => (if negative then f.signBit else 0) + f.infinity
  | .nan => f.infinity + Nat.pow 2 (f.fraction - 1)

end Format

/-- The decisions of a text format for numbers: the powers of ten of the first digit that are
written positionally, and what marks an exponent. -/
structure Layout where
  lowest : Int
  highest : Int
  mark : Char

/-- Positional from one ten-thousandth up to below ten to the sixteenth; beyond, a lower-case `e`
and no plus sign. -/
def constantLayout : Layout := ⟨-4, 15, 'e'⟩

namespace Layout

/-- Digits around a decimal point that is always there, with at least one digit on each side. -/
def positional (digits : List Char) (e : Int) : List Char :=
  if e < 0 then
    '0' :: '.' :: (List.replicate (-e - 1).toNat '0' ++ digits)
  else
    let whole := e.toNat + 1
    let before := digits.take whole ++ List.replicate (whole - digits.length) '0'
    let after := digits.drop whole
    before ++ '.' :: (if after.isEmpty then ['0'] else after)

/-- One digit, the others after a point if there are any, and the exponent. -/
def scientific (layout : Layout) (digits : List Char) (e : Int) : List Char :=
  digits.take 1 ++ (if digits.length ≤ 1 then [] else '.' :: digits.drop 1)
    ++ layout.mark :: (toString e).toList

/-- The text of a number; infinities and NaN have their names. -/
def write (layout : Layout) (f : Format) : Number → List Char
  | .nan => ['N', 'a', 'N']
  | .infinite negative => (if negative then ['-'] else []) ++ ['i', 'n', 'f']
  | .finite negative 0 _ => (if negative then ['-'] else []) ++ ['0', '.', '0']
  | .finite negative m p =>
    let (digits, e) := shortest f m p
    (if negative then ['-'] else [])
      ++ (if layout.lowest ≤ e && e ≤ layout.highest then positional digits e
          else layout.scientific digits e)

end Layout

end Missive.Decimal
