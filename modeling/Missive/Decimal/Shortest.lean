import Missive.Decimal.Binary
/-!
# The fewest digits that read back

Among the decimal numbers that round to a given binary number we want one with as few digits as
possible, and of those the nearest; of two equally near ones the larger.  For one digit, two
digits, and so on, the value's two neighbours on that decimal grid are tested exactly.

* `Interval` -- the reals that round to a number, with the number itself in the middle;
* `shortest` -- the digits, and the power of ten of the first of them.
-/

namespace Missive.Decimal

/-- The reals that round to one binary number, over a common denominator. -/
structure Interval where
  low : Nat
  value : Nat
  high : Nat
  den : Nat
  closed : Bool

namespace Interval

/-- The interval of the number `m` times two to the `p`.  Below a power of two the neighbours lie
twice as dense. -/
def of (f : Format) (m : Nat) (p : Int) : Interval :=
  let below := if m == Nat.pow 2 f.fraction && f.lowest < p then 1 else 2
  let (unit, den) := scaled 1 1 (p - 2)
  { low := (4 * m - below) * unit
    value := 4 * m * unit
    high := (4 * m + 2) * unit
    den := den
    closed := m % 2 == 0 }

/-- Whether `num / den` lies in the interval. -/
def contains (i : Interval) (num den : Nat) : Bool :=
  let x := num * i.den
  if i.closed then i.low * den ≤ x && x ≤ i.high * den
  else i.low * den < x && x < i.high * den

end Interval

/-- The fraction `num / den` with the decimal point moved so that `d` digits stand before it, as a
pair; `e` is the power of ten of its first digit. -/
def shiftPoint (num den : Nat) (d : Nat) (e : Int) : Nat × Nat :=
  let k : Int := (d : Int) - 1 - e
  if 0 ≤ k then (num * Nat.pow 10 k.toNat, den) else (num, den * Nat.pow 10 (-k).toNat)

/-- The power of ten of the first digit of a positive fraction, searched from an estimate that is
at most one too small or too large. -/
def floorLog10 (num den : Nat) : Int :=
  let estimate : Int := floorLog2 num den * 30103 / 100000
  let atLeast (e : Int) : Bool :=
    if 0 ≤ e then den * Nat.pow 10 e.toNat ≤ num else den ≤ num * Nat.pow 10 (-e).toNat
  if atLeast (estimate + 1) then estimate + 1
  else if atLeast estimate then estimate
  else estimate - 1

/-- The neighbour on the grid of `d` digits that lies in the interval and is nearest to the value,
if one does. -/
def gridPoint (i : Interval) (d : Nat) (e : Int) : Option Nat :=
  let (num, den) := shiftPoint i.value i.den d e
  let down := num / den
  let inside (n : Nat) : Bool :=
    let k : Int := (d : Int) - 1 - e
    if 0 ≤ k then i.contains n (Nat.pow 10 k.toNat) else i.contains (n * Nat.pow 10 (-k).toNat) 1
  match inside down, inside (down + 1) with
  | true, true => if 2 * (num % den) < den then some down else some (down + 1)
  | true, false => some down
  | false, true => some (down + 1)
  | false, false => none

/-- Tries `d` digits, then one more, as often as `tries` says. -/
def shortestFrom (i : Interval) (e : Int) (d : Nat) : Nat → Nat × Nat
  | 0 => (i.value * Nat.pow 10 d / i.den, d)
  | tries + 1 =>
    match gridPoint i d e with
    | some n => (n, d)
    | none => shortestFrom i e (d + 1) tries

/-- The digits of a positive number, and the power of ten of the first.  Seventeen digits always
suffice. -/
def shortest (f : Format) (m : Nat) (p : Int) : List Char × Int :=
  let i := Interval.of f m p
  let e := floorLog10 i.value i.den
  let (n, d) := shortestFrom i e 1 17
  let digits := Nat.toDigits 10 n
  ((digits.reverse.dropWhile (· == '0')).reverse, e + ((digits.length : Int) - d))

end Missive.Decimal
