/-!
# Integers in decimal digits

Two readers.  `readCount` reads an unsigned 64-bit count from left to right and stops at the first
thing that is wrong; `readInteger` reads a signed number of up to 128 bits and only says whether
there is one.

* `digitsValue` -- the number that a run of digits stands for;
* `readCount`, `CountFault` -- counts, with the two ways to fail;
* `readInteger` -- signed integers.
-/

namespace Missive.Decimal

/-- The value of a decimal digit. -/
def digit? (c : Char) : Option Nat :=
  if c.isDigit then some (c.toNat - '0'.toNat) else none

/-- The number written by these digits, after those already read. -/
def digitsValue (before : Nat) : List Char → Option Nat
  | [] => some before
  | c :: rest =>
    match digit? c with
    | some d => digitsValue (before * 10 + d) rest
    | none => none

/-- Why a count cannot be read. -/
inductive CountFault where
  | invalidDigit
  | tooLarge
  deriving DecidableEq, Repr

/-- The wording of a fault. -/
def CountFault.message : CountFault → String
  | .invalidDigit => "invalid digit found in string"
  | .tooLarge => "number too large to fit in target type"

/-- One past the largest count. -/
def countLimit : Nat := 18446744073709551616

/-- Reads digits one after the other; a number that grows past the limit is noticed at the digit
where it does, before the characters after it are looked at. -/
def countFrom (before : Nat) : List Char → Except CountFault Nat
  | [] => .ok before
  | c :: rest =>
    match digit? c with
    | none => .error .invalidDigit
    | some d =>
      if before * 10 + d < countLimit then countFrom (before * 10 + d) rest else .error .tooLarge

/-- Reads a count: digits, with an optional plus sign. -/
def readCount : List Char → Except CountFault Nat
  | [] => .error .invalidDigit
  | ['+'] => .error .invalidDigit
  | '+' :: rest => countFrom 0 rest
  | cs => countFrom 0 cs

/-- The magnitude of a signed number: at least one digit. -/
def magnitude? : List Char → Option Nat
  | [] => none
  | cs => digitsValue 0 cs

/-- A signed number of any size. -/
def signed? : List Char → Option Int
  | '+' :: rest => (magnitude? rest).map Int.ofNat
  | '-' :: rest => (magnitude? rest).map fun n => -Int.ofNat n
  | cs => (magnitude? cs).map Int.ofNat

/-- One past the largest signed number. -/
def integerLimit : Int := 170141183460469231731687303715884105728

/-- A signed number that fits 128 bits. -/
def readInteger (cs : List Char) : Option Int :=
  (signed? cs).filter fun n => -integerLimit ≤ n && n < integerLimit

end Missive.Decimal
