import Missive.Kind
import Missive.Time
import Missive.Decimal.Binary
/-!
# Values

What a field can hold.  A `Datum` is one primitive element; a `Value` may also be a compound,
with named members, or a list.

* `Datum`, `Datum.primitive`, `Datum.zero` -- elements, their primitives and zero values;
* `Value` -- elements, compounds and lists;
* `Value.agrees` -- equality: floating-point numbers compare as numbers, members by name;
* `Value.asUnsigned?` and its kin -- narrow views of a value.

Floating-point numbers are kept as bit patterns.
-/

namespace Missive

/-- One primitive element. -/
inductive Datum where
  | bool (b : Bool)
  | int8 (n : Int8)
  | uint8 (n : UInt8)
  | int16 (n : Int16)
  | uint16 (n : UInt16)
  | int32 (n : Int32)
  | uint32 (n : UInt32)
  | int64 (n : Int64)
  | uint64 (n : UInt64)
  | float32 (bits : UInt32)
  | float64 (bits : UInt64)
  | string (text : String)
  | time (t : Time)
  | duration (d : Duration)
  deriving DecidableEq, Repr

namespace Datum

/-- The primitive of an element. -/
def primitive : Datum → Primitive
  | bool _ => .bool
  | int8 _ => .int8
  | uint8 _ => .uint8
  | int16 _ => .int16
  | uint16 _ => .uint16
  | int32 _ => .int32
  | uint32 _ => .uint32
  | int64 _ => .int64
  | uint64 _ => .uint64
  | float32 _ => .float32
  | float64 _ => .float64
  | string _ => .string
  | time _ => .time
  | duration _ => .duration

/-- The zero value of a primitive. -/
def zero : Primitive → Datum
  | .bool => bool false
  | .int8 => int8 0
  | .uint8 => uint8 0
  | .int16 => int16 0
  | .uint16 => uint16 0
  | .int32 => int32 0
  | .uint32 => uint32 0
  | .int64 => int64 0
  | .uint64 => uint64 0
  | .float32 => float32 0
  | .float64 => float64 0
  | .string => string ""
  | .time => time ⟨0, 0⟩
  | .duration => duration ⟨0, 0⟩

@[simp]
theorem primitive_zero (p : Primitive) : (zero p).primitive = p := by
  cases p <;> rfl

/-- Equality of elements; floating-point numbers are compared as numbers. -/
def agrees : Datum → Datum → Bool
  | float32 a, float32 b => Decimal.equalBits Decimal.binary32 a.toNat b.toNat
  | float64 a, float64 b => Decimal.equalBits Decimal.binary64 a.toNat b.toNat
  | a, b => a == b

end Datum

/-- A value: an element, a compound with members in some order, or a list. -/
inductive Value where
  | datum (d : Datum)
  | struct (members : List (String × Value))
  | list (items : List Value)

instance : Inhabited Value := ⟨.list []⟩

/-- The members of a compound value. -/
abbrev Members := List (String × Value)

namespace Value

mutual

/-- Equality of values. -/
def agrees : Value → Value → Bool
  | datum a, datum b => a.agrees b
  | struct as, struct bs => as.length == bs.length && agreesMembers as bs
  | list as, list bs => agreesItems as bs
  | _, _ => false

/-- Whether every member has an equal one of its name on the other side. -/
def agreesMembers : List (String × Value) → List (String × Value) → Bool
  | [], _ => true
  | (name, a) :: rest, bs =>
    (match bs.lookup name with
      | some b => agrees a b
      | none => false) && agreesMembers rest bs

/-- Whether two lists are equal item by item. -/
def agreesItems : List Value → List Value → Bool
  | [], [] => true
  | a :: as, b :: bs => agrees a b && agreesItems as bs
  | _, _ => false

end

/-- The zero value of a kind; messages have none here. -/
def zero : Kind → Option Value
  | .primitive p => some (datum (.zero p))
  | .message => none

/-- The name of a value's shape, as error texts give it. -/
def shapeName : Value → String
  | datum d => d.primitive.name
  | struct _ => "struct"
  | list _ => "list"

/-- The element of a value that is one. -/
def asDatum? : Value → Option Datum
  | datum d => some d
  | _ => none

/-- The members of a compound. -/
def asStruct? : Value → Option Members
  | struct members => some members
  | _ => none

/-- The items of a list. -/
def asList? : Value → Option (List Value)
  | list items => some items
  | _ => none

/-- An unsigned integer of any width. -/
def asUnsigned? : Value → Option Nat
  | datum (.uint8 n) => some n.toNat
  | datum (.uint16 n) => some n.toNat
  | datum (.uint32 n) => some n.toNat
  | datum (.uint64 n) => some n.toNat
  | _ => none

/-- An integer that fits 64 signed bits. -/
def asSigned? : Value → Option Int
  | datum (.int8 n) => some n.toInt
  | datum (.int16 n) => some n.toInt
  | datum (.int32 n) => some n.toInt
  | datum (.int64 n) => some n.toInt
  | v => (v.asUnsigned?.filter (· < 9223372036854775808)).map Int.ofNat

/-- A single-precision number. -/
def asFloat32? : Value → Option UInt32
  | datum (.float32 bits) => some bits
  | _ => none

/-- A number in double precision. -/
def asFloat64? : Value → Option UInt64
  | datum (.float64 bits) => some bits
  | datum (.float32 bits) => some (Decimal.widen bits)
  | _ => none

/-- A text. -/
def asText? : Value → Option String
  | datum (.string text) => some text
  | _ => none

/-- A point in time. -/
def asTime? : Value → Option Time
  | datum (.time t) => some t
  | _ => none

end Value

end Missive
