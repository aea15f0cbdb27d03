/-!
# Wire kinds

A field element is moved over the wire according to its kind: one of fourteen primitives, or a
message that encodes itself.

* `Primitive`, `Kind` -- the kinds, with their names;
* `Primitive.width` -- the number of bytes of the kinds that always take the same;
* `Kind.tag` -- the name of a kind's variant in emitted code;
* `Kind.ofName?_name` -- a kind is known by its name.
-/

namespace Missive

/-- The kinds of elements that are no messages. -/
inductive Primitive where
  | bool
  | int8
  | uint8
  | int16
  | uint16
  | int32
  | uint32
  | int64
  | uint64
  | float32
  | float64
  | string
  | time
  | duration
  deriving DecidableEq, Repr

namespace Primitive

/-- All primitives. -/
def all : List Primitive :=
  [bool, int8, uint8, int16, uint16, int32, uint32, int64, uint64, float32, float64, string, time,
   duration]

/-- The name of a primitive. -/
def name : Primitive → String
  | bool => "bool"
  | int8 => "int8"
  | uint8 => "uint8"
  | int16 => "int16"
  | uint16 => "uint16"
  | int32 => "int32"
  | uint32 => "uint32"
  | int64 => "int64"
  | uint64 => "uint64"
  | float32 => "float32"
  | float64 => "float64"
  | string => "string"
  | time => "time"
  | duration => "duration"

/-- The name of a primitive's variant in emitted code. -/
def tag : Primitive → String
  | bool => "Bool"
  | int8 => "Int8"
  | uint8 => "UInt8"
  | int16 => "Int16"
  | uint16 => "UInt16"
  | int32 => "Int32"
  | uint32 => "UInt32"
  | int64 => "Int64"
  | uint64 => "UInt64"
  | float32 => "Float32"
  | float64 => "Float64"
  | string => "String"
  | time => "Time"
  | duration => "Duration"

/-- The bytes an element takes, if that is the same for all of them. -/
def width : Primitive → Option Nat
  | bool | int8 | uint8 => some 1
  | int16 | uint16 => some 2
  | int32 | uint32 | float32 => some 4
  | int64 | uint64 | float64 | time | duration => some 8
  | string => none

end Primitive

/-- The kind of one field element. -/
inductive Kind where
  | primitive (p : Primitive)
  | message
  deriving DecidableEq, Repr

namespace Kind

/-- All kinds. -/
def all : List Kind :=
  Primitive.all.map primitive ++ [message]

/-- The name of a kind. -/
def name : Kind → String
  | primitive p => p.name
  | message => "message"

/-- The name of a kind's variant in emitted code. -/
def tag : Kind → String
  | primitive p => p.tag
  | message => "Message"

/-- The bytes an element takes, if that is the same for all of them. -/
def width : Kind → Option Nat
  | primitive p => p.width
  | message => none

/-- The kind of this name. -/
def ofName? (text : String) : Option Kind :=
  all.find? (·.name == text)

theorem ofName?_name (k : Kind) : ofName? k.name = some k := by
  cases k with
  | message => rfl
  | primitive p => cases p <;> rfl

end Kind

end Missive
