import Missive.Decimal.Literal
import Missive.Definition.Field
import Missive.Emission.Error
import Missive.Text.Blank
import Missive.Text.Quoted
/-!
# Literals of constants

The value of a constant is checked against its declared type and written as a literal.

* `Primitive.range?` -- the integers that a type holds;
* `boolLiteral?`, `integerLiteral`, `floatLiteral` -- the literals by sort of type;
* `Constant.literal` -- the type and the literal of a constant.
-/

namespace Missive

/-- The least and the largest number of an integer type. -/
def Primitive.range? : Primitive → Option (Int × Int)
  | .int8 => some (-128, 127)
  | .uint8 => some (0, 255)
  | .int16 => some (-32768, 32767)
  | .uint16 => some (0, 65535)
  | .int32 => some (-2147483648, 2147483647)
  | .uint32 => some (0, 4294967295)
  | .int64 => some (-9223372036854775808, 9223372036854775807)
  | .uint64 => some (0, 18446744073709551615)
  | _ => none

/-- The truth value that a text stands for. -/
def boolLiteral? (value : String) : Option String :=
  if value == "1" || value == "true" || value == "True" then some "true"
  else if value == "0" || value == "false" || value == "False" then some "false"
  else none

/-- The literal of an integer between two bounds. -/
def integerLiteral (token value : String) (least largest : Int) : Except ConstantFault String :=
  match Decimal.readInteger value.toList with
  | none => .error (.notInteger value)
  | some n => if n < least ∨ largest < n then .error (.outOfRange n token) else .ok (toString n)

/-- The literal of a finite number in a format. -/
def floatLiteral (token value : String) (format : Decimal.Format) :
    Except ConstantFault String :=
  match Decimal.readLiteral value.toList with
  | none => .error (.notFloat value)
  | some literal =>
    match format.number (format.ofLiteral literal) with
    | .finite negative significand power =>
      .ok (String.ofList
        (Decimal.constantLayout.write format (.finite negative significand power)))
    | _ => .error (.notFinite value token)

/-- The type of string constants in emitted code. -/
def textSource : String := "&str"

namespace Constant

/-- The literal of a trimmed value for a primitive. -/
def literalOf (p : Primitive) (token value : String) : Except ConstantFault String :=
  match p with
  | .bool => (boolLiteral? value).elim (.error (.notBool value)) .ok
  | .float32 => floatLiteral token value Decimal.binary32
  | .float64 => floatLiteral token value Decimal.binary64
  | .string => .ok (Text.Quoted.quote value)
  | .time | .duration => .error (.unsupported token)
  | p =>
    match p.range? with
    | some (least, largest) => integerLiteral token value least largest
    | none => .error (.unsupported token)

/-- The type and the literal of a constant in emitted code. -/
def literal (c : Constant) : Except ConstantFault (String × String) :=
  match Primitive.ofToken? c.typeToken with
  | none => .error (.unsupported c.typeToken)
  | some p =>
    (literalOf p c.typeToken (Text.trimText c.value)).map fun written =>
      (if p = .string then textSource else p.source, written)

end Constant

end Missive
