import Missive.Definition.Name
import Missive.Kind
/-!
# Fields and constants

What one line of a definition declares, after its type has been resolved.

* `TypeRef` -- the type of an element: a primitive, a message of the owning package, or one of
  another package;
* `Shape` -- a single element, any number of them, or a fixed number;
* `Field`, `Constant` -- the declarations;
* `TypeRef.source`, `TypeRef.zeroSource` -- the type and its zero value in emitted code.
-/

namespace Missive

namespace Primitive

/-- The type of a primitive in emitted code. -/
def source : Primitive → String
  | bool => "bool"
  | int8 => "i8"
  | uint8 => "u8"
  | int16 => "i16"
  | uint16 => "u16"
  | int32 => "i32"
  | uint32 => "u32"
  | int64 => "i64"
  | uint64 => "u64"
  | float32 => "f32"
  | float64 => "f64"
  | string => "::std::string::String"
  | time => "wire::Time"
  | duration => "wire::Duration"

/-- The zero value of a primitive in emitted code. -/
def zeroSource : Primitive → String
  | bool => "false"
  | float32 | float64 => "0.0"
  | string => "::std::string::String::new()"
  | time => "wire::Time::default()"
  | duration => "wire::Duration::default()"
  | _ => "0"

/-- The type tokens of primitives; two of them are older names for the small integers. -/
def tokens : List (String × Primitive) :=
  [("bool", bool), ("byte", int8), ("char", uint8), ("int8", int8), ("uint8", uint8),
   ("int16", int16), ("uint16", uint16), ("int32", int32), ("uint32", uint32), ("int64", int64),
   ("uint64", uint64), ("float32", float32), ("float64", float64), ("string", string),
   ("time", time), ("duration", duration)]

/-- The primitive that a type token names. -/
def ofToken? (token : String) : Option Primitive :=
  tokens.lookup token

end Primitive

/-- The type of a field element.  Messages are known by the name they were declared with. -/
inductive TypeRef where
  | primitive (p : Primitive)
  /-- A message of the package that owns the field. -/
  | own (name : String)
  | foreign (package name : String)
  deriving DecidableEq, Repr

namespace TypeRef

/-- The wire kind of an element. -/
def kind : TypeRef → Kind
  | primitive p => .primitive p
  | own _ | foreign _ _ => .message

/-- Whether the type needs no definition of its own. -/
def isBuiltin : TypeRef → Bool
  | primitive _ => true
  | own _ | foreign _ _ => false

/-- The other package that a type comes from. -/
def package? : TypeRef → Option String
  | foreign package _ => some package
  | _ => none

/-- The full name under which the message of this type is registered, for a field of a message of
package `owner`. -/
def key? (owner : String) : TypeRef → Option String
  | primitive _ => none
  | own name => some s!"{owner}/{name}"
  | foreign package name => some s!"{package}/{name}"

/-- The type in emitted code. -/
def source : TypeRef → String
  | primitive p => p.source
  | own name => Name.camel name
  | foreign package name => s!"{package}::{Name.camel name}"

/-- The zero value in emitted code. -/
def zeroSource : TypeRef → String
  | primitive p => p.zeroSource
  | other => s!"{other.source}::default()"

end TypeRef

/-- How many elements a field holds. -/
inductive Shape where
  | single
  | many
  | exactly (count : Nat)
  deriving DecidableEq, Repr

namespace Shape

/-- Whether a field of this shape is an array. -/
def isArray : Shape → Bool
  | single => false
  | many | exactly _ => true

/-- The declared number of elements, zero if there is none. -/
def count : Shape → Nat
  | exactly count => count
  | single | many => 0

/-- Whether the number of elements is declared. -/
def isFixed : Shape → Bool
  | exactly _ => true
  | single | many => false

/-- Whether the number of elements is open. -/
def isOpen : Shape → Bool
  | many => true
  | single | exactly _ => false

end Shape

/-- A field of a message. -/
structure Field where
  /-- The declared name. -/
  name : String
  /-- The type as it was written. -/
  typeToken : String
  shape : Shape
  type : TypeRef
  deriving DecidableEq, Repr

/-- The label of a field in error texts. -/
def Field.label (f : Field) : String :=
  Name.camel f.name

/-- The wire kind of a field's elements. -/
def Field.kind (f : Field) : Kind :=
  f.type.kind

/-- A constant; its value stays as it was written until code is emitted. -/
structure Constant where
  name : String
  typeToken : String
  value : String
  deriving DecidableEq, Repr

/-- The derived name of a constant. -/
def Constant.label (c : Constant) : String :=
  Name.camel c.name

end Missive
