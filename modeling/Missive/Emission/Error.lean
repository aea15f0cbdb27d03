/-!
# Errors of emission

* `ConstantFault` -- why the value of a constant has no literal;
* `EmitError` -- why a definition has no emitted file;
* `ConstantFault.message`, `EmitError.message` -- the wording.
-/

namespace Missive

/-- Why the value of a constant has no literal. -/
inductive ConstantFault where
  | notBool (value : String)
  | notInteger (value : String)
  | outOfRange (n : Int) (type : String)
  | notFloat (value : String)
  | notFinite (value : String) (type : String)
  | unsupported (type : String)
  deriving DecidableEq, Repr

/-- The wording of a fault. -/
def ConstantFault.message : ConstantFault → String
  | notBool value => s!"'{value}' is not a bool"
  | notInteger value => s!"'{value}' is not an integer"
  | outOfRange n type => s!"{n} is out of range for {type}"
  | notFloat value => s!"'{value}' is not a float"
  | notFinite value type => s!"{value} is not a finite {type}"
  | unsupported type => s!"constants of type {type} are not supported"

/-- Why a definition has no emitted file. -/
inductive EmitError where
  | constant (name : String) (fault : ConstantFault)
  /-- A name hides one that emitted code relies on. -/
  | reservedName (name : String)
  /-- The unformatted text is no code. -/
  | invalidSource (code : String)
  deriving DecidableEq, Repr

/-- The wording of an error. -/
def EmitError.message : EmitError → String
  | constant name fault => s!"constant {name}: {fault.message}"
  | reservedName name => s!"{name} collides with a name generated code relies on"
  | invalidSource _ => "generated source does not parse"

end Missive
