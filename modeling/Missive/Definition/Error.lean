import Missive.Decimal.Integer
import Missive.Text.Utf8
/-!
# Errors in definitions

* `DefinitionError` -- the ways in which a definition text can be wrong;
* `DefinitionError.message` -- their wording.
-/

namespace Missive

/-- Why a definition cannot be read. -/
inductive DefinitionError where
  /-- A line is neither a constant nor a field. -/
  | unrecognizedLine (line : String)
  /-- The number between an array's brackets is no count. -/
  | arraySize (digits : String) (cause : Decimal.CountFault)
  /-- A type token does not have the form of a name or of a package and a name. -/
  | invalidType (token : String)
  /-- A service text does not have two sections. -/
  | sectionCount (found : Nat)
  /-- The bytes are no text. -/
  | encoding (fault : Text.Utf8.Fault)
  deriving DecidableEq, Repr

namespace DefinitionError

/-- The wording of an error. -/
def message : DefinitionError → String
  | unrecognizedLine line => s!"unrecognized msg line: {line}"
  | arraySize digits cause => s!"invalid array size '{digits}': {cause.message}"
  | invalidType token => s!"invalid type name: {token}"
  | sectionCount found =>
    s!"srv definition must have 2 sections separated by '---', found {found}"
  | encoding fault => s!"definition is not valid UTF-8: {fault.message}"

/-- The wordings of the causes behind an error, the nearest first. -/
def causes : DefinitionError → List String
  | arraySize _ cause => [cause.message]
  | encoding fault => [fault.message]
  | _ => []

end DefinitionError

end Missive
