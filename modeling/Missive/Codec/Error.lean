import Missive.Definition.Error
import Missive.Wire.Error
/-!
# Errors of the codec

* `CodecError` -- why a message cannot be encoded, decoded or registered;
* `CodecError.inField` -- an error seen from outside the field it arose in;
* `CodecError.message` -- the wording.
-/

namespace Missive

/-- Why a message cannot be encoded, decoded or registered. -/
inductive CodecError where
  | wire (e : WireError)
  | definition (e : DefinitionError)
  | unknownMessage (name : String)
  | duplicate (name : String)
  /-- A value lacks a declared field; the labels around it come first. -/
  | missingField (labels : List String) (name : String)
  /-- A message contains itself with no byte in between, so that its encoding has no end. -/
  | endless (name : String)
  deriving DecidableEq, Repr

namespace CodecError

/-- The error as seen from outside the field with this label. -/
def inField (label : String) : CodecError → CodecError
  | wire e => wire (.inField label e)
  | missingField labels name => missingField (label :: labels) name
  | other => other

/-- The wording of an error. -/
def message : CodecError → String
  | wire e => e.message
  | definition e => s!"Parse: {e.message}"
  | unknownMessage name => s!"Unknown message: {name}"
  | duplicate name => s!"Duplicate message: {name}"
  | missingField labels name => "Missing field: " ++ ".".intercalate (labels ++ [name])
  | endless name => s!"Endless message: {name}"

end CodecError

/-- Adds the label of a field to the error of a result. -/
def labelled {α : Type} (label : String) (result : Except CodecError α) : Except CodecError α :=
  result.mapError (.inField label)

end Missive
