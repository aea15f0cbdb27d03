import Missive.Kind
import Missive.Text.Utf8
/-!
# Errors on the wire

* `TransferFault` -- what can go wrong in a sink or a source;
* `WireError` -- why an element cannot be written or read, with the labels of the fields around
  it;
* `WireError.root` -- the error inside of these labels;
* `WireError.message` -- the wording.
-/

namespace Missive

/-- A failure of the medium itself. -/
inductive TransferFault where
  /-- The sink takes no more bytes. -/
  | sinkFull
  | sinkFailed
  | sourceFailed
  deriving DecidableEq, Repr

/-- The wording of a failure. -/
def TransferFault.message : TransferFault → String
  | .sinkFull => "failed to write whole buffer"
  | .sinkFailed => "sink failed"
  | .sourceFailed => "source failed"

/-- Why an element cannot be written or read. -/
inductive WireError where
  | transfer (fault : TransferFault)
  /-- The input ended inside an element of this kind. -/
  | truncated (kind : Kind)
  | typeMismatch (expected : Kind) (found : String)
  /-- An array of a declared size came with another count. -/
  | arrayLength (expected found : Nat)
  /-- Too many elements that take no bytes. -/
  | elementLimit (count limit : Nat)
  /-- A length that its prefix cannot hold. -/
  | lengthOverflow (length : Nat)
  | encoding (fault : Text.Utf8.Fault)
  /-- An error inside the field with this label. -/
  | inField (label : String) (inner : WireError)
  deriving DecidableEq, Repr

namespace WireError

/-- The innermost error. -/
def root : WireError → WireError
  | inField _ inner => inner.root
  | other => other

/-- The labels of the fields around the innermost error, the outermost first. -/
def path : WireError → List String
  | inField label inner => label :: inner.path
  | _ => []

/-- The wording of an error. -/
def message : WireError → String
  | transfer fault => s!"IO: {fault.message}"
  | truncated kind => s!"truncated input while reading {kind.name}"
  | typeMismatch expected found => s!"type mismatch: expected {expected.name}, got {found}"
  | arrayLength expected found =>
    s!"fixed array length mismatch: expected {expected}, got {found}"
  | elementLimit count limit =>
    s!"{count} elements that take no bytes on the wire exceed the limit of {limit}"
  | lengthOverflow length => s!"length {length} does not fit the u32 length prefix"
  | encoding fault => s!"string is not valid UTF-8: {fault.message}"
  | inField label inner => s!"field {label}: {inner.message}"

end WireError

end Missive
