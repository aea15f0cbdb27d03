import Missive.Definition.Service
import Missive.Text.Quoted
/-!
# Descriptors

What two endpoints tell each other about a message type before they exchange messages.

* `Descriptor` -- the name, the definition text and the fingerprint;
* `Descriptor.isCompatible` -- whether a peer's fingerprint fits;
* `Descriptor.render` -- a descriptor as diagnostics show it.
-/

namespace Missive

/-- The description of a message or service type. -/
structure Descriptor where
  name : String
  text : String
  md5sum : String
  deriving DecidableEq, Repr

/-- The fingerprint that fits every other. -/
def anyFingerprint : String := "*"

namespace Descriptor

/-- The descriptor of a message. -/
def ofMessage (m : Message) : Descriptor :=
  ⟨m.fullName, m.text, m.fingerprint⟩

/-- The descriptor of a service. -/
def ofService (s : Service) : Descriptor :=
  ⟨s.fullName, s.text, s.fingerprint⟩

/-- Whether a peer with this fingerprint understands the type. -/
def isCompatible (d : Descriptor) (md5sum : String) : Bool :=
  md5sum == d.md5sum || md5sum == anyFingerprint || d.md5sum == anyFingerprint

/-- A descriptor under the name of its sort, as diagnostics show it. -/
def render (sort : String) (d : Descriptor) : String :=
  sort ++ " \x7b name: " ++ Text.Quoted.quote d.name ++ ", md5sum: " ++ Text.Quoted.quote d.md5sum
    ++ " \x7d"

/-- A message descriptor, as diagnostics show it. -/
def renderMessage (d : Descriptor) : String :=
  d.render "MessageType"

/-- A service descriptor, as diagnostics show it. -/
def renderService (d : Descriptor) : String :=
  d.render "ServiceType"

end Descriptor

end Missive
