import Missive.Catalog
import Missive.Registry
/-!
# Registries of bundled definitions

* `Registry.registerAll` -- registering one descriptor after the other;
* `Registry.standard` -- the registry that holds the bundled package;
* `Registry.ofMessages`, `Catalog.registry` -- a registry of messages that have been read.
-/

namespace Missive

namespace Catalog

/-- The descriptors of the bundled package. -/
def descriptors : List Descriptor :=
  (bundled.filterMap Definition.message?).map Descriptor.ofMessage

end Catalog

namespace Registry

/-- Registers these descriptors, up to the first one that cannot be. -/
def registerAll (reg : Registry) : List Descriptor → Changed
  | [] => ⟨.ok (), reg⟩
  | d :: rest =>
    let changed := reg.register d
    match changed.status with
    | .error _ => changed
    | .ok () => changed.registry.registerAll rest

/-- The notices of registering these descriptors. -/
def registerAllNotices (reg : Registry) : List Descriptor → List Notice
  | [] => []
  | d :: rest =>
    reg.registerNotices d
      ++ (let changed := reg.register d
          match changed.status with
          | .error _ => []
          | .ok () => changed.registry.registerAllNotices rest)

/-- The registry that holds the bundled package. -/
def standard : Except CodecError Registry :=
  let changed := empty.registerAll Catalog.descriptors
  changed.status.map fun _ => changed.registry

/-- The notices of making the registry that holds the bundled package. -/
def standardNotices : List Notice :=
  empty.registerAllNotices Catalog.descriptors

/-- The registry of these messages, the first one of a name counting. -/
def ofMessages (messages : List Message) : Registry :=
  messages.foldl (fun reg m => (reg.insert m).registry) empty

end Registry

/-- The registry of all definitions of the catalog. -/
def Catalog.registry : Registry :=
  .ofMessages Catalog.messages

end Missive
