import Missive.Dictionary
/-!
# Configuration

Where emitted code finds the wire runtime, and the modules of other packages.

* `Config` -- the two settings;
* `Config.withRuntime`, `Config.standard` -- the defaults.
-/

namespace Missive

/-- The settings of a generator. -/
structure Config where
  /-- The path of the wire runtime, as seen from emitted code. -/
  runtime : String
  /-- The module path of each known package. -/
  imports : Dictionary String

namespace Config

/-- The package of the bundled definitions. -/
def bundledPackage : String := "std_msgs"

/-- Packages whose types are expected beside the emitted code. -/
def wellKnown : List String :=
  ["actionlib_msgs", "common_msgs", "control_msgs", "diagnostic_msgs", "geometry_msgs", "map_msgs",
   "nav_msgs", "rosgraph_msgs", "sensor_msgs", "shape_msgs", "smach_msgs", "stereo_msgs",
   "tf2_msgs", "trajectory_msgs", "visualization_msgs"]

/-- The defaults for this runtime path. -/
def withRuntime (runtime : String) : Config where
  runtime := runtime
  imports := Dictionary.ofList
    ((bundledPackage, s!"{runtime}::msgs::{bundledPackage}")
      :: wellKnown.map fun package => (package, s!"crate::msgs::{package}"))

/-- The runtime path used when none is set. -/
def standardRuntime : String := "rosgen"

/-- The configuration used when none is given. -/
def standard : Config :=
  withRuntime standardRuntime

/-- The module path of a package, if it is known. -/
def importPath? (c : Config) (package : String) : Option String :=
  c.imports.find? package

end Config

end Missive
