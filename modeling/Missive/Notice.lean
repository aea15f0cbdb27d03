/-!
# Notices

What an operation has to say beside its result: a level and a line of text.  Operations stay pure;
for each that speaks there is a second function that lists its notices.

* `Level`, `Area`, `Notice` -- the entries of a log;
* `Level.admits` -- whether a threshold lets a level through.
-/

namespace Missive

/-- How much a notice matters, the most severe level first. -/
inductive Level where
  | error
  | warn
  | info
  | debug
  | trace
  deriving DecidableEq, Repr

/-- The rank of a level, zero for the most severe. -/
def Level.rank : Level → Nat
  | .error => 0
  | .warn => 1
  | .info => 2
  | .debug => 3
  | .trace => 4

/-- The name of a level in a log. -/
def Level.name : Level → String
  | .error => "ERROR"
  | .warn => "WARN"
  | .info => "INFO"
  | .debug => "DEBUG"
  | .trace => "TRACE"

/-- Whether a log with this threshold shows notices of that level. -/
def Level.admits (threshold level : Level) : Bool :=
  level.rank ≤ threshold.rank

/-- The part of the program that a notice comes from. -/
inductive Area where
  | definitions
  | resolution
  | generation
  | registry
  deriving DecidableEq, Repr

/-- The name of a part in the settings of a log. -/
def Area.target : Area → String
  | .definitions => "rosgen::parser"
  | .resolution => "rosgen::resolve"
  | .generation => "rosgen::compiler"
  | .registry => "rosgen::codec"

/-- One entry of a log. -/
structure Notice where
  area : Area
  level : Level
  text : String
  deriving DecidableEq, Repr

namespace Notice

/-- The notices that a threshold lets through. -/
def filter (threshold : Level) (notices : List Notice) : List Notice :=
  notices.filter fun n => threshold.admits n.level

/-- An entry as a line: the level and the text. -/
def line (n : Notice) : String :=
  s!"{n.level.name} {n.text}"

end Notice

end Missive
