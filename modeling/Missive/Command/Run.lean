import Missive.Command.Arguments
import Missive.Notice.Filter
/-!
# Running the command

* `Report` -- what the program shows and how it exits;
* `failure` -- the report of an error with the causes behind it;
* `run` -- the whole program, on any file system.
-/

namespace Missive.Command

/-- What the program shows and how it exits. -/
structure Report where
  status : Nat
  output : String
  errors : String
  deriving DecidableEq, Repr

/-- The version of the program. -/
def versionText : String := programName ++ " 0.1.0"

/-- The help of the program. -/
def helpLines : List String :=
  ["Generate Rust message types from ROS-style definitions",
   "",
   "Usage: rosgen [OPTIONS] --in <FILE> <KIND>",
   "",
   "Arguments:",
   "  <KIND>  Generator to run: msg or srv",
   "",
   "Options:",
   "  -i, --in <FILE>          Input definition file",
   "  -o, --out <FILE>         Output file; defaults to '<input file>.rs'",
   "  -p, --package <PACKAGE>  Package of the definition; defaults to 'msgs' or 'srvs'",
   "      --dry-run            Print the file that would be generated to stdout",
   "  -c, --config <FILE>      TOML file with runtime path and package imports",
   "  -h, --help               Print help",
   "  -V, --version            Print version"]

/-- Each of these lines with its line end. -/
def lines (texts : List String) : String :=
  String.join (texts.map (· ++ "\n"))

/-- The controls that a log spells out because a terminal would obey them: bell, backspace, form
feed, escape and delete. -/
def terminalControls : List (Char × String) :=
  [('\x07', "\\x07"), ('\x08', "\\x08"), ('\x0c', "\\x0c"), ('\x1b', "\\x1b"),
   ('\x7f', "\\x7f")]

/-- A character of a log, spelled out if it is one of these controls or one of the upper block. -/
def logEscape (c : Char) : List Char :=
  match terminalControls.lookup c with
  | some spelled => spelled.toList
  | none => if 0x80 ≤ c.toNat ∧ c.toNat < 0xA0 then Text.Quoted.codeEscape c else [c]

/-- A notice as a line of the log, the level in a column of five. -/
def logLine (n : Notice) : String :=
  let level := n.level.name
  String.ofList (List.replicate (5 - level.length) ' ') ++ level ++ " "
    ++ String.ofList (n.text.toList.flatMap logEscape)

/-- A cause of an error behind its mark; later lines of it are indented as far. -/
def causeLine (mark cause : String) : String :=
  let indent := String.ofList (List.replicate mark.length ' ')
  let parts := (Text.pieces '\n' cause.toList).map String.ofList
  mark ++ ("\n" ++ indent).intercalate parts

/-- The causes of an error: numbered, if there are several. -/
def causeLines : List String → List String
  | [] => []
  | [cause] => ["", "Caused by:", causeLine "    " cause]
  | causes =>
    ["", "Caused by:"]
      ++ causes.zipIdx.map fun (cause, n) =>
        let digits := toString n
        causeLine (String.ofList (List.replicate (5 - digits.length) ' ') ++ digits ++ ": ") cause

/-- The report of an error and the causes behind it. -/
def failure (output message : String) (causes : List String) : Report :=
  ⟨1, output, lines (("Error: " ++ message) :: causeLines causes)⟩

/-- The report of a wrong command line. -/
def misuse : Report :=
  ⟨2, "", lines ["error: unexpected command line", "", "For more information, try '--help'."]⟩

/-- What was being done when a job failed. -/
def jobContext (job : Job) : String :=
  s!"failed to generate {job.kind.name} from {job.input.display}"

/-- The report of a job: the log, and the code if it has not been written. -/
def jobReport (filter : Notice.Filter) (job : Job) (outcome : Job.Outcome) : Report :=
  let (result, notices) := outcome
  let log := lines ((notices.filter filter.shows).map logLine)
  match result with
  | .error e => failure log (jobContext job) (e.message :: e.causes)
  | .ok product => ⟨0, if product.written then log else log ++ product.code ++ "\n", ""⟩

/-- Runs a job under a configuration. -/
def runJob {m : Type → Type} [Monad m] (files : FileAccess m) (filter : Notice.Filter)
    (config : Config) (job : Job) : m Report := do
  return jobReport filter job (← job.compile files .boxes config)

/-- Runs the program with these arguments and this setting of the log. -/
def run {m : Type → Type} [Monad m] (files : FileAccess m) (args : List String)
    (logSetting : Option String) : m Report := do
  let filter := Notice.Filter.ofSetting logSetting
  match Arguments.read args with
  | .misuse => return misuse
  | .help => return ⟨0, lines helpLines, ""⟩
  | .version => return ⟨0, lines [versionText], ""⟩
  | .compile job none => runJob files filter .standard job
  | .compile job (some path) =>
    match ← Config.load files path with
    | .error e => return failure "" e.message e.causes
    | .ok config => runJob files filter config job

end Missive.Command
