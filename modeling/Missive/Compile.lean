import Missive.Config.File
import Missive.Emission.Generate
import Missive.Files.Access
/-!
# Compiling definition files

A job reads a definition file and writes the code for it.  Nothing is written unless all of the code
has been generated.

* `ConfigError`, `Config.load` -- configurations from files;
* `Job`, `JobError`, `Product` -- what is to be done, what can go wrong, and what comes out;
* `Job.compile` -- doing it, on any file system and with any formatter.
-/

namespace Missive

/-- Why a configuration cannot be loaded. -/
inductive ConfigError where
  | file (path : Path) (fault : FileFault)
  | content (path : Path)
  deriving DecidableEq, Repr

namespace ConfigError

/-- The wording of an error. -/
def message : ConfigError → String
  | file path fault => s!"failed to read config {path.display}: {fault.message}"
  | content path => s!"invalid config {path.display}"

/-- The wordings of the causes behind an error. -/
def causes : ConfigError → List String
  | file _ fault => [fault.message]
  | content _ => []

end ConfigError

/-- The configuration in the bytes of a file. -/
def Config.ofBytes (path : Path) (bytes : Bytes) : Except ConfigError Config :=
  match Text.Utf8.decode bytes with
  | .error _ => .error (.file path .notText)
  | .ok text =>
    match Config.read? text with
    | none => .error (.content path)
    | some config => .ok config

/-- Loads a configuration file. -/
def Config.load {m : Type → Type} [Monad m] (files : FileAccess m) (path : Path) :
    m (Except ConfigError Config) := do
  match ← files.read path with
  | .error fault => return .error (.file path fault)
  | .ok bytes => return Config.ofBytes path bytes

/-- Why a job fails. -/
inductive JobError where
  | read (path : Path) (fault : FileFault)
  | write (path : Path) (fault : FileFault)
  /-- The path of the input gives the definition no name. -/
  | name (path : Path)
  | generate (e : GenerateError)
  deriving DecidableEq, Repr

namespace JobError

/-- The wording of an error. -/
def message : JobError → String
  | read path fault => s!"failed to read {path.display}: {fault.message}"
  | write path fault => s!"failed to write {path.display}: {fault.message}"
  | name path => s!"cannot derive a definition name from {path.display}"
  | generate e => e.message

/-- The wordings of the causes behind an error, the nearest first. -/
def causes : JobError → List String
  | read _ fault | write _ fault => [fault.message]
  | name _ => []
  | generate e => e.causes

end JobError

/-- A file to compile. -/
structure Job where
  kind : DefinitionKind
  input : Path
  /-- Where the code goes, if not beside the input. -/
  output : Option Path
  /-- The package of the definition, if not the default one. -/
  package : Option String
  /-- Whether nothing is to be written. -/
  dryRun : Bool
  deriving DecidableEq, Repr

/-- What a job produces. -/
structure Product where
  path : Path
  code : String
  written : Bool
  deriving DecidableEq, Repr

namespace Job

/-- The job for a file with nothing else set. -/
def ofInput (kind : DefinitionKind) (input : Path) : Job :=
  ⟨kind, input, none, none, false⟩

/-- What is added to the path of an input. -/
def outputExtension : String := ".rs"

/-- Where the code goes. -/
def outputPath (job : Job) : Path :=
  job.output.getD (job.input.extend outputExtension)

/-- The package of the definition. -/
def packageName (job : Job) : String :=
  job.package.getD job.kind.defaultPackage

/-- The name under which the code mentions the input. -/
def sourceName (job : Job) : String :=
  match job.input.fileName? with
  | some name => Text.Utf8.decodeLossy name
  | none => job.input.display

/-- The definition that a job reads from its input. -/
def request (job : Job) (name : String) (bytes : Bytes) : Request :=
  ⟨job.kind, job.packageName, name, job.sourceName, bytes⟩

/-- The notice about a written file. -/
def writtenNotice (job : Job) : Notice :=
  ⟨.generation, .info, s!"Wrote {job.outputPath.display} from {job.input.display}"⟩

/-- What a job comes to, with its notices. -/
abbrev Outcome := Except JobError Product × List Notice

/-- Writes generated code, unless nothing is to be written. -/
def store {m : Type → Type} [Monad m] (files : FileAccess m) (job : Job) (code : String)
    (notices : List Notice) : m Outcome := do
  if job.dryRun then return (.ok ⟨job.outputPath, code, false⟩, notices)
  match ← files.write job.outputPath (Text.Utf8.encode code) with
  | .error fault => return (.error (.write job.outputPath fault), notices)
  | .ok () => return (.ok ⟨job.outputPath, code, true⟩, notices ++ [job.writtenNotice])

/-- Reads the input, generates the code and writes it. -/
def compile {m : Type → Type} [Monad m] (files : FileAccess m) (formatter : Code.Formatter)
    (config : Config) (job : Job) : m Outcome := do
  match ← files.read job.input with
  | .error fault => return (.error (.read job.input fault), [])
  | .ok bytes =>
    match job.input.definitionName? with
    | none => return (.error (.name job.input), [])
    | some name =>
      let r := job.request name bytes
      let notices := config.generateNotices formatter r
      match config.generate formatter r with
      | .error e => return (.error (.generate e), notices)
      | .ok code => job.store files code notices

end Job

end Missive
