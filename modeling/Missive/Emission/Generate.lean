import Missive.Code.Formatter
import Missive.Emission.Assembly
/-!
# Generating code

From the bytes of a definition to the text of a file: a banner and the formatted code, whatever the
formatter.

* `DefinitionKind` -- messages and services;
* `banner`, `finish` -- the text of a file;
* `emitMessage`, `emitService` -- the text for a definition that has been read;
* `Config.generate`, `Config.generateNotices` -- reading and emitting in one go.
-/

namespace Missive

/-- The two kinds of definitions. -/
inductive DefinitionKind where
  | message
  | service
  deriving DecidableEq, Repr

namespace DefinitionKind

/-- The name of a kind. -/
def name : DefinitionKind → String
  | message => "msg"
  | service => "srv"

/-- The package of definitions for which none is given. -/
def defaultPackage : DefinitionKind → String
  | message => "msgs"
  | service => "srvs"

/-- The kind of this name. -/
def ofName? (text : String) : Option DefinitionKind :=
  if text == message.name then some message
  else if text == service.name then some service
  else none

/-- The wording for a text that is the name of no kind. -/
def unknownMessage (text : String) : String :=
  s!"unrecognized generator: {text} (expected {message.name} or {service.name})"

end DefinitionKind

/-- The name of the program, as emitted files give it. -/
def programName : String := "rosgen"

/-- The comment above emitted code, which names the file it was made from. -/
def banner (source : String) : String :=
  "// Code generated by " ++ programName ++ ".\n// source: " ++ source
    ++ "\n// DO NOT EDIT!\n\n"

/-- The text of a file: the banner and the formatted code, if the unformatted text is code. -/
def finish (formatter : Code.Formatter) (source : String) (file : Code.File) :
    Except EmitError String :=
  match formatter.format? file with
  | some text => .ok (banner source ++ text)
  | none => .error (.invalidSource file.raw)

/-- The text of a message's file. -/
def emitMessage (config : Config) (formatter : Code.Formatter) (source : String) (m : Message) :
    Except EmitError String := do
  finish formatter source (← m.file config)

/-- The text of a service's file. -/
def emitService (config : Config) (formatter : Code.Formatter) (source : String) (s : Service) :
    Except EmitError String := do
  finish formatter source (← s.file config)

/-- Why no code is generated. -/
inductive GenerateError where
  | definition (e : DefinitionError)
  | emission (e : EmitError)
  deriving DecidableEq, Repr

namespace GenerateError

/-- The wording of an error. -/
def message : GenerateError → String
  | definition e => s!"failed to parse spec: {e.message}"
  | emission e => s!"failed to generate source: {e.message}"

/-- The wordings of the causes behind an error, the nearest first. -/
def causes : GenerateError → List String
  | definition e => e.message :: e.causes
  | emission e => [e.message]

end GenerateError

/-- A definition to generate code for: its names, the name of the file it stands in, and its
bytes. -/
structure Request where
  kind : DefinitionKind
  package : String
  name : String
  source : String
  bytes : Bytes

namespace Config

/-- The generated text for a definition. -/
def generate (config : Config) (formatter : Code.Formatter) (r : Request) :
    Except GenerateError String :=
  let resolver : Resolver := ⟨config, r.package⟩
  match r.kind with
  | .message => do
    let m ← (resolver.readMessage r.name r.bytes).mapError .definition
    (emitMessage config formatter r.source m).mapError .emission
  | .service => do
    let s ← (resolver.readService r.name r.bytes).mapError .definition
    (emitService config formatter r.source s).mapError .emission

/-- The notices of reading a definition. -/
def readNotices (config : Config) (r : Request) : List Notice :=
  let resolver : Resolver := ⟨config, r.package⟩
  match r.kind with
  | .message => resolver.messageNotices r.name r.bytes
  | .service => resolver.serviceNotices r.name r.bytes

/-- The notice about generated code. -/
def generatedNotice (r : Request) (code : String) : Notice :=
  ⟨.generation, .debug, s!"generated {code.utf8ByteSize} bytes for {r.package}/{r.name}"⟩

/-- The notices of generating code. -/
def generateNotices (config : Config) (formatter : Code.Formatter) (r : Request) : List Notice :=
  config.readNotices r
    ++ (match config.generate formatter r with
        | .ok code => [generatedNotice r code]
        | .error _ => [])

end Config

end Missive
