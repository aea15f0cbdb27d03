import Missive.Definition.Resolver
import Missive.Fingerprint
/-!
# Messages

A message definition, read line by line.

* `Message` -- a definition: its fields in wire order, its constants and imports;
* `Entry`, `Resolver.readLine` -- what one line contributes;
* `Message.ofEntries` -- the message made of these contributions;
* `Resolver.readMessage`, `Resolver.readMessageText` -- reading a definition;
* `Resolver.messageNotices` -- what reading it has to say.
-/

namespace Missive

/-- A message definition. -/
structure Message where
  package : String
  name : String
  /-- The text of the definition, unchanged. -/
  text : String
  /-- The fields in declaration order, which is wire order. -/
  fields : List Field
  constants : List Constant
  /-- The module path of each foreign package that was found. -/
  dependencies : Dictionary String

namespace Message

/-- The name that a message is registered under. -/
def fullName (m : Message) : String :=
  s!"{m.package}/{m.name}"

/-- The fingerprint of a message. -/
def fingerprint (m : Message) : String :=
  fingerprintText m.text

/-- Whether some field is of a builtin type. -/
def hasBuiltin (m : Message) : Bool :=
  m.fields.any (·.type.isBuiltin)

/-- Whether some field is an array. -/
def hasArray (m : Message) : Bool :=
  m.fields.any (·.shape.isArray)

/-- Whether some field is an array of a declared size. -/
def hasFixedArray (m : Message) : Bool :=
  m.fields.any (·.shape.isFixed)

/-- The first field of this name. -/
def field? (m : Message) (name : String) : Option Field :=
  m.fields.find? (·.name == name)

/-- The first constant of this name. -/
def constant? (m : Message) (name : String) : Option Constant :=
  m.constants.find? (·.name == name)

end Message

/-- What a line contributes to a message. -/
inductive Entry where
  | constant (c : Constant)
  | field (resolution : Resolution)

namespace Entry

/-- The constant of an entry. -/
def constant? : Entry → Option Constant
  | constant c => some c
  | field _ => none

/-- The field of an entry. -/
def field? : Entry → Option Field
  | constant _ => none
  | field resolution => some resolution.field

/-- The import of an entry. -/
def dependency? : Entry → Option (String × String)
  | constant _ => none
  | field resolution => resolution.dependency

/-- The warning about an entry. -/
def notice? : Entry → Option Notice
  | constant _ => none
  | field resolution => resolution.notice?

end Entry

/-- The message made of these entries.  A later import of a package replaces an earlier one. -/
def Message.ofEntries (package name text : String) (entries : List Entry) : Message where
  package := package
  name := name
  text := text
  fields := entries.filterMap Entry.field?
  constants := entries.filterMap Entry.constant?
  dependencies := Dictionary.ofList (entries.filterMap Entry.dependency?)

namespace Resolver

/-- What a declaration contributes. -/
def entry (r : Resolver) : Declaration → Except DefinitionError Entry
  | .constant type name value => .ok (.constant ⟨name, type, value⟩)
  | .field type count name trailer =>
    (r.field name type count (Declaration.packagePath? trailer)).map .field

/-- What a trimmed line contributes. -/
def readLine (r : Resolver) (line : List Char) : Except DefinitionError Entry :=
  match Declaration.read? line with
  | none => .error (.unrecognizedLine (String.ofList line))
  | some d => r.entry d

/-- Whether a trimmed line declares something: it is neither empty nor a comment. -/
def isSignificant (line : List Char) : Bool :=
  match line with
  | [] => false
  | c :: _ => c != '#'

/-- The trimmed lines of a text that declare something. -/
def significantLines (text : List Char) : List (List Char) :=
  ((Text.lines text).map Text.trim).filter isSignificant

/-- Reads a message definition; the first wrong line is the error. -/
def readMessageText (r : Resolver) (name text : String) : Except DefinitionError Message := do
  let entries ← (significantLines text.toList).mapM r.readLine
  return Message.ofEntries r.package name text entries

/-- Reads a message definition from its bytes. -/
def readMessage (r : Resolver) (name : String) (bytes : List UInt8) :
    Except DefinitionError Message :=
  match Text.Utf8.decode bytes with
  | .error fault => .error (.encoding fault)
  | .ok text => r.readMessageText name text

/-- The warnings about the lines before the first wrong one. -/
def lineNotices (r : Resolver) : List (List Char) → List Notice
  | [] => []
  | line :: rest =>
    match r.readLine line with
    | .error _ => []
    | .ok e => e.notice?.toList ++ r.lineNotices rest

/-- The notice about a message that has been read. -/
def readNotice (m : Message) : Notice :=
  ⟨.definitions, .debug, s!"parsed {m.fullName}: {m.fields.length} field(s), "
    ++ s!"{m.constants.length} constant(s), md5sum {m.fingerprint}"⟩

/-- The notices of reading a message definition. -/
def messageTextNotices (r : Resolver) (name text : String) : List Notice :=
  r.lineNotices (significantLines text.toList)
    ++ (match r.readMessageText name text with
        | .ok m => [readNotice m]
        | .error _ => [])

/-- The notices of reading a message definition from its bytes. -/
def messageNotices (r : Resolver) (name : String) (bytes : List UInt8) : List Notice :=
  match Text.Utf8.decode bytes with
  | .error _ => []
  | .ok text => r.messageTextNotices name text

end Resolver

end Missive
