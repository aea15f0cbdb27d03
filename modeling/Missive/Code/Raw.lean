import Missive.Code.Syntax
import Missive.Text.Quoted
/-!
# Unformatted code

An emitted file line by line, each construct on a line of its own.  This is the text that a
formatter is given, and that is shown if it is no code.

* `MemberType.raw`, `Initial.raw`, `WireCall.raw` -- the parts of messages;
* `MessageItem.lines`, `ServiceItem.lines` -- messages and services;
* `File.raw` -- the whole text.
-/

namespace Missive.Code

/-- An opening brace. -/
def openBrace : String := "\x7b"

/-- A closing brace. -/
def closeBrace : String := "\x7d"

/-- A line that is indented by so many steps. -/
def indented (steps : Nat) (line : String) : String :=
  String.ofList (List.replicate (4 * steps) ' ') ++ line

/-- The text of a member's type. -/
def MemberType.raw : MemberType → String
  | plain element => element.source
  | vector element => s!"Vec<{element.source}>"
  | array element count => s!"[{element.source}; {count}]"

/-- The text of a member's first value. -/
def Initial.raw : Initial → String
  | zero element => element.zeroSource
  | emptyVector => "Vec::new()"
  | copies element count => s!"[{element.zeroSource}; {count}]"
  | made element => s!"std::array::from_fn(|_| {element.zeroSource})"

/-- The wrapper around an element, by the name of its family. -/
def wrapped (family : String) (kind : Kind) (content : String) : String :=
  s!"{family}::{kind.tag}({content})"

/-- The call of the runtime function, without its error context. -/
def WireCall.rawCall (c : WireCall) : String :=
  let place := "self." ++ c.member
  let kind := "FieldKind::" ++ c.kind.tag
  let element := if byReference c.wrapper then "item" else "*item"
  let arguments :=
    match c.transfer with
    | .writeField =>
      ["w", kind,
        wrapped "FieldRef" c.wrapper (if byReference c.wrapper then "&" ++ place else place)]
    | .writeArray =>
      ["w", kind, place ++ ".iter().map(|item| " ++ wrapped "FieldRef" c.wrapper element ++ ")"]
    | .readField => ["r", kind, wrapped "FieldMut" c.wrapper ("&mut " ++ place)]
    | .readVector | .readArray =>
      ["r", kind, "&mut " ++ place, "|item| " ++ wrapped "FieldMut" c.wrapper "item"]
  "wire::" ++ c.transfer.name ++ "(" ++ ", ".intercalate arguments ++ ")"

/-- The statement of a wire call. -/
def WireCall.raw (c : WireCall) : String :=
  c.rawCall ++ ".map_err(|e| e.in_field(" ++ Text.Quoted.quote c.label ++ "))?;"

/-- The literals that describe a type to its peers. -/
def rawLiterals (fullName text md5sum : String) : String :=
  ", ".intercalate
    [Text.Quoted.quote fullName, Text.Quoted.quote text, Text.Quoted.quote md5sum]

/-- The attributes in front of a message's struct. -/
def MessageItem.attributes (m : MessageItem) : List String :=
  "#[derive(Debug, Clone, PartialEq)]"
    :: (if m.capitals then ["#[allow(non_snake_case)]"] else [])

/-- The lines of a message's struct. -/
def MessageItem.structLines (m : MessageItem) : List String :=
  ("///" ++ m.summary) :: m.attributes
    ++ ["pub struct " ++ m.name ++ " " ++ openBrace]
    ++ m.members.map (fun (name, type) => indented 1 ("pub " ++ name ++ ": " ++ type.raw ++ ","))
    ++ [closeBrace]

/-- The lines of a message's default value. -/
def MessageItem.defaultLines (m : MessageItem) : List String :=
  ["impl Default for " ++ m.name ++ " " ++ openBrace,
    indented 1 ("fn default() -> Self " ++ openBrace),
    indented 2 (m.name ++ " " ++ openBrace)]
    ++ m.initials.map (fun (name, value) => indented 3 (name ++ ": " ++ value.raw ++ ","))
    ++ [indented 2 closeBrace, indented 1 closeBrace, closeBrace]

/-- The line of a constant. -/
def ConstantItem.line (c : ConstantItem) : String :=
  indented 1 ("pub const " ++ c.name ++ ": " ++ c.type ++ " = " ++ c.literal ++ ";")

/-- The lines of a message's constants and constructor. -/
def MessageItem.inherentLines (m : MessageItem) : List String :=
  ["impl " ++ m.name ++ " " ++ openBrace,
    indented 1 ("pub const MESSAGE_TYPE: &'static MessageType = &MessageType::new("
      ++ rawLiterals m.fullName m.text m.md5sum ++ ", " ++ m.name ++ "::new_boxed);")]
    ++ m.constants.map ConstantItem.line
    ++ [indented 1 ("fn new_boxed() -> Box<dyn Message> " ++ openBrace),
      indented 2 ("Box::new(" ++ m.name ++ "::default())"), indented 1 closeBrace, closeBrace]

/-- The lines of a message's coding functions. -/
def MessageItem.codingLines (m : MessageItem) : List String :=
  ["impl Message for " ++ m.name ++ " " ++ openBrace,
    indented 1 ("fn message_type(&self) -> &'static MessageType " ++ openBrace),
    indented 2 "Self::MESSAGE_TYPE", indented 1 closeBrace,
    indented 1 ("fn serialize(&self, " ++ m.sinkName
      ++ ": &mut dyn Write) -> Result<(), WireError> " ++ openBrace)]
    ++ m.writes.map (fun c => indented 2 c.raw)
    ++ [indented 2 "Ok(())", indented 1 closeBrace,
      indented 1 ("fn deserialize(&mut self, " ++ m.sourceName
        ++ ": &mut dyn Read) -> Result<(), WireError> " ++ openBrace)]
    ++ m.reads.map (fun c => indented 2 c.raw)
    ++ [indented 2 "Ok(())", indented 1 closeBrace, closeBrace]

/-- The lines of a message. -/
def MessageItem.lines (m : MessageItem) : List String :=
  m.structLines ++ m.defaultLines ++ m.inherentLines ++ m.codingLines

/-- The attribute in front of a service's struct. -/
def serviceAttribute : String :=
  "#[derive(Debug, Clone, Copy, Default, PartialEq, Eq)]"

/-- The lines of a service. -/
def ServiceItem.lines (s : ServiceItem) : List String :=
  ["///" ++ s.summary, serviceAttribute, "pub struct " ++ s.name ++ ";",
    "impl Service for " ++ s.name ++ " " ++ openBrace,
    indented 1 ("type Request = " ++ s.request ++ ";"),
    indented 1 ("type Response = " ++ s.response ++ ";"),
    indented 1 ("const SERVICE_TYPE: &'static ServiceType = &ServiceType::new("
      ++ rawLiterals s.fullName s.text s.md5sum ++ ", " ++ s.request ++ "::MESSAGE_TYPE, "
      ++ s.response ++ "::MESSAGE_TYPE);"),
    closeBrace]

/-- The line that imports several names from one module. -/
def groupLine (path : String) (names : List String) : String :=
  "use " ++ path ++ "::" ++ openBrace ++ ", ".intercalate names ++ closeBrace ++ ";"

/-- The line that imports a module. -/
def ModuleImport.line (i : ModuleImport) : String :=
  match i.alias? with
  | none => "use " ++ i.path ++ ";"
  | some name => "use " ++ i.path ++ " as " ++ name ++ ";"

/-- The line that imports a type of the own package. -/
def siblingLine (name : String) : String :=
  "use super::" ++ name ++ ";"

namespace File

/-- The lines of the imports. -/
def importLines (f : File) : List String :=
  [groupLine f.wirePath f.names, groupLine streamPath streamNames]
    ++ f.modules.map ModuleImport.line ++ f.siblings.map siblingLine

/-- All lines. -/
def lines (f : File) : List String :=
  f.importLines ++ f.messages.flatMap MessageItem.lines
    ++ (match f.service with
        | none => []
        | some s => s.lines)

/-- The unformatted text. -/
def raw (f : File) : String :=
  String.join (f.lines.map (· ++ "\n"))

end File

end Missive.Code
