import Missive.Definition.Field
/-!
# Emitted files

The content of an emitted file as data: its imports, the messages and the service it defines.  What
an emitted file means is read off this form; `Missive.Code.Raw` and `Missive.Code.Formatted` write
it down.

* `WireCall` -- one statement of a message's coding functions;
* `MessageItem`, `ServiceItem` -- what is defined;
* `File` -- a whole file.
-/

namespace Missive.Code

/-- The type of a struct member. -/
inductive MemberType where
  | plain (element : TypeRef)
  | vector (element : TypeRef)
  | array (element : TypeRef) (count : Nat)
  deriving DecidableEq, Repr

/-- The value a struct member starts with. -/
inductive Initial where
  /-- The zero value of an element. -/
  | zero (element : TypeRef)
  | emptyVector
  /-- An array filled by copying the zero value. -/
  | copies (element : TypeRef) (count : Nat)
  /-- An array filled by making the zero value anew for each place. -/
  | made (element : TypeRef)
  deriving DecidableEq, Repr

/-- The runtime functions that move fields. -/
inductive Transfer where
  | writeField
  | writeArray
  | readField
  | readVector
  | readArray
  deriving DecidableEq, Repr

/-- The name of a runtime function. -/
def Transfer.name : Transfer → String
  | writeField => "write_field"
  | writeArray => "write_array"
  | readField => "read_field"
  | readVector => "read_vec"
  | readArray => "read_array"

/-- A statement that moves one struct member over the wire. -/
structure WireCall where
  transfer : Transfer
  /-- The kind that the elements are declared to have. -/
  kind : Kind
  /-- The kind of the wrapper around each element. -/
  wrapper : Kind
  member : String
  /-- The label that errors are marked with. -/
  label : String
  deriving DecidableEq, Repr

/-- A constant with its type and its literal. -/
structure ConstantItem where
  name : String
  type : String
  literal : String
  deriving DecidableEq, Repr

/-- A message type. -/
structure MessageItem where
  fullName : String
  text : String
  md5sum : String
  name : String
  /-- Whether member names with capital letters are to be allowed. -/
  capitals : Bool
  members : List (String × MemberType)
  initials : List (String × Initial)
  constants : List ConstantItem
  writes : List WireCall
  reads : List WireCall
  deriving DecidableEq, Repr

/-- A service type. -/
structure ServiceItem where
  fullName : String
  text : String
  md5sum : String
  name : String
  request : String
  response : String
  deriving DecidableEq, Repr

/-- The import of another package's module; the name it gets, unless it keeps its own. -/
structure ModuleImport where
  path : String
  alias? : Option String
  deriving DecidableEq, Repr

/-- An emitted file. -/
structure File where
  /-- The path of the wire runtime. -/
  runtime : String
  /-- What is imported from the runtime. -/
  names : List String
  modules : List ModuleImport
  /-- Types of the own package, each in a file beside this one. -/
  siblings : List String
  messages : List MessageItem
  service : Option ServiceItem
  deriving DecidableEq, Repr

namespace File

/-- The path of the runtime's wire module. -/
def wirePath (f : File) : String :=
  f.runtime ++ "::wire"

/-- The path of the standard input and output module. -/
def streamPath : String := "std::io"

/-- What is imported from the standard library. -/
def streamNames : List String := ["Read", "Write"]

end File

/-- Whether elements of a kind are handed to the runtime by reference rather than by value. -/
def byReference : Kind → Bool
  | .primitive .string | .message => true
  | .primitive _ => false

/-- The name of the sink in a message's coding functions. -/
def MessageItem.sinkName (m : MessageItem) : String :=
  if m.members.isEmpty then "_w" else "w"

/-- The name of the source in a message's coding functions. -/
def MessageItem.sourceName (m : MessageItem) : String :=
  if m.members.isEmpty then "_r" else "r"

/-- The documentation of a message type. -/
def MessageItem.summary (m : MessageItem) : String :=
  s!" `{m.fullName}` message."

/-- The documentation of a service type. -/
def ServiceItem.summary (s : ServiceItem) : String :=
  s!" `{s.fullName}` service."

end Missive.Code
