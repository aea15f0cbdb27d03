import Missive.Code.Syntax
import Missive.Code.Word
import Missive.Definition.Service
import Missive.Emission.Literal
/-!
# From definitions to emitted files

* `Field.memberType`, `Field.initial`, `Field.write`, `Field.read` -- what a field becomes in the
  struct, its default value and the coding functions;
* `checkNames` -- refuses names that emitted code relies on;
* `Message.item`, `Service.item` -- messages and services;
* `Message.file`, `Service.file` -- whole files.
-/

namespace Missive

namespace Field

/-- The name of a field's struct member. -/
def member (f : Field) : String :=
  Code.memberName f.name

/-- The type of a field's struct member. -/
def memberType (f : Field) : Code.MemberType :=
  match f.shape with
  | .single => .plain f.type
  | .many => .vector f.type
  | .exactly count => .array f.type count

/-- Whether elements of this kind can fill an array by being copied. -/
def isCopied (kind : Kind) : Bool :=
  kind != .primitive .string && kind != .message

/-- The first value of a field's struct member. -/
def initial (f : Field) : Code.Initial :=
  match f.shape with
  | .single => .zero f.type
  | .many => .emptyVector
  | .exactly count => if isCopied f.kind then .copies f.type count else .made f.type

/-- The statement that writes a field. -/
def write (f : Field) : Code.WireCall where
  transfer := if f.shape.isArray then .writeArray else .writeField
  kind := f.kind
  wrapper := f.kind
  member := f.member
  label := f.label

/-- The statement that reads a field. -/
def read (f : Field) : Code.WireCall where
  transfer :=
    match f.shape with
    | .single => .readField
    | .many => .readVector
    | .exactly _ => .readArray
  kind := f.kind
  wrapper := f.kind
  member := f.member
  label := f.label

/-- The type that a field takes from a file beside this one. -/
def sibling? (f : Field) : Option String :=
  match f.type with
  | .own name => some (Name.camel name)
  | _ => none

end Field

/-- These names in order, each once. -/
def distinctSorted (names : List String) : List String :=
  (Dictionary.ofList (names.map fun name => (name, ()))).keys

namespace Constant

/-- The name of a constant in emitted code. -/
def sourceName (c : Constant) : String :=
  String.ofList (Text.Uppercase.upper c.name.toList)

/-- A constant of emitted code. -/
def item (c : Constant) : Except EmitError Code.ConstantItem :=
  match c.literal with
  | .error fault => .error (.constant c.name fault)
  | .ok (type, written) => .ok ⟨c.sourceName, type, written⟩

end Constant

namespace Message

/-- The name of a message's type. -/
def typeName (m : Message) : String :=
  Name.camel m.name

/-- Whether some field name has a capital letter. -/
def hasCapitals (m : Message) : Bool :=
  m.fields.any fun f => f.name.toList.any Char.isUpper

/-- A message of emitted code. -/
def item (m : Message) : Except EmitError Code.MessageItem := do
  let constants ← m.constants.mapM Constant.item
  return {
    fullName := m.fullName
    text := m.text
    md5sum := m.fingerprint
    name := m.typeName
    capitals := m.hasCapitals
    members := m.fields.map fun f => (f.member, f.memberType)
    initials := m.fields.map fun f => (f.member, f.initial)
    constants := constants
    writes := m.fields.map Field.write
    reads := m.fields.map Field.read }

/-- The types that a message takes from files beside its own. -/
def siblings (m : Message) : List String :=
  m.fields.filterMap Field.sibling?

end Message

/-- A service of emitted code. -/
def Service.item (s : Service) : Code.ServiceItem where
  fullName := s.fullName
  text := s.text
  md5sum := s.fingerprint
  name := Name.camel s.name
  request := s.request.typeName
  response := s.response.typeName

/-- Refuses the first reserved name of a list. -/
def refuse (isReserved : String → Bool) (names : List String) : Except EmitError Unit :=
  match names.find? isReserved with
  | some name => .error (.reservedName name)
  | none => .ok ()

/-- Refuses a message whose type or constants have a reserved name. -/
def checkMessage (m : Message) : Except EmitError Unit := do
  refuse Code.isReservedType [m.typeName]
  match m.constants.find? (·.sourceName == Code.descriptorName) with
  | some c => .error (.reservedName c.name)
  | none => .ok ()

/-- Refuses a file in which some name would hide one that emitted code relies on. -/
def checkNames (siblings packages : List String) (messages : List Message) :
    Except EmitError Unit := do
  refuse Code.isReservedType siblings
  refuse Code.isReservedPackage packages
  messages.forM checkMessage

/-- What a file imports from the runtime. -/
def runtimeNames (hasFields isService : Bool) : List String :=
  (if hasFields then ["self", "FieldKind", "FieldMut", "FieldRef"] else [])
    ++ ["Message", "MessageType"] ++ (if isService then ["Service", "ServiceType"] else [])
    ++ ["WireError"]

/-- The import of a package's module, under the package's name. -/
def moduleImport (package path : String) : Code.ModuleImport :=
  ⟨path, if Code.lastSegment path == package then none else some package⟩

/-- The imports of packages' modules. -/
def moduleImports (dependencies : Dictionary String) : List Code.ModuleImport :=
  dependencies.entries.map fun (package, path) => moduleImport package path

/-- The file of a message. -/
def Message.file (config : Config) (m : Message) : Except EmitError Code.File := do
  let siblings := distinctSorted m.siblings
  checkNames siblings m.dependencies.keys [m]
  let item ← m.item
  return {
    runtime := config.runtime
    names := runtimeNames (!m.fields.isEmpty) false
    modules := moduleImports m.dependencies
    siblings := siblings
    messages := [item]
    service := none }

/-- The file of a service. -/
def Service.file (config : Config) (s : Service) : Except EmitError Code.File := do
  let siblings := distinctSorted (s.request.siblings ++ s.response.siblings)
  checkNames siblings s.dependencies.keys [s.request, s.response]
  refuse Code.isReservedType [s.item.name]
  let request ← s.request.item
  let response ← s.response.item
  return {
    runtime := config.runtime
    names := runtimeNames (!s.request.fields.isEmpty || !s.response.fields.isEmpty) true
    modules := moduleImports s.dependencies
    siblings := siblings
    messages := [request, response]
    service := some s.item }

end Missive
