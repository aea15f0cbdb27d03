import Missive.Code.HeadingDoc
import Missive.Code.Validity
/-!
# Formatted code

An emitted file as a document of boxes, which is how the formatter of this library writes it.

* `Doc.call`, `Doc.methods`, `Doc.closure` -- expressions;
* `Doc.braced`, `Doc.function` -- items and their bodies;
* `MessageItem.doc`, `ServiceItem.doc`, `File.formatted` -- messages, services and files.
-/

namespace Missive.Code

namespace Doc

/-! ## Expressions -/

/-- Items with a comma after each, on lines of their own if they do not fit. -/
def commaList : List Doc → Doc
  | [] => []
  | [item] => item ++ lastComma 0 (-step)
  | item :: rest => item ++ piece "," ++ line 1 0 ++ commaList rest

/-- The arguments of a call. -/
def arguments : List Doc → Doc
  | [] => []
  | items => consistent step (line 0 0 ++ commaList items)

/-- A call. -/
def call (function : String) (items : List Doc) : Doc :=
  piece function ++ piece "(" ++ arguments items ++ piece ")"

/-- A call whose only argument is one that brings its own brackets. -/
def callBare (function : String) (item : Doc) : Doc :=
  piece function ++ piece "(" ++ item ++ piece ")"

/-- A type with arguments. -/
def angled (family : String) (items : List Doc) : Doc :=
  piece family ++ piece "<" ++ arguments items ++ piece ">"

/-- A link of a chain: a member, or a method with its arguments. -/
inductive Link where
  | member (name : String)
  | method (name : String) (items : List Doc)
  /-- A method whose only argument is a closure. -/
  | closureMethod (name : String) (argument : Doc)

/-- A link as it stands in a chain. -/
def Link.doc : Link → Doc
  | member name => line 0 0 ++ piece ("." ++ name)
  | method name items =>
    line 0 0 ++ piece ("." ++ name)
      ++ consistent 0 (piece "(" ++ arguments items ++ piece ")")
  | closureMethod name argument =>
    line 0 0 ++ piece ("." ++ name) ++ consistent 0 (piece "(" ++ argument ++ piece ")")

/-- A chain of members and methods behind an expression. -/
def chain (first : Doc) (links : List Link) : Doc :=
  consistent step (consistent (-step) first ++ links.flatMap Link.doc)

/-- A closure with one parameter. -/
def closure (parameter : String) (body : Doc) : Doc :=
  inconsistent 0
    (consistent step (piece "|" ++ line 0 0 ++ piece parameter ++ piece "|" ++ line 1 (-step))
      ++ seam ++ body)

/-- A closure body that gets braces when it has to stand on a line of its own. -/
def bracedBody (body : Doc) : Doc :=
  consistent step
    ([.break ⟨0, 0, openBrace, "", false⟩] ++ body ++ [.break ⟨0, -step, "", closeBrace, false⟩])

/-- A member of the own struct. -/
def ownMember (name : String) : Doc :=
  chain (piece "self") [.member name]

/-! ## Items -/

/-- Items on lines of their own; the last line end takes the indentation back. -/
def body : List Doc → Doc
  | [] => []
  | [item] => item ++ hardLine (-step)
  | item :: rest => item ++ hardLine 0 ++ body rest

/-- A header with items in braces behind it. -/
def braced (header : Doc) (items : List Doc) : Doc :=
  let content := if items.isEmpty then [] else hardLine 0 ++ body items
  consistent step (header ++ piece (" " ++ openBrace) ++ content) ++ piece closeBrace

/-- A function with its parameters, its result type and its statements. -/
def function (name : String) (parameters : List Doc) (result : Doc) (statements : List Doc) :
    Doc :=
  let list := if parameters.isEmpty then [] else consistent 0 (line 0 0 ++ commaList parameters)
  braced
    (piece ("fn " ++ name ++ "(") ++ seam ++ list ++ piece ")"
      ++ consistent (-step) (piece " -> " ++ result))
    statements

/-- An expression at the end of a function. -/
def tail (expression : Doc) : Doc :=
  inconsistent 0 expression

/-- An implementation block. -/
def implementation (trait? : Option String) (name : String) (items : List Doc) : Doc :=
  let trait :=
    match trait? with
    | none => []
    | some trait => piece trait ++ line 1 0 ++ piece "for "
  braced
    (inconsistent (-step)
      (consistent step (piece "impl") ++ piece " " ++ trait ++ piece name))
    items

/-- A constant. -/
def constant (declaration : String) (value : Doc) : Doc :=
  consistent 0 (piece (declaration ++ " = ") ++ seam ++ value ++ piece ";")

/-- An associated type. -/
def associatedType (name type : String) : Doc :=
  consistent step
    (piece ("type " ++ name ++ " = ") ++ seam ++ inconsistent (-step) (piece type) ++ piece ";")

/-! ## Struct literals -/

/-- The widest struct literal that may stand on one line, up to its last member. -/
def widestLiteral : Nat := 34

/-- The room on the line of a struct literal. -/
def literalRoom : Nat := 81

/-- The members of a struct literal. -/
def literalMembers : List Doc → Doc
  | [] => []
  | [item] => item ++ lastComma 1 (-step)
  | item :: rest => item ++ piece "," ++ line 1 0 ++ literalMembers rest

/-- A struct literal.  One that is too wide gets a line for each member; without members it gets an
empty line, unless not even its name fits the line. -/
def structLiteral (name : String) (members : List Doc) : Doc :=
  let head := inconsistent (-step) (piece name) ++ piece (" " ++ openBrace)
  let content := literalMembers members
  let width := flatWidth head + 1 + flatWidth content
  let content :=
    if members.isEmpty then
      if widestLiteral < width ∧ flatWidth head ≤ literalRoom then hardLine (-step) else []
    else (if widestLiteral < width then hardLine 0 else line 1 0) ++ content
  consistent step (head ++ content) ++ piece closeBrace

end Doc

open Doc

/-! ## Messages -/

/-- The written form of an element type. -/
def typeText (element : TypeRef) : String :=
  match element with
  | .foreign package name =>
    if typeOpeners.contains package then package ++ " ::" ++ Name.camel name else element.source
  | _ => element.source

/-- A member's type. -/
def MemberType.doc : MemberType → Doc
  | plain element => piece (typeText element)
  | vector element => angled "Vec" [piece (typeText element)]
  | array element count => piece ("[" ++ typeText element ++ "; " ++ toString count ++ "]")

/-- A member's first value. -/
def Initial.doc : Initial → Doc
  | made element =>
    callBare "std::array::from_fn" (closure "_" (piece element.zeroSource))
  | other => piece other.raw

/-- The element inside a wrapper. -/
def wrappedDoc (family : String) (kind : Kind) (content : Doc) : Doc :=
  call (family ++ "::" ++ kind.tag) [content]

/-- The arguments of a wire call. -/
def WireCall.argumentDocs (c : WireCall) : List Doc :=
  let kind := piece ("FieldKind::" ++ c.kind.tag)
  match c.transfer with
  | .writeField =>
    let place := ownMember c.member
    [piece "w", kind,
      wrappedDoc "FieldRef" c.wrapper (if byReference c.wrapper then piece "&" ++ place else place)]
  | .writeArray =>
    let element := if byReference c.wrapper then "item" else "*item"
    [piece "w", kind,
      chain (piece "self")
        [.member c.member, .method "iter" [],
          .closureMethod "map" (closure "item" (wrappedDoc "FieldRef" c.wrapper (piece element)))]]
  | .readField =>
    [piece "r", kind, wrappedDoc "FieldMut" c.wrapper (piece "&mut " ++ ownMember c.member)]
  | .readVector | .readArray =>
    [piece "r", kind, piece "&mut " ++ ownMember c.member,
      closure "item" (wrappedDoc "FieldMut" c.wrapper (piece "item"))]

/-- The statement of a wire call. -/
def WireCall.doc (c : WireCall) : Doc :=
  let label := chain (piece "e") [.method "in_field" [piece (Text.Quoted.quote c.label)]]
  let context := closure "e" (bracedBody label)
  inconsistent 0
    (consistent step
      (consistent (-step) (piece ("wire::" ++ c.transfer.name)) ++ piece "("
        ++ arguments c.argumentDocs ++ piece ")" ++ Link.doc (.closureMethod "map_err" context))
      ++ piece "?;")

/-- Attributes in front of an item. -/
def attributeDoc (attributes : List String) : Doc :=
  attributes.flatMap fun words => piece words ++ line 1 0

/-- The literals that describe a type to its peers. -/
def literalDocs (fullName content md5sum : String) : List Doc :=
  [fullName, content, md5sum].map fun s => piece (Text.Quoted.quote s)

/-- The name of a type, without the blanks and comments around it. -/
def typeName (name : String) : String :=
  (nameIn? name).getD ""

namespace MessageItem

/-- The name of the type. -/
def typeName (m : MessageItem) : String := Code.typeName m.name

/-- The struct of a message. -/
def structDoc (m : MessageItem) : Doc :=
  headingsDoc (summaryHeadings? m.summary) ++ attributeDoc m.attributes
    ++ braced (piece ("pub struct " ++ m.typeName))
      (m.members.map fun (name, type) => piece ("pub " ++ name ++ ": ") ++ type.doc ++ piece ",")

/-- The default value of a message. -/
def defaultDoc (m : MessageItem) : Doc :=
  let members := m.initials.map fun (name, value) =>
    piece (name ++ ": ") ++ inconsistent 0 value.doc
  implementation (some "Default") m.typeName
    [function "default" [] (piece "Self") [tail (structLiteral m.typeName members)]]

/-- The constants and the constructor of a message. -/
def inherentDoc (m : MessageItem) : Doc :=
  let descriptor :=
    piece "&" ++ call "MessageType::new"
      (literalDocs m.fullName m.text m.md5sum ++ [piece (m.typeName ++ "::new_boxed")])
  let constants := m.constants.map fun c =>
    constant ("pub const " ++ c.name ++ ": " ++ c.type) (piece c.literal)
  implementation none m.typeName
    (constant "pub const MESSAGE_TYPE: &'static MessageType" descriptor :: constants
      ++ [function "new_boxed" [] (angled "Box" [piece "dyn Message"])
        [tail (call "Box::new" [call (m.typeName ++ "::default") []])]])

/-- The coding functions of a message. -/
def codingDoc (m : MessageItem) : Doc :=
  let result := angled "Result" [piece "()", piece "WireError"]
  let success := tail (callBare "Ok" (piece "()"))
  implementation (some "Message") m.typeName
    [function "message_type" [piece "&self"] (piece "&'static MessageType")
        [tail (piece "Self::MESSAGE_TYPE")],
      function "serialize" [piece "&self", piece (m.sinkName ++ ": &mut dyn Write")] result
        (m.writes.map WireCall.doc ++ [success]),
      function "deserialize" [piece "&mut self", piece (m.sourceName ++ ": &mut dyn Read")] result
        (m.reads.map WireCall.doc ++ [success])]

/-- All items of a message. -/
def docs (m : MessageItem) : List Doc :=
  [m.structDoc, m.defaultDoc, m.inherentDoc, m.codingDoc]

end MessageItem

/-! ## Services and files -/

/-- All items of a service. -/
def ServiceItem.docs (s : ServiceItem) : List Doc :=
  let name := (genericNameIn? s.name).getD ""
  let request := typeName s.request
  let response := typeName s.response
  let descriptor :=
    piece "&" ++ call "ServiceType::new"
      (literalDocs s.fullName s.text s.md5sum
        ++ [piece (request ++ "::MESSAGE_TYPE"), piece (response ++ "::MESSAGE_TYPE")])
  [headingsDoc (summaryHeadings? s.summary) ++ attributeDoc [serviceAttribute]
      ++ consistent step (piece ("pub struct " ++ name ++ ";")),
    implementation (some "Service") name
      [associatedType "Request" request, associatedType "Response" response,
        constant "const SERVICE_TYPE: &'static ServiceType" descriptor]]

namespace File

/-- All definitions of a file. -/
def docs (f : File) : List Doc :=
  f.messages.flatMap MessageItem.docs
    ++ (match f.service with
        | none => []
        | some s => s.docs)

/-- The text of a file, laid out in boxes. -/
def formatted (f : File) : String :=
  Doc.render
    (consistent 0 (headingsDoc f.importHeadings? ++ f.docs.flatMap (· ++ hardLine 0)))

end File

end Missive.Code
