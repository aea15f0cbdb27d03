import Missive.Code.Heading
import Missive.Code.Raw
/-!
# Files that can be laid out in boxes

Names in emitted code come from definitions, file names and configurations, and not every text can
stand where they put it.  They are looked at one by one here, and so are the imports and the
documentation.  A plain name passes if it can be a name; of the code that other names bring in, some
is not known here and refused, although it is code.

* `MessageItem.isValid`, `ServiceItem.isValid` -- the definitions;
* `File.isValid` -- whole files.
-/

namespace Missive.Code

/-- Whether an element type can be written; behind a keyword that opens a type only if no value of
it is needed. -/
def isValidType (element : TypeRef) (needsValue : Bool) : Bool :=
  match element with
  | .primitive _ => true
  | .own name => isName (Name.camel name)
  | .foreign package name =>
    isTypeSegment (Name.camel name)
      && (isTypePackage package || (!needsValue && typeOpeners.contains package))

/-- Whether a member's type can be written. -/
def MemberType.isValid : MemberType → Bool
  | plain element => isValidType element true
  | array element _ => isValidType element true
  | vector element => isValidType element false

/-- Whether a constant can have this name; a lone underscore is one. -/
def isConstantName (name : String) : Bool :=
  isName name || name == "_"

/-- Whether a type can have this name, apart from blanks and comments. -/
def isTypeName (name : String) : Bool :=
  (nameIn? name).isSome

/-- Whether a message can be written. -/
def MessageItem.isValid (m : MessageItem) : Bool :=
  isTypeName m.name && (summaryHeadings? m.summary).isSome
    && m.members.all (fun (name, type) => isMemberName name && type.isValid)
    && m.constants.all (isConstantName ·.name)

/-- Whether a service can be written.  Its own name is only defined and implemented, so it may have
type parameters. -/
def ServiceItem.isValid (s : ServiceItem) : Bool :=
  (genericNameIn? s.name).isSome && (summaryHeadings? s.summary).isSome && isTypeName s.request
    && isTypeName s.response

namespace File

/-- The imports of a file, read back from the text that is put together for them. -/
def importHeadings? (f : File) : Option (List Heading) :=
  headings? (String.join (f.importLines.map (· ++ "\n")))

/-- Whether a file can be written in boxes, all that its names bring in included. -/
def isValid (f : File) : Bool :=
  f.importHeadings?.isSome && f.messages.all MessageItem.isValid
    && f.service.all ServiceItem.isValid

end File

end Missive.Code
