import Missive.Definition.Message
/-!
# Services

A service is a request and a response message, written in one text with a separator line between
them.

* `Service` -- the pair; its fingerprint is the request's;
* `sections` -- a text cut at its separator lines;
* `Resolver.readService` -- reading a definition;
* `Resolver.serviceNotices` -- what reading it has to say.
-/

namespace Missive

/-- A service definition. -/
structure Service where
  package : String
  name : String
  /-- The text of the definition, unchanged. -/
  text : String
  request : Message
  response : Message

namespace Service

/-- The name of a service with its package. -/
def fullName (s : Service) : String :=
  s!"{s.package}/{s.name}"

/-- The fingerprint that endpoints compare: the request's. -/
def fingerprint (s : Service) : String :=
  s.request.fingerprint

/-- The imports of both messages; for a package that both need, the request's. -/
def dependencies (s : Service) : Dictionary String :=
  s.request.dependencies.fillFrom s.response.dependencies

end Service

/-- The mark on a separator line. -/
def separatorMark : List Char := ['-', '-', '-']

/-- Whether a chunk is a separator line. -/
def isSeparator (chunk : List Char) : Bool :=
  Text.trim chunk == separatorMark

/-- What follows the mark on a separator line. -/
def afterMark (chunk : List Char) : List Char :=
  (chunk.dropWhile Text.isBlank).drop separatorMark.length

/-- The first section of a list of chunks, and the later ones.  A section ends where a separator
line starts, and the next one starts right after the mark. -/
def sectionsOf : List (List Char) → List Char × List (List Char)
  | [] => ([], [])
  | chunk :: rest =>
    let (first, later) := sectionsOf rest
    if isSeparator chunk then ([], (afterMark chunk ++ first) :: later)
    else (chunk ++ first, later)

/-- The sections of a service text. -/
def sections (text : String) : List String :=
  let (first, later) := sectionsOf (Text.chunks text.toList)
  (first :: later).map String.ofList

namespace Resolver

/-- Reads a service definition; an error in the request comes before one in the response. -/
def readServiceText (r : Resolver) (name text : String) : Except DefinitionError Service :=
  match sections text with
  | [request, response] => do
    let request ← r.readMessageText (name ++ "Request") request
    let response ← r.readMessageText (name ++ "Response") response
    return ⟨r.package, name, text, request, response⟩
  | other => .error (.sectionCount other.length)

/-- Reads a service definition from its bytes. -/
def readService (r : Resolver) (name : String) (bytes : List UInt8) :
    Except DefinitionError Service :=
  match Text.Utf8.decode bytes with
  | .error fault => .error (.encoding fault)
  | .ok text => r.readServiceText name text

/-- The notice about a service that has been read. -/
def readServiceNotice (s : Service) : Notice :=
  ⟨.definitions, .debug, s!"parsed {s.fullName}: md5sum {s.fingerprint} (request), "
    ++ s!"whole-text md5sum {fingerprintText s.text}"⟩

/-- The notices of reading a service definition. -/
def serviceTextNotices (r : Resolver) (name text : String) : List Notice :=
  match sections text with
  | [request, response] =>
    r.messageTextNotices (name ++ "Request") request
      ++ (match r.readMessageText (name ++ "Request") request with
          | .error _ => []
          | .ok _ =>
            r.messageTextNotices (name ++ "Response") response
              ++ (match r.readServiceText name text with
                  | .error _ => []
                  | .ok s => [readServiceNotice s]))
  | _ => []

/-- The notices of reading a service definition from its bytes. -/
def serviceNotices (r : Resolver) (name : String) (bytes : List UInt8) : List Notice :=
  match Text.Utf8.decode bytes with
  | .error _ => []
  | .ok text => r.serviceTextNotices name text

end Resolver

end Missive
