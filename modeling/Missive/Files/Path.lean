import Missive.Bytes
import Missive.Text.Split
import Missive.Text.Utf8
/-!
# Paths

A path is a byte string whose parts stand between slashes.  It need not be a text.

* `Path`, `ofText`, `display` -- paths, from texts and as messages show them;
* `isAbsolute`, `parts` -- where a path starts, and its parts as they are written;
* `fileName?` -- the last part that names something;
* `stem`, `definitionName?` -- a file name without its extension, and the name that it makes;
* `isLong`, `isLongPart` -- more than the system takes.
-/

namespace Missive

/-- A path, as the system has it. -/
structure Path where
  bytes : Bytes
  deriving DecidableEq, Repr

namespace Path

/-- The byte between the parts of a path. -/
def slash : UInt8 := 0x2F

/-- The byte in front of an extension. -/
def dot : UInt8 := 0x2E

/-- The part that stays where it is. -/
def here : Bytes := [dot]

/-- The part that leads out of a directory. -/
def parent : Bytes := [dot, dot]

/-- The path that is written like this. -/
def ofText (text : String) : Path :=
  ⟨Text.Utf8.encode text⟩

/-- A path as messages show it: what is no text in it is replaced. -/
def display (path : Path) : String :=
  Text.Utf8.decodeLossy path.bytes

@[simp]
theorem display_ofText (text : String) : (ofText text).display = text :=
  Text.Utf8.decodeLossy_encode text

/-- The path with something more at its end. -/
def extend (path : Path) (text : String) : Path :=
  ⟨path.bytes ++ Text.Utf8.encode text⟩

/-- Whether a path starts at the root. -/
def isAbsolute (path : Path) : Bool :=
  path.bytes.head? == some slash

/-- The parts of a path, empty ones included. -/
def parts (path : Path) : List Bytes :=
  Text.pieces slash path.bytes

/-- The relative path with these parts. -/
def ofParts (parts : List Bytes) : Path :=
  ⟨[slash].intercalate parts⟩

/-- Whether a part moves somewhere. -/
def isMove (part : Bytes) : Bool :=
  !part.isEmpty && part != here

/-- Whether a path is longer than the system takes: 4095 bytes. -/
def isLong (path : Path) : Bool :=
  4095 < path.bytes.length

/-- Whether a part of a path is longer than a file can be named: 255 bytes. -/
def isLongPart (part : Bytes) : Bool :=
  255 < part.length

/-- The last part of a path, unless it leads out of a directory.  Slashes and dots at the end do
not count. -/
def fileName? (path : Path) : Option Bytes :=
  (path.parts.filter isMove).getLast?.filter (· != parent)

/-- A file name without its extension: the bytes before the last dot, if there is a dot behind the
first byte. -/
def stem (name : Bytes) : Bytes :=
  match name.reverse.dropWhile (· != dot) with
  | [] => name
  | _ :: before => if before.isEmpty then name else before.reverse

/-- The name that a definition file gives to its definition, if it is a text. -/
def definitionName? (path : Path) : Option String :=
  path.fileName?.bind fun name =>
    (Text.Utf8.decode (stem name)).toOption.filter (!·.isEmpty)

end Path

end Missive
