import Missive.Files.Path
/-!
# Access to files

What the program needs of a file system, whatever it is.

* `FileFault` -- why a file cannot be read or written, with the wording;
* `FileAccess` -- the two operations.
-/

namespace Missive

/-- Why a file cannot be read or written. -/
inductive FileFault where
  | notFound
  | notDirectory
  | isDirectory
  /-- A path, or a part of it, is longer than the system takes. -/
  | nameTooLong
  /-- The file was to hold text and does not. -/
  | notText
  /-- A path with a null character, which no file can have. -/
  | nullInPath
  /-- Something else, in the words of the system. -/
  | other (text : String)
  deriving DecidableEq, Repr

/-- The wording of a fault. -/
def FileFault.message : FileFault → String
  | notFound => "No such file or directory (os error 2)"
  | notDirectory => "Not a directory (os error 20)"
  | isDirectory => "Is a directory (os error 21)"
  | nameTooLong => "File name too long (os error 36)"
  | notText => "stream did not contain valid UTF-8"
  | nullInPath => "file name contained an unexpected NUL byte"
  | other text => text

/-- Reading and writing of whole files. -/
structure FileAccess (m : Type → Type) where
  read : Path → m (Except FileFault Bytes)
  write : Path → Bytes → m (Except FileFault Unit)

end Missive
