import Missive.Code.Formatted
/-!
# Formatters

The text of an emitted file is checked and laid out by a formatter.

* `Formatter` -- any formatter;
* `Formatter.boxes` -- the one that comes with this library.
-/

namespace Missive.Code

/-- A formatter.  One that looks at nothing but the unformatted text of a file is a formatter, too,
and so is one that knows more of the language than what is written here. -/
structure Formatter where
  /-- The formatted text of a file, unless its unformatted text is no code. -/
  format? : File → Option String

/-- The formatter that lays a file out in boxes.  It knows all that is made of plain names, and
takes some of the code that other names bring in. -/
def Formatter.boxes : Formatter where
  format? f := if f.isValid then some f.formatted else none

theorem Formatter.boxes_eq_some_iff {f : File} {text : String} :
    boxes.format? f = some text ↔ f.isValid = true ∧ text = f.formatted := by
  show (if f.isValid then some f.formatted else none) = some text ↔ _
  rw [Option.ite_none_right_eq_some, Option.some_inj, eq_comm (a := text)]

end Missive.Code
