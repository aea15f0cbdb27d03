/-!
# Blanks and trimming

The blanks around a line of a definition carry no meaning.

* `isBlank` -- the `White_Space` property of Unicode;
* `trim`, `trimText` -- a text without the blanks around it.
-/

namespace Missive.Text

/-- White space in the sense of Unicode. -/
def isBlank (c : Char) : Bool :=
  let n := c.toNat
  (0x9 ≤ n && n ≤ 0xD) || n == 0x20 || n == 0x85 || n == 0xA0 || n == 0x1680
    || (0x2000 ≤ n && n ≤ 0x200A) || n == 0x2028 || n == 0x2029 || n == 0x202F || n == 0x205F
    || n == 0x3000

/-- A text without the blanks at its end. -/
def trimEnd (cs : List Char) : List Char :=
  (cs.reverse.dropWhile isBlank).reverse

/-- A text without the blanks around it. -/
def trim (cs : List Char) : List Char :=
  trimEnd (cs.dropWhile isBlank)

/-- A text without the blanks around it, as strings. -/
def trimText (text : String) : String :=
  String.ofList (trim text.toList)

end Missive.Text
