import Missive.Text.Printable
/-!
# Quoted literals

How a text is written as a string literal: between double quotes, with short escapes for the
usual controls and `\u` escapes for all else that cannot be shown on its own.

* `escape` -- one character;
* `quote` -- a whole text.
-/

namespace Missive.Text.Quoted

/-- The code point in braces, in lower-case hexadecimal digits. -/
def codeEscape (c : Char) : List Char :=
  '\\' :: 'u' :: '{' :: (Nat.toDigits 16 c.toNat ++ ['}'])

/-- The written form of one character of a literal. -/
def escape (c : Char) : List Char :=
  if c = '\x00' then ['\\', '0']
  else if c = '\t' then ['\\', 't']
  else if c = '\r' then ['\\', 'r']
  else if c = '\n' then ['\\', 'n']
  else if c = '\\' then ['\\', '\\']
  else if c = '"' then ['\\', '"']
  else if Printable.isShown c then [c]
  else codeEscape c

/-- The literal for a text, as characters. -/
def quoteChars (cs : List Char) : List Char :=
  '"' :: (cs.flatMap escape ++ ['"'])

/-- The literal for a text. -/
def quote (text : String) : String :=
  String.ofList (quoteChars text.toList)

end Missive.Text.Quoted
