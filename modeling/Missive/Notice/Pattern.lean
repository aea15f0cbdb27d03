import Missive.Decimal.Literal
/-!
# Value patterns of log filters

A log filter may ask for the value of a field: a number, or a regular expression for its text.
Notices have no values to match, so it only matters whether the expression is well formed.

* `Scan`, `Scan.step` -- where a reader of an expression stands, and how one character moves it;
* `isPattern` -- the texts that are patterns.
-/

namespace Missive.Notice

/-- What the next character of an expression belongs to. -/
inductive Place where
  | plain
  /-- Behind an opening parenthesis. -/
  | opened
  /-- Behind the question mark that an opening parenthesis may have. -/
  | flags
  /-- In front of the name of a group. -/
  | beforeName
  /-- In the name of a group. -/
  | name
  | escaped
  /-- Behind an opening bracket, where a closing one is a member of the set. -/
  | setStart
  | set
  | escapedInSet
  deriving DecidableEq, Repr

/-- Where a reader of an expression stands. -/
structure Scan where
  place : Place
  /-- How many parentheses are open. -/
  groups : Nat
  /-- How many brackets are open. -/
  sets : Nat
  /-- Whether there is something that a following mark can repeat. -/
  repeatable : Bool
  deriving DecidableEq, Repr

namespace Scan

/-- The start of an expression. -/
def start : Scan := ⟨.plain, 0, 0, false⟩

/-- Outside of sets and names. -/
def plainly (s : Scan) (repeatable : Bool) : Scan :=
  { s with place := .plain, repeatable := repeatable }

/-- Closes a parenthesis. -/
def closeGroup? (s : Scan) (repeatable : Bool) : Option Scan :=
  match s.groups with
  | 0 => none
  | outer + 1 => some ({ s with groups := outer }.plainly repeatable)

/-- Opens a bracket. -/
def openSet (s : Scan) : Scan := { s with place := .setStart, sets := s.sets + 1 }

/-- The letters that make a class or a control character behind a backslash. -/
def escapeLetters : List Char :=
  ['A', 'D', 'S', 'W', 'a', 'd', 'f', 'n', 'r', 's', 't', 'v', 'w', 'z']

/-- Whether a character can stand behind a backslash. -/
def isEscapable (c : Char) : Bool :=
  escapeLetters.contains c
    || (c.toNat < 0x80 && !c.isAlphanum && c != '<' && c != '>')

/-- The flags of a group. -/
def flagLetters : List Char := ['R', 'U', 'i', 'm', 's', 'u', 'x', '-']

/-- A character outside of sets and names. -/
def plainStep (s : Scan) (c : Char) : Option Scan :=
  if c = '(' then some { s with place := .opened, groups := s.groups + 1, repeatable := false }
  else if c = ')' then s.closeGroup? true
  else if c = '[' then some s.openSet
  else if c = '\\' then some { s with place := .escaped }
  else if c = '*' ∨ c = '+' ∨ c = '?' then if s.repeatable then some (s.plainly true) else none
  else if c = '{' then none
  else some (s.plainly (c != '|'))

/-- A character in a set. -/
def setStep (s : Scan) (c : Char) : Scan :=
  if c = '[' then s.openSet
  else if c = '\\' then { s with place := .escapedInSet }
  else if c = ']' then
    if s.sets ≤ 1 then { s with sets := 0 }.plainly true
    else { s with sets := s.sets - 1, place := .set }
  else { s with place := .set }

/-- One character of an expression, if it can stand there. -/
def step (s : Scan) (c : Char) : Option Scan :=
  match s.place with
  | .plain => s.plainStep c
  | .opened => if c = '?' then some { s with place := .flags } else s.plainStep c
  | .flags =>
    if c = ':' then some (s.plainly false)
    else if c = ')' then s.closeGroup? false
    else if c = 'P' then some { s with place := .beforeName }
    else if c = '<' then some { s with place := .name }
    else if flagLetters.contains c then some s
    else none
  | .beforeName => if c = '<' then some { s with place := .name } else none
  | .name =>
    if c = '>' then some (s.plainly false)
    else if c.isAlphanum || c == '_' then some s
    else none
  | .escaped => if isEscapable c then some (s.plainly true) else none
  | .setStart =>
    if c = '^' then some s
    else if c = ']' then some { s with place := .set }
    else some (s.setStep c)
  | .set => some (s.setStep c)
  | .escapedInSet => if isEscapable c then some { s with place := .set } else none

/-- Whether an expression can end here. -/
def isComplete (s : Scan) : Bool :=
  s.place == .plain && s.groups == 0 && s.sets == 0

end Scan

/-- Whether a text is a pattern for values. -/
def isPattern (text : List Char) : Bool :=
  (Decimal.readLiteral text).isSome || (text.foldlM Scan.step Scan.start).any Scan.isComplete

end Missive.Notice
