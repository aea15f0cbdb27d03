/-!
# Laying out code in boxes

A document is a sequence of texts and possible line breaks, grouped in boxes.  A box that fits the
rest of its line is written flat.  Otherwise all breaks of a consistent box are taken, and of an
inconsistent box those where what follows would not fit.

* `Break`, `Token`, `Doc` -- documents, with the combinators `piece`, `line` and `box`;
* `Doc.measure` -- how far it is from each token to the next place where the line may end;
* `Doc.render` -- the laid out text.
-/

namespace Missive.Code

/-- A possible line break. -/
structure Break where
  /-- The blanks that stand there when the break is not taken. -/
  blanks : Nat
  /-- Added to the indentation of the next line when it is taken. -/
  offset : Int
  /-- Written at the end of the line when the break is taken. -/
  before : String
  /-- Written at the start of the next line when the break is taken. -/
  after : String
  /-- A break that is never taken only ends a piece of text. -/
  never : Bool
  deriving DecidableEq, Repr

/-- A token of a document. -/
inductive Token where
  | text (s : String)
  | break (b : Break)
  /-- Opens a box; its lines are indented further by `indent`. -/
  | opening (consistent : Bool) (indent : Int)
  | closing
  deriving DecidableEq, Repr

/-- A document. -/
abbrev Doc := List Token

namespace Doc

/-- The longest line that is aimed at. -/
def margin : Int := 89

/-- The room that a line offers at least, however far it is indented. -/
def minimumRoom : Int := 60

/-- More than fits any line. -/
def boundless : Nat := 65535

/-- One step of indentation. -/
def step : Int := 4

/-- A piece of text. -/
def piece (s : String) : Doc := [.text s]

/-- A break that stands for so many blanks, with an offset. -/
def line (blanks : Nat) (offset : Int) : Doc := [.break ⟨blanks, offset, "", "", false⟩]

/-- A break that must be taken. -/
def hardLine (offset : Int) : Doc := line boundless offset

/-- The end of a piece of text where the line goes on. -/
def seam : Doc := [.break ⟨0, 0, "", "", true⟩]

/-- A break behind the last item of a list, which gets a comma when it is taken. -/
def lastComma (blanks : Nat) (offset : Int) : Doc := [.break ⟨blanks, offset, ",", "", false⟩]

/-- A box around a document.  A box that would hold nothing but a break is dropped. -/
def box (consistent : Bool) (indent : Int) (content : Doc) : Doc :=
  match content with
  | [.break _] => []
  | _ => .opening consistent indent :: content ++ [.closing]

/-- A consistent box. -/
def consistent (indent : Int) (content : Doc) : Doc := box true indent content

/-- An inconsistent box. -/
def inconsistent (indent : Int) (content : Doc) : Doc := box false indent content

/-- The width of a text, in bytes. -/
def textWidth (s : String) : Nat := s.utf8ByteSize

/-- The width of a document that is written flat. -/
def flatWidth (d : Doc) : Nat :=
  d.foldl
    (fun width token =>
      match token with
      | .text s => width + textWidth s
      | .break b => width + b.blanks
      | _ => width)
    0

/-- A token with its reach, and the distances from its start to the next break at each level of
nesting or further out, the innermost level first.

The reach of a break is its blanks and all up to the next break at its level or further out.  The
reach of a box is all up to the next break outside of it. -/
def measureToken (token : Token) (later : List (Token × Nat) × List Nat) :
    List (Token × Nat) × List Nat :=
  let (measured, distances) := later
  match token with
  | .text s => ((token, textWidth s) :: measured, distances.map (· + textWidth s))
  | .break b =>
    ((token, b.blanks + distances.headD 0) :: measured, 0 :: distances.tail.map (· + b.blanks))
  | .closing => ((token, 0) :: measured, distances.headD 0 :: distances)
  | .opening _ _ => ((token, distances.tail.headD 0) :: measured, distances.tail)

/-- The tokens of a document with their reaches. -/
def measure (d : Doc) : List (Token × Nat) :=
  (d.foldr measureToken ([], [0])).1

/-- What is known about a box that is being written. -/
inductive Frame where
  | flat
  /-- A box that does not fit; the indentation around it. -/
  | broken (consistent : Bool) (outer : Int)

/-- The text so far, and where it stands. -/
structure Page where
  written : String
  /-- Blanks that are due before the next text. -/
  due : Nat
  /-- The room left on the line. -/
  room : Int
  indent : Int
  frames : List Frame

/-- The page before the first token. -/
def Page.blank : Page := ⟨"", 0, margin, 0, []⟩

/-- So many blanks. -/
def blanks (n : Nat) : String := String.ofList (List.replicate n ' ')

/-- Writes a text. -/
def Page.put (p : Page) (s : String) : Page :=
  { p with
    written := p.written ++ blanks p.due ++ s
    due := 0
    room := p.room - textWidth s }

/-- Whether a break with this reach is not taken. -/
def Page.staysOnLine (p : Page) (b : Break) (reach : Nat) : Bool :=
  b.never ||
    match p.frames with
    | .flat :: _ => true
    | .broken true _ :: _ => false
    | .broken false _ :: _ | [] => (reach : Int) ≤ p.room

/-- Ends the line at a break. -/
def Page.newLine (p : Page) (b : Break) : Page :=
  let p := if b.before.isEmpty then p else p.put b.before
  let column := p.indent + b.offset
  let p :=
    { p with
      written := p.written ++ "\n"
      due := column.toNat
      room := max (margin - column) minimumRoom }
  if b.after.isEmpty then p else p.put b.after

/-- Writes a token with this reach. -/
def Page.add (p : Page) (token : Token × Nat) : Page :=
  let (token, reach) := token
  match token with
  | .text s => p.put s
  | .break b =>
    if p.staysOnLine b reach then { p with due := p.due + b.blanks, room := p.room - b.blanks }
    else p.newLine b
  | .opening consistent indent =>
    if p.room < reach then
      { p with indent := p.indent + indent, frames := .broken consistent p.indent :: p.frames }
    else { p with frames := .flat :: p.frames }
  | .closing =>
    match p.frames with
    | .broken _ outer :: rest => { p with indent := outer, frames := rest }
    | _ => { p with frames := p.frames.tail }

/-- The text of a document. -/
def render (d : Doc) : String :=
  (d.measure.foldl Page.add Page.blank).written

end Doc

end Missive.Code
