/-!
# Cutting texts

* `pieces` -- a text cut at every occurrence of one character, which is dropped, or a list of other
  items likewise;
* `chunks` -- a text cut after every line feed, so that nothing is lost (`flatten_chunks`);
* `lines` -- the chunks without their line ends;
* `splitOnce` -- the parts before and after the first occurrence of a character.
-/

namespace Missive.Text

/-- Cuts a text at a separator; there is always one more piece than separators. -/
def pieces {α : Type} [DecidableEq α] (separator : α) : List α → List (List α)
  | [] => [[]]
  | c :: rest =>
    if c = separator then [] :: pieces separator rest
    else
      match pieces separator rest with
      | [] => [[c]]
      | first :: later => (c :: first) :: later

theorem pieces_ne_nil {α : Type} [DecidableEq α] (separator : α) (cs : List α) :
    pieces separator cs ≠ [] := by
  cases cs with
  | nil => simp [pieces]
  | cons c rest =>
    simp only [pieces]
    split
    · simp
    · split <;> simp

/-- Cuts a text after every line feed. -/
def chunks : List Char → List (List Char)
  | [] => []
  | c :: rest =>
    if c = '\n' then [c] :: chunks rest
    else
      match chunks rest with
      | [] => [[c]]
      | first :: later => (c :: first) :: later

theorem flatten_chunks (cs : List Char) : (chunks cs).flatten = cs := by
  induction cs with
  | nil => rfl
  | cons c rest ih =>
    by_cases h : c = '\n'
    · simp [chunks, h, ih]
    · cases hr : chunks rest with
      | nil =>
        rw [hr] at ih
        simpa [chunks, h, hr] using ih
      | cons first later =>
        rw [hr] at ih
        simpa [chunks, h, hr] using ih

/-- A chunk without its line end: a line feed, and a carriage return before it. -/
def dropLineEnd (chunk : List Char) : List Char :=
  match chunk.reverse with
  | '\n' :: '\r' :: rest => rest.reverse
  | '\n' :: rest => rest.reverse
  | _ => chunk

/-- The lines of a text. -/
def lines (cs : List Char) : List (List Char) :=
  (chunks cs).map dropLineEnd

/-- The parts before and after the first separator, if there is one. -/
def splitOnce (separator : Char) : List Char → Option (List Char × List Char)
  | [] => none
  | c :: rest =>
    if c = separator then some ([], rest)
    else (splitOnce separator rest).map fun parts => (c :: parts.1, parts.2)

end Missive.Text
