import Mathlib.Data.List.TakeWhile
import Missive.Definition.Message
/-!
# The lines of a definition

A definition is read line by line, and a line feed is all that connects two of them.  This is said
with `pieces`, which simply cuts at every line feed: what the reader does beyond that, with the
carriage returns and with the end of the text, leaves no trace in the trimmed lines.

* `lines_induction` -- a text is its first line and the text behind it;
* `trim_append_blanks`, `trim_dropLineEnd` -- blanks at the end of a line do not matter;
* `Resolver.significantLines_eq` -- the lines that declare something, from the pieces of a text;
* `Resolver.significantLines_append` -- two texts with a line feed between them.
-/

namespace Missive

namespace Text

/-! ## Cutting -/

/-- A text is one line, or a line with a line feed behind it and a text behind that. -/
theorem lines_induction {motive : List Char → Prop} (last : ∀ line, '\n' ∉ line → motive line)
    (line : ∀ first rest, '\n' ∉ first → motive rest → motive (first ++ '\n' :: rest))
    (cs : List Char) : motive cs := by
  induction hn : cs.length using Nat.strong_induction_on generalizing cs with
  | _ n ih =>
    by_cases hfeed : '\n' ∈ cs
    · obtain ⟨first, rest, rfl, hfirst⟩ := List.eq_append_cons_of_mem hfeed
      have hlt : rest.length < n := by
        rw [← hn, List.length_append, List.length_cons]
        omega
      exact line first rest hfirst (ih rest.length hlt rest rfl)
    · exact last cs hfeed

theorem pieces_of_not_mem {separator : Char} {cs : List Char} (h : separator ∉ cs) :
    pieces separator cs = [cs] := by
  induction cs with
  | nil => rfl
  | cons c rest ih =>
    have hc := List.ne_of_not_mem_cons h
    have hrest := List.not_mem_of_not_mem_cons h
    rw [pieces, if_neg (Ne.symm hc), ih hrest]

/-- The pieces of two texts with a separator between them. -/
theorem pieces_append (separator : Char) (a b : List Char) :
    pieces separator (a ++ separator :: b) = pieces separator a ++ pieces separator b := by
  induction a with
  | nil =>
    rw [List.nil_append, pieces, pieces, if_pos rfl]
    rfl
  | cons c rest ih =>
    rw [List.cons_append, pieces, pieces]
    by_cases hc : c = separator
    · rw [if_pos hc, if_pos hc, ih, List.cons_append]
    · rw [if_neg hc, if_neg hc, ih]
      cases hrest : pieces separator rest with
      | nil => exact absurd hrest (pieces_ne_nil separator rest)
      | cons first later => rfl

theorem chunks_of_not_mem {cs : List Char} (h : '\n' ∉ cs) :
    chunks cs = if cs = [] then [] else [cs] := by
  induction cs with
  | nil => rfl
  | cons c rest ih =>
    have hc := List.ne_of_not_mem_cons h
    have hrest := List.not_mem_of_not_mem_cons h
    rw [chunks, if_neg (Ne.symm hc), ih hrest, if_neg (List.cons_ne_nil c rest)]
    cases rest with
    | nil => rfl
    | cons d tail => rfl

/-- The first chunk reaches to the first line feed. -/
theorem chunks_append {line : List Char} (h : '\n' ∉ line) (rest : List Char) :
    chunks (line ++ '\n' :: rest) = (line ++ ['\n']) :: chunks rest := by
  induction line with
  | nil => rfl
  | cons c tail ih =>
    have hc := List.ne_of_not_mem_cons h
    have htail := List.not_mem_of_not_mem_cons h
    rw [List.cons_append, chunks, if_neg (Ne.symm hc), ih htail]
    rfl

/-! ## Trimming -/

theorem trimEnd_append_blanks {a b : List Char} (hb : ∀ c ∈ b, isBlank c = true) :
    trimEnd (a ++ b) = trimEnd a := by
  rw [trimEnd, List.reverse_append,
    List.dropWhile_append_of_pos fun c hc => hb c (List.mem_reverse.1 hc), trimEnd]

/-- Blanks behind a text are no part of it. -/
theorem trim_append_blanks {a b : List Char} (hb : ∀ c ∈ b, isBlank c = true) :
    trim (a ++ b) = trim a := by
  have hnil : b.dropWhile isBlank = [] := List.dropWhile_eq_nil_iff.2 hb
  rw [trim, List.dropWhile_append, hnil]
  split
  · rename_i hempty
    rw [trim, List.isEmpty_iff.1 hempty]
  · exact trimEnd_append_blanks hb

/-- What is trimmed at its end stays so. -/
theorem trim_trimEnd (cs : List Char) : trim (trimEnd cs) = trim cs := by
  have hcut : trimEnd cs ++ (cs.reverse.takeWhile isBlank).reverse = cs := by
    rw [trimEnd, ← List.reverse_append, List.takeWhile_append_dropWhile, List.reverse_reverse]
  have hblank : ∀ c ∈ (cs.reverse.takeWhile isBlank).reverse, isBlank c = true := by
    intro c hc
    exact List.all_eq_true.1 List.all_takeWhile c (List.mem_reverse.1 hc)
  calc trim (trimEnd cs) = trim (trimEnd cs ++ (cs.reverse.takeWhile isBlank).reverse) :=
        (trim_append_blanks hblank).symm
    _ = trim cs := by rw [hcut]

/-- A text that ends without a blank behind some character is cut behind that character only. -/
theorem trimEnd_append_cons {c : Char} (hc : isBlank c = false) (a b : List Char) :
    trimEnd (a ++ c :: b) = a ++ c :: trimEnd b := by
  have hstop : (c :: a.reverse).dropWhile isBlank = c :: a.reverse := by
    rw [List.dropWhile_cons, hc, if_neg Bool.false_ne_true]
  rw [trimEnd, List.reverse_append, List.reverse_cons, List.append_assoc, List.singleton_append,
    List.dropWhile_append, hstop]
  split
  · rename_i hempty
    rw [trimEnd, List.isEmpty_iff.1 hempty, List.reverse_cons, List.reverse_reverse]
    rfl
  · rw [List.reverse_append, List.reverse_cons, List.reverse_reverse, List.append_assoc, trimEnd]
    rfl

/-- A text that begins without a blank is trimmed at its end only. -/
theorem trim_cons {c : Char} (hc : isBlank c = false) (rest : List Char) :
    trim (c :: rest) = trimEnd (c :: rest) := by
  rw [trim, List.dropWhile_cons, hc, if_neg Bool.false_ne_true]

theorem dropLineEnd_of_not_mem {line : List Char} (h : '\n' ∉ line) :
    dropLineEnd line = line := by
  rw [dropLineEnd]
  split
  · rename_i rest hreverse
    exact absurd (List.mem_reverse.1 (hreverse ▸ List.mem_cons_self)) h
  · rename_i rest _ hreverse
    exact absurd (List.mem_reverse.1 (hreverse ▸ List.mem_cons_self)) h
  · rfl

/-- The characters of a line end are blanks. -/
theorem trim_dropLineEnd (line : List Char) : trim (dropLineEnd (line ++ ['\n'])) = trim line := by
  rw [dropLineEnd, List.reverse_append, List.reverse_singleton, List.singleton_append]
  split
  · rename_i rest hreverse
    have hline : line = rest.reverse ++ ['\r'] := by
      rw [← List.reverse_reverse line, (List.cons.inj hreverse).2, List.reverse_cons]
    have hreturn : ∀ c ∈ ['\r'], isBlank c = true := List.all_eq_true.1 rfl
    rw [hline]
    exact (trim_append_blanks hreturn).symm
  · rename_i rest _ hreverse
    rw [← (List.cons.inj hreverse).2, List.reverse_reverse]
  · rename_i _ hother
    exact absurd rfl (hother line.reverse)

end Text

namespace Resolver

/-! ## Lines that declare something -/

/-- The lines that declare something are found by cutting at the line feeds. -/
theorem significantLines_eq (text : List Char) :
    significantLines text = ((Text.pieces '\n' text).map Text.trim).filter isSignificant := by
  induction text using Text.lines_induction with
  | last line hline =>
    rw [significantLines, Text.lines, Text.chunks_of_not_mem hline, Text.pieces_of_not_mem hline]
    split
    · rename_i hempty
      rw [hempty]
      rfl
    · simp only [List.map_cons, List.map_nil, Text.dropLineEnd_of_not_mem hline]
  | line first rest hfirst ih =>
    rw [significantLines, Text.lines, List.map_map] at ih
    rw [significantLines, Text.lines, Text.chunks_append hfirst, Text.pieces_append,
      Text.pieces_of_not_mem hfirst, List.map_map, List.map_cons, List.singleton_append,
      List.map_cons, Function.comp_apply, Text.trim_dropLineEnd, List.filter_cons,
      List.filter_cons, ih]

theorem significantLines_append (a b : List Char) :
    significantLines (a ++ '\n' :: b) = significantLines a ++ significantLines b := by
  rw [significantLines_eq, Text.pieces_append, List.map_append, List.filter_append,
    ← significantLines_eq, ← significantLines_eq]

theorem significantLines_line {line : List Char} (h : '\n' ∉ line) :
    significantLines line = [Text.trim line].filter isSignificant := by
  rw [significantLines_eq, Text.pieces_of_not_mem h, List.map_singleton]

end Resolver

end Missive
