import Mathlib.Data.List.Forall2
import Mathlib.Data.String.Basic
import Missive.Proofs.Sections
/-!
# Cutting a text at its separators

The sections of a service text are slices of it.  The two places that a loop over the chunks keeps,
where the open section starts and where the next chunk starts, are never inside of a character, and
between two sections there is nothing but the blanks in front of a mark, and the mark.

* `indents` -- the blanks in front of the marks;
* `spansFrom`, `sectionSpans` -- the places of the sections, found in one pass;
* `flatten_eq_sections` -- the text, put together again;
* `countP_of_section`, `sections_of_section` -- a section has no separator;
* `sections_lossless` -- all of it for one text.
-/

namespace Missive

open String (utf8Len)

/-! ## Separators -/

/-- The blanks in front of the mark of each separator of a text. -/
def indents (chunks : List (List Char)) : List (List Char) :=
  (chunks.filter isSeparator).map fun chunk => chunk.takeWhile Text.isBlank

/-- The first place in a chunk where the mark stands, in bytes. -/
def markPlace? : List Char → Option Nat
  | [] => none
  | c :: rest =>
    if separatorMark.isPrefixOf (c :: rest) then some 0
    else (markPlace? rest).map (c.utf8Size + ·)

/-- A text whose trimmed form is another one is this other one with blanks around it. -/
theorem Text.exists_of_trim (cs : List Char) : ∃ behind, (∀ c ∈ behind, isBlank c = true) ∧
    cs = cs.takeWhile isBlank ++ (trim cs ++ behind) := by
  refine ⟨((cs.dropWhile isBlank).reverse.takeWhile isBlank).reverse, fun c hc => ?_, ?_⟩
  · exact List.mem_takeWhile_imp (List.mem_reverse.1 hc)
  · rw [trim, trimEnd, ← List.reverse_append, List.takeWhile_append_dropWhile, List.reverse_reverse,
      List.takeWhile_append_dropWhile]

/-- A separator is the mark with blanks around it. -/
theorem exists_of_isSeparator {chunk : List Char} (h : isSeparator chunk = true) :
    ∃ behind, (∀ c ∈ behind, Text.isBlank c = true) ∧ afterMark chunk = behind ∧
      chunk = chunk.takeWhile Text.isBlank ++ (separatorMark ++ behind) := by
  obtain ⟨behind, hbehind, hchunk⟩ := Text.exists_of_trim chunk
  have htrim : Text.trim chunk = separatorMark := beq_iff_eq.1 h
  rw [htrim] at hchunk
  have hindent : ∀ c ∈ chunk.takeWhile Text.isBlank, Text.isBlank c = true :=
    fun c hc => List.mem_takeWhile_imp hc
  refine ⟨behind, hbehind, ?_, hchunk⟩
  rw [hchunk]
  exact (separator_of_padding hindent hbehind).2

/-- The mark of a separator stands behind the blanks, and no earlier. -/
theorem markPlace?_of_indent {indent : List Char} (h : ∀ c ∈ indent, Text.isBlank c = true)
    (behind : List Char) :
    markPlace? (indent ++ (separatorMark ++ behind)) = some (utf8Len indent) := by
  induction indent with
  | nil => rfl
  | cons c rest ih =>
    obtain ⟨hc, hrest⟩ := List.forall_mem_cons.1 h
    have hne : c ≠ '-' := by
      rintro rfl
      exact absurd hc (by decide)
    have hprefix : separatorMark.isPrefixOf (c :: (rest ++ (separatorMark ++ behind))) = false := by
      simp [separatorMark, List.isPrefixOf, hne.symm]
    rw [List.cons_append, markPlace?, hprefix, ih hrest]
    simp [Nat.add_comm]

theorem markPlace?_of_isSeparator {chunk : List Char} (h : isSeparator chunk = true) :
    markPlace? chunk = some (utf8Len (chunk.takeWhile Text.isBlank)) := by
  obtain ⟨behind, -, -, hchunk⟩ := exists_of_isSeparator h
  conv_lhs => rw [hchunk]
  exact markPlace?_of_indent (fun c hc => List.mem_takeWhile_imp hc) behind

/-! ## The pieces of a text -/

/-- Between the sections of a text there are the blanks and the marks of its separators, and there
is nothing else. -/
theorem flatten_eq_sections (chunks : List (List Char)) :
    chunks.flatten = (sectionsOf chunks).1
      ++ ((indents chunks).zip (sectionsOf chunks).2).flatMap fun gap =>
          gap.1 ++ (separatorMark ++ gap.2) := by
  induction chunks with
  | nil => rfl
  | cons chunk rest ih =>
    by_cases h : isSeparator chunk = true
    · obtain ⟨behind, -, hafter, hchunk⟩ := exists_of_isSeparator h
      have hindents : indents (chunk :: rest) = chunk.takeWhile Text.isBlank :: indents rest := by
        simp [indents, h]
      rw [sectionsOf_separator h, hindents, List.zip_cons_cons, List.flatMap_cons, hafter,
        List.flatten_cons, ih]
      conv_lhs => rw [hchunk]
      simp only [List.nil_append, List.append_assoc]
    · have hindents : indents (chunk :: rest) = indents rest := by
        simp [indents, h]
      rw [sectionsOf_line h, hindents, List.flatten_cons, ih, List.append_assoc]

/-- A text of blanks has no separator. -/
theorem countP_of_blank {cs : List Char} (h : ∀ c ∈ cs, Text.isBlank c = true) :
    (Text.chunks cs).countP isSeparator = 0 := by
  refine List.countP_eq_zero.2 fun chunk hchunk hseparator => ?_
  obtain ⟨behind, -, -, hsplit⟩ := exists_of_isSeparator hseparator
  have hmark : '-' ∈ chunk := by
    rw [hsplit]
    simp [separatorMark]
  have hmem : '-' ∈ cs := by
    rw [← Text.flatten_chunks cs]
    exact List.mem_flatten_of_mem hchunk hmark
  exact absurd (h '-' hmem) (by decide)

/-- What stands behind the mark of a separator line ends with the line. -/
theorem exists_of_afterMark {line : List Char} (h : isSeparator (line ++ ['\n']) = true) :
    ∃ behind, (∀ c ∈ behind, Text.isBlank c = true) ∧
      afterMark (line ++ ['\n']) = behind ++ ['\n'] := by
  obtain ⟨behind, hbehind, hafter, hsplit⟩ := exists_of_isSeparator h
  rw [hafter]
  cases List.eq_nil_or_concat' behind with
  | inl hnil =>
    -- the line would end with the mark
    have hlast := congrArg List.getLast? hsplit
    simp [hnil, separatorMark] at hlast
  | inr hconcat =>
    obtain ⟨init, last, rfl⟩ := hconcat
    have hlast := congrArg List.getLast? hsplit
    rw [← List.append_assoc, ← List.append_assoc, List.getLast?_concat,
      List.getLast?_concat] at hlast
    obtain rfl := Option.some.inj hlast
    exact ⟨init, fun c hc => hbehind c (List.mem_append_left _ hc), rfl⟩

/-- The sections of a text have no separator. -/
theorem countP_of_section (cs : List Char) :
    ∀ piece ∈ (sectionsOf (Text.chunks cs)).1 :: (sectionsOf (Text.chunks cs)).2,
      (Text.chunks piece).countP isSeparator = 0 := by
  have hempty : (Text.chunks []).countP isSeparator = 0 := rfl
  induction cs using Text.lines_induction with
  | last line hline =>
    by_cases hblank : ∀ c ∈ line, Text.isBlank c = true
    · rw [sectionsOf_chunks (countP_of_blank hblank)]
      exact List.forall_mem_singleton.2 (countP_of_blank hblank)
    · have hchunks : Text.chunks line = [line] := by
        rw [Text.chunks_of_not_mem hline, if_neg]
        rintro rfl
        exact hblank (List.forall_mem_nil _)
      rw [hchunks]
      by_cases h : isSeparator line = true
      · obtain ⟨behind, hbehind, hafter, -⟩ := exists_of_isSeparator h
        rw [sectionsOf_separator h, hafter]
        refine List.forall_mem_cons.2 ⟨hempty, List.forall_mem_singleton.2 ?_⟩
        rw [sectionsOf, List.append_nil]
        exact countP_of_blank hbehind
      · rw [sectionsOf_line h]
        simp [sectionsOf, hchunks, h]
  | line first rest hfirst ih =>
    obtain ⟨hopened, hlater⟩ := List.forall_mem_cons.1 ih
    rw [Text.chunks_append hfirst]
    by_cases h : isSeparator (first ++ ['\n']) = true
    · obtain ⟨behind, hbehind, hafter⟩ := exists_of_afterMark h
      have hstarts : StartsLine (behind ++ ['\n']) := .inr ⟨behind, rfl⟩
      have hblank : ∀ c ∈ behind ++ ['\n'], Text.isBlank c = true := by
        rw [List.forall_mem_append]
        exact ⟨hbehind, List.all_eq_true.1 rfl⟩
      rw [sectionsOf_separator h, hafter, List.forall_mem_cons, List.forall_mem_cons]
      refine ⟨hempty, ?_, hlater⟩
      rw [hstarts.chunks_append, List.countP_append, countP_of_blank hblank, hopened]
    · have hstarts : StartsLine (first ++ ['\n']) := .inr ⟨first, rfl⟩
      rw [sectionsOf_line h, List.forall_mem_cons]
      refine ⟨?_, hlater⟩
      rw [List.append_assoc, List.singleton_append, Text.chunks_append hfirst,
        List.countP_cons_of_neg h, hopened]

/-- A section is cut no further. -/
theorem sections_of_section {text piece : String} (h : piece ∈ sections text) :
    sections piece = [piece] := by
  obtain ⟨cs, hcs, rfl⟩ := List.mem_map.1 h
  rw [sections, String.toList_ofList, sectionsOf_chunks (countP_of_section text.toList cs hcs)]
  rfl

/-! ## Places -/

/-- The places where the sections begin and end, in bytes: the open section starts at `start`, and
the chunks that are left start at `place`.  A separator ends the open section in front of itself,
and the next one starts behind its mark. -/
def spansFrom (start place : Nat) : List (List Char) → List (Nat × Nat)
  | [] => [(start, place)]
  | chunk :: rest =>
    if isSeparator chunk then
      (start, place) ::
        spansFrom (place + (markPlace? chunk).getD 0 + utf8Len separatorMark)
          (place + utf8Len chunk) rest
    else spansFrom start (place + utf8Len chunk) rest

/-- The places where the sections of a text begin and end. -/
def sectionSpans (text : String) : List (Nat × Nat) :=
  spansFrom 0 0 (Text.chunks text.toList)

/-- Between these places of a text stands this piece. -/
def IsSlice (text : List Char) (span : Nat × Nat) (piece : List Char) : Prop :=
  ∃ front back, text = front ++ piece ++ back ∧
    span = (utf8Len front, utf8Len front + utf8Len piece)

namespace IsSlice

variable {text piece : List Char} {span : Nat × Nat}

theorem extract_eq (h : IsSlice text span piece) :
    String.Pos.Raw.extract (String.ofList text) ⟨span.1⟩ ⟨span.2⟩ = String.ofList piece := by
  obtain ⟨front, back, rfl, rfl⟩ := h
  exact String.extract_of_valid front piece back

/-- A slice begins and ends between two characters. -/
theorem isValid (h : IsSlice text span piece) :
    String.Pos.Raw.IsValid (String.ofList text) ⟨span.1⟩ ∧
    String.Pos.Raw.IsValid (String.ofList text) ⟨span.2⟩ ∧ span.1 ≤ span.2 := by
  obtain ⟨front, back, rfl, rfl⟩ := h
  have hplace : ∀ before behind : List Char,
      String.Pos.Raw.IsValid (String.ofList (before ++ behind)) ⟨utf8Len before⟩ := by
    intro before behind
    refine String.Pos.Raw.isValid_iff_exists_append.2 ⟨.ofList before, .ofList behind, ?_, ?_⟩
    · exact String.ofList_append
    · rw [String.rawEndPos_ofList]
  have hfirst := hplace front (piece ++ back)
  have hlast := hplace (front ++ piece) back
  rw [String.utf8Len_append] at hlast
  rw [← List.append_assoc] at hfirst
  exact ⟨hfirst, hlast, Nat.le_add_right _ _⟩

end IsSlice

/-- From any state of the pass on: between the places that it finds stand the sections. -/
theorem spansFrom_slices {text front opened : List Char} {chunks : List (List Char)}
    (h : text = front ++ (opened ++ chunks.flatten)) :
    List.Forall₂ (IsSlice text) (spansFrom (utf8Len front) (utf8Len front + utf8Len opened) chunks)
      ((opened ++ (sectionsOf chunks).1) :: (sectionsOf chunks).2) := by
  -- what is open when a chunk has been passed is the chunk behind what was open, or behind its mark
  induction chunks generalizing front opened with
  | nil =>
    refine .cons ⟨front, [], ?_, ?_⟩ .nil
    · rw [h]
      simp [sectionsOf]
    · simp [sectionsOf]
  | cons chunk rest ih =>
    rw [List.flatten_cons] at h
    by_cases hchunk : isSeparator chunk = true
    · obtain ⟨behind, -, hafter, hsplit⟩ := exists_of_isSeparator hchunk
      have hwidth : utf8Len chunk
          = utf8Len (chunk.takeWhile Text.isBlank) + (utf8Len separatorMark + utf8Len behind) := by
        conv_lhs => rw [hsplit]
        simp only [String.utf8Len_append]
      rw [spansFrom, if_pos hchunk, sectionsOf_separator hchunk, hafter,
        markPlace?_of_isSeparator hchunk, hwidth]
      generalize chunk.takeWhile Text.isBlank = indent at hsplit hwidth ⊢
      have hlater := @ih (front ++ (opened ++ (indent ++ separatorMark))) behind (by
        rw [h, hsplit]
        simp only [List.append_assoc])
      refine .cons ⟨front, chunk ++ rest.flatten, ?_, ?_⟩ ?_
      · rw [h]
        simp only [List.append_nil, List.append_assoc]
      · rw [List.append_nil]
      · simpa only [String.utf8Len_append, Option.getD_some, Nat.add_assoc] using hlater
    · have hlater := @ih front (opened ++ chunk) (by rw [h, List.append_assoc])
      rw [spansFrom, if_neg hchunk, sectionsOf_line hchunk]
      simpa only [String.utf8Len_append, Nat.add_assoc, List.append_assoc] using hlater

/-- Each section ends in front of the next one. -/
theorem spansFrom_ordered {start place : Nat} (h : start ≤ place) (chunks : List (List Char)) :
    (∀ span ∈ spansFrom start place chunks, start ≤ span.1) ∧
    (spansFrom start place chunks).Pairwise fun span later => span.2 < later.1 := by
  have hmark : utf8Len separatorMark = 3 := rfl
  induction chunks generalizing start place with
  | nil => simp [spansFrom]
  | cons chunk rest ih =>
    by_cases hchunk : isSeparator chunk = true
    · obtain ⟨behind, -, -, hsplit⟩ := exists_of_isSeparator hchunk
      have hwidth : utf8Len (chunk.takeWhile Text.isBlank) + 3 ≤ utf8Len chunk := by
        conv_rhs => rw [hsplit]
        simp only [String.utf8Len_append, hmark]
        omega
      rw [spansFrom, if_pos hchunk, markPlace?_of_isSeparator hchunk, hmark, Option.getD_some]
      generalize utf8Len (chunk.takeWhile Text.isBlank) = indent at hwidth ⊢
      obtain ⟨hfrom, hpairs⟩ := @ih (place + indent + 3) (place + utf8Len chunk) (by omega)
      constructor
      · intro span hspan
        rcases List.mem_cons.1 hspan with rfl | hspan
        · exact Nat.le_refl _
        · have hlater := hfrom span hspan
          omega
      · refine List.pairwise_cons.2 ⟨fun later hlater => ?_, hpairs⟩
        have hstart := hfrom later hlater
        show place < later.1
        omega
    · rw [spansFrom, if_neg hchunk]
      exact ih (by omega)

/-! ## The whole text -/

/-- The sections of a text are its slices at the places that the pass finds. -/
theorem sectionSpans_slices (text : String) :
    List.Forall₂ (IsSlice text.toList) (sectionSpans text)
      ((sectionsOf (Text.chunks text.toList)).1 :: (sectionsOf (Text.chunks text.toList)).2) :=
  @spansFrom_slices text.toList [] [] _ (Text.flatten_chunks text.toList).symm

/-- **Cutting a service loses nothing.**  A text has one section more than it has separators.  The
first section, and for each separator the blanks in front of its mark, the mark and the next
section, are the text.  The places where the pass over the text cuts it are between characters, each
section begins where the one before it has ended, with room for a mark between them, and what
stands between its two places is the section.  A section has no separator, so it is cut no
further. -/
theorem sections_lossless (text : String) :
    (sections text).length = (Text.chunks text.toList).countP isSeparator + 1 ∧
    (∃ first later, sections text = first :: later ∧
      later.length = (indents (Text.chunks text.toList)).length ∧
      (∀ indent ∈ indents (Text.chunks text.toList), ∀ c ∈ indent, Text.isBlank c = true) ∧
      text.toList = first.toList
        ++ ((indents (Text.chunks text.toList)).zip later).flatMap fun gap =>
            gap.1 ++ (separatorMark ++ gap.2.toList)) ∧
    (sections text
      = (sectionSpans text).map fun span => String.Pos.Raw.extract text ⟨span.1⟩ ⟨span.2⟩) ∧
    (∀ span ∈ sectionSpans text, String.Pos.Raw.IsValid text ⟨span.1⟩ ∧
      String.Pos.Raw.IsValid text ⟨span.2⟩ ∧ span.1 ≤ span.2) ∧
    (sectionSpans text).Pairwise (fun span later => span.2 < later.1) ∧
    ∀ piece ∈ sections text, sections piece = [piece] := by
  have hslices := sectionSpans_slices text
  have hordered := spansFrom_ordered (Nat.le_refl 0) (Text.chunks text.toList)
  refine ⟨?_, ?_, ?_, ?_, hordered.2, fun piece => sections_of_section⟩
  · rw [sections, List.length_map, List.length_cons, length_sectionsOf]
  · refine ⟨_, _, rfl, ?_, ?_, ?_⟩
    · rw [List.length_map, length_sectionsOf, indents, List.length_map,
        List.countP_eq_length_filter]
    · intro indent hindent c hc
      obtain ⟨chunk, -, rfl⟩ := List.mem_map.1 hindent
      exact List.mem_takeWhile_imp hc
    · have hcover := flatten_eq_sections (Text.chunks text.toList)
      rw [Text.flatten_chunks] at hcover
      rw [String.toList_ofList, List.zip_map_right, List.flatMap_map]
      simpa using hcover
  · have hmap : List.Forall₂ Eq
        ((sectionSpans text).map fun span => String.Pos.Raw.extract text ⟨span.1⟩ ⟨span.2⟩)
        (sections text) := by
      refine List.forall₂_map_left_iff.2 (List.forall₂_map_right_iff.2 ?_)
      apply hslices.imp
      intro span piece h
      have hpiece := h.extract_eq
      rwa [String.ofList_toList] at hpiece
    rw [List.forall₂_eq_eq_eq] at hmap
    exact hmap.symm
  · have hvalid := (List.forall₂_and_left _ _).1 (hslices.imp fun _ _ h => ⟨h.isValid, h⟩)
    rw [String.ofList_toList] at hvalid
    exact hvalid.1

/-! ## A text with two separators -/

namespace Garden

/-- A wide blank stands in front of the first mark and a narrow one behind it; the text ends with
the second mark. -/
def plotText : String :=
  "Pot töpfe\n\u3000---\u00a0\nbool grün\n---"

theorem chunks_plotText : Text.chunks plotText.toList
    = ["Pot töpfe\n", "\u3000---\u00a0\n", "bool grün\n", "---"].map String.toList := by
  decide

/-- The text has three sections, which begin behind eleven, six and three more bytes; the second
one is cut no further. -/
theorem sections_of_plotText :
    sections plotText = ["Pot töpfe\n", "\u00a0\nbool grün\n", ""] ∧
    sectionSpans plotText = [(0, 11), (17, 31), (34, 34)] ∧
    String.Pos.Raw.extract plotText ⟨17⟩ ⟨31⟩ = "\u00a0\nbool grün\n" ∧
    String.Pos.Raw.IsValid plotText ⟨17⟩ ∧
    sections "\u00a0\nbool grün\n" = ["\u00a0\nbool grün\n"] := by
  have hspans : sectionSpans plotText = [(0, 11), (17, 31), (34, 34)] := by
    rw [sectionSpans, chunks_plotText]
    decide
  have hsections : sections plotText = ["Pot töpfe\n", "\u00a0\nbool grün\n", ""] := by
    rw [sections, chunks_plotText]
    rfl
  obtain ⟨-, -, hslices, hvalid, -, hagain⟩ := sections_lossless plotText
  rw [hspans] at hslices hvalid
  rw [hsections] at hslices hagain
  exact ⟨hsections, hspans, (List.cons.inj (List.cons.inj hslices).2).1.symm,
    (hvalid (17, 31) (by simp)).1, hagain _ (by simp)⟩

end Garden

end Missive
