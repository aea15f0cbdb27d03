import Missive.Code.Outline
import Missive.Proofs.Vocabulary
/-!
# Reading outlines

What a reader of code makes of the texts that code is put together from.  Outside of all brackets,
plain text adds to the words of an item.  Inside of them no text counts, as long as it leaves open
what it has found open; this is seen piece by piece.

* `isInner`, `isBland` -- characters that are no quotes, slashes or brackets, and of these the ones
  that can stand in an item without ending it or giving it a value;
* `Outline.read_comment`, `Outline.read_import`, `Outline.read_block`, `Outline.read_marker` -- a
  comment, an import, an item with a block, and one without;
* `Moves`, `IsPhrase` -- texts inside of brackets, and those that may end with a word;
* `turns?`, `moves_of_turns` -- whether a given text moves a reader, and where to.
-/

namespace Missive.Code

/-! ## Characters -/

/-- Quotes, slashes and brackets. -/
def outerMarks : List Char :=
  ['"', '/', '\'', '(', ')', '[', ']', '{', '}']

/-- All other characters. -/
def isInner (c : Char) : Bool :=
  !outerMarks.contains c

/-- Characters that can stand in an item without ending it and without giving it a value. -/
def isBland (c : Char) : Bool :=
  isInner c && c != ';' && c != '='

theorem inner_iff {c : Char} : isInner c = true ↔ c ≠ '"' ∧ c ≠ '/' ∧ c ≠ '\'' ∧ c ≠ '(' ∧
    c ≠ ')' ∧ c ≠ '[' ∧ c ≠ ']' ∧ c ≠ '{' ∧ c ≠ '}' := by
  simp [isInner, outerMarks]

theorem bland_iff {c : Char} : isBland c = true ↔ isInner c = true ∧ c ≠ ';' ∧ c ≠ '=' := by
  simp [isBland, and_assoc]

theorem inner_of_bland {c : Char} (h : isBland c = true) : isInner c = true :=
  (bland_iff.1 h).1

/-- A class without such marks has inner characters only. -/
theorem inner_of_class {p : Char → Bool} (hp : outerMarks.all (fun d => !p d) = true) {c : Char}
    (hc : p c = true) : isInner c = true := by
  by_contra hinner
  have hmem : c ∈ outerMarks := by
    simpa [isInner] using hinner
  have hnot := List.all_eq_true.1 hp c hmem
  rw [hc] at hnot
  cases hnot

/-! ## Words -/

/-- A character of no word cuts a text in two. -/
theorem wordsFrom_append {c : Char} (hc : isLetter c = false) (letters cs rest : List Char) :
    wordsFrom letters (cs ++ c :: rest) = wordsFrom letters cs ++ wordsFrom [] rest := by
  induction cs generalizing letters with
  | nil =>
    rw [List.nil_append, wordsFrom, wordsFrom, hc]
    rfl
  | cons d more ih =>
    rw [List.cons_append, wordsFrom, wordsFrom]
    split_ifs
    · exact ih _
    · rw [ih, List.append_assoc]

theorem isImport_append {head : List String} (h : isImport head = true) (more : List String) :
    isImport (head ++ more) = true := by
  rw [isImport.eq_def] at h
  split at h
  · rfl
  · rfl
  · cases h

namespace Outline

variable {o : Outline} {c : Char} {cs : List Char}

theorem read_append (o : Outline) (a b : List Char) : o.read (a ++ b) = (o.read a).read b :=
  List.foldl_append

theorem read_cons (o : Outline) (c : Char) (cs : List Char) :
    o.read (c :: cs) = (o.step c).read cs :=
  rfl

theorem read_fixed (h : ∀ c ∈ cs, o.step c = o) : o.read cs = o := by
  induction cs with
  | nil => rfl
  | cons c rest ih =>
    obtain ⟨hc, hrest⟩ := List.forall_mem_cons.1 h
    rw [read_cons, hc, ih hrest]

/-! ## Comments -/

/-- A comment up to the end of its line leaves no trace. -/
theorem read_comment (items : List (List String)) (h : '\n' ∉ cs) :
    (behind items).read ('/' :: '/' :: (cs ++ ['\n'])) = behind items := by
  have hline : ∀ c ∈ cs, Outline.step ⟨.line, 0, [], [], items⟩ c = ⟨.line, 0, [], [], items⟩ :=
    fun c hc => if_neg (ne_of_mem_of_not_mem hc h)
  rw [read_cons, read_cons, read_append]
  show (Outline.read ⟨.line, 0, [], [], items⟩ cs).read ['\n'] = _
  rw [read_fixed hline]
  rfl

/-! ## Quoted texts -/

theorem step_quoted (hmode : o.mode = .quoted) (hquote : c ≠ '"') (hbackslash : c ≠ '\\') :
    o.step c = o := by
  rw [step, hmode]
  simp only [if_neg hquote, if_neg hbackslash]

theorem read_escape (depth : Nat) (letters : List Char) (head : List String)
    (items : List (List String)) (c : Char) :
    Outline.read ⟨.quoted, depth, letters, head, items⟩ (Text.Quoted.escape c)
      = ⟨.quoted, depth, letters, head, items⟩ := by
  rw [Text.Quoted.escape]
  split_ifs with _ _ _ _ hbackslash hquote
  · rfl
  · rfl
  · rfl
  · rfl
  · rfl
  · rfl
  · exact step_quoted (o := ⟨.quoted, depth, letters, head, items⟩) rfl hquote hbackslash
  · have hdigits : ∀ d ∈ Nat.toDigits 16 c.toNat ++ ['}'], d ≠ '"' ∧ d ≠ '\\' := by
      intro d hd
      rcases List.mem_append.1 hd with hd | hd
      · exact ⟨fun heq => Text.Quoted.not_mem_hexDigits (by decide) _ (heq ▸ hd),
          fun heq => Text.Quoted.not_mem_hexDigits (by decide) _ (heq ▸ hd)⟩
      · rw [List.mem_singleton.1 hd]
        decide
    -- behind the backslash and the letter the reader is in the text again
    show Outline.read ⟨.quoted, depth, letters, head, items⟩ (Nat.toDigits 16 c.toNat ++ ['}']) = _
    exact read_fixed fun d hd => step_quoted rfl (hdigits d hd).1 (hdigits d hd).2

/-- A quoted text leaves no trace, whatever is in it. -/
theorem read_quote (hmode : o.mode = .code) (hletters : o.letters = []) (text : String) :
    o.read (Text.Quoted.quote text).toList = o := by
  obtain ⟨mode, depth, letters, head, items⟩ := o
  obtain rfl : mode = .code := hmode
  obtain rfl : letters = [] := hletters
  have hescaped : Outline.read ⟨.quoted, depth, [], head, items⟩
      (text.toList.flatMap Text.Quoted.escape) = ⟨.quoted, depth, [], head, items⟩ := by
    induction text.toList with
    | nil => rfl
    | cons c rest ih => rw [List.flatMap_cons, read_append, read_escape, ih]
  have hopen : Outline.step ⟨.code, depth, [], head, items⟩ '"'
      = ⟨.quoted, depth, [], head, items⟩ := by
    simp [step, plain, pause, finished, show isLetter '"' = false from rfl]
  rw [Text.Quoted.quote, String.toList_ofList, Text.Quoted.quoteChars, read_cons, read_append,
    hopen, hescaped]
  rfl

/-! ## Outside of brackets -/

/-- Outside of brackets a bland character belongs to a word or stands between two of them, and so
does a brace in an import. -/
theorem step_bland (hmode : o.mode = .code) (hdepth : o.depth = 0)
    (hc : isBland c = true ∨ isImport o.head = true ∧ (c = '{' ∨ c = '}')) :
    o.step c = if isLetter c then { o with letters := c :: o.letters }
      else { o with letters := [], head := o.head ++ finished o.letters } := by
  obtain ⟨mode, depth, letters, head, items⟩ := o
  obtain rfl : mode = .code := hmode
  obtain rfl : depth = 0 := hdepth
  show plain _ c = _
  rw [plain]
  by_cases hletter : isLetter c = true
  · rw [if_pos hletter, if_pos hletter]
  · rw [if_neg hletter, if_neg hletter]
    rcases hc with hc | ⟨himport, rfl | rfl⟩
    · obtain ⟨hinner, hsemicolon, hequals⟩ := bland_iff.1 hc
      obtain ⟨hquote, hslash, htick, h1, h2, h3, h4, h5, h6⟩ := inner_iff.1 hinner
      simp [pause, mark, hquote, hslash, htick, h1, h2, h3, h4, h5, h6, hsemicolon, hequals]
    · have hboth := isImport_append himport (finished letters)
      simp [pause, mark, hboth]
    · have hboth := isImport_append himport (finished letters)
      simp [pause, mark, hboth]

/-- Bland text adds to the words of an item. -/
theorem read_bland (hmode : o.mode = .code) (hdepth : o.depth = 0)
    (hcs : ∀ c ∈ cs, isBland c = true ∨ isImport o.head = true ∧ (c = '{' ∨ c = '}')) :
    ∃ letters head, o.read cs = { o with letters := letters, head := head } ∧
      head ++ finished letters = o.head ++ wordsFrom o.letters cs := by
  induction cs generalizing o with
  | nil => exact ⟨o.letters, o.head, rfl, rfl⟩
  | cons c rest ih =>
    obtain ⟨hc, hrest⟩ := List.forall_mem_cons.1 hcs
    rw [read_cons, step_bland hmode hdepth hc, wordsFrom]
    split_ifs
    · exact ih hmode hdepth hrest
    · obtain ⟨letters, head, hread, hwords⟩ :=
        ih (o := { o with letters := [], head := o.head ++ finished o.letters }) hmode hdepth
          fun d hd => (hrest d hd).imp_right fun h => ⟨isImport_append h.1 _, h.2⟩
      refine ⟨letters, head, hread, ?_⟩
      rw [hwords, List.append_assoc]

/-- A semicolon ends an item. -/
theorem step_semicolon (letters : List Char) (head : List String) (items : List (List String)) :
    Outline.step ⟨.code, 0, letters, head, items⟩ ';'
      = behind (items ++ [head ++ finished letters]) := by
  simp [step, plain, pause, mark, finish, behind, show isLetter ';' = false from rfl]

/-- The words that open an item. -/
theorem read_headline (items : List (List String)) {text : String} (h : IsOver isBland text) :
    ∃ letters head, (behind items).read text.toList = ⟨.code, 0, letters, head, items⟩ ∧
      head ++ finished letters = words text :=
  read_bland rfl rfl fun c hc => .inl (h c hc)

/-- An item without a block. -/
theorem read_marker (items : List (List String)) {text : String} (h : IsOver isBland text) :
    (behind items).read (text.toList ++ [';', '\n']) = behind (items ++ [words text]) := by
  obtain ⟨letters, head, hread, hwords⟩ := read_headline items h
  rw [← hwords, read_append, hread, read_cons]
  show (Outline.step ⟨.code, 0, letters, head, items⟩ ';').read ['\n'] = _
  rw [step_semicolon]
  rfl

/-- An import. -/
theorem read_import (items : List (List String)) {named : String}
    (h : ∀ c ∈ named.toList, isBland c = true ∨ c = '{' ∨ c = '}') :
    (behind items).read (("use " ++ named ++ ";").toList ++ ['\n'])
      = behind (items ++ [words ("use " ++ named ++ ";")]) := by
  -- the braces around a group of names are in the head of the item
  obtain ⟨letters, head, hread, hwords⟩ : ∃ letters head,
      Outline.read ⟨.code, 0, [], ["use"], items⟩ named.toList
        = ⟨.code, 0, letters, head, items⟩ ∧
      head ++ finished letters = ["use"] ++ wordsFrom [] named.toList :=
    read_bland rfl rfl fun c hc => (h c hc).imp_right fun hbrace => ⟨rfl, hbrace⟩
  have hline : ("use " ++ named ++ ";").toList
      = ['u', 's', 'e', ' '] ++ (named.toList ++ [';']) := by
    simp
  have hall : words ("use " ++ named ++ ";") = head ++ finished letters := by
    rw [words, hline, hwords]
    show ["use"] ++ wordsFrom [] (named.toList ++ [';']) = ["use"] ++ wordsFrom [] named.toList
    rw [wordsFrom_append rfl]
    exact congrArg _ (List.append_nil _)
  rw [hline, hall, List.append_assoc, List.append_assoc, read_append, read_append]
  show ((Outline.read ⟨.code, 0, [], ["use"], items⟩ named.toList).read [';', '\n']) = _
  rw [hread, read_cons]
  show (Outline.step ⟨.code, 0, letters, head, items⟩ ';').read ['\n'] = _
  rw [step_semicolon]
  rfl

end Outline

/-! ## Inside of brackets -/

/-- Text that takes a reader, from between two words inside of brackets, from one depth to another,
between two words again. -/
def Moves (i j : Nat) (cs : List Char) : Prop :=
  ∀ (o : Outline) (around : Nat), o.mode = .code → o.letters = [] → o.depth = i + around + 1 →
    o.read cs = { o with depth := j + around + 1 }

/-- Text that leaves a reader at its depth, maybe behind a word. -/
def IsPhrase (cs : List Char) : Prop :=
  ∀ o : Outline, o.mode = .code → o.letters = [] → 0 < o.depth →
    ∃ letters, o.read cs = { o with letters := letters }

namespace Outline

variable {o : Outline} {c : Char}

theorem step_inner (hmode : o.mode = .code) (hdepth : 0 < o.depth) (hc : isInner c = true) :
    o.step c = { o with letters := if isLetter c then c :: o.letters else [] } := by
  obtain ⟨mode, depth, letters, head, items⟩ := o
  obtain rfl : mode = .code := hmode
  obtain ⟨hquote, hslash, htick, h1, h2, h3, h4, h5, h6⟩ := inner_iff.1 hc
  have hne : depth ≠ 0 := Nat.ne_of_gt hdepth
  show plain _ c = _
  rw [plain]
  split_ifs
  · rfl
  · simp [pause, mark, hslash, htick, h1, h2, h3, h4, h5, h6, hne]

/-- Inside of brackets a word is forgotten behind a mark. -/
theorem step_behind_word (hmode : o.mode = .code) (hdepth : 0 < o.depth)
    (hc : isLetter c = false) (hquote : c ≠ '"') :
    o.step c = { o with letters := [] }.step c := by
  obtain ⟨mode, depth, letters, head, items⟩ := o
  obtain rfl : mode = .code := hmode
  have hne : depth ≠ 0 := Nat.ne_of_gt hdepth
  show plain _ c = plain _ c
  simp [plain, pause, hc, hquote, hne]

end Outline

section

variable {i j k : Nat} {a b cs : List Char}

theorem Moves.nil : Moves i i [] :=
  fun o _ _ _ hdepth => by
    obtain ⟨mode, depth, letters, head, items⟩ := o
    obtain rfl := hdepth
    rfl

theorem Moves.append (ha : Moves i j a) (hb : Moves j k b) : Moves i k (a ++ b) := by
  intro o around hmode hletters hdepth
  rw [Outline.read_append, ha o around hmode hletters hdepth]
  exact hb _ around hmode hletters rfl

theorem Moves.shift (h : Moves i j cs) (k : Nat) : Moves (i + k) (j + k) cs := by
  intro o around hmode hletters hdepth
  rw [h o (k + around) hmode hletters (by omega)]
  congr 1
  omega

/-- Text that moves a reader, with a phrase behind it. -/
theorem Moves.phrase (ha : Moves 0 0 a) (hb : IsPhrase b) : IsPhrase (a ++ b) := by
  intro o hmode hletters hdepth
  obtain ⟨around, heq⟩ := Nat.exists_eq_succ_of_ne_zero (Nat.ne_of_gt hdepth)
  have hread : o.read a = o := by
    rw [ha o around hmode hletters (by omega), Nat.zero_add, ← Nat.succ_eq_add_one, ← heq]
  rw [Outline.read_append, hread]
  exact hb o hmode hletters hdepth

/-- A phrase in front of a mark moves a reader as the mark does. -/
theorem IsPhrase.before {c : Char} (ha : IsPhrase a) (hc : isLetter c = false) (hquote : c ≠ '"')
    (h : Moves i j (c :: cs)) : Moves i j (a ++ c :: cs) := by
  intro o around hmode hletters hdepth
  obtain ⟨letters, hread⟩ := ha o hmode hletters (by omega)
  have hpositive : 0 < o.depth := by
    omega
  have hstep : ({ o with letters := letters } : Outline).step c
      = ({ o with letters := [] } : Outline).step c :=
    Outline.step_behind_word hmode hpositive hc hquote
  have hsame : ({ o with letters := [] } : Outline) = o := by
    rw [← hletters]
  rw [Outline.read_append, hread, Outline.read_cons, hstep, hsame]
  exact h o around hmode hletters hdepth

theorem isPhrase_of_inner (h : ∀ c ∈ cs, isInner c = true) : IsPhrase cs := by
  -- the letters in front are of no account, and inside of the text there are some
  have hall : ∀ o : Outline, o.mode = .code → 0 < o.depth →
      ∃ letters, o.read cs = { o with letters := letters } := by
    induction cs with
    | nil => exact fun o _ _ => ⟨o.letters, rfl⟩
    | cons c rest ih =>
      intro o hmode hdepth
      obtain ⟨hc, hrest⟩ := List.forall_mem_cons.1 h
      rw [Outline.read_cons, Outline.step_inner hmode hdepth hc]
      exact ih hrest _ hmode hdepth
  exact fun o hmode _ hdepth => hall o hmode hdepth

theorem Moves.isPhrase (h : Moves 0 0 cs) : IsPhrase cs := by
  have hempty : IsPhrase [] := isPhrase_of_inner fun _ => nofun
  have hphrase := h.phrase hempty
  rwa [List.append_nil] at hphrase

/-- Words of a class without quotes, slashes and brackets. -/
theorem isPhrase_of_over {p : Char → Bool} (hp : outerMarks.all (fun d => !p d) = true)
    {text : String} (h : IsOver p text) : IsPhrase text.toList :=
  isPhrase_of_inner fun c hc => inner_of_class hp (h c hc)

theorem isPhrase_quote (text : String) : IsPhrase (Text.Quoted.quote text).toList :=
  fun o hmode hletters _ => ⟨o.letters, Outline.read_quote hmode hletters text⟩

end

/-! ## Given texts -/

/-- How deep a text leads, unless there is a quote or a slash in it or a word at its end. -/
def turns? (depth : Nat) : List Char → Option Nat
  | [] => some depth
  | c :: rest =>
    if isInner c then if isLetter c && rest.isEmpty then none else turns? depth rest
    else if c = '\'' then if rest.head?.any isLetter then turns? depth rest else none
    else if c = '(' ∨ c = '[' ∨ c = '{' then turns? (depth + 1) rest
    else if c = ')' ∨ c = ']' ∨ c = '}' then
      match depth with
      | 0 => none
      | outer + 1 => turns? outer rest
    else none

namespace Outline

variable {o : Outline} {c : Char}

theorem step_open (hmode : o.mode = .code) (hdepth : 0 < o.depth)
    (hc : c = '(' ∨ c = '[' ∨ c = '{') :
    o.step c = { o with letters := [], depth := o.depth + 1 } := by
  obtain ⟨mode, depth, letters, head, items⟩ := o
  obtain rfl : mode = .code := hmode
  have hne : depth ≠ 0 := Nat.ne_of_gt hdepth
  rcases hc with rfl | rfl | rfl
  · simp [step, plain, pause, mark, hne, show isLetter '(' = false from rfl]
  · simp [step, plain, pause, mark, hne, show isLetter '[' = false from rfl]
  · simp [step, plain, pause, mark, hne, show isLetter '{' = false from rfl]

theorem step_close {outer : Nat} (hmode : o.mode = .code) (hdepth : o.depth = outer + 2)
    (hc : c = ')' ∨ c = ']' ∨ c = '}') :
    o.step c = { o with letters := [], depth := outer + 1 } := by
  obtain ⟨mode, depth, letters, head, items⟩ := o
  obtain rfl : mode = .code := hmode
  obtain rfl : depth = outer + 2 := hdepth
  rcases hc with rfl | rfl | rfl
  · simp [step, plain, pause, mark, close, show isLetter ')' = false from rfl]
  · simp [step, plain, pause, mark, close, show isLetter ']' = false from rfl]
  · simp [step, plain, pause, mark, close, show isLetter '}' = false from rfl]

theorem step_tick (hmode : o.mode = .code) (hdepth : 0 < o.depth) :
    o.step '\'' = { o with mode := .tick, letters := [] } := by
  obtain ⟨mode, depth, letters, head, items⟩ := o
  obtain rfl : mode = .code := hmode
  have hne : depth ≠ 0 := Nat.ne_of_gt hdepth
  simp [step, plain, pause, mark, hne, show isLetter '\'' = false from rfl]

/-- What `turns?` says of a text, whatever word is in front of it. -/
theorem read_of_turns {i j around : Nat} {cs : List Char} (h : turns? i cs = some j)
    (hmode : o.mode = .code) (hdepth : o.depth = i + around + 1) :
    o.read cs =
      { o with letters := if cs = [] then o.letters else [], depth := j + around + 1 } := by
  induction cs generalizing o i with
  | nil =>
    cases h
    rw [← hdepth]
    rfl
  | cons c rest ih =>
    have hpositive : 0 < o.depth := by
      omega
    have hrest (letters : List Char) {depth inside : Nat} (hturns : turns? inside rest = some j)
        (heq : depth = inside + around + 1) :
        ({ o with letters := letters, depth := depth } : Outline).read rest
          = { o with letters := if rest = [] then letters else [], depth := j + around + 1 } :=
      ih (o := { o with letters := letters, depth := depth }) hturns hmode heq
    rw [turns?.eq_def] at h
    simp only at h
    rw [read_cons, if_neg (List.cons_ne_nil c rest)]
    split at h
    · rename_i hinner
      rw [step_inner hmode hpositive hinner]
      split_ifs at h with hend
      rw [hrest _ h hdepth]
      by_cases hnil : rest = []
      · subst hnil
        simp only [List.isEmpty_nil, Bool.and_true] at hend
        rw [if_pos rfl, if_neg hend]
      · rw [if_neg hnil]
    · split at h
      · rename_i _ htick
        subst htick
        split_ifs at h with hletter
        obtain ⟨d, later, rfl, hd⟩ : ∃ d later, rest = d :: later ∧ isLetter d = true := by
          cases rest with
          | nil => cases hletter
          | cons d later => exact ⟨d, later, rfl, hletter⟩
        -- behind the apostrophe a letter is read as in front of it
        have hstep : (o.step '\'').step d = ({ o with letters := [] } : Outline).step d := by
          rw [step_tick hmode hpositive, step, step, hmode]
          exact if_pos hd
        rw [read_cons, hstep, ← read_cons]
        exact hrest [] h hdepth
      · split at h
        · rename_i hopen
          rw [step_open hmode hpositive hopen, hrest [] h (by omega), ite_self]
        · split at h
          · rename_i hclose
            cases i with
            | zero => cases h
            | succ outer =>
              have hinside : o.depth = outer + around + 2 := by omega
              rw [step_close hmode hinside hclose, hrest [] h rfl, ite_self]
          · cases h

end Outline

section

variable {i j k : Nat} {a cs : List Char}

/-- A text of which `turns?` says where it leads moves a reader there. -/
theorem moves_of_turns (h : turns? i cs = some j) : Moves i j cs := by
  intro o around hmode hletters hdepth
  rw [Outline.read_of_turns h hmode hdepth, hletters, ite_self]

/-- A phrase goes on with a given text that begins with a mark. -/
theorem IsPhrase.andThen (ha : IsPhrase a) {mark : String}
    (hstart : mark.toList.head?.any (fun c => !isLetter c && c != '"') = true)
    (hturns : turns? i mark.toList = some j) (h : Moves j k cs) :
    Moves i k (a ++ (mark.toList ++ cs)) := by
  have hmark := (moves_of_turns hturns).append h
  cases hlist : mark.toList with
  | nil =>
    rw [hlist] at hstart
    cases hstart
  | cons c rest =>
    rw [hlist] at hstart hmark
    simp only [List.head?_cons, Option.any_some, Bool.and_eq_true, Bool.not_eq_true',
      bne_iff_ne] at hstart
    exact ha.before hstart.1 hstart.2 hmark

theorem IsPhrase.endsWith (ha : IsPhrase a) {mark : String}
    (hstart : mark.toList.head?.any (fun c => !isLetter c && c != '"') = true)
    (hturns : turns? i mark.toList = some j) : Moves i j (a ++ mark.toList) := by
  have hmoves := ha.andThen hstart hturns .nil
  rwa [List.append_nil] at hmoves

/-- A given text goes on. -/
theorem Moves.given {mark : String} (hturns : turns? i mark.toList = some j) (h : Moves j k cs) :
    Moves i k (mark.toList ++ cs) :=
  (moves_of_turns hturns).append h

end

/-! ## Lines -/

theorem toList_linesText_append (as bs : List String) :
    (linesText (as ++ bs)).toList = (linesText as).toList ++ (linesText bs).toList := by
  rw [linesText_append, String.toList_append]

theorem toList_linesText_cons (line : String) (rest : List String) :
    (linesText (line :: rest)).toList = line.toList ++ '\n' :: (linesText rest).toList := by
  rw [linesText_cons, String.toList_append, String.toList_append, List.append_assoc]
  rfl

/-- A line moves a reader. -/
def MovesLine (i j : Nat) (line : String) : Prop :=
  Moves i j (line.toList ++ ['\n'])

/-- Lines move a reader. -/
def MovesLines (i j : Nat) (lines : List String) : Prop :=
  Moves i j (linesText lines).toList

section

variable {i j k : Nat} {line : String} {lines more : List String}

theorem MovesLines.nil : MovesLines i i [] :=
  Moves.nil

theorem MovesLines.cons (hline : MovesLine i j line) (h : MovesLines j k lines) :
    MovesLines i k (line :: lines) := by
  rw [MovesLines, toList_linesText_cons, ← List.singleton_append, ← List.append_assoc]
  exact Moves.append hline h

theorem MovesLines.append (ha : MovesLines i j lines) (hb : MovesLines j k more) :
    MovesLines i k (lines ++ more) := by
  rw [MovesLines, toList_linesText_append]
  exact Moves.append ha hb

theorem movesLines_map {α : Type} {items : List α} {line : α → String}
    (h : ∀ x ∈ items, MovesLine 0 0 (line x)) (depth : Nat) :
    MovesLines depth depth (items.map line) := by
  induction items with
  | nil => exact .nil
  | cons x rest ih =>
    obtain ⟨hx, hrest⟩ := List.forall_mem_cons.1 h
    have hline := Moves.shift hx depth
    rw [Nat.zero_add] at hline
    exact .cons hline (ih hrest)

theorem moves_blanks (n : Nat) : Moves i i (List.replicate n ' ') := by
  induction n with
  | zero => exact .nil
  | succ n ih =>
    have hblank : Moves i i [' '] := moves_of_turns rfl
    exact hblank.append ih

theorem MovesLine.indented (h : MovesLine i j line) (steps : Nat) :
    MovesLine i j (indented steps line) := by
  rw [MovesLine, Code.indented, String.toList_append, String.toList_ofList, List.append_assoc]
  exact (moves_blanks _).append h

/-- A given line. -/
theorem movesLine_given (h : turns? i (line.toList ++ ['\n']) = some j) : MovesLine i j line :=
  moves_of_turns h

end

namespace Outline

/-- A brace behind words that open no import opens a block. -/
theorem step_brace {head : List String} (himport : isImport head = false)
    (items : List (List String)) :
    Outline.step ⟨.code, 0, [], head, items⟩ '{' = ⟨.code, 1, [], head, items⟩ := by
  simp [step, plain, pause, mark, finished, himport, show isLetter '{' = false from rfl]

/-- The brace that closes a block ends its item. -/
theorem step_end (head : List String) (items : List (List String)) :
    Outline.step ⟨.code, 1, [], head, items⟩ '}' = behind (items ++ [head]) := by
  simp [step, plain, pause, mark, close, finish, behind, show isLetter '}' = false from rfl]

/-- An item with a block. -/
theorem read_block (items : List (List String)) {headline : String} {body : List String}
    (h : IsOver isBland headline) (himport : isImport (words headline) = false)
    (hbody : MovesLines 0 0 body) :
    (behind items).read
        (linesText ((headline ++ " " ++ openBrace) :: (body ++ [closeBrace]))).toList
      = behind (items ++ [words headline]) := by
  obtain ⟨letters, head, hread, hwords⟩ := read_headline items h
  have hopen : Outline.read ⟨.code, 0, letters, head, items⟩ [' ', '{', '\n']
      = ⟨.code, 1, [], words headline, items⟩ := by
    rw [read_cons, step_bland rfl rfl (.inl rfl)]
    show Outline.read ⟨.code, 0, [], head ++ finished letters, items⟩ ['{', '\n'] = _
    rw [hwords, read_cons, step_brace himport]
    rfl
  have hinside : Outline.read ⟨.code, 1, [], words headline, items⟩ (linesText body).toList
      = ⟨.code, 1, [], words headline, items⟩ :=
    hbody _ 0 rfl rfl rfl
  have htext : (linesText ((headline ++ " " ++ openBrace) :: (body ++ [closeBrace]))).toList
      = headline.toList ++ ([' ', '{', '\n'] ++ ((linesText body).toList ++ ['}', '\n'])) := by
    simp [openBrace, closeBrace, linesText]
  rw [htext, read_append, read_append, read_append, hread]
  show ((Outline.read ⟨.code, 0, letters, head, items⟩ _).read _).read _ = _
  rw [hopen, hinside, read_cons, step_end]
  rfl

/-- An attribute leaves no trace. -/
theorem read_attribute (items : List (List String)) {inside : List Char} (h : Moves 0 0 inside) :
    (behind items).read ('#' :: '[' :: (inside ++ [']', '\n'])) = behind items := by
  have hinside : Outline.read ⟨.code, 1, [], [], items⟩ inside = ⟨.code, 1, [], [], items⟩ :=
    h _ 0 rfl rfl rfl
  rw [read_cons, read_cons, read_append]
  show (Outline.read ⟨.code, 1, [], [], items⟩ inside).read [']', '\n'] = _
  rw [hinside]
  rfl

end Outline

end Missive.Code
