import Mathlib.Data.List.DropRight
import Mathlib.Data.List.TakeWhile
import Missive.Proofs.Grammar
import Missive.Proofs.Overlays
/-!
# The words of a comment

A comment is read from left to right, a directive here and prose there.  A directive contains no gap
and ends at one, so this is the same as reading the words between the gaps one by one, and the
directives for the package of a field's type are the words `package=path` and `rust:package=path`.

* `Directive.scan_eq` -- the directives of a comment are those of its words;
* `Directive.statedPath?`, `Directive.statedPath?_eq_some_iff` -- the words that state a path;
* `Directive.find?_collect` -- the last one of them counts.
-/

namespace Missive

/-- The last entry of a name counts. -/
theorem Dictionary.find?_ofList {α : Type} (entries : List (String × α)) (name : String) :
    (ofList entries).find? name
      = (entries.filterMap fun e => if name = e.1 then some e.2 else none).getLast? := by
  induction entries using List.reverseRecOn with
  | nil => rfl
  | append_singleton entries e ih =>
    have hinsert : ofList (entries ++ [e]) = (ofList entries).insert e.1 e.2 :=
      insertAll_append empty entries [e]
    rw [hinsert, find?_insert, ih, List.filterMap_append, List.getLast?_append]
    by_cases h : name = e.1
    · simp only [List.filterMap_cons, if_pos h]
      rfl
    · simp only [List.filterMap_cons, if_neg h]
      rfl

namespace Directive

/-! ## Reading by words -/

/-- The characters of words. -/
def isWordChar (c : Char) : Bool :=
  !isGap c

theorem isWordChar_of_nameChar (c : Char) (h : isNameChar c = true) : isWordChar c = true := by
  rw [isWordChar, isGap_of_nameChar c h]
  rfl

/-- A text is a word and what follows it. -/
structure IsWord (word tail : List Char) : Prop where
  chars : ∀ c ∈ word, isWordChar c = true
  ends : StopsAt isWordChar tail

namespace IsWord

variable {word tail : List Char}

/-- The leading characters of a class of word characters end in the word or with it. -/
theorem stopsAt (h : IsWord word tail) {p : Char → Bool}
    (hp : ∀ c, p c = true → isWordChar c = true) : StopsAt p (word.dropWhile p ++ tail) := by
  cases hrest : word.dropWhile p with
  | nil =>
    intro c hc
    by_contra hpc
    have hchar := hp c (by simpa using hpc)
    rw [h.ends c hc] at hchar
    cases hchar
  | cons c rest =>
    refine stopsAt_cons (stopsAt_dropWhile p word c ?_) (rest ++ tail)
    rw [hrest]
    rfl

theorem takeWhile_eq (h : IsWord word tail) {p : Char → Bool}
    (hp : ∀ c, p c = true → isWordChar c = true) :
    (word ++ tail).takeWhile p = word.takeWhile p := by
  conv_lhs => rw [← List.takeWhile_append_dropWhile (p := p) (l := word), List.append_assoc]
  exact takeWhile_append_of_stops (fun c hc => List.mem_takeWhile_imp hc) (h.stopsAt hp)

theorem dropWhile_eq (h : IsWord word tail) {p : Char → Bool}
    (hp : ∀ c, p c = true → isWordChar c = true) :
    (word ++ tail).dropWhile p = word.dropWhile p ++ tail := by
  conv_lhs => rw [← List.takeWhile_append_dropWhile (p := p) (l := word), List.append_assoc]
  exact dropWhile_append_of_stops (fun c hc => List.mem_takeWhile_imp hc) (h.stopsAt hp)

/-- The rest of a word is one. -/
theorem of_dropWhile (h : IsWord word tail) {p : Char → Bool} {c : Char} {rest : List Char}
    (hrest : word.dropWhile p = c :: rest) : IsWord rest tail := by
  have hsub : c :: rest ⊆ word := hrest ▸ (List.dropWhile_sublist p).subset
  exact ⟨fun d hd => h.chars d (hsub (List.mem_cons_of_mem _ hd)), h.ends⟩

/-- What is left of the word is nothing. -/
theorem takeWhile_word (h : IsWord word tail) : (word ++ tail).takeWhile isWordChar = word :=
  takeWhile_append_of_stops h.chars h.ends

theorem dropWhile_word (h : IsWord word tail) : (word ++ tail).dropWhile isWordChar = tail :=
  dropWhile_append_of_stops h.chars h.ends

end IsWord

/-- The tail does not begin with a character that a word goes on with. -/
theorem head_tail_ne {tail rest : List Char} {c : Char} (h : StopsAt isWordChar tail)
    (hc : isWordChar c = true) : tail ≠ c :: rest := by
  rintro rfl
  have hstop := h c rfl
  rw [hc] at hstop
  cases hstop

variable {word tail : List Char}

/-- An assignment at the start of a word ends with the word. -/
theorem readAssignment?_word (h : IsWord word tail) (audience : Option String) :
    readAssignment? audience (word ++ tail)
      = (readAssignment? audience word).map fun d => (d.1, tail) := by
  have hkey : (word ++ tail).takeWhile isNameChar = word.takeWhile isNameChar :=
    h.takeWhile_eq isWordChar_of_nameChar
  have hrest : (word ++ tail).dropWhile isNameChar = word.dropWhile isNameChar ++ tail :=
    h.dropWhile_eq isWordChar_of_nameChar
  simp only [readAssignment?, hkey, hrest]
  cases hw : word.dropWhile isNameChar with
  | nil =>
    cases tail with
    | nil => rfl
    | cons c rest =>
      have hne : c ≠ '=' := by
        rintro rfl
        exact head_tail_ne h.ends (by decide) rfl
      simp only [List.nil_append]
      split
      · rename_i heq
        exact absurd (List.cons.inj heq).1 hne
      · rfl
  | cons c rest =>
    have hword := h.of_dropWhile hw
    have htake : (rest ++ tail).takeWhile (fun c => !isGap c) = rest := hword.takeWhile_word
    have hdrop : (rest ++ tail).dropWhile (fun c => !isGap c) = tail := hword.dropWhile_word
    have hself : rest.takeWhile (fun c => !isGap c) = rest :=
      List.takeWhile_eq_self_iff.2 hword.chars
    by_cases hc : c = '='
    · subst hc
      simp only [List.cons_append, htake, hdrop, hself]
      split <;> rfl
    · simp only [List.cons_append]
      split
      · rename_i heq
        exact absurd (List.cons.inj heq).1 hc
      · split
        · rename_i heq
          exact absurd (List.cons.inj heq).1 hc
        · rfl

/-- So does a directive. -/
theorem read?_word (h : IsWord word tail) :
    read? (word ++ tail) = (read? word).map fun d => (d.1, tail) := by
  have hfirst : (word ++ tail).takeWhile isNameChar = word.takeWhile isNameChar :=
    h.takeWhile_eq isWordChar_of_nameChar
  have hrest : (word ++ tail).dropWhile isNameChar = word.dropWhile isNameChar ++ tail :=
    h.dropWhile_eq isWordChar_of_nameChar
  have hplain := readAssignment?_word h none
  simp only [read?, hfirst, hrest]
  cases hw : word.dropWhile isNameChar with
  | nil =>
    cases tail with
    | nil => exact hplain
    | cons c rest =>
      have hne : c ≠ ':' := by
        rintro rfl
        exact head_tail_ne h.ends (by decide) rfl
      simp only [List.nil_append]
      split
      · rename_i heq
        exact absurd (List.cons.inj heq).1 hne
      · exact hplain
  | cons c rest =>
    by_cases hc : c = ':'
    · subst hc
      simp only [List.cons_append]
      split
      · rfl
      · exact readAssignment?_word (h.of_dropWhile hw) _
    · simp only [List.cons_append]
      split
      · rename_i heq
        exact absurd (List.cons.inj heq).1 hc
      · split
        · rename_i heq
          exact absurd (List.cons.inj heq).1 hc
        · exact hplain

/-- The words of a text; between two gaps that stand side by side there is an empty one. -/
def words (cs : List Char) : List (List Char) :=
  cs.splitOnP isGap

theorem words_gap {c : Char} (h : isGap c = true) (rest : List Char) :
    words (c :: rest) = [] :: words rest := by
  rw [words, List.splitOnP_cons_eq_if_modifyHead, if_pos h]
  rfl

theorem words_of_word {cs : List Char} (h : ∀ c ∈ cs, isWordChar c = true) : words cs = [cs] := by
  refine List.splitOnP_eq_singleton fun c hc => ?_
  simpa [isWordChar] using h c hc

/-- What the words of a text say, if an empty one says nothing: what the first one says, and what
the others behind it say. -/
theorem filterMap_words {α : Type} {say : List Char → Option α} (hnil : say [] = none)
    (cs : List Char) :
    (words cs).filterMap say
      = (say (cs.takeWhile isWordChar)).toList
        ++ (words (cs.dropWhile isWordChar)).filterMap say := by
  have htake : ∀ c ∈ cs.takeWhile isWordChar, isWordChar c = true :=
    fun c hc => List.mem_takeWhile_imp hc
  have hnone : (words []).filterMap say = [] := by
    rw [words, List.splitOnP_nil, List.filterMap_cons_none hnil, List.filterMap_nil]
  cases hdrop : cs.dropWhile isWordChar with
  | nil =>
    have hcs : cs.takeWhile isWordChar = cs := by
      rw [← List.append_nil (cs.takeWhile isWordChar), ← hdrop, List.takeWhile_append_dropWhile]
    have hall : ∀ c ∈ cs, isWordChar c = true := hcs ▸ htake
    rw [hcs, words_of_word hall, hnone, List.append_nil]
    cases hsay : say cs with
    | none => rw [List.filterMap_cons_none hsay]; rfl
    | some a => rw [List.filterMap_cons_some hsay]; rfl
  | cons c rest =>
    have hstop := stopsAt_dropWhile isWordChar cs c (by rw [hdrop]; rfl)
    have hgap : isGap c = true := by simpa [isWordChar] using hstop
    conv_lhs => rw [← List.takeWhile_append_dropWhile (p := isWordChar) (l := cs), hdrop]
    rw [words, List.splitOnP_append_cons _ _ hgap, ← words, words_of_word htake,
      List.filterMap_append, words_gap hgap, List.filterMap_cons_none hnil]
    cases hsay : say (cs.takeWhile isWordChar) with
    | none => rw [List.filterMap_cons_none hsay]; rfl
    | some a => rw [List.filterMap_cons_some hsay]; rfl

/-- The directive that a word is. -/
def ofWord? (word : List Char) : Option Directive :=
  (read? word).map Prod.fst

/-- A text that begins with a word begins with the directive that the word is. -/
theorem read?_eq (cs : List Char) :
    read? cs = (ofWord? (cs.takeWhile isWordChar)).map fun d => (d, cs.dropWhile isWordChar) := by
  have hword : IsWord (cs.takeWhile isWordChar) (cs.dropWhile isWordChar) :=
    ⟨fun c hc => List.mem_takeWhile_imp hc, stopsAt_dropWhile isWordChar cs⟩
  have hread := read?_word hword
  rw [List.takeWhile_append_dropWhile] at hread
  rw [hread, ofWord?, Option.map_map]
  rfl

/-- The directives of a text are those of its words. -/
theorem scan_eq (cs : List Char) : scan cs = (words cs).filterMap ofWord? := by
  have hnil : ofWord? [] = none := rfl
  -- the scan goes on behind a gap, behind a directive, or behind the rest of a word that is none
  induction cs using scan.induct with
  | case1 =>
    rw [scan, words, List.splitOnP_nil, List.filterMap_cons_none hnil, List.filterMap_nil]
  | case2 c rest hgap ih =>
    rw [scan, if_pos hgap, ih, words_gap hgap, List.filterMap_cons_none hnil]
  | case3 c rest hgap d tail hread ih =>
    have hword := read?_eq (c :: rest)
    rw [hread] at hword
    obtain ⟨e, he, heq⟩ := Option.map_eq_some_iff.1 hword.symm
    obtain ⟨rfl, rfl⟩ := Prod.mk.inj heq
    rw [scan, if_neg hgap, filterMap_words hnil, he, ← ih]
    split
    · rename_i hagain
      rw [hread] at hagain
      cases hagain
      rfl
    · rename_i hagain
      rw [hread] at hagain
      cases hagain
  | case4 c rest hgap hread ih =>
    have hword := read?_eq (c :: rest)
    rw [hread] at hword
    have hnone := Option.map_eq_none_iff.1 hword.symm
    have hchar : isWordChar c = true := by simpa [isWordChar] using hgap
    rw [scan, if_neg hgap, filterMap_words hnil, hnone, List.dropWhile_cons_of_pos hchar]
    split
    · rename_i hagain
      rw [hread] at hagain
      cases hagain
    · exact ih

/-! ## What a word says -/

/-- The word that a directive is written as. -/
def text (d : Directive) : List Char :=
  match d.audience with
  | none => d.key.toList ++ '=' :: d.value.toList
  | some audience => audience.toList ++ ':' :: (d.key.toList ++ '=' :: d.value.toList)

/-- The parts of a directive can be written down and read again. -/
structure IsPlain (d : Directive) : Prop where
  audience_run : ∀ audience ∈ d.audience, IsRun isNameChar audience.toList
  key_run : IsRun isNameChar d.key.toList
  value_ne_nil : d.value.toList ≠ []

theorem readAssignment?_of_key {key value : List Char} (hkey : IsRun isNameChar key)
    (hvalue : value ≠ []) (hchars : ∀ c ∈ value, isWordChar c = true) (audience : Option String) :
    readAssignment? audience (key ++ '=' :: value)
      = some (⟨audience, String.ofList key, String.ofList value⟩, []) := by
  have hstop : StopsAt isNameChar ('=' :: value) := stopsAt_cons (by decide) value
  have htake : value.takeWhile (fun c => !isGap c) = value := List.takeWhile_eq_self_iff.2 hchars
  have hdrop : value.dropWhile (fun c => !isGap c) = [] := List.dropWhile_eq_nil_iff.2 hchars
  simp only [readAssignment?, takeWhile_append_of_stops hkey.all hstop,
    dropWhile_append_of_stops hkey.all hstop, htake, hdrop]
  rw [List.isEmpty_eq_false_iff.2 hkey.ne_nil, List.isEmpty_eq_false_iff.2 hvalue]
  rfl

theorem eq_of_readAssignment? {audience : Option String} {rest : List Char} {d : Directive}
    (hword : ∀ c ∈ word, isWordChar c = true)
    (h : readAssignment? audience word = some (d, rest)) :
    d.audience = audience ∧ IsRun isNameChar d.key.toList ∧ d.value.toList ≠ [] ∧
      word = d.key.toList ++ '=' :: d.value.toList := by
  simp only [readAssignment?] at h
  split at h
  · rename_i value hcut
    split at h
    · cases h
    · rename_i hne
      cases h
      simp only [Bool.or_eq_true, List.isEmpty_iff, not_or] at hne
      have hchars : ∀ c ∈ value, isWordChar c = true := by
        have hsub : '=' :: value ⊆ word := hcut ▸ (List.dropWhile_sublist isNameChar).subset
        exact fun c hc => hword c (hsub (List.mem_cons_of_mem _ hc))
      have htake : value.takeWhile (fun c => !isGap c) = value :=
        List.takeWhile_eq_self_iff.2 hchars
      simp only [String.toList_ofList, htake] at hne ⊢
      refine ⟨trivial, ⟨hne.1, fun c hc => List.mem_takeWhile_imp hc⟩, hne.2, ?_⟩
      rw [← hcut, List.takeWhile_append_dropWhile]
  · cases h

/-- The words that are directives: an audience and a colon, if it has one, a key, an equals sign and
a value. -/
theorem ofWord?_eq_some_iff (hword : ∀ c ∈ word, isWordChar c = true) {d : Directive} :
    ofWord? word = some d ↔ d.IsPlain ∧ word = d.text := by
  constructor
  · intro h
    obtain ⟨⟨d, rest⟩, hread, rfl⟩ := Option.map_eq_some_iff.1 h
    simp only [read?] at hread
    split at hread
    · rename_i tail hcut
      split at hread
      · cases hread
      · rename_i hne
        have hsub : ':' :: tail ⊆ word := hcut ▸ (List.dropWhile_sublist isNameChar).subset
        obtain ⟨haudience, hkey, hvalue, htail⟩ := eq_of_readAssignment?
          (fun c hc => hword c (hsub (List.mem_cons_of_mem _ hc))) hread
        have hrun : IsRun isNameChar (word.takeWhile isNameChar) :=
          ⟨by simpa [List.isEmpty_iff] using hne, fun c hc => List.mem_takeWhile_imp hc⟩
        refine ⟨⟨fun audience hmem => ?_, hkey, hvalue⟩, ?_⟩
        · rw [haudience] at hmem
          obtain rfl := Option.some.inj hmem
          rw [String.toList_ofList]
          exact hrun
        · simp only [text, haudience, String.toList_ofList]
          rw [← htail, ← hcut, List.takeWhile_append_dropWhile]
    · obtain ⟨haudience, hkey, hvalue, htext⟩ := eq_of_readAssignment? hword hread
      refine ⟨⟨fun audience hmem => ?_, hkey, hvalue⟩, ?_⟩
      · rw [haudience] at hmem
        cases hmem
      · simp only [text, haudience]
        exact htext
  · rintro ⟨hplain, rfl⟩
    obtain ⟨audience, key, value⟩ := d
    have hstop : StopsAt isNameChar ('=' :: value.toList) := stopsAt_cons (by decide) _
    cases audience with
    | none =>
      have hchars : ∀ c ∈ value.toList, isWordChar c = true :=
        fun c hc => hword c (List.mem_append_right _ (List.mem_cons_of_mem _ hc))
      have hread := readAssignment?_of_key hplain.key_run hplain.value_ne_nil hchars none
      simp only [ofWord?, text, read?, dropWhile_append_of_stops hplain.key_run.all hstop]
      rw [hread, String.ofList_toList, String.ofList_toList]
      rfl
    | some audience =>
      have hrun := hplain.audience_run audience rfl
      have hcolon : StopsAt isNameChar (':' :: (key.toList ++ '=' :: value.toList)) :=
        stopsAt_cons (by decide) _
      have hchars : ∀ c ∈ value.toList, isWordChar c = true := fun c hc =>
        hword c (List.mem_append_right _ (List.mem_cons_of_mem _
          (List.mem_append_right _ (List.mem_cons_of_mem _ hc))))
      have hread := readAssignment?_of_key hplain.key_run hplain.value_ne_nil hchars
        (some audience)
      simp only [ofWord?, text, read?, dropWhile_append_of_stops hrun.all hcolon,
        takeWhile_append_of_stops hrun.all hcolon]
      rw [List.isEmpty_eq_false_iff.2 hrun.ne_nil, String.ofList_toList, hread,
        String.ofList_toList, String.ofList_toList]
      rfl

/-! ## The package of a field's type -/

/-- What a word begins with that states the path of the package. -/
def packageMarks : List String := ["package=", "rust:package="]

/-- The path that a word states for the package. -/
def statedPath? (word : List Char) : Option String := do
  let path ← packageMarks.findSome? fun mark => mark.toList.isPrefixOf? word
  if path.isEmpty then none else some (String.ofList path)

/-- The paths that the words of a comment state, in order; the marks that open it are skipped. -/
def statedPaths (comment : List Char) : List String :=
  (words (comment.dropWhile (· == '#'))).filterMap statedPath?

/-- A word begins with one of the marks at most. -/
theorem findSome?_packageMarks {path : List Char} :
    (packageMarks.findSome? fun mark => mark.toList.isPrefixOf? word) = some path
      ↔ ∃ mark ∈ packageMarks, mark.toList ++ path = word := by
  have hfirst : ∀ rest, "package=".toList.isPrefixOf? ("rust:package=".toList ++ rest) = none :=
    fun rest => rfl
  constructor
  · intro h
    obtain ⟨mark, hmark, hpath⟩ := List.exists_of_findSome?_eq_some h
    exact ⟨mark, hmark, List.isPrefixOf?_eq_some_iff_append_eq.1 hpath⟩
  · rintro ⟨mark, hmark, rfl⟩
    have hself : mark.toList.isPrefixOf? (mark.toList ++ path) = some path :=
      List.isPrefixOf?_eq_some_iff_append_eq.2 rfl
    rcases List.mem_cons.1 hmark with rfl | hmark
    · rw [packageMarks, List.findSome?_cons, hself]
    · obtain rfl := List.mem_singleton.1 hmark
      rw [packageMarks, List.findSome?_cons, hfirst, List.findSome?_cons, hself]

theorem statedPath?_eq_some_iff {path : String} :
    statedPath? word = some path
      ↔ path.toList ≠ [] ∧ ∃ mark ∈ packageMarks, mark.toList ++ path.toList = word := by
  rw [statedPath?, Option.bind_eq_bind, Option.bind_eq_some_iff]
  simp only [findSome?_packageMarks]
  constructor
  · rintro ⟨rest, hmark, hpath⟩
    split at hpath
    · cases hpath
    · rename_i hne
      cases hpath
      rw [String.toList_ofList]
      exact ⟨by simpa [List.isEmpty_iff] using hne, hmark⟩
  · rintro ⟨hne, hmark⟩
    refine ⟨path.toList, hmark, ?_⟩
    rw [if_neg (by simpa [List.isEmpty_iff] using hne), String.ofList_toList]

/-- The directives that are meant for this generator. -/
theorem isHere_iff {d : Directive} :
    d.isHere = true ↔ d.audience = none ∨ d.audience = some audienceHere := by
  rw [isHere]
  cases d.audience with
  | none => simp
  | some audience => simp

/-- The path that a directive states for the package, if it is one of this key and meant for this
generator. -/
def packagePath? (d : Directive) : Option String :=
  if d.isHere = true ∧ packageKey = d.key then some d.value else none

theorem packagePath?_eq_some_iff {d : Directive} {path : String} :
    d.packagePath? = some path
      ↔ (d.audience = none ∨ d.audience = some audienceHere) ∧ d.key = packageKey ∧
        d.value = path := by
  rw [← isHere_iff, packagePath?]
  by_cases h : d.isHere = true ∧ packageKey = d.key
  · rw [if_pos h, Option.some.injEq]
    exact ⟨fun hpath => ⟨h.1, h.2.symm, hpath⟩, fun hpath => hpath.2.2⟩
  · rw [if_neg h]
    refine ⟨fun hnone => ?_, fun hpath => absurd ⟨hpath.1, hpath.2.1.symm⟩ h⟩
    cases hnone

/-- The directives for the package begin with one of the marks. -/
theorem text_packageKey (path : String) :
    (⟨none, packageKey, path⟩ : Directive).text = "package=".toList ++ path.toList ∧
    (⟨some audienceHere, packageKey, path⟩ : Directive).text
      = "rust:package=".toList ++ path.toList := by
  have hplain : "package=".toList = packageKey.toList ++ ['='] := by decide
  have hhere : "rust:package=".toList
      = audienceHere.toList ++ ':' :: (packageKey.toList ++ ['=']) := by decide
  rw [hplain, hhere]
  constructor
  · rw [text, List.append_assoc]
    rfl
  · rw [text, List.append_assoc, List.cons_append, List.append_assoc]
    rfl

theorem packagePath?_ofWord? (hword : ∀ c ∈ word, isWordChar c = true) :
    (ofWord? word).bind packagePath? = statedPath? word := by
  refine Option.ext fun path => ?_
  rw [Option.bind_eq_some_iff, statedPath?_eq_some_iff]
  simp only [ofWord?_eq_some_iff hword, packagePath?_eq_some_iff]
  constructor
  · rintro ⟨⟨audience, key, value⟩, ⟨hplain, rfl⟩, haudience, rfl, rfl⟩
    refine ⟨hplain.value_ne_nil, ?_⟩
    rcases haudience with rfl | rfl
    · exact ⟨"package=", by decide, (text_packageKey value).1.symm⟩
    · exact ⟨"rust:package=", by decide, (text_packageKey value).2.symm⟩
  · rintro ⟨hne, mark, hmark, rfl⟩
    have hkey : IsRun isNameChar packageKey.toList := by decide
    rcases List.mem_cons.1 hmark with rfl | hmark
    · refine ⟨⟨none, packageKey, path⟩, ⟨⟨?_, hkey, hne⟩, (text_packageKey path).1.symm⟩,
        .inl rfl, rfl, rfl⟩
      intro audience h
      cases h
    · obtain rfl := List.mem_singleton.1 hmark
      refine ⟨⟨some audienceHere, packageKey, path⟩,
        ⟨⟨?_, hkey, hne⟩, (text_packageKey path).2.symm⟩, .inr rfl, rfl, rfl⟩
      intro audience h
      obtain rfl := Option.some.inj h
      decide

theorem isWordChar_of_mem_words {cs word : List Char} (h : word ∈ words cs) :
    ∀ c ∈ word, isWordChar c = true := by
  induction cs generalizing word with
  | nil =>
    rw [words, List.splitOnP_nil] at h
    obtain rfl := List.mem_singleton.1 h
    exact List.forall_mem_nil _
  | cons c rest ih =>
    by_cases hgap : isGap c = true
    · rw [words_gap hgap] at h
      rcases List.mem_cons.1 h with rfl | h
      · exact List.forall_mem_nil _
      · exact ih h
    · rw [words, List.splitOnP_cons_eq_if_modifyHead, if_neg hgap] at h
      obtain ⟨first, later, hrest⟩ := List.exists_cons_of_ne_nil (List.splitOnP_ne_nil isGap rest)
      rw [hrest, List.modifyHead_cons] at h
      rcases List.mem_cons.1 h with rfl | h
      · have hfirst : first ∈ words rest := by
          rw [words, hrest]
          exact List.mem_cons_self
        have hc : isWordChar c = true := by simpa [isWordChar] using hgap
        exact List.forall_mem_cons.2 ⟨hc, ih hfirst⟩
      · refine ih ?_
        rw [words, hrest]
        exact List.mem_cons_of_mem _ h

/-- The last path that a comment states counts. -/
theorem find?_collect (comment : String) :
    (collect comment).find? packageKey = (statedPaths comment.toList).getLast? := by
  rw [collect, Dictionary.find?_ofList, scan_eq, List.filterMap_map, List.filterMap_filter,
    List.filterMap_filterMap, statedPaths]
  congr 1
  refine List.filterMap_congr fun word hword => ?_
  rw [← packagePath?_ofWord? (isWordChar_of_mem_words hword)]
  cases ofWord? word with
  | none => rfl
  | some d =>
    show _ = d.packagePath?
    rw [packagePath?, ite_and]
    rfl

end Directive

end Missive
