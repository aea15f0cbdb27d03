import Mathlib.Data.List.Basic
import Missive.Definition.Name
import Missive.Proofs.Lines
/-!
# Names in upper camel case

A name in upper camel case does not start with a small letter.  The words that are put behind the
name of a service for its two messages stay as they are, so the three names differ.

* `Text.pieces_behind` -- the pieces of a text with a word behind it;
* `Text.Uppercase.head?_expand` -- an upper case does not start with a small letter;
* `Text.Uppercase.eq_or_of_mem_expand` -- what an upper case is made of;
* `Name.head?_camel` -- nor does a name in upper camel case;
* `Name.camel_serviceWord` -- the name of a service, and those of its messages.
-/

namespace Missive

/-- A word behind a text is behind its last piece. -/
theorem Text.pieces_behind {separator : Char} {word : List Char} (h : separator ∉ word)
    {cs : List Char} {init : List (List Char)} {last : List Char}
    (hcs : pieces separator cs = init ++ [last]) :
    pieces separator (cs ++ word) = init ++ [last ++ word] := by
  induction cs generalizing init last with
  | nil =>
    cases init with
    | nil =>
      obtain rfl := List.singleton_inj.1 hcs
      exact pieces_of_not_mem h
    | cons first later =>
      have hlength := congrArg List.length hcs
      simp [pieces] at hlength
  | cons c rest ih =>
    rw [List.cons_append]
    rw [pieces] at hcs ⊢
    by_cases hc : c = separator
    · rw [if_pos hc] at hcs ⊢
      cases init with
      | nil =>
        have hlength := congrArg List.length hcs
        have hpieces := List.length_pos_iff.2 (pieces_ne_nil separator rest)
        simp only [List.nil_append, List.length_cons, List.length_nil] at hlength
        omega
      | cons first later =>
        obtain ⟨rfl, hrest⟩ := List.cons.inj hcs
        rw [ih hrest]
        rfl
    · rw [if_neg hc] at hcs ⊢
      cases hrest : pieces separator rest with
      | nil => exact absurd hrest (pieces_ne_nil separator rest)
      | cons first later =>
        rw [hrest] at hcs
        cases init with
        | nil =>
          obtain ⟨rfl, rfl⟩ := List.cons.inj hcs
          have hsplit : pieces separator (rest ++ word) = [first ++ word] := @ih [] first hrest
          rw [hsplit]
          rfl
        | cons second others =>
          obtain ⟨rfl, rfl⟩ := List.cons.inj hcs
          have hsplit : pieces separator (rest ++ word) = first :: others ++ [last ++ word] :=
            ih hrest
          rw [hsplit]
          rfl

/-! ## Small letters -/

theorem Char.toNat_of_isLower {c : Char} (h : c.isLower = true) :
    97 ≤ c.toNat ∧ c.toNat ≤ 122 := by
  obtain ⟨hfirst, hlast⟩ := Bool.and_eq_true_iff.1 h
  exact ⟨of_decide_eq_true hfirst, of_decide_eq_true hlast⟩

theorem Char.not_isLower_ofNat {n : Nat} (h : n < 97 ∨ 122 < n) :
    (Char.ofNat n).isLower = false := by
  rw [Bool.eq_false_iff]
  intro hlower
  have hbounds := toNat_of_isLower hlower
  by_cases hvalid : n.isValidChar
  · have hself : Char.ofNat n = Char.ofNatAux n hvalid := dif_pos hvalid
    rw [hself] at hbounds
    change 97 ≤ n ∧ n ≤ 122 at hbounds
    omega
  · -- what is no character becomes the zero character
    have hzero : Char.ofNat n = '\x00' := dif_neg hvalid
    rw [hzero] at hbounds
    exact absurd hbounds (by decide)

namespace Text.Uppercase

/-- The upper case of a character does not start with a small letter. -/
theorem head?_expand (c : Char) : ∃ d, (expand c).head? = some d ∧ d.isLower = false := by
  have hascii : ∀ n < 0x80, (Char.ofNat n).toUpper.isLower = false := by decide
  have hcodes : ∀ entry ∈ expansions, ∃ n ∈ entry.2.head?, (Char.ofNat n).isLower = false := by
    decide
  have hruns : ∀ run ∈ runs, run.last + run.shift < 97 ∨ 122 < run.first + run.shift := by
    decide +kernel
  rw [expand]
  split
  · rename_i hc
    have hupper := hascii c.toNat hc
    rw [Char.ofNat_toNat] at hupper
    exact ⟨_, rfl, hupper⟩
  · rename_i hc
    split
    · rename_i codes hlookup
      obtain ⟨before, after, hsplit, -⟩ := List.lookup_eq_some_iff.1 hlookup
      obtain ⟨n, hn, hlower⟩ := hcodes (c.toNat, codes)
        (hsplit ▸ List.mem_append_right before List.mem_cons_self)
      exact ⟨_, by rw [List.head?_map, hn]; rfl, hlower⟩
    · split
      · rename_i run hrun
        have hholds := List.find?_some hrun
        have hrange := hruns run (List.mem_of_find?_eq_some hrun)
        rw [Run.holds, Bool.and_eq_true, Bool.and_eq_true, decide_eq_true_eq,
          decide_eq_true_eq] at hholds
        exact ⟨_, rfl, Char.not_isLower_ofNat (by omega)⟩
      · have hlower : (Char.ofNat c.toNat).isLower = false := by
          refine Char.not_isLower_ofNat (.inr ?_)
          omega
        rw [Char.ofNat_toNat] at hlower
        exact ⟨c, rfl, hlower⟩

theorem Char.toNat_ofNat_of_valid {n : Nat} (h : n.isValidChar) : (Char.ofNat n).toNat = n := by
  have hself : Char.ofNat n = Char.ofNatAux n h := dif_pos h
  rw [hself]
  rfl

/-- The upper case of a character is made of the character itself, of capital letters and of
characters above ASCII. -/
theorem eq_or_of_mem_expand {c d : Char} (h : d ∈ expand c) :
    d = c ∨ d.isUpper = true ∨ 0x80 ≤ d.toNat := by
  have hascii : ∀ n < 0x80, (Char.ofNat n).toUpper = Char.ofNat n ∨
      (Char.ofNat n).toUpper.isUpper = true := by
    decide
  have hcodes : ∀ entry ∈ expansions, ∀ n ∈ entry.2, (Char.ofNat n).isUpper = true ∨
      0x80 ≤ (Char.ofNat n).toNat := by
    decide
  have hruns : ∀ run ∈ runs, 65 ≤ run.first + run.shift ∧ run.last + run.shift ≤ 90 ∨
      0x80 ≤ run.first + run.shift ∧ run.last + run.shift < 0xD800 ∨
      0xE000 ≤ run.first + run.shift ∧ run.last + run.shift < 0x110000 := by
    decide +kernel
  rw [expand] at h
  split at h
  · rename_i hc
    have hupper := hascii c.toNat hc
    rw [Char.ofNat_toNat] at hupper
    rw [List.mem_singleton.1 h]
    exact hupper.imp_right .inl
  · split at h
    · rename_i codes hlookup
      obtain ⟨before, after, hsplit, -⟩ := List.lookup_eq_some_iff.1 hlookup
      obtain ⟨n, hn, rfl⟩ := List.mem_map.1 h
      exact .inr (hcodes (c.toNat, codes)
        (hsplit ▸ List.mem_append_right before List.mem_cons_self) n hn)
    · split at h
      · rename_i run hrun
        have hholds := List.find?_some hrun
        have hrange := hruns run (List.mem_of_find?_eq_some hrun)
        rw [Run.holds, Bool.and_eq_true, Bool.and_eq_true, decide_eq_true_eq,
          decide_eq_true_eq] at hholds
        rw [List.mem_singleton.1 h]
        have hvalid : (c.toNat + run.shift).toNat.isValidChar := by
          rcases hrange with hrange | hrange | hrange
          · exact .inl (by omega)
          · exact .inl (by omega)
          · exact .inr (by omega)
        have hcode := Char.toNat_ofNat_of_valid hvalid
        rcases hrange with hrange | hrange | hrange
        · have hcapital : 65 ≤ (Char.ofNat (c.toNat + run.shift).toNat).toNat ∧
              (Char.ofNat (c.toNat + run.shift).toNat).toNat ≤ 90 := by
            omega
          exact .inr (.inl (decide_eq_true hcapital))
        · exact .inr (.inr (by omega))
        · exact .inr (.inr (by omega))
      · exact .inl (List.mem_singleton.1 h)

end Text.Uppercase

/-! ## Names -/

namespace Name

open Text.Uppercase (expand upper)

/-- A word with its first letter raised. -/
def raised : List Char → List Char
  | [] => []
  | first :: rest => expand first ++ rest

/-- The words behind the name of a service in the names of its messages. -/
def serviceWords : List String :=
  ["Request", "Response"]

theorem camelWord_eq (word : List Char) :
    camelWord word = if initialisms.contains (String.ofList (upper word)) then upper word
      else raised word := by
  cases word <;> rfl

theorem head?_camelWord {word : List Char} {c : Char} (h : (camelWord word).head? = some c) :
    c.isLower = false := by
  have hcapitals : initialisms.all fun name => name.toList.head?.all (!·.isLower) := by decide
  rw [camelWord_eq] at h
  split_ifs at h with hword
  · have hfirst := List.all_eq_true.1 hcapitals _ (List.contains_iff_mem.1 hword)
    rw [String.toList_ofList, h] at hfirst
    simpa using hfirst
  · cases word with
    | nil => cases h
    | cons first rest =>
      obtain ⟨d, hd, hlower⟩ := Text.Uppercase.head?_expand first
      rw [raised, List.head?_append, hd] at h
      obtain rfl := Option.some.inj h
      exact hlower

/-- A name in upper camel case does not start with a small letter. -/
theorem head?_camel {name : String} {c : Char} (h : (camel name).toList.head? = some c) :
    c.isLower = false := by
  rw [camel, String.toList_ofList] at h
  generalize Text.pieces '_' name.toList = words at h
  induction words with
  | nil => cases h
  | cons word later ih =>
    rw [List.flatMap_cons, List.head?_append] at h
    cases hword : (camelWord word).head? with
    | none =>
      rw [hword] at h
      exact ih h
    | some d =>
      rw [hword] at h
      exact head?_camelWord (hword.trans h)

/-- With one of the words of a service behind it a word is raised as it is. -/
theorem camelWord_serviceWord (word : List Char) {behind : String} (h : behind ∈ serviceWords) :
    camelWord (word ++ behind.toList) = raised word ++ behind.toList := by
  have hshort : ∀ name ∈ initialisms, name.toList.length ≤ 5 := by decide
  have hlong : ∀ behind ∈ serviceWords, 5 < (upper behind.toList).length := by decide
  have hraised : ∀ behind ∈ serviceWords, raised behind.toList = behind.toList := by decide
  rw [camelWord_eq, if_neg]
  · cases word with
    | nil => exact hraised behind h
    | cons first rest => exact (List.append_assoc _ _ _).symm
  · intro hcontains
    have hlength := hshort _ (List.contains_iff_mem.1 hcontains)
    rw [String.toList_ofList, upper, List.flatMap_append, List.length_append] at hlength
    have hbehind := hlong behind h
    rw [upper] at hbehind
    omega

/-- The name of a service and those of its messages start in the same way; the words behind it are
those that the messages have. -/
theorem camel_serviceWord (name : String) : ∃ front : String,
    (∀ behind ∈ serviceWords, camel (name ++ behind) = front ++ behind) ∧
    ∀ behind ∈ serviceWords, camel name ≠ front ++ behind := by
  have hmark : ∀ behind ∈ serviceWords, '_' ∉ behind.toList := by decide
  have hnonempty : ∀ behind ∈ serviceWords, 0 < behind.toList.length := by decide
  have hcapitals : ∀ behind ∈ serviceWords, ∀ name ∈ initialisms,
      ¬behind.toList <:+ name.toList := by decide
  obtain ⟨init, last, hpieces⟩ : ∃ init last, Text.pieces '_' name.toList = init ++ [last] :=
    (List.eq_nil_or_concat' _).resolve_left (Text.pieces_ne_nil '_' name.toList)
  refine ⟨String.ofList (init.flatMap camelWord ++ raised last), fun behind h => ?_,
    fun behind h heq => ?_⟩
  · rw [camel, String.toList_append, Text.pieces_behind (hmark behind h) hpieces,
      List.flatMap_append, List.flatMap_singleton, camelWord_serviceWord last h,
      ← List.append_assoc, String.ofList_append, String.ofList_toList]
  · have hlists := congrArg String.toList heq
    rw [camel, String.toList_ofList, hpieces, List.flatMap_append, List.flatMap_singleton,
      String.toList_append, String.toList_ofList, List.append_assoc, List.append_cancel_left_eq,
      camelWord_eq] at hlists
    split_ifs at hlists with hword
    · -- the word would be the end of an initialism
      refine hcapitals behind h _ (List.contains_iff_mem.1 hword) ⟨raised last, ?_⟩
      rw [String.toList_ofList, hlists]
    · have hlength := congrArg List.length hlists
      have hlong := hnonempty behind h
      rw [List.length_append] at hlength
      omega

end Name

end Missive
