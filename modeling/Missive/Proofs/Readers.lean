import Mathlib.Data.List.Infix
import Missive.Decimal.Integer
import Missive.Proofs.Grammar
/-!
# Readers of written text

A reader goes over a text once, from the front, and takes what it knows.  If the text has been
written in pieces, and no piece can be taken for the one behind it, then readers of the pieces, put
together, read the whole.

* `Reader`, `Reader.skip`, `Reader.upTo`, `Reader.named`, `Reader.items` -- readers of fixed texts,
  of words in front of a mark, of names and of lines up to a closing one;
* `Reads`, `Refuses` -- what a reader does to a written text, whatever is behind it;
* `Reads.bind`, `Reads.orElse`, `Refuses.orElse`, `Reads.upTo`, `Reads.items` -- how this is seen of
  readers that are put together;
* `Refuses.skip_word` -- when a word cannot be taken for a fixed text;
* `Decimal.magnitude?_toDigits` -- numbers are read back from their digits.
-/

namespace Missive

/-! ## Numbers -/

namespace Decimal

theorem digitsValue_of_digits {cs : List Char} (h : ∀ c ∈ cs, c.isDigit = true) (before : Nat) :
    digitsValue before cs = some (Nat.ofDigitChars 10 cs before) := by
  induction cs generalizing before with
  | nil => rfl
  | cons c rest ih =>
    have hc : digit? c = some (c.toNat - '0'.toNat) := by
      rw [digit?, if_pos (h c List.mem_cons_self)]
    rw [digitsValue, hc, Nat.ofDigitChars_cons, Nat.mul_comm 10 before]
    exact ih (fun d hd => h d (List.mem_cons_of_mem c hd)) (before * 10 + (c.toNat - '0'.toNat))

/-- A character that is no digit is not among the digits of a number. -/
theorem not_mem_toDigits {c : Char} (hc : c.isDigit = false) (n : Nat) : c ∉ Nat.toDigits 10 n := by
  intro hmem
  rw [Nat.isDigit_of_mem_toDigits (by decide) (by decide) hmem] at hc
  cases hc

/-- A number is read back from its digits. -/
theorem magnitude?_toDigits (n : Nat) : magnitude? (Nat.toDigits 10 n) = some n := by
  obtain ⟨c, rest, hdigits⟩ := List.exists_cons_of_ne_nil (Nat.toDigits_ne_nil (b := 10) (n := n))
  have hall : ∀ c ∈ Nat.toDigits 10 n, c.isDigit = true :=
    fun c hc => Nat.isDigit_of_mem_toDigits (by decide) (by decide) hc
  have hvalue := digitsValue_of_digits hall 0
  rw [Nat.ofDigitChars_ten_toDigits] at hvalue
  rw [hdigits] at hvalue ⊢
  exact hvalue

end Decimal

/-! ## Readers -/

namespace Code

/-- A reader takes the front of a text, unless it refuses it. -/
abbrev Reader (α : Type) : Type :=
  StateT (List Char) Option α

/-- Lines, each with a line feed behind it. -/
def linesText (lines : List String) : String :=
  String.join (lines.map (· ++ "\n"))

namespace Reader

variable {α : Type}

/-- Takes this text. -/
def skip (text : String) : Reader Unit :=
  fun cs => (cs.dropPrefix? text.toList).map fun rest => ((), rest)

/-- Takes these lines. -/
def skipLines (lines : List String) : Reader Unit :=
  skip (linesText lines)

/-- Takes all characters of a class in front. -/
def run (p : Char → Bool) : Reader String :=
  fun cs => some (String.ofList (cs.takeWhile p), cs.dropWhile p)

/-- Takes what is in front of a mark, and the mark, which has to begin where its first character
first does. -/
def upTo (mark : String) : Reader String := do
  let word ← run fun c => mark.toList.head? != some c
  skip mark
  return word

/-- Takes the name of one of several things, and the mark behind it. -/
def named (all : List α) (name : α → String) (mark : String) : Reader α := do
  let word ← upTo mark
  StateT.lift (all.find? (name · == word))

/-- Takes items until there is a closing line, and that line. -/
def items (item : Reader α) (close : String) (cs : List Char) : Option (List α × List Char) :=
  match skipLines [close] cs with
  | some ((), rest) => some ([], rest)
  | none =>
    match item cs with
    | none => none
    | some (a, rest) =>
      if rest.length < cs.length then
        (items item close rest).map fun (as, rest) => (a :: as, rest)
      else none
termination_by cs.length

end Reader

/-! ## Putting readers together -/

/-- A reader takes a written text, whatever is behind it. -/
def Reads {α : Type} (read : Reader α) (written : String) (a : α) : Prop :=
  ∀ rest, read (written.toList ++ rest) = some (a, rest)

/-- A reader refuses a written text, whatever is behind it. -/
def Refuses {α : Type} (read : Reader α) (written : String) : Prop :=
  ∀ rest, read (written.toList ++ rest) = none

section

variable {α β : Type} {read other : Reader α} {next : α → Reader β} {written more : String}
  {a : α} {b : β}

theorem Reads.pure (a : α) : Reads (Pure.pure a) "" a :=
  fun _ => rfl

theorem Reads.bind (h : Reads read written a) (hnext : Reads (next a) more b) :
    Reads (read >>= next) (written ++ more) b := by
  intro rest
  rw [String.toList_append, List.append_assoc]
  show (read (written.toList ++ (more.toList ++ rest))).bind (fun (a, rest) => next a rest) = _
  rw [h (more.toList ++ rest)]
  exact hnext rest

/-- Behind the last piece nothing is taken. -/
theorem Reads.last (h : Reads read written a) (hnext : Reads (next a) "" b) :
    Reads (read >>= next) written b := by
  rw [← String.append_empty (s := written)]
  exact h.bind hnext

theorem Reads.lift {answer : Option α} (h : answer = some a) : Reads (StateT.lift answer) "" a := by
  intro rest
  subst h
  rfl

theorem Reads.orElse (h : Reads read written a) : Reads (read <|> other) written a := by
  intro rest
  show (read (written.toList ++ rest) <|> other (written.toList ++ rest)) = _
  rw [h rest]
  rfl

theorem Refuses.orElse (h : Refuses read written) (hother : Reads other written a) :
    Reads (read <|> other) written a := by
  intro rest
  show (read (written.toList ++ rest) <|> other (written.toList ++ rest)) = _
  rw [h rest]
  exact hother rest

theorem Refuses.bind (h : Refuses read written) : Refuses (read >>= next) written := by
  intro rest
  show (read (written.toList ++ rest)).bind _ = none
  rw [h rest]
  rfl

/-! ### Fixed texts and marks -/

theorem Reads.skip (text : String) : Reads (Reader.skip text) text () := by
  intro rest
  rw [Reader.skip, List.dropPrefix?_append_of_beq rest (beq_self_eq_true text.toList)]
  rfl

theorem Reads.skipLines (lines : List String) :
    Reads (Reader.skipLines lines) (linesText lines) () :=
  .skip (linesText lines)

/-- A text that does not begin as it should is refused. -/
theorem Refuses.skip {text : String} (h : ∀ rest, ¬text.toList <+: written.toList ++ rest) :
    Refuses (Reader.skip text) written := by
  intro rest
  rw [Reader.skip, Option.map_eq_none_iff, Option.eq_none_iff_forall_ne_some]
  intro behind hbehind
  obtain ⟨front, hcut, hfront⟩ := List.dropPrefix?_eq_some_iff.1 hbehind
  rw [beq_iff_eq] at hfront
  exact h rest ⟨behind, by rw [hcut, hfront]⟩

/-- A word in front of a mark is read if the mark's first character is not in it. -/
theorem Reads.upTo {word mark : String} {first : Char} (hmark : mark.toList.head? = some first)
    (hword : first ∉ word.toList) : Reads (Reader.upTo mark) (word ++ mark) word := by
  intro rest
  have hinside : ∀ c ∈ word.toList, (mark.toList.head? != some c) = true := by
    intro c hc
    rw [hmark, bne_iff_ne, Ne, Option.some.injEq]
    rintro rfl
    exact hword hc
  have hstop : StopsAt (fun c => mark.toList.head? != some c) (mark.toList ++ rest) := by
    intro c hc
    have hhead : (mark.toList ++ rest).head? = some first := by
      rw [List.head?_append, hmark, Option.some_or]
    rw [hhead, Option.mem_some] at hc
    show (mark.toList.head? != some c) = false
    rw [hmark, hc, bne_self_eq_false]
  rw [String.toList_append, List.append_assoc]
  show (Reader.skip mark ((word.toList ++ (mark.toList ++ rest)).dropWhile _)).bind _ = _
  rw [dropWhile_append_of_stops hinside hstop, Reads.skip mark rest,
    takeWhile_append_of_stops hinside hstop, String.ofList_toList]
  rfl

theorem Reads.named {all : List α} {name : α → String} {mark : String} {first : Char}
    (hmark : mark.toList.head? = some first) (hname : first ∉ (name a).toList)
    (hfind : all.find? (name · == name a) = some a) :
    Reads (Reader.named all name mark) (name a ++ mark) a :=
  .last (.upTo hmark hname) (.lift hfind)

/-! ### Lines up to a closing one -/

theorem linesText_cons (line : String) (rest : List String) :
    linesText (line :: rest) = line ++ "\n" ++ linesText rest := by
  rw [linesText, List.map_cons, String.join_cons, linesText]

theorem linesText_append (as bs : List String) :
    linesText (as ++ bs) = linesText as ++ linesText bs := by
  rw [linesText, List.map_append, String.join_append, linesText, linesText]

theorem Reads.lines {as bs : List String} (h : Reads read (linesText as) a)
    (hnext : Reads (next a) (linesText bs) b) :
    Reads (read >>= next) (linesText (as ++ bs)) b := by
  rw [linesText_append]
  exact h.bind hnext

/-- Items are read one after the other if none of them looks like the closing line. -/
theorem Reads.items {item : Reader α} {close : String} {line : β → String} {value : β → α}
    (xs : List β) (hread : ∀ x ∈ xs, Reads item (line x ++ "\n") (value x))
    (hopen : ∀ x ∈ xs, Refuses (Reader.skipLines [close]) (line x ++ "\n")) :
    Reads (Reader.items item close) (linesText (xs.map line ++ [close])) (xs.map value) := by
  intro rest
  induction xs with
  | nil =>
    rw [List.map_nil, List.nil_append, Reader.items, Reader.skipLines, Reads.skip]
    rfl
  | cons x xs ih =>
    have hrest := ih (fun y hy => hread y (List.mem_cons_of_mem x hy))
      (fun y hy => hopen y (List.mem_cons_of_mem x hy))
    have hline : 0 < (line x ++ "\n").toList.length := by
      rw [String.toList_append, List.length_append]
      exact Nat.lt_add_left _ Nat.one_pos
    have hshorter (behind : List Char) :
        behind.length < ((line x ++ "\n").toList ++ behind).length := by
      rw [List.length_append]
      exact Nat.lt_add_of_pos_left hline
    rw [List.map_cons, List.cons_append, linesText_cons, String.toList_append, List.append_assoc,
      Reader.items, hopen x List.mem_cons_self, hread x List.mem_cons_self]
    simp only [if_pos (hshorter _), hrest, Option.map_some, List.map_cons]

end

/-! ## Telling texts apart -/

/-- A text is made of characters of a class. -/
def IsOver (p : Char → Bool) (text : String) : Prop :=
  ∀ c ∈ text.toList, p c = true

theorem IsOver.not_mem {p : Char → Bool} {text : String} {c : Char} (h : IsOver p text)
    (hc : p c = false) : c ∉ text.toList := by
  intro hmem
  rw [h c hmem] at hc
  cases hc

theorem isOver_ofList {p : Char → Bool} {cs : List Char} (h : ∀ c ∈ cs, p c = true) :
    IsOver p (String.ofList cs) := by
  intro c hc
  rw [String.toList_ofList] at hc
  exact h c hc

theorem IsOver.mono {p q : Char → Bool} {text : String} (h : IsOver p text)
    (hpq : ∀ c, p c = true → q c = true) : IsOver q text :=
  fun c hc => hpq c (h c hc)

theorem IsOver.append {p : Char → Bool} {a b : String} (ha : IsOver p a) (hb : IsOver p b) :
    IsOver p (a ++ b) := by
  intro c hc
  rw [String.toList_append] at hc
  rcases List.mem_append.1 hc with hc | hc
  · exact ha c hc
  · exact hb c hc

theorem IsOver.intercalate {p : Char → Bool} {mark : String} {texts : List String}
    (hmark : IsOver p mark) (h : ∀ text ∈ texts, IsOver p text) :
    IsOver p (mark.intercalate texts) := by
  induction texts with
  | nil => exact fun c => nofun
  | cons first rest ih =>
    obtain ⟨hfirst, hrest⟩ := List.forall_mem_cons.1 h
    cases rest with
    | nil => exact hfirst
    | cons second later =>
      rw [String.intercalate_cons_cons]
      exact (hfirst.append hmark).append (ih hrest)

theorem not_prefix_of_mem {text word rest : List Char} {c d : Char} (hc : c ∈ text) (hd : d ∉ text)
    (hword : c ∉ word) : ¬text <+: word ++ d :: rest := by
  intro hprefix
  have hfront : word ++ [d] <+: word ++ d :: rest := ⟨rest, by simp⟩
  rcases List.prefix_or_prefix_of_prefix hprefix hfront with h | h
  · have hmem := h.subset hc
    rw [List.mem_append, List.mem_singleton] at hmem
    rcases hmem with hmem | rfl
    · exact hword hmem
    · exact hd hc
  · exact hd (h.subset (by simp))

/-- A word in front of a mark is not taken for a text with a character that the word has not,
unless the mark begins with one of that text. -/
theorem Refuses.skip_word {text word mark : String} {c d : Char} (hc : c ∈ text.toList)
    (hword : c ∉ word.toList) (hmark : mark.toList.head? = some d) (hd : d ∉ text.toList) :
    Refuses (Reader.skip text) (word ++ mark) := by
  obtain ⟨later, hcons⟩ := List.head?_eq_some_iff.1 hmark
  refine Refuses.skip fun rest => ?_
  rw [String.toList_append, hcons, List.append_assoc, List.cons_append]
  exact not_prefix_of_mem hc hd hword

end Code

end Missive
