import Mathlib.Data.Nat.Digits.Defs
import Missive.Proofs.Vocabulary
import Missive.Toml.Quoted
/-!
# Reading string literals

The lexical rules of a string literal, from its opening quote on: a backslash starts an escape, a
quote without one in front closes the literal, a carriage return cannot stand in it, and every other
character stands for itself.  Whatever a text is made of, the literal that is written for it is read
back as the text; a text that looks like an escape, or like the end of a literal, is no exception.

* `codePoint?`, `escape?` -- what stands behind a backslash;
* `read?`, `Reader.quoted` -- a literal, and the text behind it;
* `codePoint?_toDigits` -- hexadecimal digits are read back;
* `read?_escape`, `reads_quoted` -- so is an escaped character, and so is a text.

Line ends are expected to be single line feeds.
-/

namespace Missive.Text.Literal

open Toml (hexDigit?)

/-! ## The rules -/

/-- The character between the braces of a code point escape: its code has up to six hexadecimal
digits, and there may be underscores behind the first one. -/
def codePoint? (inside : List Char) : Option Char := do
  let digits ← (inside.filter (· != '_')).mapM hexDigit?
  let code := digits.foldl (fun n d => 16 * n + d) 0
  if inside.head? ≠ some '_' ∧ 0 < digits.length ∧ digits.length ≤ 6 ∧ code.isValidChar then
    some (Char.ofNat code)
  else none

/-- The character of an escape with two hexadecimal digits, which has to be in ASCII. -/
def asciiCode? (high low : Char) : Option Char := do
  let h ← hexDigit? high
  let l ← hexDigit? low
  if h < 8 then some (Char.ofNat (16 * h + l)) else none

/-- The characters that are passed over behind an escaped line end. -/
def isContinuation (c : Char) : Bool :=
  c == ' ' || c == '\t' || c == '\n' || c == '\r'

/-- What the characters behind a backslash stand for, and the text behind them. -/
def escape? : List Char → Option (List Char × List Char)
  | 'n' :: rest => some (['\n'], rest)
  | 'r' :: rest => some (['\r'], rest)
  | 't' :: rest => some (['\t'], rest)
  | '\\' :: rest => some (['\\'], rest)
  | '0' :: rest => some (['\x00'], rest)
  | '\'' :: rest => some (['\''], rest)
  | '"' :: rest => some (['"'], rest)
  | 'x' :: high :: low :: rest => (asciiCode? high low).map fun c => ([c], rest)
  | 'u' :: '\x7b' :: rest =>
    match rest.dropWhile (· != '\x7d') with
    | '\x7d' :: after =>
      (codePoint? (rest.takeWhile (· != '\x7d'))).map fun c => ([c], after)
    | _ => none
  | '\n' :: rest => some ([], rest.dropWhile isContinuation)
  | _ => none

theorem length_escape? {cs meant after : List Char} (h : escape? cs = some (meant, after)) :
    after.length < cs.length := by
  rw [escape?.eq_def] at h
  split at h
  case h_8 high low rest =>
    obtain ⟨c, -, heq⟩ := Option.map_eq_some_iff.1 h
    cases heq
    simp only [List.length_cons]
    omega
  case h_9 rest =>
    have hshorter := (List.dropWhile_sublist (· != '\x7d') (l := rest)).length_le
    split at h
    · rename_i hrest
      obtain ⟨c, -, heq⟩ := Option.map_eq_some_iff.1 h
      cases heq
      rw [hrest, List.length_cons] at hshorter
      simp only [List.length_cons]
      omega
    · cases h
  case h_10 rest =>
    cases h
    have hshorter := (List.dropWhile_sublist isContinuation (l := rest)).length_le
    rw [List.length_cons]
    omega
  case h_11 => cases h
  all_goals
    cases h
    simp

/-- The text of a literal from behind its opening quote on, and what follows the closing one. -/
def read? : List Char → Option (List Char × List Char)
  | [] => none
  | c :: rest =>
    if c = '"' then some ([], rest)
    else if c = '\\' then
      match _h : escape? rest with
      | none => none
      | some (meant, after) => (read? after).map fun (text, behind) => (meant ++ text, behind)
    else if c = '\r' then none
    else (read? rest).map fun (text, behind) => (c :: text, behind)
termination_by cs => cs.length
decreasing_by
  · have := length_escape? _h
    rw [List.length_cons]
    omega
  · simp

/-! ## One character -/

theorem read?_plain {c : Char} (hquote : c ≠ '"') (hbackslash : c ≠ '\\') (hreturn : c ≠ '\r')
    (rest : List Char) :
    read? (c :: rest) = (read? rest).map fun (text, behind) => (c :: text, behind) := by
  rw [read?, if_neg hquote, if_neg hbackslash, if_neg hreturn]

theorem read?_escaped {cs meant after : List Char} (h : escape? cs = some (meant, after)) :
    read? ('\\' :: cs) = (read? after).map fun (text, behind) => (meant ++ text, behind) := by
  rw [read?, if_neg (by decide), if_pos rfl]
  split
  · rename_i hnone
    rw [h] at hnone
    cases hnone
  · rename_i hsome
    rw [h] at hsome
    cases hsome
    rfl

/-- An escape that consists of a backslash and one more character. -/
theorem read?_short {c d : Char} (h : ∀ rest, escape? (d :: rest) = some ([c], rest))
    (rest : List Char) :
    read? (['\\', d] ++ rest) = (read? rest).map fun (text, behind) => (c :: text, behind) :=
  read?_escaped (h rest)

theorem hexDigit?_digitChar {d : Nat} (h : d < 16) : hexDigit? (Nat.digitChar d) = some d := by
  have hall : ∀ d < 16, hexDigit? (Nat.digitChar d) = some d := by
    decide
  exact hall d h

/-- A number is read back from its hexadecimal digits. -/
theorem digits_toDigits (n : Nat) : ∃ digits, (Nat.toDigits 16 n).mapM hexDigit? = some digits ∧
    digits.length = (Nat.toDigits 16 n).length ∧ digits.foldl (fun n d => 16 * n + d) 0 = n := by
  induction n using Nat.strongRecOn with
  | ind n ih =>
    rw [Nat.toDigits_eq_if (by decide)]
    split_ifs with h
    · refine ⟨[n], ?_, rfl, by simp⟩
      rw [List.mapM_cons, hexDigit?_digitChar h]
      rfl
    · obtain ⟨digits, hread, hlength, hvalue⟩ := ih (n / 16) (by omega)
      refine ⟨digits ++ [n % 16], ?_, ?_, ?_⟩
      · rw [List.mapM_append, hread, List.mapM_cons, hexDigit?_digitChar (Nat.mod_lt n (by decide))]
        rfl
      · rw [List.length_append, List.length_append, hlength]
        rfl
      · rw [List.foldl_append, hvalue]
        show 16 * (n / 16) + n % 16 = n
        omega

theorem codePoint?_toDigits (c : Char) : codePoint? (Nat.toDigits 16 c.toNat) = some c := by
  obtain ⟨digits, hread, hlength, hvalue⟩ := digits_toDigits c.toNat
  have hunderscore : '_' ∉ Nat.toDigits 16 c.toNat :=
    Quoted.not_mem_hexDigits (by decide) c.toNat
  have hfilter : (Nat.toDigits 16 c.toNat).filter (· != '_') = Nat.toDigits 16 c.toNat := by
    refine List.filter_eq_self.2 fun d hd => bne_iff_ne.2 ?_
    rintro rfl
    exact hunderscore hd
  have hhead : (Nat.toDigits 16 c.toNat).head? ≠ some '_' := by
    intro hfirst
    exact hunderscore (List.mem_of_head? hfirst)
  have hpositive : 0 < digits.length := by
    rw [hlength]
    exact List.length_pos_of_ne_nil Nat.toDigits_ne_nil
  have hfew : digits.length ≤ 6 := by
    rw [hlength]
    refine Nat.toDigits_length 16 c.toNat 6 (by decide) ?_
    have hrange : c.toNat < 0x110000 := by
      rcases c.valid with h | ⟨-, h⟩
      · have : c.toNat < 0xD800 := h
        omega
      · exact h
    omega
  have hvalid : c.toNat.isValidChar := c.valid
  rw [codePoint?, hfilter, hread]
  show (if _ then _ else _) = _
  rw [hvalue, if_pos ⟨hhead, hpositive, hfew, hvalid⟩, Char.ofNat_toNat]

/-- The escape of a code point stands for its character. -/
theorem escape?_codePoint (c : Char) (rest : List Char) :
    escape? ('u' :: '\x7b' :: (Nat.toDigits 16 c.toNat ++ '\x7d' :: rest)) = some ([c], rest) := by
  have hinside : ∀ d ∈ Nat.toDigits 16 c.toNat, (d != '\x7d') = true := by
    intro d hd
    rw [bne_iff_ne]
    rintro rfl
    exact Quoted.not_mem_hexDigits (by decide) c.toNat hd
  have hstop : StopsAt (· != '\x7d') ('\x7d' :: rest) := stopsAt_cons rfl rest
  rw [escape?, dropWhile_append_of_stops hinside hstop, takeWhile_append_of_stops hinside hstop]
  show (codePoint? _).map _ = _
  rw [codePoint?_toDigits]
  rfl

/-! ## Whole texts -/

/-- An escaped character is read back. -/
theorem read?_escape (c : Char) (rest : List Char) :
    read? (Quoted.escape c ++ rest)
      = (read? rest).map fun (text, behind) => (c :: text, behind) := by
  rw [Quoted.escape]
  split_ifs with hnull htab hreturn hfeed hbackslash hquote hshown
  · subst hnull
    exact read?_short (fun _ => rfl) rest
  · subst htab
    exact read?_short (fun _ => rfl) rest
  · subst hreturn
    exact read?_short (fun _ => rfl) rest
  · subst hfeed
    exact read?_short (fun _ => rfl) rest
  · subst hbackslash
    exact read?_short (fun _ => rfl) rest
  · subst hquote
    exact read?_short (fun _ => rfl) rest
  · exact read?_plain hquote hbackslash hreturn rest
  · rw [Quoted.codeEscape]
    simp only [List.cons_append, List.append_assoc, List.nil_append]
    exact read?_escaped (escape?_codePoint c rest)

/-- A text is read back from its literal. -/
theorem read?_quote (text : List Char) (behind : List Char) :
    read? (text.flatMap Quoted.escape ++ '"' :: behind) = some (text, behind) := by
  induction text with
  | nil =>
    rw [List.flatMap_nil, List.nil_append, read?, if_pos rfl]
  | cons c rest ih =>
    rw [List.flatMap_cons, List.append_assoc, read?_escape, ih]
    rfl

end Missive.Text.Literal

namespace Missive.Code

/-- Takes a string literal, and gives the text that it denotes. -/
def Reader.quoted : Reader String
  | '"' :: rest => (Text.Literal.read? rest).map fun (text, behind) => (String.ofList text, behind)
  | _ => none

/-- The literal of a text denotes the text, whatever is behind it. -/
theorem reads_quoted (text : String) : Reads Reader.quoted (Text.Quoted.quote text) text := by
  intro rest
  rw [Text.Quoted.quote, String.toList_ofList, Text.Quoted.quoteChars]
  show (Text.Literal.read? (text.toList.flatMap Text.Quoted.escape ++ ['"'] ++ rest)).map _ = _
  rw [List.append_assoc, List.singleton_append, Text.Literal.read?_quote, Option.map_some]
  simp only [String.ofList_toList]

/-- What looks like a literal of another kind is none. -/
theorem quoted_of_head? {cs : List Char} (h : cs.head? ≠ some '"') : Reader.quoted cs = none := by
  rw [Reader.quoted.eq_def]
  split
  · exact absurd rfl h
  · rfl

end Missive.Code
