/-!
# Quoted strings of TOML

A string stands between double quotes, where a backslash starts an escape, or between single
quotes, where it does not; three quotes on each side let it run over several lines.

* `escape?` -- what a backslash and the characters after it stand for;
* `step?` -- one step inside a string;
* `readString?` -- a whole string, and the text behind it.

Line ends are expected to be single line feeds.
-/

namespace Missive.Toml

/-- Blanks within a line. -/
def isSpace (c : Char) : Bool :=
  c == ' ' || c == '\t'

/-- The characters that may stand in a comment as they are: no controls except the tabulator, and
delete.  Strings take the same ones without delete. -/
def isPrintable (c : Char) : Bool :=
  c == '\t' || 0x20 ≤ c.toNat

/-- The value of a hexadecimal digit. -/
def hexDigit? (c : Char) : Option Nat :=
  if c.isDigit then some (c.toNat - '0'.toNat)
  else if 'a' ≤ c && c ≤ 'f' then some (c.toNat - 'a'.toNat + 10)
  else if 'A' ≤ c && c ≤ 'F' then some (c.toNat - 'A'.toNat + 10)
  else none

/-- The character whose code is written in the first `count` digits. -/
def codePoint? (count : Nat) (cs : List Char) : Option Char := do
  let digits ← (cs.take count).mapM hexDigit?
  let code := digits.foldl (fun n d => 16 * n + d) 0
  if digits.length = count ∧ code.isValidChar then some (Char.ofNat code) else none

/-- What an escape stands for, and how many characters after the backslash belong to it.  At the
end of a line of a long string, it takes away the line end and all blanks after it. -/
def escape? (long : Bool) : List Char → Option (List Char × Nat)
  | '"' :: _ => some (['"'], 1)
  | '\\' :: _ => some (['\\'], 1)
  | 'b' :: _ => some (['\x08'], 1)
  | 'f' :: _ => some (['\x0c'], 1)
  | 'n' :: _ => some (['\n'], 1)
  | 'r' :: _ => some (['\r'], 1)
  | 't' :: _ => some (['\t'], 1)
  | 'u' :: rest => (codePoint? 4 rest).map fun c => ([c], 5)
  | 'U' :: rest => (codePoint? 8 rest).map fun c => ([c], 9)
  | cs =>
    match long, cs.dropWhile isSpace with
    | true, '\n' :: rest =>
      let gap := rest.takeWhile fun c => isSpace c || c == '\n'
      some ([], (cs.takeWhile isSpace).length + 1 + gap.length)
    | _, _ => none

/-- One step inside a string: the characters it adds, how many further characters it takes, and
whether it closes the string. -/
structure Step where
  added : List Char
  further : Nat
  closes : Bool

/-- The step at a quote.  Up to two quotes in front of the closing three belong to the string. -/
def quoteStep (quote : Char) (long : Bool) (rest : List Char) : Step :=
  let others := (rest.takeWhile (· == quote)).length
  if !long then ⟨[], 0, true⟩
  else if others < 2 then ⟨[quote], 0, false⟩
  else
    let inside := min (others - 2) 2
    ⟨List.replicate inside quote, 2 + inside, true⟩

/-- The step at a character of a string. -/
def step? (quote : Char) (long : Bool) (c : Char) (rest : List Char) : Option Step :=
  if c = quote then some (quoteStep quote long rest)
  else if c = '\\' ∧ quote = '"' then
    (escape? long rest).map fun (added, further) => ⟨added, further, false⟩
  else if c = '\n' then if long then some ⟨['\n'], 0, false⟩ else none
  else if isPrintable c && c != '\x7f' then some ⟨[c], 0, false⟩
  else none

/-- The rest of a string and the text behind it. -/
def readBody? (quote : Char) (long : Bool) : List Char → Option (List Char × List Char)
  | [] => none
  | c :: rest =>
    match step? quote long c rest with
    | none => none
    | some step =>
      if step.closes then some (step.added, rest.drop step.further)
      else
        (readBody? quote long (rest.drop step.further)).map fun parts =>
          (step.added ++ parts.1, parts.2)
termination_by cs => cs.length
decreasing_by
  simp only [List.length_drop, List.length_cons]
  omega

theorem length_readBody? {quote : Char} {long : Bool} {cs body rest : List Char}
    (h : readBody? quote long cs = some (body, rest)) : rest.length < cs.length := by
  fun_induction readBody? quote long cs generalizing body rest with
  | case1 => cases h
  | case2 => cases h
  | case3 c tail step =>
    cases h
    simp only [List.length_drop, List.length_cons]
    omega
  | case4 c tail step _ _ ih =>
    obtain ⟨⟨b, r⟩, hb, he⟩ := Option.map_eq_some_iff.1 h
    cases he
    have := ih hb
    simp only [List.length_drop] at this
    simp only [List.length_cons]
    omega

/-- A string behind its opening quote: what it holds, whether it is a long one, and the text behind
it.  A line end right after three opening quotes is dropped. -/
def readString? (quote : Char) (cs : List Char) : Option (List Char × Bool × List Char) :=
  match cs with
  | a :: b :: rest =>
    if a = quote ∧ b = quote then
      (readBody? quote true (match rest with | '\n' :: tail => tail | _ => rest)).map
        fun (body, after) => (body, true, after)
    else (readBody? quote false cs).map fun (body, after) => (body, false, after)
  | _ => (readBody? quote false cs).map fun (body, after) => (body, false, after)

theorem length_readString? {quote : Char} {cs body rest : List Char} {long : Bool}
    (h : readString? quote cs = some (body, long, rest)) : rest.length < cs.length := by
  simp only [readString?] at h
  split at h
  · rename_i a b tail
    split at h
    · obtain ⟨⟨x, y⟩, hb, he⟩ := Option.map_eq_some_iff.1 h
      cases he
      have := length_readBody? hb
      split at this <;> simp only [List.length_cons] at * <;> omega
    · obtain ⟨⟨x, y⟩, hb, he⟩ := Option.map_eq_some_iff.1 h
      cases he
      exact length_readBody? hb
  · obtain ⟨⟨x, y⟩, hb, he⟩ := Option.map_eq_some_iff.1 h
    cases he
    exact length_readBody? hb

end Missive.Toml
