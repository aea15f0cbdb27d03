import Missive.Dictionary
/-!
# Directives in comments

A comment behind a field may hold directives for the generator: `key=value`, or `rust:key=value`.
Everything else in a comment is prose.

* `isGap`, `isNameChar` -- the characters between and inside of names;
* `Directive.read?` -- a directive at the start of a text;
* `Directive.scan` -- all directives of a comment, in order;
* `Directive.collect` -- those meant for this generator, by key.
-/

namespace Missive

/-- The blanks that separate the parts of a line. -/
def isGap (c : Char) : Bool :=
  c == ' ' || c == '\t'

/-- The characters of names. -/
def isNameChar (c : Char) : Bool :=
  c.isAlphanum || c == '_'

/-- One directive. -/
structure Directive where
  audience : Option String
  key : String
  value : String
  deriving DecidableEq, Repr

namespace Directive

/-- The audience that means this generator. -/
def audienceHere : String := "rust"

/-- A key, an equals sign and a value that reaches to the next gap. -/
def readAssignment? (audience : Option String) (cs : List Char) :
    Option (Directive × List Char) :=
  let key := cs.takeWhile isNameChar
  match cs.dropWhile isNameChar with
  | '=' :: rest =>
    let value := rest.takeWhile (!isGap ·)
    if key.isEmpty || value.isEmpty then none
    else
      some (⟨audience, String.ofList key, String.ofList value⟩, rest.dropWhile (!isGap ·))
  | _ => none

/-- A directive at the start of a text, and what follows it.  A name with a colon after it is an
audience; once one has been seen there is no other reading. -/
def read? (cs : List Char) : Option (Directive × List Char) :=
  let first := cs.takeWhile isNameChar
  match cs.dropWhile isNameChar with
  | ':' :: rest =>
    if first.isEmpty then none else readAssignment? (some (String.ofList first)) rest
  | _ => readAssignment? none cs

theorem length_readAssignment? {audience : Option String} {cs rest : List Char} {d : Directive}
    (h : readAssignment? audience cs = some (d, rest)) : rest.length < cs.length := by
  simp only [readAssignment?] at h
  split at h
  · rename_i tail heq
    split at h
    · cases h
    · cases h
      have h1 := (List.dropWhile_sublist (!isGap ·) (l := tail)).length_le
      have h2 := (List.dropWhile_sublist isNameChar (l := cs)).length_le
      rw [heq] at h2
      simp only [List.length_cons] at h2
      omega
  · cases h

theorem length_read? {cs rest : List Char} {d : Directive} (h : read? cs = some (d, rest)) :
    rest.length < cs.length := by
  simp only [read?] at h
  split at h
  · rename_i tail heq
    split at h
    · cases h
    · have h1 := length_readAssignment? h
      have h2 := (List.dropWhile_sublist isNameChar (l := cs)).length_le
      rw [heq] at h2
      simp only [List.length_cons] at h2
      omega
  · exact length_readAssignment? h

/-- The directives of a text, from left to right; a run of characters that is none is skipped. -/
def scan (cs : List Char) : List Directive :=
  match cs with
  | [] => []
  | c :: rest =>
    if isGap c then scan rest
    else
      match _h : read? (c :: rest) with
      | some (d, tail) => d :: scan tail
      | none => scan (rest.dropWhile (!isGap ·))
termination_by cs.length
decreasing_by
  · simp
  · exact length_read? _h
  · have := (List.dropWhile_sublist (!isGap ·) (l := rest)).length_le
    simp only [List.length_cons]
    omega

/-- Whether a directive is meant for this generator. -/
def isHere (d : Directive) : Bool :=
  match d.audience with
  | none => true
  | some audience => audience == audienceHere

/-- The directives of a comment by key, the last one of a key counting.  The marks that open the
comment are skipped. -/
def collect (comment : String) : Dictionary String :=
  let directives := scan (comment.toList.dropWhile (· == '#'))
  Dictionary.ofList ((directives.filter isHere).map fun d => (d.key, d.value))

/-- The key whose value is the path of a foreign type's package. -/
def packageKey : String := "package"

end Directive

end Missive
