import Mathlib.Data.Set.Image
import Missive.Definition.Message
import Missive.Proofs.Reading
/-!
# The grammar of a line

What a line looks like that declares a constant or a field, said without its reader: a line is made
of pieces, one behind the other, and the kinds of characters in a piece leave no doubt about where
it ends.  The reader takes the longest run of characters again and again and never goes back; it is
seen here to accept exactly the lines that have such pieces, and to find these.

* `IsRun`, `StopsAt` -- some characters of a class, and a text that does not go on with one;
* `ConstantLine`, `FieldLine` -- the pieces of a line, and the line made of them (`text`);
* `ConstantLine.text_injective`, `FieldLine.text_injective` -- a line has no other pieces;
* `Declaration.constant?_text`, `Declaration.exists_constantLine` and the same for fields -- the
  readers accept what is made of pieces, and nothing else;
* `Resolver.readLine_grammar` -- what the pieces of a line make of it.
-/

namespace Missive

/-! ## Runs -/

/-- Some characters of a class, at least one. -/
structure IsRun (p : Char → Bool) (cs : List Char) : Prop where
  ne_nil : cs ≠ []
  all : ∀ c ∈ cs, p c = true

instance (p : Char → Bool) (cs : List Char) : Decidable (IsRun p cs) :=
  decidable_of_iff (cs.isEmpty = false ∧ cs.all p = true)
    ⟨fun h => ⟨List.isEmpty_eq_false_iff.1 h.1, List.all_eq_true.1 h.2⟩,
      fun h => ⟨List.isEmpty_eq_false_iff.2 h.ne_nil, List.all_eq_true.2 h.all⟩⟩

/-- A text does not begin with a character of a class. -/
def StopsAt (p : Char → Bool) (cs : List Char) : Prop :=
  ∀ c ∈ cs.head?, p c = false

section

variable {p q : Char → Bool} {a b x y cs : List Char}

theorem stopsAt_nil (p : Char → Bool) : StopsAt p [] := by
  intro c hc
  cases hc

theorem stopsAt_cons {c : Char} (h : p c = false) (cs : List Char) : StopsAt p (c :: cs) := by
  intro d hd
  obtain rfl := Option.some.inj hd
  exact h

theorem stopsAt_dropWhile (p : Char → Bool) (cs : List Char) : StopsAt p (cs.dropWhile p) := by
  intro c hc
  have hhead := List.head?_dropWhile_not p cs
  rw [Option.mem_def.1 hc] at hhead
  exact hhead

/-- Characters of another class end a run. -/
theorem StopsAt.append (disjoint : ∀ c, q c = true → p c = false) (ha : ∀ c ∈ a, q c = true)
    (hb : StopsAt p b) : StopsAt p (a ++ b) := by
  cases a with
  | nil => exact hb
  | cons c rest => exact stopsAt_cons (disjoint c (ha c List.mem_cons_self)) (rest ++ b)

theorem IsRun.stopsAt (ha : IsRun q a) (disjoint : ∀ c, q c = true → p c = false)
    (b : List Char) : StopsAt p (a ++ b) := by
  obtain ⟨c, rest, rfl⟩ := List.exists_cons_of_ne_nil ha.ne_nil
  exact stopsAt_cons (disjoint c (ha.all c List.mem_cons_self)) (rest ++ b)

theorem takeWhile_append_of_stops (ha : ∀ c ∈ a, p c = true) (hb : StopsAt p b) :
    (a ++ b).takeWhile p = a := by
  rw [List.takeWhile_append_of_pos ha]
  have hnil : b.takeWhile p = [] := by
    cases b with
    | nil => rfl
    | cons c rest => rw [List.takeWhile_cons, hb c rfl, if_neg Bool.false_ne_true]
  rw [hnil, List.append_nil]

theorem dropWhile_append_of_stops (ha : ∀ c ∈ a, p c = true) (hb : StopsAt p b) :
    (a ++ b).dropWhile p = b := by
  rw [List.dropWhile_append_of_pos ha]
  cases b with
  | nil => rfl
  | cons c rest => rw [List.dropWhile_cons, hb c rfl, if_neg Bool.false_ne_true]

/-- There is one way only to cut a text behind its leading characters of a class. -/
theorem append_unique_of_stops (ha : ∀ c ∈ a, p c = true) (hb : ∀ c ∈ b, p c = true)
    (hx : StopsAt p x) (hy : StopsAt p y) (h : a ++ x = b ++ y) : a = b ∧ x = y := by
  have hfirst : a = b := by
    rw [← takeWhile_append_of_stops ha hx, h, takeWhile_append_of_stops hb hy]
  have hrest : x = y := by
    rw [← dropWhile_append_of_stops ha hx, h, dropWhile_append_of_stops hb hy]
  exact ⟨hfirst, hrest⟩

/-- Reading a run cuts a text where the run ends. -/
theorem run?_eq_some_iff :
    Declaration.run? p cs = some (a, b) ↔ cs = a ++ b ∧ IsRun p a ∧ StopsAt p b := by
  constructor
  · intro h
    have hcut : cs.takeWhile p = a ∧ cs.dropWhile p = b ∧ a ≠ [] := by
      rw [Declaration.run?] at h
      split at h
      · cases h
      · rename_i first hne
        cases h
        exact ⟨rfl, rfl, hne⟩
    obtain ⟨rfl, rfl, hne⟩ := hcut
    refine ⟨List.takeWhile_append_dropWhile.symm, ⟨hne, ?_⟩, stopsAt_dropWhile p cs⟩
    exact List.all_eq_true.1 List.all_takeWhile
  · rintro ⟨rfl, ha, hb⟩
    rw [Declaration.run?, takeWhile_append_of_stops ha.all hb,
      dropWhile_append_of_stops ha.all hb]
    split
    · exact absurd rfl ha.ne_nil
    · rfl

/-- What is made of a text behind a run of it. -/
theorem run?_bind_eq_some {α : Type} {next : List Char × List Char → Option α} {d : α}
    (h : (Declaration.run? p cs).bind next = some d) :
    ∃ a b, cs = a ++ b ∧ IsRun p a ∧ StopsAt p b ∧ next (a, b) = some d := by
  obtain ⟨⟨a, b⟩, hrun, hnext⟩ := Option.bind_eq_some_iff.1 h
  obtain ⟨hcs, ha, hb⟩ := run?_eq_some_iff.1 hrun
  exact ⟨a, b, hcs, ha, hb, hnext⟩

end

/-! ## Classes of characters -/

/-- The characters of values: neither a gap nor the sign of a comment. -/
def isValueChar (c : Char) : Bool :=
  !isGap c && c != '#'

theorem gap_cases {c : Char} (h : isGap c = true) : c = ' ' ∨ c = '\t' := by
  simpa [isGap] using h

theorem isTypeChar_of_gap (c : Char) (h : isGap c = true) : isTypeChar c = false := by
  rcases gap_cases h with rfl | rfl <;> decide

theorem isNameChar_of_gap (c : Char) (h : isGap c = true) : isNameChar c = false := by
  rcases gap_cases h with rfl | rfl <;> decide

theorem isGap_of_nameChar (c : Char) (h : isNameChar c = true) : isGap c = false := by
  by_contra hgap
  rw [isNameChar_of_gap c (by simpa using hgap)] at h
  cases h

theorem isGap_of_valueChar (c : Char) (h : isValueChar c = true) : isGap c = false := by
  rw [isValueChar, Bool.and_eq_true, Bool.not_eq_true'] at h
  exact h.1

/-! ## Constants -/

/-- The pieces of a line that declares a constant. -/
@[ext]
structure ConstantLine where
  type : List Char
  gap : List Char
  name : List Char
  /-- The gaps in front of the equals sign. -/
  before : List Char
  /-- The gaps behind the equals sign. -/
  after : List Char
  value : List Char
  /-- What is behind the value: nothing, or a gap or a comment and anything. -/
  trailer : List Char
  type_run : IsRun isTypeChar type
  gap_run : IsRun isGap gap
  name_run : IsRun isNameChar name
  before_gaps : ∀ c ∈ before, isGap c = true
  after_gaps : ∀ c ∈ after, isGap c = true
  value_run : IsRun isValueChar value
  trailer_stops : StopsAt isValueChar trailer

namespace ConstantLine

/-- What is behind the equals sign. -/
def written (l : ConstantLine) : List Char :=
  l.after ++ (l.value ++ l.trailer)

/-- The line made of the pieces. -/
def text (l : ConstantLine) : List Char :=
  l.type ++ (l.gap ++ (l.name ++ (l.before ++ '=' :: l.written)))

/-- The constant that is declared.  Of a string all that is written counts, without the blanks
around it. -/
def constant (l : ConstantLine) : Constant where
  name := String.ofList l.name
  typeToken := String.ofList l.type
  value := String.ofList
    (if String.ofList l.type = Declaration.stringToken then Text.trim l.written else l.value)

variable (l : ConstantLine)

theorem type_stops : StopsAt isTypeChar (l.gap ++ (l.name ++ (l.before ++ '=' :: l.written))) :=
  l.gap_run.stopsAt isTypeChar_of_gap _

theorem gap_stops : StopsAt isGap (l.name ++ (l.before ++ '=' :: l.written)) :=
  l.name_run.stopsAt isGap_of_nameChar _

theorem name_stops : StopsAt isNameChar (l.before ++ '=' :: l.written) :=
  .append isNameChar_of_gap l.before_gaps (stopsAt_cons (by decide) l.written)

theorem before_stops : StopsAt isGap ('=' :: l.written) :=
  stopsAt_cons (by decide) l.written

theorem after_stops : StopsAt isGap (l.value ++ l.trailer) :=
  l.value_run.stopsAt isGap_of_valueChar l.trailer

/-- A line is made of one choice of pieces only. -/
theorem text_injective : Function.Injective text := by
  intro k l h
  obtain ⟨htype, h⟩ :=
    append_unique_of_stops k.type_run.all l.type_run.all k.type_stops l.type_stops h
  obtain ⟨hgap, h⟩ := append_unique_of_stops k.gap_run.all l.gap_run.all k.gap_stops l.gap_stops h
  obtain ⟨hname, h⟩ :=
    append_unique_of_stops k.name_run.all l.name_run.all k.name_stops l.name_stops h
  obtain ⟨hbefore, h⟩ :=
    append_unique_of_stops k.before_gaps l.before_gaps k.before_stops l.before_stops h
  have hwritten : k.written = l.written := (List.cons.inj h).2
  obtain ⟨hafter, h⟩ :=
    append_unique_of_stops k.after_gaps l.after_gaps k.after_stops l.after_stops hwritten
  obtain ⟨hvalue, htrailer⟩ :=
    append_unique_of_stops k.value_run.all l.value_run.all k.trailer_stops l.trailer_stops h
  exact ConstantLine.ext htype hgap hname hbefore hafter hvalue htrailer

end ConstantLine

namespace Declaration

/-- Whether the reader of constants accepts what leads up to an equals sign is seen behind that
sign only. -/
theorem constant?_assignment {type gap name before written : List Char}
    (type_run : IsRun isTypeChar type) (gap_run : IsRun isGap gap)
    (name_run : IsRun isNameChar name) (before_gaps : ∀ c ∈ before, isGap c = true) :
    constant? (type ++ (gap ++ (name ++ (before ++ '=' :: written))))
      = (run? isValueChar (written.dropWhile isGap)).map fun value =>
          .constant (String.ofList type) (String.ofList name) (String.ofList
            (if String.ofList type = stringToken then Text.trim written else value.1)) := by
  have htype := run?_eq_some_iff.2 ⟨rfl, type_run, gap_run.stopsAt isTypeChar_of_gap
    (name ++ (before ++ '=' :: written))⟩
  have hgap := run?_eq_some_iff.2 ⟨rfl, gap_run, name_run.stopsAt isGap_of_nameChar
    (before ++ '=' :: written)⟩
  have hname := run?_eq_some_iff.2 ⟨rfl, name_run,
    .append isNameChar_of_gap before_gaps (stopsAt_cons (c := '=') (by decide) written)⟩
  have hbefore := dropWhile_append_of_stops before_gaps
    (stopsAt_cons (c := '=') (by decide) written)
  simp only [constant?, htype, hgap, hname, hbefore, Option.bind_eq_bind, Option.bind_some]
  show (run? isValueChar (written.dropWhile isGap)).bind _ = _
  rw [Option.map_eq_bind]
  simp only [Function.comp_def, beq_iff_eq]

/-- The reader of constants accepts what is made of their pieces. -/
theorem constant?_text (l : ConstantLine) :
    constant? l.text
      = some (.constant l.constant.typeToken l.constant.name l.constant.value) := by
  have hafter : l.written.dropWhile isGap = l.value ++ l.trailer :=
    dropWhile_append_of_stops l.after_gaps l.after_stops
  have hvalue := run?_eq_some_iff.2 ⟨rfl, l.value_run, l.trailer_stops⟩
  rw [ConstantLine.text, constant?_assignment l.type_run l.gap_run l.name_run l.before_gaps,
    hafter, hvalue, Option.map_some, ConstantLine.constant]

/-- It accepts nothing else. -/
theorem exists_constantLine {line : List Char} {d : Declaration} (h : constant? line = some d) :
    ∃ l : ConstantLine, l.text = line := by
  obtain ⟨type, behindType, rfl, htype, -, afterType⟩ := run?_bind_eq_some h
  obtain ⟨gap, behindGap, rfl, hgap, -, afterGap⟩ := run?_bind_eq_some afterType
  obtain ⟨name, behindName, rfl, hname, -, afterName⟩ := run?_bind_eq_some afterGap
  have hbefore : behindName.takeWhile isGap ++ behindName.dropWhile isGap = behindName :=
    List.takeWhile_append_dropWhile
  simp only at afterName
  split at afterName
  · rename_i written hequals
    obtain ⟨value, trailer, hrest, hvalue, htrailer, -⟩ := run?_bind_eq_some afterName
    have hafter : written.takeWhile isGap ++ written.dropWhile isGap = written :=
      List.takeWhile_append_dropWhile
    refine ⟨⟨type, gap, name, behindName.takeWhile isGap, written.takeWhile isGap, value, trailer,
      htype, hgap, hname, List.all_eq_true.1 List.all_takeWhile,
      List.all_eq_true.1 List.all_takeWhile, hvalue, htrailer⟩, ?_⟩
    rw [ConstantLine.text, ConstantLine.written]
    rw [← hrest, hafter, ← hequals, hbefore]
  · cases afterName

end Declaration

/-! ## Fields -/

/-- Digits between brackets, or nothing at all. -/
def bracketed : Option (List Char) → List Char
  | none => []
  | some digits => '[' :: (digits ++ [']'])

/-- The pieces of a line that declares a field. -/
@[ext]
structure FieldLine where
  type : List Char
  /-- The digits between the brackets, if there are brackets. -/
  digits : Option (List Char)
  gap : List Char
  name : List Char
  /-- Anything that does not go on with the name. -/
  trailer : List Char
  type_run : IsRun isTypeChar type
  digits_all : ∀ ds, digits = some ds → ∀ c ∈ ds, c.isDigit = true
  gap_run : IsRun isGap gap
  name_run : IsRun isNameChar name
  trailer_stops : StopsAt isNameChar trailer

namespace FieldLine

/-- The line made of the pieces. -/
def text (l : FieldLine) : List Char :=
  l.type ++ (bracketed l.digits ++ (l.gap ++ (l.name ++ l.trailer)))

variable (l : FieldLine)

theorem bracket_stops : StopsAt (· == '[') (l.gap ++ (l.name ++ l.trailer)) := by
  refine l.gap_run.stopsAt ?_ _
  intro c hc
  rcases gap_cases hc with rfl | rfl <;> decide

theorem type_stops :
    StopsAt isTypeChar (bracketed l.digits ++ (l.gap ++ (l.name ++ l.trailer))) := by
  cases l.digits with
  | none => exact l.gap_run.stopsAt isTypeChar_of_gap _
  | some digits => exact stopsAt_cons (by decide) _

theorem gap_stops : StopsAt isGap (l.name ++ l.trailer) :=
  l.name_run.stopsAt isGap_of_nameChar l.trailer

end FieldLine

/-- The brackets in front of a text are read, and what is behind them is left. -/
theorem brackets_bracketed {digits : Option (List Char)} {rest : List Char}
    (hdigits : ∀ ds, digits = some ds → ∀ c ∈ ds, c.isDigit = true)
    (hrest : StopsAt (· == '[') rest) :
    Declaration.brackets (bracketed digits ++ rest) = (digits, rest) := by
  cases digits with
  | none =>
    show Declaration.brackets rest = (none, rest)
    rw [Declaration.brackets.eq_def]
    split
    · rename_i tail
      cases hrest '[' rfl
    · rfl
  | some ds =>
    have hstop : StopsAt Char.isDigit (']' :: rest) := stopsAt_cons (by decide) rest
    have htake := takeWhile_append_of_stops (hdigits ds rfl) hstop
    have hdrop := dropWhile_append_of_stops (hdigits ds rfl) hstop
    rw [bracketed, List.cons_append, List.append_assoc, List.singleton_append]
    simp only [Declaration.brackets, hdrop, htake]

/-- Whatever is read as brackets are brackets. -/
theorem bracketed_of_brackets {cs rest : List Char} {digits : Option (List Char)}
    (h : Declaration.brackets cs = (digits, rest)) :
    cs = bracketed digits ++ rest ∧ ∀ ds, digits = some ds → ∀ c ∈ ds, c.isDigit = true := by
  rw [Declaration.brackets.eq_def] at h
  split at h
  · rename_i tail
    split at h
    · rename_i after hclose
      cases h
      refine ⟨?_, ?_⟩
      · rw [bracketed, List.cons_append, List.append_assoc, List.singleton_append, ← hclose,
          List.takeWhile_append_dropWhile]
      · intro ds hds
        cases hds
        exact List.all_eq_true.1 List.all_takeWhile
    · cases h
      exact ⟨rfl, fun ds hds => by cases hds⟩
  · cases h
    exact ⟨rfl, fun ds hds => by cases hds⟩

namespace FieldLine

/-- A line is made of one choice of pieces only. -/
theorem text_injective : Function.Injective text := by
  intro k l h
  obtain ⟨htype, h⟩ :=
    append_unique_of_stops k.type_run.all l.type_run.all k.type_stops l.type_stops h
  have hbrackets : (k.digits, k.gap ++ (k.name ++ k.trailer))
      = (l.digits, l.gap ++ (l.name ++ l.trailer)) := by
    rw [← brackets_bracketed k.digits_all k.bracket_stops, h,
      brackets_bracketed l.digits_all l.bracket_stops]
  obtain ⟨hdigits, h⟩ := Prod.mk.inj hbrackets
  obtain ⟨hgap, h⟩ := append_unique_of_stops k.gap_run.all l.gap_run.all k.gap_stops l.gap_stops h
  obtain ⟨hname, htrailer⟩ :=
    append_unique_of_stops k.name_run.all l.name_run.all k.trailer_stops l.trailer_stops h
  exact FieldLine.ext htype hdigits hgap hname htrailer

end FieldLine

namespace Declaration

/-- The reader of fields accepts what is made of their pieces. -/
theorem field?_text (l : FieldLine) :
    field? l.text = some (.field (String.ofList l.type) (l.digits.map String.ofList)
      (String.ofList l.name) (String.ofList l.trailer)) := by
  have htype := run?_eq_some_iff.2 ⟨rfl, l.type_run, l.type_stops⟩
  have hgap := run?_eq_some_iff.2 ⟨rfl, l.gap_run, l.gap_stops⟩
  have hname := run?_eq_some_iff.2 ⟨rfl, l.name_run, l.trailer_stops⟩
  have hbrackets := brackets_bracketed l.digits_all l.bracket_stops
  simp only [field?, FieldLine.text, htype, hbrackets, hgap, hname, Option.bind_eq_bind,
    Option.bind_some]

/-- It accepts nothing else. -/
theorem exists_fieldLine {line : List Char} {d : Declaration} (h : field? line = some d) :
    ∃ l : FieldLine, l.text = line := by
  obtain ⟨type, behindType, rfl, htype, -, afterType⟩ := run?_bind_eq_some h
  simp only at afterType
  rcases hcut : brackets behindType with ⟨digits, behindBrackets⟩
  rw [hcut] at afterType
  obtain ⟨rfl, hdigits⟩ := bracketed_of_brackets hcut
  obtain ⟨gap, behindGap, rfl, hgap, -, afterGap⟩ := run?_bind_eq_some afterType
  obtain ⟨name, trailer, rfl, hname, htrailer, -⟩ := run?_bind_eq_some afterGap
  exact ⟨⟨type, digits, gap, name, trailer, htype, hdigits, hgap, hname, htrailer⟩, rfl⟩

end Declaration

/-! ## Whole lines -/

namespace Declaration

/-- The path that a field's trailer gives is that in the comment from its first sign on. -/
theorem packagePath?_of_comment {prose comment : List Char} (hprose : '#' ∉ prose) :
    packagePath? (String.ofList (prose ++ '#' :: comment))
      = (Directive.collect (String.ofList ('#' :: comment))).find? Directive.packageKey := by
  have hall : ∀ c ∈ prose, (c != '#') = true := by
    intro c hc
    have hne : c ≠ '#' := fun h => hprose (h ▸ hc)
    simpa using hne
  have hdrop : (prose ++ '#' :: comment).dropWhile (· != '#') = '#' :: comment :=
    dropWhile_append_of_stops hall (stopsAt_cons (by decide) comment)
  rw [packagePath?, String.toList_ofList, hdrop]

theorem packagePath?_of_prose {trailer : List Char} (h : '#' ∉ trailer) :
    packagePath? (String.ofList trailer) = none := by
  have hall : ∀ c ∈ trailer, (c != '#') = true := by
    intro c hc
    have hne : c ≠ '#' := fun heq => h (heq ▸ hc)
    simpa using hne
  have hdrop : (trailer ++ []).dropWhile (· != '#') = [] :=
    dropWhile_append_of_stops hall (stopsAt_nil _)
  rw [List.append_nil] at hdrop
  rw [packagePath?, String.toList_ofList, hdrop]

/-- A line that is made of the pieces of no constant is not read as one. -/
theorem constant?_eq_none {line : List Char} (h : ¬∃ l : ConstantLine, l.text = line) :
    constant? line = none := by
  cases hc : constant? line with
  | none => rfl
  | some d => exact absurd (exists_constantLine hc) h

theorem field?_eq_none {line : List Char} (h : ¬∃ l : FieldLine, l.text = line) :
    field? line = none := by
  cases hf : field? line with
  | none => rfl
  | some d => exact absurd (exists_fieldLine hf) h

/-- A line is read as a field exactly if it is made of the pieces of one and not of a constant. -/
theorem read?_eq_field_iff {line : List Char} :
    (∃ type count name trailer, read? line = some (.field type count name trailer)) ↔
      (¬∃ l : ConstantLine, l.text = line) ∧ ∃ l : FieldLine, l.text = line := by
  constructor
  · rintro ⟨type, count, name, trailer, hread⟩
    have hpieces : ¬∃ l : ConstantLine, l.text = line := by
      rintro ⟨l, rfl⟩
      rw [read?, constant?_text] at hread
      cases hread
    rw [read?, constant?_eq_none hpieces] at hread
    exact ⟨hpieces, exists_fieldLine hread⟩
  · rintro ⟨hpieces, l, rfl⟩
    rw [read?, constant?_eq_none hpieces, field?_text]
    exact ⟨_, _, _, _, rfl⟩

end Declaration

namespace Resolver

variable (r : Resolver)

theorem readLine_constantLine (l : ConstantLine) :
    r.readLine l.text = .ok (.constant l.constant) := by
  rw [readLine, Declaration.read?, Declaration.constant?_text]
  rfl

/-- A line of a field is read as one if it is none of a constant. -/
theorem readLine_fieldLine (l : FieldLine) (h : ¬∃ k : ConstantLine, k.text = l.text) :
    r.readLine l.text = (r.field (String.ofList l.name) (String.ofList l.type)
      (l.digits.map String.ofList) (Declaration.packagePath? (String.ofList l.trailer))).map
        .field := by
  rw [readLine, Declaration.read?, Declaration.constant?_eq_none h, Declaration.field?_text]
  rfl

theorem readLine_unrecognized {line : List Char} (hc : ¬∃ l : ConstantLine, l.text = line)
    (hf : ¬∃ l : FieldLine, l.text = line) :
    r.readLine line = .error (.unrecognizedLine (String.ofList line)) := by
  rw [readLine, Declaration.read?, Declaration.constant?_eq_none hc,
    Declaration.field?_eq_none hf]
  rfl

end Resolver

/-! ## What can be wrong with a field -/

theorem Shape.read_eq_error {count : Option String} {e : DefinitionError}
    (h : Shape.read count = .error e) : ∃ digits cause, e = .arraySize digits cause := by
  rw [Shape.read.eq_def] at h
  split at h
  · cases h
  · cases h
  · split at h
    · cases h
    · cases h
    · cases h
      exact ⟨_, _, rfl⟩

namespace Resolver

theorem target_eq_error {token : String} {e : DefinitionError} (h : target token = .error e) :
    e = .invalidType token := by
  rw [target] at h
  split at h
  · cases h
  · split at h
    · split at h <;> cases h
      rfl
    · split at h <;> cases h
      rfl
    · cases h
      rfl

variable {r : Resolver}

theorem typeRef_eq_error {token : String} {e : DefinitionError} (h : r.typeRef token = .error e) :
    e = .invalidType token := by
  rw [typeRef] at h
  split at h
  · cases h
  · split at h
    · rename_i fault hfault
      cases h
      exact target_eq_error hfault
    · cases h
    · split at h <;> cases h

theorem field_of_shape_error {name token : String} {count path : Option String}
    {e : DefinitionError} (h : Shape.read count = .error e) :
    r.field name token count path = .error e := by
  rw [field, h]
  rfl

theorem field_of_shape {name token : String} {count path : Option String} {shape : Shape}
    (h : Shape.read count = .ok shape) :
    r.field name token count path = (r.typeRef token).map fun type =>
      ⟨⟨name, token, shape, type⟩, r.dependency? type path⟩ := by
  rw [field, h]
  cases r.typeRef token <;> rfl

theorem field_eq_ok_iff {name token : String} {count path : Option String}
    {resolution : Resolution} :
    r.field name token count path = .ok resolution ↔
      ∃ shape type, Shape.read count = .ok shape ∧ r.typeRef token = .ok type ∧
        resolution = ⟨⟨name, token, shape, type⟩, r.dependency? type path⟩ := by
  rcases hs : Shape.read count with e | shape
  · rw [field_of_shape_error hs]
    exact ⟨nofun, fun ⟨_, _, h, _⟩ => nomatch h⟩
  · rw [field_of_shape hs, Except.map_eq_ok_iff]
    constructor
    · rintro ⟨type, htype, rfl⟩
      exact ⟨shape, type, rfl, htype, rfl⟩
    · rintro ⟨_, type, hshape, htype, rfl⟩
      cases hshape
      exact ⟨type, htype, rfl⟩

/-- A field is refused for its size or for its type. -/
theorem field_eq_error {name token : String} {count path : Option String} {e : DefinitionError}
    (h : r.field name token count path = .error e) :
    (∃ digits cause, e = .arraySize digits cause) ∨ e = .invalidType token := by
  cases hs : Shape.read count with
  | error fault =>
    rw [field_of_shape_error hs] at h
    cases h
    exact .inl (Shape.read_eq_error hs)
  | ok shape =>
    rw [field_of_shape hs] at h
    cases ht : r.typeRef token with
    | error fault =>
      rw [ht] at h
      cases h
      exact .inr (typeRef_eq_error ht)
    | ok type =>
      rw [ht] at h
      cases h

/-- A line is read as a constant exactly if it is made of the pieces of one. -/
theorem readLine_eq_constant_iff {line : List Char} :
    (∃ c, r.readLine line = .ok (.constant c)) ↔ ∃ l : ConstantLine, l.text = line := by
  constructor
  · rintro ⟨c, hc⟩
    by_contra hpieces
    by_cases hf : ∃ l : FieldLine, l.text = line
    · obtain ⟨l, rfl⟩ := hf
      rw [readLine_fieldLine r l hpieces] at hc
      obtain ⟨resolution, -, heq⟩ := Except.map_eq_ok_iff.1 hc
      cases heq
    · rw [readLine_unrecognized r hpieces hf] at hc
      cases hc
  · rintro ⟨l, rfl⟩
    exact ⟨l.constant, readLine_constantLine r l⟩

/-- A line is refused as such exactly if it has no pieces of either kind. -/
theorem readLine_eq_unrecognized_iff {line : List Char} :
    r.readLine line = .error (.unrecognizedLine (String.ofList line)) ↔
      (¬∃ l : ConstantLine, l.text = line) ∧ ¬∃ l : FieldLine, l.text = line := by
  constructor
  · intro herror
    have hpieces : ¬∃ k : ConstantLine, k.text = line := by
      rintro ⟨k, rfl⟩
      rw [readLine_constantLine] at herror
      cases herror
    refine ⟨hpieces, ?_⟩
    rintro ⟨l, rfl⟩
    rw [readLine_fieldLine r l hpieces] at herror
    rcases hfield : r.field _ _ _ _ with e | resolution
    · rw [hfield] at herror
      cases herror
      rcases field_eq_error hfield with ⟨digits, cause, heq⟩ | heq <;> cases heq
    · rw [hfield] at herror
      cases herror
  · rintro ⟨hpieces, hf⟩
    exact readLine_unrecognized r hpieces hf

/-- **What the pieces of a line make of it.**  A line that is made of the pieces of a constant
declares that constant; another one that is made of the pieces of a field is resolved with what they
say, and the import path is taken from the comment behind its name; all others are refused.  The
pieces are always the only ones. -/
theorem readLine_grammar (r : Resolver) (line : List Char) :
    ((∃ c, r.readLine line = .ok (.constant c)) ↔ ∃! l : ConstantLine, l.text = line) ∧
    (∀ l : ConstantLine, l.text = line → r.readLine line = .ok (.constant l.constant)) ∧
    ((∃ type count name trailer,
        Declaration.read? line = some (.field type count name trailer)) ↔
      (¬∃ l : ConstantLine, l.text = line) ∧ ∃! l : FieldLine, l.text = line) ∧
    (∀ l : FieldLine, l.text = line → (¬∃ k : ConstantLine, k.text = line) →
      ('#' ∉ l.trailer → r.readLine line = (r.field (String.ofList l.name) (String.ofList l.type)
        (l.digits.map String.ofList) none).map .field) ∧
      ∀ prose comment, l.trailer = prose ++ '#' :: comment → '#' ∉ prose →
        r.readLine line = (r.field (String.ofList l.name) (String.ofList l.type)
          (l.digits.map String.ofList)
          ((Directive.collect (String.ofList ('#' :: comment))).find? Directive.packageKey)).map
            .field) ∧
    (r.readLine line = .error (.unrecognizedLine (String.ofList line)) ↔
      (¬∃ l : ConstantLine, l.text = line) ∧ ¬∃ l : FieldLine, l.text = line) := by
  rw [← ConstantLine.text_injective.mem_range_iff_existsUnique,
    ← FieldLine.text_injective.mem_range_iff_existsUnique]
  refine ⟨readLine_eq_constant_iff, ?_, Declaration.read?_eq_field_iff, ?_,
    readLine_eq_unrecognized_iff⟩
  · rintro l rfl
    exact readLine_constantLine r l
  · rintro l rfl hpieces
    rw [readLine_fieldLine r l hpieces]
    refine ⟨fun hprose => ?_, fun prose comment htrailer hprose => ?_⟩
    · rw [Declaration.packagePath?_of_prose hprose]
    · rw [htrailer, Declaration.packagePath?_of_comment hprose]

end Resolver

/-! ## Two lines -/

namespace Garden

def resolver : Resolver :=
  ⟨Config.standard, "garden"⟩

/-- The pieces of `uint8 RIPE=2 # red`. -/
def ripe : ConstantLine where
  type := ['u', 'i', 'n', 't', '8']
  gap := [' ']
  name := ['R', 'I', 'P', 'E']
  before := []
  after := []
  value := ['2']
  trailer := [' ', '#', ' ', 'r', 'e', 'd']
  type_run := by decide
  gap_run := by decide
  name_run := by decide
  before_gaps := List.all_eq_true.1 rfl
  after_gaps := List.all_eq_true.1 rfl
  value_run := by decide
  trailer_stops := stopsAt_cons (by decide) _

/-- The pieces of `Pot[3] pots # go:x package=a/b`. -/
def pots : FieldLine where
  type := ['P', 'o', 't']
  digits := some ['3']
  gap := [' ']
  name := ['p', 'o', 't', 's']
  trailer := " # go:x package=a/b".toList
  type_run := by decide
  digits_all := by
    intro ds hds
    cases hds
    exact List.all_eq_true.1 rfl
  gap_run := by decide
  name_run := by decide
  trailer_stops := stopsAt_cons (by decide) _

theorem pots_is_no_constant : ¬∃ k : ConstantLine, k.text = pots.text := by
  rintro ⟨k, hk⟩
  have hread := Declaration.constant?_text k
  have hnone : Declaration.constant? pots.text = none := by decide
  rw [hk, hnone] at hread
  cases hread

/-- Both lines are read piece by piece. -/
theorem readLine_pieces :
    resolver.readLine "uint8 RIPE=2 # red".toList = .ok (.constant ⟨"RIPE", "uint8", "2"⟩) ∧
    resolver.readLine "Pot[3] pots # go:x package=a/b".toList
      = (resolver.field "pots" "Pot" (some "3") (some "a/b")).map .field := by
  obtain ⟨-, constant, -, -, -⟩ := Resolver.readLine_grammar resolver ripe.text
  obtain ⟨-, -, -, field, -⟩ := Resolver.readLine_grammar resolver pots.text
  have hconstant := constant ripe rfl
  have hfield := (field pots rfl pots_is_no_constant).2 [' '] " go:x package=a/b".toList rfl
    (by decide)
  have hpath : (Directive.collect "# go:x package=a/b").find? Directive.packageKey
      = some "a/b" := by
    decide +kernel
  exact ⟨hconstant, hfield.trans (by rw [← hpath]; rfl)⟩

end Garden

end Missive
