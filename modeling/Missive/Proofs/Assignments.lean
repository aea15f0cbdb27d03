import Missive.Proofs.Grammar
import Missive.Proofs.Lines
/-!
# Lines with an equals sign

A line `type name = rest` is meant to declare a constant, whatever `rest` is.  The reader takes it
for one only if a value is written behind the sign: if there is nothing but gaps, or a comment, the
sign is taken for the beginning of what follows a field, and the definition gets a field more.
Both are seen here, for every line of this form between any other lines.

* `Assignment` -- the pieces of such a line, and the line (`text`);
* `Assignment.HasValue` -- whether a value is written behind the sign;
* `LeaveLine` -- the texts above and below a line;
* `Resolver.readMessageText_assignment` -- what the line adds to a definition.
-/

namespace Missive

/-- The pieces of a line with an equals sign. -/
structure Assignment where
  type : List Char
  gap : List Char
  name : List Char
  /-- The gaps in front of the equals sign. -/
  before : List Char
  /-- Whatever is behind it. -/
  rest : List Char
  type_run : IsRun isTypeChar type
  gap_run : IsRun isGap gap
  name_run : IsRun isNameChar name
  before_gaps : ∀ c ∈ before, isGap c = true
  rest_feedless : '\n' ∉ rest

namespace Assignment

/-- The line made of the pieces. -/
def text (a : Assignment) : List Char :=
  a.type ++ (a.gap ++ (a.name ++ (a.before ++ '=' :: a.rest)))

/-- What is behind the equals sign and the gaps that follow it, to the last character that is no
blank. -/
def written (a : Assignment) : List Char :=
  (Text.trimEnd a.rest).dropWhile isGap

/-- Something is written behind the equals sign, and it is no comment. -/
def HasValue (a : Assignment) : Prop :=
  ∃ c ∈ a.written.head?, c ≠ '#'

/-- The constant that such a line is meant to declare.  Of a string all that is behind the equals
sign counts, without the blanks around it. -/
def constant (a : Assignment) : Constant where
  name := String.ofList a.name
  typeToken := String.ofList a.type
  value := String.ofList
    (if String.ofList a.type = Declaration.stringToken then Text.trim a.rest
      else a.written.takeWhile isValueChar)

/-- What follows the name if the line is taken for a field. -/
def trailer (a : Assignment) : List Char :=
  a.before ++ '=' :: Text.trimEnd a.rest

/-- The pieces of the field that the line is taken for. -/
def asField (a : Assignment) : FieldLine where
  type := a.type
  digits := none
  gap := a.gap
  name := a.name
  trailer := a.trailer
  type_run := a.type_run
  digits_all := by
    intro ds hds
    cases hds
  gap_run := a.gap_run
  name_run := a.name_run
  trailer_stops := .append isNameChar_of_gap a.before_gaps (stopsAt_cons (by decide) _)

end Assignment

/-! ## The line by itself -/

/-- Type tokens are written with visible characters. -/
theorem toNat_of_typeChar {c : Char} (h : isTypeChar c = true) :
    0x21 ≤ c.toNat ∧ c.toNat ≤ 0x7E := by
  rw [isTypeChar, isNameChar, Bool.or_eq_true, Bool.or_eq_true, beq_iff_eq, beq_iff_eq] at h
  rcases h with (halphanum | rfl) | rfl
  · have hranges : ((decide (c.val ≥ 'A'.val ∧ c.val ≤ 'Z'.val)
        || (decide (c.val ≥ 'a'.val) && decide (c.val ≤ 'z'.val)))
          || (decide (c.val ≥ '0'.val) && decide (c.val ≤ '9'.val))) = true := halphanum
    simp only [Bool.or_eq_true, Bool.and_eq_true, decide_eq_true_eq, UInt32.le_iff_toNat_le,
      ge_iff_le] at hranges
    have hc : c.toNat = c.val.toNat := rfl
    have hZ : 'Z'.val.toNat = 90 := rfl
    have hz : 'z'.val.toNat = 122 := rfl
    have h9 : '9'.val.toNat = 57 := rfl
    have hA : 'A'.val.toNat = 65 := rfl
    have ha : 'a'.val.toNat = 97 := rfl
    have h0 : '0'.val.toNat = 48 := rfl
    omega
  · decide
  · decide

theorem isBlank_of_typeChar {c : Char} (h : isTypeChar c = true) : Text.isBlank c = false := by
  have hvisible := toNat_of_typeChar h
  simp only [Text.isBlank, Bool.or_eq_false_iff, Bool.and_eq_false_iff, decide_eq_false_iff_not,
    beq_eq_false_iff_ne]
  omega

namespace Assignment

variable (a : Assignment)

/-- Trimming the line cuts at its end only. -/
theorem trim_text :
    Text.trim a.text = a.type ++ (a.gap ++ (a.name ++ a.trailer)) := by
  obtain ⟨c, type, htype⟩ := List.exists_cons_of_ne_nil a.type_run.ne_nil
  have hc : Text.isBlank c = false :=
    isBlank_of_typeChar (a.type_run.all c (htype ▸ List.mem_cons_self))
  have hsign : Text.isBlank '=' = false := by decide
  have hfront : a.text = c :: (type ++ (a.gap ++ (a.name ++ (a.before ++ '=' :: a.rest)))) := by
    rw [text, htype, List.cons_append]
  have hcut : Text.trimEnd a.text = a.type ++ (a.gap ++ (a.name ++ a.trailer)) := by
    have h := Text.trimEnd_append_cons hsign (a.type ++ (a.gap ++ (a.name ++ a.before))) a.rest
    simpa only [text, trailer, List.append_assoc] using h
  rw [hfront, Text.trim_cons hc, ← hfront, hcut]

theorem trim_text_eq_text : Text.trim a.text = a.asField.text := by
  rw [trim_text, FieldLine.text, asField, bracketed, List.nil_append]

/-- There is no line feed in the line. -/
theorem text_feedless : '\n' ∉ a.text := by
  intro hfeed
  simp only [text, List.mem_append, List.mem_cons] at hfeed
  rcases hfeed with h | h | h | h | h | h
  · exact absurd (a.type_run.all _ h) (by decide)
  · exact absurd (a.gap_run.all _ h) (by decide)
  · exact absurd (a.name_run.all _ h) (by decide)
  · exact absurd (a.before_gaps _ h) (by decide)
  · cases h
  · exact a.rest_feedless h

theorem significantLines_text : Resolver.significantLines a.text = [a.asField.text] := by
  obtain ⟨c, type, htype⟩ := List.exists_cons_of_ne_nil a.type_run.ne_nil
  have hc : c ≠ '#' := by
    rintro rfl
    exact absurd (a.type_run.all '#' (htype ▸ List.mem_cons_self)) (by decide)
  have hsignificant : Resolver.isSignificant a.asField.text = true := by
    rw [← trim_text_eq_text, trim_text, htype, List.cons_append]
    exact bne_iff_ne.2 hc
  rw [Resolver.significantLines_line a.text_feedless, trim_text_eq_text,
    List.filter_cons_of_pos hsignificant, List.filter_nil]

theorem constant?_text :
    Declaration.constant? a.asField.text
      = (Declaration.run? isValueChar a.written).map fun value =>
          .constant (String.ofList a.type) (String.ofList a.name) (String.ofList
            (if String.ofList a.type = Declaration.stringToken then Text.trim a.rest
              else value.1)) := by
  rw [← trim_text_eq_text, trim_text, trailer, Declaration.constant?_assignment a.type_run a.gap_run
    a.name_run a.before_gaps, Text.trim_trimEnd, written]

/-- If there is a value, it is read up to its end. -/
theorem run?_of_value (h : a.HasValue) :
    Declaration.run? isValueChar a.written
      = some (a.written.takeWhile isValueChar, a.written.dropWhile isValueChar) := by
  obtain ⟨c, hc, hcomment⟩ := h
  have hgap : isGap c = false := stopsAt_dropWhile isGap (Text.trimEnd a.rest) c hc
  have hvalue : isValueChar c = true := by
    rw [isValueChar, hgap]
    exact bne_iff_ne.2 hcomment
  obtain ⟨rest, hwritten⟩ := List.head?_eq_some_iff.1 hc
  rw [Declaration.run?, hwritten, List.takeWhile_cons, if_pos hvalue]

/-- If there is none, nothing is read. -/
theorem run?_of_no_value (h : ¬a.HasValue) : Declaration.run? isValueChar a.written = none := by
  rw [Declaration.run?]
  cases hwritten : a.written with
  | nil => rfl
  | cons c rest =>
    have hcomment : c = '#' := by
      by_contra hne
      exact h ⟨c, by rw [hwritten]; rfl, hne⟩
    rw [hcomment]
    rfl

/-- With a value the line is read as a constant. -/
theorem readLine_of_value (r : Resolver) (h : a.HasValue) :
    r.readLine a.asField.text = .ok (.constant a.constant) := by
  rw [Resolver.readLine, Declaration.read?, constant?_text, a.run?_of_value h]
  rfl

/-- Without one it is read as a field. -/
theorem readLine_of_no_value (r : Resolver) (h : ¬a.HasValue) :
    r.readLine a.asField.text = (r.field (String.ofList a.name) (String.ofList a.type) none
      (Declaration.packagePath? (String.ofList a.trailer))).map .field := by
  rw [Resolver.readLine, Declaration.read?, constant?_text, a.run?_of_no_value h,
    Declaration.field?_text]
  rfl

end Assignment

/-! ## The line among its neighbours -/

/-- Two texts leave a line of its own between them: the one above it is empty or ends with a line
feed, the one below it is empty or begins with one. -/
structure LeaveLine (above below : List Char) : Prop where
  above_ends : above = [] ∨ ∃ lines, above = lines ++ ['\n']
  below_begins : below = [] ∨ ∃ lines, below = '\n' :: lines

theorem LeaveLine.significantLines_eq {above below : List Char} (h : LeaveLine above below)
    (line : List Char) :
    Resolver.significantLines (above ++ (line ++ below))
      = Resolver.significantLines above
        ++ (Resolver.significantLines line ++ Resolver.significantLines below) := by
  have hnil : Resolver.significantLines [] = [] := rfl
  have hbelow : Resolver.significantLines (line ++ below)
      = Resolver.significantLines line ++ Resolver.significantLines below := by
    rcases h.below_begins with rfl | ⟨lines, rfl⟩
    · rw [hnil, List.append_nil, List.append_nil]
    · have hfeed := Resolver.significantLines_append [] lines
      rw [hnil, List.nil_append, List.nil_append] at hfeed
      rw [Resolver.significantLines_append, hfeed]
  rw [← hbelow]
  rcases h.above_ends with rfl | ⟨lines, rfl⟩
  · rw [hnil, List.nil_append, List.nil_append]
  · have hfeed := Resolver.significantLines_append lines []
    rw [hnil, List.append_nil] at hfeed
    rw [List.append_assoc, List.singleton_append, Resolver.significantLines_append, hfeed]

/-- The fields and constants of a message. -/
def Message.declared (m : Message) : List Field × List Constant :=
  (m.fields, m.constants)

/-- What a line declares. -/
def Entry.declared : Entry → List Field × List Constant
  | constant c => ([], [c])
  | field resolution => ([resolution.field], [])

namespace Resolver

variable (r : Resolver) (message : String)

theorem readMessageText_eq (text : String) :
    r.readMessageText message text
      = ((significantLines text.toList).mapM r.readLine).map
          (Message.ofEntries r.package message text) := by
  rw [readMessageText]
  cases (significantLines text.toList).mapM r.readLine with
  | error e => rfl
  | ok entries => rfl

/-- A message is read exactly if every line is. -/
theorem readMessageText_eq_ok_iff {r : Resolver} {name text : String} {m : Message} :
    r.readMessageText name text = .ok m ↔
      ∃ entries, (significantLines text.toList).mapM r.readLine = .ok entries ∧
        Message.ofEntries r.package name text entries = m := by
  rw [readMessageText_eq, Except.map_eq_ok_iff]

theorem readMessage_eq_ok_iff {r : Resolver} {name : String} {bytes : List UInt8} {m : Message} :
    r.readMessage name bytes = .ok m ↔
      ∃ text, Text.Utf8.decode bytes = .ok text ∧ r.readMessageText name text = .ok m := by
  rw [readMessage]
  cases Text.Utf8.decode bytes with
  | error fault => simp
  | ok text => simp

/-- A message has the full name of package and definition. -/
theorem fullName_of_readMessageText {r : Resolver} {name text : String} {m : Message}
    (h : r.readMessageText name text = .ok m) : m.fullName = r.package ++ "/" ++ name := by
  obtain ⟨entries, -, rfl⟩ := readMessageText_eq_ok_iff.1 h
  rfl

/-- One line, and what is above and below it. -/
theorem declared_of_line {above line below trimmed : List Char} (h : LeaveLine above below)
    (hline : significantLines line = [trimmed]) :
    (r.readMessageText message (String.ofList (above ++ (line ++ below)))).map Message.declared
      = do
        let m ← r.readMessageText message (String.ofList above)
        let e ← r.readLine trimmed
        let k ← r.readMessageText message (String.ofList below)
        return (m.fields ++ (e.declared.1 ++ k.fields),
          m.constants ++ (e.declared.2 ++ k.constants)) := by
  simp only [readMessageText_eq, String.toList_ofList]
  rw [h.significantLines_eq, hline, List.mapM_append, List.mapM_append]
  simp only [List.mapM_cons, List.mapM_nil]
  cases (significantLines above).mapM r.readLine with
  | error e => rfl
  | ok aboveEntries =>
    cases r.readLine trimmed with
    | error e => rfl
    | ok e =>
      cases (significantLines below).mapM r.readLine with
      | error e => rfl
      | ok belowEntries =>
        have hfields : (aboveEntries ++ ([e] ++ belowEntries)).filterMap Entry.field?
            = aboveEntries.filterMap Entry.field?
              ++ (e.declared.1 ++ belowEntries.filterMap Entry.field?) := by
          rw [List.filterMap_append]
          cases e <;> rfl
        have hconstants : (aboveEntries ++ ([e] ++ belowEntries)).filterMap Entry.constant?
            = aboveEntries.filterMap Entry.constant?
              ++ (e.declared.2 ++ belowEntries.filterMap Entry.constant?) := by
          rw [List.filterMap_append]
          cases e <;> rfl
        exact congrArg Except.ok (Prod.ext hfields hconstants)

/-- **What a line with an equals sign adds to a definition.**  Where a value is written behind the
sign it adds one constant and no field, and of a string constant that value is all that is behind
the sign.  Where none is written, so if there are only gaps or a comment, it adds no constant, but a
field: this is so for strings too, and nothing refuses such a line unless the field itself is
wrong. -/
theorem readMessageText_assignment (a : Assignment) (above below : List Char)
    (h : LeaveLine above below) :
    (a.HasValue →
      (r.readMessageText message (String.ofList (above ++ (a.text ++ below)))).map Message.declared
        = do
          let m ← r.readMessageText message (String.ofList above)
          let k ← r.readMessageText message (String.ofList below)
          return (m.fields ++ k.fields, m.constants ++ a.constant :: k.constants)) ∧
    (¬a.HasValue →
      (r.readMessageText message (String.ofList (above ++ (a.text ++ below)))).map Message.declared
        = do
          let m ← r.readMessageText message (String.ofList above)
          let resolution ← r.field (String.ofList a.name) (String.ofList a.type) none
            (Declaration.packagePath? (String.ofList a.trailer))
          let k ← r.readMessageText message (String.ofList below)
          return (m.fields ++ resolution.field :: k.fields, m.constants ++ k.constants)) := by
  rw [r.declared_of_line message h a.significantLines_text]
  constructor
  · intro hvalue
    rw [a.readLine_of_value r hvalue]
    rfl
  · intro hnone
    rw [a.readLine_of_no_value r hnone]
    cases r.field (String.ofList a.name) (String.ofList a.type) none
      (Declaration.packagePath? (String.ofList a.trailer)) with
    | error e => rfl
    | ok resolution => rfl

end Resolver

/-! ## A label -/

namespace Garden

theorem label_feedless : '\n' ∉ " all # of it".toList := by
  decide

/-- The pieces of `string  LABEL = all # of it`. -/
def label : Assignment where
  type := "string".toList
  gap := [' ', ' ']
  name := "LABEL".toList
  before := [' ']
  rest := " all # of it".toList
  type_run := by decide
  gap_run := by decide
  name_run := by decide
  before_gaps := List.all_eq_true.1 rfl
  rest_feedless := label_feedless

/-- The label stands between a field and a constant, and is a constant. -/
theorem readMessageText_label :
    (resolver.readMessageText "Bed" "Pot pot\nstring  LABEL = all # of it\nuint8 RIPE=2\n").map
        Message.declared
      = .ok ([⟨"pot", "Pot", .single, .own "Pot"⟩],
        [⟨"LABEL", "string", "all # of it"⟩, ⟨"RIPE", "uint8", "2"⟩]) := by
  have hvalue : label.HasValue := ⟨'a', by decide, by decide⟩
  have hlines : LeaveLine "Pot pot\n".toList "\nuint8 RIPE=2\n".toList :=
    ⟨.inr ⟨"Pot pot".toList, rfl⟩, .inr ⟨"uint8 RIPE=2\n".toList, rfl⟩⟩
  have hread := (Resolver.readMessageText_assignment resolver "Bed" label _ _ hlines).1 hvalue
  exact hread.trans (by rfl)

/-- A label that begins with a comment sign: the definition gets a field and no constant, and so
does a number without a value. -/
theorem readMessageText_blank_labels :
    (resolver.readMessageText "Bed" "string LABEL = # of it\n").map Message.declared
      = .ok ([⟨"LABEL", "string", .single, .primitive .string⟩], []) ∧
    (resolver.readMessageText "Bed" "string LABEL =\n").map Message.declared
      = .ok ([⟨"LABEL", "string", .single, .primitive .string⟩], []) ∧
    (resolver.readMessageText "Bed" "int32 RIPE =\n").map Message.declared
      = .ok ([⟨"RIPE", "int32", .single, .primitive .int32⟩], []) := by
  exact ⟨rfl, rfl, rfl⟩

end Garden

end Missive
