import Missive.Proofs.Bindings
import Missive.Proofs.Imports
import Missive.Proofs.Sizes
import Missive.Proofs.Vocabulary
/-!
# Messages line by line

A message can be made up while its lines are read: a draft takes in one line after the other, with
its flags raised and its imports replaced on the way, and nothing is looked at again.  What holds
of every draft, whichever lines it has taken in, holds of the message in the end.

* `DeclaredField`, `Resolver.declaredFields` -- the fields of a text, each with the path that is
  stated beside it;
* `Draft`, `Draft.add`, `Resolver.draft` -- a message in the making;
* `Draft.Accounts` -- a draft says of the declared fields what it should; `Draft.Accounts.add` is
  kept by a line, `Draft.Accounts.run` by all of them;
* `Resolver.draft_eq` -- the message made of all lines at once is the last draft;
* `Resolver.Keeps`, `Resolver.keeps_of_read` -- what is promised of every message and service that
  has been read.
-/

namespace Missive

/-! ## Declared fields -/

/-- A field, and the path that the comment behind it states for the package of its type. -/
structure DeclaredField where
  field : Field
  path : Option String

namespace Resolver

variable (r : Resolver)

/-- The field that a line declares. -/
def declaredField? (line : List Char) : Option DeclaredField :=
  match Declaration.read? line with
  | some (.field type count name trailer) =>
    let path := Declaration.packagePath? trailer
    (r.field name type count path).toOption.map fun resolution => ⟨resolution.field, path⟩
  | _ => none

/-- The fields that the lines of a text declare, in order. -/
def declaredFields (text : String) : List DeclaredField :=
  (significantLines text.toList).filterMap r.declaredField?

/-- The path that a field chooses for a package: none if its type is not of the package, and else
the stated path before the configured one. -/
def choice? (package : String) (d : DeclaredField) : Option String :=
  if d.field.type.package? = some package then d.path.or (r.config.importPath? package) else none

theorem choice?_isSome_iff {package : String} {d : DeclaredField} :
    (r.choice? package d).isSome ↔ d.field.type.package? = some package ∧
      (d.path.isSome ∨ (r.config.importPath? package).isSome) := by
  rw [choice?]
  split_ifs with h
  · rw [Option.isSome_or, Bool.or_eq_true]
    exact ⟨fun hsome => ⟨h, hsome⟩, And.right⟩
  · exact ⟨nofun, fun hsome => absurd hsome.1 h⟩

end Resolver

/-! ## One line -/

/-- What brackets declare is a fixed number just if the number is not zero. -/
theorem Shape.isFixed_of_read {count : Option String} {shape : Shape}
    (h : Shape.read count = .ok shape) :
    shape.isFixed = true ↔ shape.isArray = true ∧ 0 < shape.count := by
  rw [Shape.read.eq_def] at h
  split at h
  · cases h
    decide
  · cases h
    decide
  · split at h
    · cases h
      decide
    · rename_i n hcount hn
      cases h
      have hpos : 0 < n := by
        apply Nat.pos_of_ne_zero
        intro hzero
        subst hzero
        exact hcount rfl
      exact ⟨fun _ => ⟨rfl, hpos⟩, fun _ => rfl⟩
    · cases h

namespace Resolver

/-- A type of another package is not of the owning one. -/
theorem package?_ne_of_typeRef {r : Resolver} {token : String} {type : TypeRef}
    (h : r.typeRef token = .ok type) : type.package? ≠ some r.package := by
  rw [typeRef] at h
  split at h
  · cases h
    intro hpackage
    cases hpackage
  · split at h
    · cases h
    · cases h
      intro hpackage
      cases hpackage
    · split_ifs at h with howner
      · cases h
        intro hpackage
        cases hpackage
      · cases h
        intro hpackage
        exact howner (beq_iff_eq.2 (Option.some.inj hpackage))

/-- What a line can contribute: a constant with a name, or a field with a name, whose import is the
one its type and the stated path ask for. -/
theorem entry_of_readLine {r : Resolver} {line : List Char} {e : Entry}
    (h : r.readLine line = .ok e) :
    (∃ c, e = .constant c ∧ IsRun isNameChar c.name.toList ∧ r.declaredField? line = none) ∨
    ∃ f path, e = .field ⟨f, r.dependency? f.type path⟩ ∧ IsRun isNameChar f.name.toList ∧
      (f.shape.isFixed = true ↔ f.shape.isArray = true ∧ 0 < f.shape.count) ∧
      f.type.package? ≠ some r.package ∧ r.declaredField? line = some ⟨f, path⟩ := by
  by_cases hc : ∃ l : ConstantLine, l.text = line
  · obtain ⟨l, rfl⟩ := hc
    rw [readLine_constantLine] at h
    cases h
    refine .inl ⟨_, rfl, ?_, ?_⟩
    · rw [ConstantLine.constant, String.toList_ofList]
      exact l.name_run
    · rw [declaredField?, Declaration.read?, Declaration.constant?_text]
      rfl
  · by_cases hf : ∃ l : FieldLine, l.text = line
    · obtain ⟨l, rfl⟩ := hf
      rw [readLine_fieldLine r l hc] at h
      obtain ⟨resolution, hfield, rfl⟩ := Except.map_eq_ok_iff.1 h
      have hdeclared : r.declaredField? l.text
          = some ⟨resolution.field, Declaration.packagePath? (String.ofList l.trailer)⟩ := by
        rw [declaredField?, Declaration.read?, Declaration.constant?_eq_none hc,
          Declaration.field?_text]
        show (r.field _ _ _ _).toOption.map _ = _
        rw [hfield]
        rfl
      obtain ⟨shape, type, hshape, htype, rfl⟩ := field_eq_ok_iff.1 hfield
      refine .inr ⟨_, _, rfl, ?_, Shape.isFixed_of_read hshape, package?_ne_of_typeRef htype,
        hdeclared⟩
      rw [String.toList_ofList]
      exact l.name_run
    · rw [readLine_unrecognized r hc hf] at h
      cases h

end Resolver

/-! ## Drafts -/

/-- A message in the making, with everything that is kept up to date while lines are read. -/
structure Draft where
  fields : List Field
  constants : List Constant
  dependencies : Dictionary String
  hasBuiltin : Bool
  hasArray : Bool
  hasFixedArray : Bool

namespace Draft

/-- Before the first line. -/
def empty : Draft := ⟨[], [], .empty, false, false, false⟩

/-- Takes in what a line contributes: flags are raised and never lowered, and a later import of a
package replaces an earlier one. -/
def add (d : Draft) : Entry → Draft
  | .constant c => { d with constants := d.constants ++ [c] }
  | .field ⟨f, dependency⟩ =>
    { d with
      fields := d.fields ++ [f]
      dependencies := d.dependencies.insertAll dependency.toList
      hasBuiltin := d.hasBuiltin || f.type.isBuiltin
      hasArray := d.hasArray || f.shape.isArray
      hasFixedArray := d.hasFixedArray || (f.shape.isArray && decide (0 < f.shape.count)) }

/-- What a draft says of the fields that have been declared so far. -/
structure Accounts (r : Resolver) (declared : List DeclaredField) (d : Draft) : Prop where
  fields : d.fields = declared.map (·.field)
  fieldNames : ∀ f ∈ d.fields, IsRun isNameChar f.name.toList
  constantNames : ∀ c ∈ d.constants, IsRun isNameChar c.name.toList
  shapes : ∀ f ∈ d.fields,
    (f.shape.isFixed = true ↔ f.shape.isArray = true ∧ 0 < f.shape.count)
  hasBuiltin : d.hasBuiltin = true ↔ ∃ f ∈ d.fields, f.type.isBuiltin = true
  hasArray : d.hasArray = true ↔ ∃ f ∈ d.fields, f.shape.isArray = true
  hasFixedArray : d.hasFixedArray = true ↔
    ∃ f ∈ d.fields, f.shape.isArray = true ∧ 0 < f.shape.count
  packages : ∀ f ∈ d.fields, f.type.package? ≠ some r.package
  dependencies : ∀ package,
    d.dependencies.find? package = (declared.filterMap (r.choice? package)).getLast?

/-- Before the first line there is nothing to account for. -/
theorem accounts_empty (r : Resolver) : Accounts r [] empty where
  fields := rfl
  fieldNames := List.forall_mem_nil _
  constantNames := List.forall_mem_nil _
  shapes := List.forall_mem_nil _
  hasBuiltin := by simp [empty]
  hasArray := by simp [empty]
  hasFixedArray := by simp [empty]
  packages := List.forall_mem_nil _
  dependencies := fun _ => rfl

/-- A flag is raised by the last of some fields or by one before. -/
theorem exists_mem_concat {fields : List Field} {f : Field} {p : Field → Prop} :
    (∃ g ∈ fields ++ [f], p g) ↔ (∃ g ∈ fields, p g) ∨ p f := by
  simp only [List.mem_append, List.mem_singleton, or_and_right, exists_or, exists_eq_left]

/-- What the import of a field makes of the imports so far. -/
theorem find?_insertAll_dependency (r : Resolver) (dependencies : Dictionary String) (f : Field)
    (path : Option String) (package : String) :
    (dependencies.insertAll (r.dependency? f.type path).toList).find? package
      = (r.choice? package ⟨f, path⟩).or (dependencies.find? package) := by
  have hchoice : (r.dependency? f.type path).bind (Resolver.pathFor? package)
      = r.choice? package ⟨f, path⟩ := r.dependency?_bind package f.type path
  rw [Dictionary.find?_insertAll_list, Dictionary.find?_ofList, ← hchoice]
  cases r.dependency? f.type path with
  | none => rfl
  | some dependency =>
    show ([dependency].filterMap (Resolver.pathFor? package)).getLast?.or _ = _
    rw [Option.bind_some, List.filterMap_cons]
    cases Resolver.pathFor? package dependency <;> rfl

namespace Accounts

variable {r : Resolver} {declared : List DeclaredField} {d : Draft}

/-- **One line.**  A draft that accounts for the fields so far accounts for one more after the line
that declares it. -/
theorem add (h : Accounts r declared d) {line : List Char} {e : Entry}
    (hline : r.readLine line = .ok e) :
    Accounts r (declared ++ (r.declaredField? line).toList) (d.add e) := by
  rcases Resolver.entry_of_readLine hline with
    ⟨c, rfl, hname, hdeclared⟩ | ⟨f, path, rfl, hname, hshape, hpackage, hdeclared⟩
  · rw [hdeclared, Option.toList_none, List.append_nil]
    refine { h with constantNames := ?_ }
    exact List.forall_mem_append.2 ⟨h.constantNames, List.forall_mem_singleton.2 hname⟩
  · rw [hdeclared, Option.toList_some]
    constructor
    case fields =>
      rw [List.map_append, ← h.fields]
      rfl
    case fieldNames =>
      exact List.forall_mem_append.2 ⟨h.fieldNames, List.forall_mem_singleton.2 hname⟩
    case constantNames => exact h.constantNames
    case shapes => exact List.forall_mem_append.2 ⟨h.shapes, List.forall_mem_singleton.2 hshape⟩
    case hasBuiltin =>
      show (d.hasBuiltin || f.type.isBuiltin) = true ↔ ∃ g ∈ d.fields ++ [f], _
      rw [exists_mem_concat, Bool.or_eq_true, h.hasBuiltin]
    case hasArray =>
      show (d.hasArray || f.shape.isArray) = true ↔ ∃ g ∈ d.fields ++ [f], _
      rw [exists_mem_concat, Bool.or_eq_true, h.hasArray]
    case hasFixedArray =>
      show (d.hasFixedArray || (f.shape.isArray && decide (0 < f.shape.count))) = true
        ↔ ∃ g ∈ d.fields ++ [f], _
      rw [exists_mem_concat, Bool.or_eq_true, h.hasFixedArray, Bool.and_eq_true, decide_eq_true_iff]
    case packages =>
      exact List.forall_mem_append.2 ⟨h.packages, List.forall_mem_singleton.2 hpackage⟩
    case dependencies =>
      intro package
      show (d.dependencies.insertAll (r.dependency? f.type path).toList).find? package = _
      rw [find?_insertAll_dependency, h.dependencies, List.filterMap_append, List.getLast?_append]
      congr 1
      rw [List.filterMap_cons]
      cases r.choice? package ⟨f, path⟩ <;> rfl

end Accounts

end Draft

namespace Resolver

variable (r : Resolver)

/-- Goes on with a draft line by line, up to the first wrong one. -/
def draftFrom (d : Draft) : List (List Char) → Except DefinitionError Draft
  | [] => .ok d
  | line :: rest => do
    let e ← r.readLine line
    draftFrom (d.add e) rest

/-- The draft after all lines of a text. -/
def draft (text : String) : Except DefinitionError Draft :=
  r.draftFrom Draft.empty (significantLines text.toList)

end Resolver

namespace Draft

variable {r : Resolver}

/-- **All lines.**  What a line keeps, every number of lines keeps. -/
theorem Accounts.run {declared : List DeclaredField} {d d' : Draft} {lines : List (List Char)}
    (h : Accounts r declared d) (hrun : r.draftFrom d lines = .ok d') :
    Accounts r (declared ++ lines.filterMap r.declaredField?) d' := by
  induction lines generalizing declared d with
  | nil =>
    cases hrun
    rw [List.filterMap_nil, List.append_nil]
    exact h
  | cons line rest ih =>
    obtain ⟨e, hline, hrest⟩ := Except.bind_eq_ok_iff.1 hrun
    have hlater := ih (h.add hline) hrest
    have hsplit : (line :: rest).filterMap r.declaredField?
        = (r.declaredField? line).toList ++ rest.filterMap r.declaredField? := by
      rw [List.filterMap_cons]
      cases r.declaredField? line <;> rfl
    rw [hsplit, ← List.append_assoc]
    exact hlater

/-- The lists and the imports of a draft are those of the entries it has taken in. -/
theorem foldl_add (entries : List Entry) (d : Draft) :
    (entries.foldl add d).fields = d.fields ++ entries.filterMap Entry.field? ∧
    (entries.foldl add d).constants = d.constants ++ entries.filterMap Entry.constant? ∧
    (entries.foldl add d).dependencies
      = d.dependencies.insertAll (entries.filterMap Entry.dependency?) := by
  induction entries generalizing d with
  | nil =>
    simp only [List.foldl_nil, List.filterMap_nil, List.append_nil]
    exact ⟨trivial, trivial, rfl⟩
  | cons e rest ih =>
    obtain ⟨hfields, hconstants, hdependencies⟩ := ih (d.add e)
    rw [List.foldl_cons, hfields, hconstants, hdependencies]
    cases e with
    | constant c =>
      rw [List.filterMap_cons_none (f := Entry.field?) rfl,
        List.filterMap_cons_some (f := Entry.constant?) rfl,
        List.filterMap_cons_none (f := Entry.dependency?) rfl, List.append_cons]
      exact ⟨rfl, rfl, rfl⟩
    | field resolution =>
      obtain ⟨f, dependency⟩ := resolution
      rw [List.filterMap_cons_some (f := Entry.field?) rfl,
        List.filterMap_cons_none (f := Entry.constant?) rfl, List.append_cons]
      refine ⟨rfl, rfl, ?_⟩
      show (d.dependencies.insertAll dependency.toList).insertAll _ = _
      rw [← Dictionary.insertAll_append, List.filterMap_cons]
      cases dependency <;> rfl

end Draft

/-- What a draft of the message would have kept up to date. -/
def Message.draft (m : Message) : Draft where
  fields := m.fields
  constants := m.constants
  dependencies := m.dependencies
  hasBuiltin := m.hasBuiltin
  hasArray := m.hasArray
  hasFixedArray := m.hasFixedArray

namespace Resolver

variable (r : Resolver)

theorem draftFrom_eq (d : Draft) (lines : List (List Char)) :
    r.draftFrom d lines = (lines.mapM r.readLine).map fun entries => entries.foldl Draft.add d := by
  induction lines generalizing d with
  | nil => rfl
  | cons line rest ih =>
    rw [draftFrom, List.mapM_cons]
    cases r.readLine line with
    | error e => rfl
    | ok e =>
      show r.draftFrom (d.add e) rest = _
      rw [ih]
      cases rest.mapM r.readLine <;> rfl

/-- The draft of a text accounts for all its fields. -/
theorem accounts_of_draft {r : Resolver} {text : String} {d : Draft} (h : r.draft text = .ok d) :
    Draft.Accounts r (r.declaredFields text) d :=
  (Draft.accounts_empty r).run h

/-- The message made of all lines at once is the last draft, flags included. -/
theorem draft_eq (name text : String) :
    r.draft text = (r.readMessageText name text).map Message.draft := by
  rw [draft, draftFrom_eq, readMessageText_eq]
  cases hentries : (significantLines text.toList).mapM r.readLine with
  | error e => rfl
  | ok entries =>
    have hrun : r.draft text = .ok (entries.foldl Draft.add Draft.empty) := by
      rw [draft, draftFrom_eq, hentries]
      rfl
    have haccounts := accounts_of_draft hrun
    obtain ⟨hfields, hconstants, hdependencies⟩ := Draft.foldl_add entries Draft.empty
    show Except.ok (entries.foldl Draft.add Draft.empty) = .ok (Message.draft _)
    generalize entries.foldl Draft.add Draft.empty = d at *
    obtain ⟨fields, constants, dependencies, hasBuiltin, hasArray, hasFixedArray⟩ := d
    obtain ⟨-, -, -, hshapes, hbuiltin, harray, hfixed, -, -⟩ := haccounts
    simp only at hfields hconstants hdependencies hshapes hbuiltin harray hfixed
    have hfields' : fields = entries.filterMap Entry.field? := hfields
    have hconstants' : constants = entries.filterMap Entry.constant? := hconstants
    congr 1
    rw [Message.draft, Message.ofEntries]
    congr 1
    · rw [Bool.eq_iff_iff, hbuiltin, Message.hasBuiltin, List.any_eq_true, hfields']
    · rw [Bool.eq_iff_iff, harray, Message.hasArray, List.any_eq_true, hfields']
    · rw [Bool.eq_iff_iff, hfixed, Message.hasFixedArray, List.any_eq_true]
      show (∃ f ∈ fields, _) ↔ ∃ f ∈ entries.filterMap Entry.field?, _
      rw [← hfields']
      exact exists_congr fun f => and_congr_right fun hf => (hshapes f hf).symm

end Resolver

/-! ## What is promised of a message -/

theorem Dictionary.mem_keys_iff {α : Type} {d : Dictionary α} {name : String} :
    name ∈ d.keys ↔ (d.find? name).isSome := by
  constructor
  · intro h
    obtain ⟨value, -, hvalue⟩ := Dictionary.exists_of_mem_keys h
    rw [hvalue]
    rfl
  · intro h
    by_contra hmem
    rw [d.find?_of_not_mem_keys hmem] at h
    cases h

/-- The last of some values, with what is behind it. -/
theorem getLast?_filterMap_eq_some_iff {α β : Type} {f : α → Option β} {items : List α} {b : β} :
    (items.filterMap f).getLast? = some b ↔
      ∃ before a after, items = before ++ a :: after ∧ f a = some b ∧
        ∀ later ∈ after, f later = none := by
  rw [List.getLast?_eq_some_iff]
  constructor
  · intro ⟨earlier, hsplit⟩
    obtain ⟨front, back, rfl, -, hback⟩ := List.filterMap_eq_append_iff.1 hsplit
    obtain ⟨idle, a, after, rfl, -, hvalue, hafter⟩ := List.filterMap_eq_cons_iff.1 hback
    refine ⟨front ++ idle, a, after, by rw [List.append_assoc], hvalue, ?_⟩
    exact List.filterMap_eq_nil_iff.1 hafter
  · intro ⟨before, a, after, hitems, hvalue, hafter⟩
    refine ⟨before.filterMap f, ?_⟩
    rw [hitems, List.filterMap_append, List.filterMap_cons_some hvalue,
      List.filterMap_eq_nil_iff.2 hafter]

namespace Resolver

variable (r : Resolver)

/-- What a resolver promises of a message that it has read.  The import of a package is there just
if some field of the package states a path or one is configured, and it is the path of the last
field that has one. -/
structure Keeps (m : Message) : Prop where
  package : m.package = r.package
  fields : m.fields = (r.declaredFields m.text).map (·.field)
  fieldNames : ∀ f ∈ m.fields, IsRun isNameChar f.name.toList
  constantNames : ∀ c ∈ m.constants, IsRun isNameChar c.name.toList
  drafted : r.draft m.text = .ok m.draft
  hasBuiltin : m.hasBuiltin = true ↔ ∃ f ∈ m.fields, f.type.isBuiltin = true
  hasArray : m.hasArray = true ↔ ∃ f ∈ m.fields, f.shape.isArray = true
  hasFixedArray : m.hasFixedArray = true ↔
    ∃ f ∈ m.fields, f.shape.isArray = true ∧ 0 < f.shape.count
  packages : ∀ f ∈ m.fields, f.type.package? ≠ some m.package
  dependencies : ∀ package, package ∈ m.dependencies.keys ↔
    ∃ d ∈ r.declaredFields m.text, d.field.type.package? = some package ∧
      (d.path.isSome ∨ (r.config.importPath? package).isSome)
  paths : ∀ package path, m.dependencies.find? package = some path ↔
    ∃ before d after, r.declaredFields m.text = before ++ d :: after ∧
      r.choice? package d = some path ∧ ∀ later ∈ after, r.choice? package later = none

variable {r}

theorem package_of_readMessageText {name text : String} {m : Message}
    (h : r.readMessageText name text = .ok m) : m.package = r.package := by
  obtain ⟨entries, -, rfl⟩ := readMessageText_eq_ok_iff.1 h
  rfl

/-- What a draft accounts for in the end is what is promised. -/
theorem keeps_of_readMessageText {name text : String} {m : Message}
    (h : r.readMessageText name text = .ok m) : r.Keeps m := by
  obtain rfl := r.text_of_readMessageText h
  have hdraft : r.draft m.text = .ok m.draft := by
    rw [r.draft_eq name, h]
    rfl
  have hpackage : m.package = r.package := package_of_readMessageText h
  have haccounts := accounts_of_draft hdraft
  have hfind : ∀ package, m.dependencies.find? package
      = ((r.declaredFields m.text).filterMap (r.choice? package)).getLast? :=
    haccounts.dependencies
  constructor
  case package => exact hpackage
  case fields => exact haccounts.fields
  case fieldNames => exact haccounts.fieldNames
  case constantNames => exact haccounts.constantNames
  case drafted => exact hdraft
  case hasBuiltin => exact haccounts.hasBuiltin
  case hasArray => exact haccounts.hasArray
  case hasFixedArray => exact haccounts.hasFixedArray
  case packages =>
    rw [hpackage]
    exact haccounts.packages
  case dependencies =>
    intro package
    simp only [← r.choice?_isSome_iff]
    rw [Dictionary.mem_keys_iff, hfind, List.getLast?_isSome, ne_eq, List.filterMap_eq_nil_iff]
    simp only [not_forall, exists_prop, Option.isSome_iff_ne_none, ne_eq]
  case paths =>
    intro package path
    rw [hfind, getLast?_filterMap_eq_some_iff]

/-- **What is promised of every definition.**  A message keeps the text it was read from, whose
fingerprint is its own.  The names of its fields and constants are not empty and made of letters,
digits and underscores; its flags say just which kinds of fields it has, though they are raised one
field at a time; no type of another package is of its own one; and it imports the packages for which
a path is stated or configured, each from the path of the last field that has one.  A service keeps
its text too, both of its messages keep these promises, and it imports what either of them does, of
a package that both need the request's path. -/
theorem keeps_of_read (r : Resolver) (name : String) (bytes : List UInt8) :
    (∀ m, r.readMessage name bytes = .ok m →
      Text.Utf8.encode m.text = bytes ∧ m.fingerprint = fingerprint bytes ∧ m.name = name ∧
      r.Keeps m) ∧
    (∀ s, r.readService name bytes = .ok s →
      Text.Utf8.encode s.text = bytes ∧ sections s.text = [s.request.text, s.response.text] ∧
      r.readMessage (name ++ "Request") (Text.Utf8.encode s.request.text) = .ok s.request ∧
      r.readMessage (name ++ "Response") (Text.Utf8.encode s.response.text) = .ok s.response ∧
      r.Keeps s.request ∧ r.Keeps s.response ∧
      (∀ package, package ∈ s.dependencies.keys ↔
        package ∈ s.request.dependencies.keys ∨ package ∈ s.response.dependencies.keys) ∧
      ∀ package, s.dependencies.find? package
        = (s.request.dependencies.find? package).or (s.response.dependencies.find? package)) := by
  constructor
  · intro m hread
    obtain ⟨text, hdecode, htext⟩ := readMessage_eq_ok_iff.1 hread
    obtain rfl := r.text_of_readMessageText htext
    have hbytes := Text.Utf8.encode_of_decode hdecode
    refine ⟨hbytes, ?_, r.name_of_readMessageText htext, keeps_of_readMessageText htext⟩
    rw [Message.fingerprint, fingerprintText, hbytes]
  · intro s hread
    obtain ⟨text, hdecode, htext⟩ := readService_eq_ok_iff.1 hread
    obtain ⟨first, second, q, p, hsections, hq, hp, rfl⟩ := readServiceText_eq_ok_iff.1 htext
    obtain rfl := r.text_of_readMessageText hq
    obtain rfl := r.text_of_readMessageText hp
    have hfind : ∀ package, (q.dependencies.fillFrom p.dependencies).find? package
        = (q.dependencies.find? package).or (p.dependencies.find? package) :=
      Dictionary.find?_fillFrom _ _
    refine ⟨Text.Utf8.encode_of_decode hdecode, hsections, ?_, ?_, keeps_of_readMessageText hq,
      keeps_of_readMessageText hp, ?_, hfind⟩
    · rw [readMessage_encode, hq]
    · rw [readMessage_encode, hp]
    · intro package
      simp only [Dictionary.mem_keys_iff]
      show ((q.dependencies.fillFrom p.dependencies).find? package).isSome ↔ _
      rw [hfind, Option.isSome_or, Bool.or_eq_true]

end Resolver

/-! ## A bed -/

namespace Garden

/-- A constant, arrays of both kinds, and a package whose last field states a path. -/
def bedText : String :=
  "uint8 RIPE=2\nbool[2] dug\nHeader grown\nPot[] pots\n"
    ++ "std_msgs/Header watered # package=sheds::std\n"

/-- The path of the last field is the import, and that of a request goes before the configured one
of the response. -/
theorem keeps_bed :
    (∃ m, resolver.readMessage "Bed" (Text.Utf8.encode bedText) = .ok m ∧ resolver.Keeps m ∧
      m.dependencies.entries = [("std_msgs", "sheds::std")] ∧ m.hasBuiltin = true ∧
      m.hasArray = true ∧ m.hasFixedArray = true) ∧
    ∃ s, resolver.readService "Bed" (Text.Utf8.encode (bedText ++ "---\nHeader grown\n")) = .ok s ∧
      resolver.Keeps s.request ∧ resolver.Keeps s.response ∧
      s.dependencies.find? "std_msgs" = some "sheds::std" := by
  constructor
  · obtain ⟨hmessage, -⟩ := Resolver.keeps_of_read resolver "Bed" (Text.Utf8.encode bedText)
    have hbed : (resolver.readMessageText "Bed" bedText).map (fun m =>
          (m.dependencies.entries, m.hasBuiltin, m.hasArray, m.hasFixedArray))
        = .ok ([("std_msgs", "sheds::std")], true, true, true) := by
      decide +kernel
    obtain ⟨m, hread, hrest⟩ := Except.map_eq_ok_iff.1 hbed
    rw [← Resolver.readMessage_encode] at hread
    obtain ⟨-, -, -, hkeeps⟩ := hmessage m hread
    simp only [Prod.mk.injEq] at hrest
    exact ⟨m, hread, hkeeps, hrest⟩
  · obtain ⟨-, hservice⟩ := Resolver.keeps_of_read resolver "Bed"
      (Text.Utf8.encode (bedText ++ "---\nHeader grown\n"))
    have hbed : (resolver.readServiceText "Bed" (bedText ++ "---\nHeader grown\n")).map
          (·.dependencies.find? "std_msgs")
        = .ok (some "sheds::std") := by
      decide +kernel
    obtain ⟨s, hread, hpath⟩ := Except.map_eq_ok_iff.1 hbed
    rw [← Resolver.readService_encode] at hread
    obtain ⟨-, -, -, -, hrequest, hresponse, -, -⟩ := hservice s hread
    exact ⟨s, hread, hrequest, hresponse, hpath⟩

end Garden

end Missive
