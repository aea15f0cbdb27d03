import Missive.Code.Formatted
import Missive.Proofs.Layouts
import Missive.Proofs.Literals
/-!
# The block of a message's constants

The code of a message has a block with its descriptor, its constants and its constructor.  What
stands in it is known up to where lines are broken, and this is enough to read it back: literals by
the lexical rules of literals, everything else as it is written.

* `MessageItem.ink_inherentDoc` -- the block without its boxes, token by token;
* `Identifier.not_blank`, `blankless_of_isMemberName` -- a name has no blanks in it;
* `Reader.inherent` -- the reader of a block;
* `ConstantItem.IsReadAs` -- what is read for a constant;
* `takes_descriptor`, `takes_inherent` -- the descriptor and the whole block are read back;
* `Reader.inherentLines`, `reads_inherentLines` -- so they are from the unformatted text, line by
  line.
-/

namespace Missive

/-! ## Words and blanks -/

namespace Text

/-- The codes of all blanks. -/
def blankCodes : List Nat :=
  [0x9, 0xA, 0xB, 0xC, 0xD, 0x20, 0x85, 0xA0, 0x1680, 0x2000, 0x2001, 0x2002, 0x2003, 0x2004,
   0x2005, 0x2006, 0x2007, 0x2008, 0x2009, 0x200A, 0x2028, 0x2029, 0x202F, 0x205F, 0x3000]

theorem mem_blankCodes {c : Char} (h : isBlank c = true) : c.toNat ∈ blankCodes := by
  simp only [isBlank, Bool.or_eq_true, Bool.and_eq_true, decide_eq_true_eq, beq_iff_eq] at h
  simp only [blankCodes, List.mem_cons, List.not_mem_nil, or_false]
  omega

/-- A blank is in no word. -/
theorem Identifier.not_blank {c : Char} (h : isStart c = true ∨ c = '_' ∨ isContinue c = true) :
    isBlank c = false := by
  have hall : ∀ n ∈ blankCodes, isStart (Char.ofNat n) = false ∧ Char.ofNat n ≠ '_' ∧
      isContinue (Char.ofNat n) = false := by
    decide +kernel
  by_contra hblank
  obtain ⟨hstart, hunderscore, hcontinue⟩ := hall _ (mem_blankCodes (Bool.not_eq_false _ ▸ hblank))
  rw [Char.ofNat_toNat] at hstart hunderscore hcontinue
  rw [hstart, hcontinue] at h
  rcases h with h | h | h
  · cases h
  · exact hunderscore h
  · cases h

theorem Identifier.blankless_of_isWord {cs : List Char} (h : isWord cs = true) :
    ∀ c ∈ cs, isBlank c = false := by
  cases cs with
  | nil => exact fun c => nofun
  | cons first rest =>
    rw [isWord, Bool.and_eq_true, Bool.or_eq_true, Bool.and_eq_true, beq_iff_eq,
      List.all_eq_true] at h
    intro c hc
    rcases List.mem_cons.1 hc with hfirst | hrest
    · rw [hfirst]
      exact not_blank (h.1.elim .inl fun hunder => .inr (.inl hunder.1))
    · exact not_blank (.inr (.inr (h.2 c hrest)))

theorem blankless_of_all {cs : List Char} (h : cs.all (!isBlank ·) = true) :
    ∀ c ∈ cs, isBlank c = false := by
  simpa using h

end Text

namespace Code

theorem escaped?_eq_some {word inner : String} (h : escaped? word = some inner) :
    word = escapeMark ++ inner := by
  rw [escaped?] at h
  split at h
  · rename_i rest hword
    cases h
    rw [← String.toList_inj, hword, String.toList_append, String.toList_ofList]
    rfl
  · cases h

theorem blankless_of_isMemberName {word : String} (h : isMemberName word = true) :
    ∀ c ∈ word.toList, Text.isBlank c = false := by
  rw [isMemberName] at h
  split at h
  · rename_i inner hinner
    rw [escaped?_eq_some hinner, String.toList_append]
    intro c hc
    rcases List.mem_append.1 hc with hmark | hrest
    · have hmarks : ∀ c ∈ escapeMark.toList, Text.isBlank c = false :=
        Text.blankless_of_all rfl
      exact hmarks c hmark
    · exact Text.Identifier.blankless_of_isWord (Bool.and_eq_true_iff.1 h).1 c hrest
  · exact Text.Identifier.blankless_of_isWord (Bool.and_eq_true_iff.1 h).1

/-! ## The block with the descriptor -/

namespace Doc

theorem ink_constant (declaration : String) (value : Doc) :
    ink (constant declaration value)
      = .text (declaration ++ " = ") :: (seam ++ (ink value ++ [.text ";"])) := by
  rw [constant, consistent, ink_box (s := declaration ++ " = ") (by simp [piece]), ink_append,
    ink_append, ink_append, List.append_assoc]
  rfl

/-- Items in braces stand on lines of their own. -/
theorem ink_body (items : List Doc) (last : Doc) :
    ink (body (items ++ [last]))
      = items.flatMap (fun item => ink item ++ hardLine 0) ++ (ink last ++ hardLine (-step)) := by
  induction items with
  | nil => exact ink_append _ _
  | cons item rest ih =>
    obtain ⟨next, more, hmore⟩ := List.exists_cons_of_ne_nil (l := rest ++ [last]) (by simp)
    rw [List.cons_append, hmore, body, ← hmore, ink_append, ink_append, ih, List.flatMap_cons,
      List.append_assoc (ink item ++ hardLine 0)]
    · rfl
    · nofun

theorem ink_braced (header : Doc) {items : List Doc} (h : items ≠ []) :
    ink (braced header items) = ink header ++ .text (" " ++ openBrace) :: (hardLine 0
      ++ (ink (body items) ++ [.text closeBrace])) := by
  have hempty : items.isEmpty = false := List.isEmpty_eq_false_iff.2 h
  rw [braced, consistent, hempty, ink_append, ink_box (s := " " ++ openBrace) (by simp [piece]),
    ink_append, ink_append]
  simp only [Bool.false_eq_true, if_false, ink_append, List.append_assoc]
  rfl

theorem ink_call (function : String) {first : String} (rest : List Doc) :
    ink (call function (piece first :: rest))
      = .text function :: .text "(" :: (line 0 0 ++ (ink (commaList (piece first :: rest))
        ++ [.text ")"])) := by
  have hfirst : .text first ∈ line 0 0 ++ commaList (piece first :: rest) := by
    cases rest <;> simp [commaList, piece]
  rw [call, arguments, consistent, ink_append, ink_append, ink_append, ink_box hfirst, ink_append]
  · simp only [List.append_assoc]
    rfl
  · nofun

theorem ink_implementation (name : String) {items : List Doc} (h : items ≠ []) :
    ink (implementation none name items)
      = .text "impl" :: .text " " :: .text name :: .text (" " ++ openBrace) :: (hardLine 0
        ++ (ink (body items) ++ [.text closeBrace])) := by
  rw [implementation, ink_braced _ h]
  rfl

end Doc

open Doc

/-- A constant without its box, up to the next line. -/
def ConstantItem.tokens (c : ConstantItem) : Doc :=
  .text ("pub const " ++ c.name ++ ": " ++ c.type ++ " = ") ::
    (seam ++ .text c.literal :: .text ";" :: hardLine 0)

/-- The descriptor of a message without its boxes, up to the next line. -/
def MessageItem.descriptorTokens (m : MessageItem) : Doc :=
  .text "pub const MESSAGE_TYPE: &'static MessageType = " :: (seam
    ++ .text "&" :: .text "MessageType::new" :: .text "(" :: (line 0 0
    ++ .text (Text.Quoted.quote m.fullName) :: .text "," :: (line 1 0
    ++ .text (Text.Quoted.quote m.text) :: .text "," :: (line 1 0
    ++ .text (Text.Quoted.quote m.md5sum) :: .text "," :: (line 1 0
    ++ .text (m.typeName ++ "::new_boxed") :: (lastComma 0 (-step)
    ++ .text ")" :: .text ";" :: hardLine 0))))))

theorem ConstantItem.ink_doc (c : ConstantItem) :
    ink (constant ("pub const " ++ c.name ++ ": " ++ c.type) (piece c.literal)) ++ hardLine 0
      = c.tokens := by
  rw [ink_constant]
  rfl

theorem MessageItem.ink_descriptor (m : MessageItem) :
    ink (constant "pub const MESSAGE_TYPE: &'static MessageType"
        (piece "&" ++ call "MessageType::new" (literalDocs m.fullName m.text m.md5sum
          ++ [piece (m.typeName ++ "::new_boxed")]))) ++ hardLine 0
      = m.descriptorTokens := by
  have hdeclaration : "pub const MESSAGE_TYPE: &'static MessageType" ++ " = "
      = "pub const MESSAGE_TYPE: &'static MessageType = " := by
    decide
  have hitems : literalDocs m.fullName m.text m.md5sum ++ [piece (m.typeName ++ "::new_boxed")]
      = piece (Text.Quoted.quote m.fullName) :: [piece (Text.Quoted.quote m.text),
        piece (Text.Quoted.quote m.md5sum), piece (m.typeName ++ "::new_boxed")] :=
    rfl
  rw [ink_constant, ink_append, hitems, ink_call, hdeclaration]
  rfl

/-- The constants and the constructor of a message without their boxes, up to the head of the
constructor. -/
theorem MessageItem.ink_inherentDoc (m : MessageItem) : ∃ behind, ink m.inherentDoc =
    .text "impl" :: .text " " :: .text m.typeName :: .text (" " ++ openBrace) :: (hardLine 0
      ++ (m.descriptorTokens ++ (m.constants.flatMap ConstantItem.tokens
      ++ .text "fn new_boxed(" :: behind))) := by
  obtain ⟨behind, hfunction⟩ : ∃ behind, ink (function "new_boxed" []
      (angled "Box" [piece "dyn Message"])
      [tail (call "Box::new" [call (m.typeName ++ "::default") []])])
        = .text "fn new_boxed(" :: behind := by
    have hhead : "fn " ++ "new_boxed" ++ "(" = "fn new_boxed(" := by
      decide
    rw [function, ink_braced _ (List.cons_ne_nil _ _), hhead]
    exact ⟨_, rfl⟩
  refine ⟨behind ++ (hardLine (-step) ++ [.text closeBrace]), ?_⟩
  rw [MessageItem.inherentDoc, ink_implementation _ (by simp), ink_body, List.flatMap_cons,
    m.ink_descriptor, List.flatMap_map, hfunction]
  simp only [ConstantItem.ink_doc, List.append_assoc, List.cons_append]

/-! ## Reading them -/

/-- What stands behind the equals sign of a constant: the literal of a text, which is given by the
text that it denotes, or anything else, as it is written. -/
inductive ReadValue where
  | text (denoted : String)
  | other (written : String)
  deriving DecidableEq, Repr

/-- A constant, as it is read. -/
structure ReadConstant where
  name : String
  type : String
  value : ReadValue
  deriving DecidableEq, Repr

/-- What the code of a message says of its type. -/
structure Inherent where
  typeName : String
  descriptor : Descriptor
  constants : List ReadConstant
  deriving DecidableEq, Repr

namespace Reader

/-- The value of a constant, up to the semicolon behind it. -/
def value : Reader ReadValue :=
  text <|> other
where
  text : Reader ReadValue := do
    let denoted ← quoted
    skip ";"
    return .text denoted
  other : Reader ReadValue := do
    let written ← upTo ";"
    return .other written

/-- The name and the type of a constant. -/
def declaration : Reader (String × String) := do
  skip "pub const "
  let name ← upTo ": "
  let type ← upTo " = "
  return (name, type)

/-- A constant, up to what follows on the next line. -/
def constantItem : Reader ReadConstant := do
  let (name, type) ← declaration
  let value ← value
  gap
  return ⟨name, type, value⟩

/-- A literal among the arguments of a call, up to the next argument. -/
def argument : Reader String := do
  let text ← quoted
  skip ","
  gap
  return text

/-- The descriptor of a type of this name, up to what follows on the next line. -/
def descriptor (typeName : String) : Reader Descriptor := do
  skip "pub const MESSAGE_TYPE: &'static MessageType = "
  skip "&MessageType::new("
  gap
  let fullName ← argument
  let text ← argument
  let md5sum ← argument
  skip (typeName ++ "::new_boxed")
  optionalComma
  skip ");"
  gap
  return ⟨fullName, text, md5sum⟩

/-- The block with the descriptor and the constants of a type, up to its constructor. -/
def inherent : Reader Inherent := do
  skip "impl "
  let typeName ← upTo (" " ++ openBrace)
  gap
  let descriptor ← descriptor typeName
  let constants ← many constantItem
  skip "fn new_boxed("
  return ⟨typeName, descriptor, constants⟩

end Reader

/-- A fixed text is taken from the pieces in which it is written. -/
theorem Reads.skip_pieces {text pieces : String} (h : pieces = text) :
    Reads (Reader.skip text) pieces () := by
  rw [h]
  exact .skip text

theorem reads_value_text (text : String) :
    Reads Reader.value (Text.Quoted.quote text ++ ";") (.text text) := by
  have htext : Reads Reader.value.text (Text.Quoted.quote text ++ ";") (.text text) :=
    .bind (reads_quoted text) (.last (.skip ";") (.pure _))
  exact htext.orElse

theorem reads_value_other {written : String} (h : IsOver Decimal.isNumeralChar written) :
    Reads Reader.value (written ++ ";") (.other written) := by
  have htext : Refuses Reader.value.text (written ++ ";") := by
    refine Refuses.bind fun rest => quoted_of_head? fun hhead => ?_
    rw [String.toList_append, List.append_assoc] at hhead
    cases hcs : written.toList with
    | nil =>
      rw [hcs] at hhead
      cases hhead
    | cons c cs =>
      rw [hcs] at hhead
      have hc := h c (hcs ▸ List.mem_cons_self)
      rw [Option.some.inj hhead] at hc
      cases hc
  have hother : Reads Reader.value.other (written ++ ";") (.other written) :=
    .last (.upTo rfl (h.not_mem rfl)) (.pure _)
  exact htext.orElse hother

theorem reads_declaration {name type : String} (hname : ':' ∉ name.toList)
    (htype : ' ' ∉ type.toList) :
    Reads Reader.declaration ("pub const " ++ name ++ ": " ++ type ++ " = ") (name, type) := by
  have hpieces : "pub const " ++ name ++ ": " ++ type ++ " = "
      = "pub const " ++ ((name ++ ": ") ++ (type ++ " = ")) := by
    simp only [String.append_assoc]
  rw [hpieces]
  exact .bind (.skip _) (.bind (.upTo rfl hname) (.last (.upTo rfl htype) (.pure _)))

/-- The constructor is no constant, so that the constants end in front of it. -/
theorem refuses_constructor : Refuses Reader.constantItem "fn new_boxed(" := by
  have hdeclaration : Refuses Reader.declaration "fn new_boxed(" := by
    refine Refuses.bind (Refuses.skip fun rest hprefix => ?_)
    obtain ⟨behind, heq⟩ := hprefix
    exact absurd (congrArg List.head? heq) (by simp)
  exact hdeclaration.bind

section

variable {m : MessageItem} {d : Doc}

/-- What is read for a constant of emitted code. -/
structure ConstantItem.IsReadAs (item : ConstantItem) (a : ReadConstant) : Prop where
  name : a.name = item.name
  type : a.type = item.type
  /-- Its name and its type end where they are expected to. -/
  name_ends : ':' ∉ item.name.toList
  type_ends : ' ' ∉ item.type.toList
  value : Reads Reader.value (item.literal ++ ";") a.value

theorem takes_constantItem {item : ConstantItem} {a : ReadConstant} (h : item.IsReadAs a) :
    TakesItem Reader.constantItem item.tokens a := by
  obtain ⟨name, type, value⟩ := a
  obtain ⟨rfl, rfl, hname, htype, hvalue⟩ := h
  constructor
  · refine .text (c := 'p') ?_ rfl _
    simp
  · intro rest hrest
    have hliteral : Takes Reader.value
        (seam ++ (.text item.literal :: .text ";" :: (hardLine 0 ++ rest))) (hardLine 0 ++ rest)
        value :=
      .seam (.join (.text hvalue _))
    exact .bind (.text (reads_declaration hname htype) _)
      (.bind hliteral (.bind (.gap hrest _ _) (.pure _ _)))

theorem starts_quote (text : String) (d : Doc) :
    Starts (.text (Text.Quoted.quote text) :: d) := by
  refine .text (c := '"') ?_ rfl d
  rw [Text.Quoted.quote, String.toList_ofList]
  rfl

theorem takes_argument (text : String) (hd : Starts d) :
    Takes Reader.argument (.text (Text.Quoted.quote text) :: .text "," :: (line 1 0 ++ d)) d
      text :=
  .bind (.text (reads_quoted text) _) (.bind (.text (.skip _) _)
    (.bind (.gap hd _ _) (.pure _ _)))

theorem starts_constructor (hname : isMemberName m.typeName = true) (d : Doc) :
    Starts (.text (m.typeName ++ "::new_boxed") :: d) := by
  have hbehind : ∀ c ∈ "::new_boxed".toList, Text.isBlank c = false :=
    Text.blankless_of_all rfl
  cases hcs : (m.typeName ++ "::new_boxed").toList with
  | nil => simp at hcs
  | cons c rest =>
    refine .text (c := c) (by rw [hcs]; rfl) ?_ d
    have hc : c ∈ (m.typeName ++ "::new_boxed").toList := hcs ▸ List.mem_cons_self
    rw [String.toList_append, List.mem_append] at hc
    rcases hc with hc | hc
    · exact blankless_of_isMemberName hname c hc
    · exact hbehind c hc

/-- The descriptor of a message is read back. -/
theorem takes_descriptor (hname : isMemberName m.typeName = true) (hd : Starts d) :
    Takes (Reader.descriptor m.typeName) (m.descriptorTokens ++ d) d
      ⟨m.fullName, m.text, m.md5sum⟩ := by
  have hcall : Reads (Reader.skip "&MessageType::new(") ("&" ++ "MessageType::new" ++ "(") () :=
    .skip_pieces (by decide)
  have hend : Reads (Reader.skip ");") (")" ++ ";") () :=
    .skip_pieces (by decide)
  have hclose (behind : Doc) : Opens (.text ")" :: behind) ')' :=
    .text rfl behind
  -- token by token, as the reader takes them
  refine .bind (.text (.skip _) _) ?_
  refine .bind (.seam (.join (.join (.text hcall _)))) ?_
  refine .bind (.gap (starts_quote _ _) _ _) ?_
  refine .bind (takes_argument m.fullName (starts_quote _ _)) ?_
  refine .bind (takes_argument m.text (starts_quote _ _)) ?_
  refine .bind (takes_argument m.md5sum (starts_constructor hname _)) ?_
  refine .bind (.text (.skip _) _) ?_
  refine .bind (.optionalComma (hclose _) rfl (by decide) _) ?_
  refine .bind (.join (.text hend _)) ?_
  exact .bind (.gap hd _ _) (.pure _ _)

/-- The block of a message is read back, wherever it stands. -/
theorem takes_inherent (hname : isMemberName m.typeName = true) {as : List ReadConstant}
    (has : List.Forall₂ ConstantItem.IsReadAs m.constants as) {cs : List Char}
    (hcs : LaidOut (ink m.inherentDoc ++ d) cs) :
    ∃ rest, Reader.inherent cs
      = some (⟨m.typeName, ⟨m.fullName, m.text, m.md5sum⟩, as⟩, rest) := by
  obtain ⟨behind, hink⟩ := m.ink_inherentDoc
  have hhead : Reads (Reader.skip "impl ") ("impl" ++ " ") () :=
    .skip_pieces (by decide)
  have htype : Reads (Reader.upTo (" " ++ openBrace)) (m.typeName ++ (" " ++ openBrace))
      m.typeName := by
    have hmark : (" " ++ openBrace).toList.head? = some ' ' := rfl
    refine .upTo hmark fun hblank => ?_
    exact absurd (blankless_of_isMemberName hname ' ' hblank) (by decide)
  have hdescriptor (rest : Doc) : Starts (m.descriptorTokens ++ rest) := by
    refine .text (c := 'p') ?_ rfl _
    decide
  have hconstructor (rest : Doc) : Starts (.text "fn new_boxed(" :: rest) :=
    .text (c := 'f') rfl rfl rest
  have hconstants : List.Forall₂ (fun item a =>
      TakesItem Reader.constantItem item.tokens a) m.constants as :=
    has.imp fun _ _ => takes_constantItem
  have htaken : Takes Reader.inherent (ink m.inherentDoc ++ d) (behind ++ d)
      ⟨m.typeName, ⟨m.fullName, m.text, m.md5sum⟩, as⟩ := by
    rw [hink]
    simp only [List.cons_append, List.append_assoc]
    refine .bind (.join (.text hhead _)) ?_
    refine .bind (.join (.text htype _)) ?_
    refine .bind (.gap (hdescriptor _) _ _) ?_
    refine .bind (takes_descriptor hname (.items hconstants (hconstructor _))) ?_
    refine .bind (.many hconstants (hconstructor _) fun cs => refuses_constructor.laidOut) ?_
    exact .bind (.text (.skip _) _) (.pure _ _)
  obtain ⟨rest, hread, -⟩ := htaken cs hcs
  exact ⟨rest, hread⟩

end

/-! ## Line by line

In the unformatted text nothing is broken, so that the name of the type may be anything. -/

namespace Reader

/-- A literal among the arguments of a call, up to the next argument on the same line. -/
def nextArgument : Reader String := do
  let text ← quoted
  skip ", "
  return text

/-- The line with the descriptor of a type of this name. -/
def descriptorLine (name : String) : Reader Descriptor := do
  skip (indented 1 "pub const MESSAGE_TYPE: &'static MessageType = &MessageType::new(")
  let fullName ← nextArgument
  let text ← nextArgument
  let md5sum ← nextArgument
  skip (name ++ "::new_boxed);\n")
  return ⟨fullName, text, md5sum⟩

/-- The line of a constant. -/
def constantLine : Reader ReadConstant := do
  skip (indented 1 "")
  let (name, type) ← declaration
  let value ← value
  skip "\n"
  return ⟨name, type, value⟩

/-- The lines of the block of a type of this name, up to the head of its constructor. -/
def inherentLines (name : String) : Reader Inherent := do
  skipLines ["impl " ++ name ++ " " ++ openBrace]
  let descriptor ← descriptorLine name
  let constants ← items constantLine constructorLine
  return ⟨name, descriptor, constants⟩

end Reader

theorem reads_nextArgument (text : String) :
    Reads Reader.nextArgument (Text.Quoted.quote text ++ ", ") text :=
  .bind (reads_quoted text) (.last (.skip ", ") (.pure _))

section

variable {m : MessageItem}

/-- The line with the descriptor of a message. -/
def MessageItem.descriptorLine (m : MessageItem) : String :=
  indented 1 ("pub const MESSAGE_TYPE: &'static MessageType = &MessageType::new("
    ++ rawLiterals m.fullName m.text m.md5sum ++ ", " ++ m.name ++ "::new_boxed);")

theorem reads_descriptorLine (m : MessageItem) :
    Reads (Reader.descriptorLine m.name) (linesText [m.descriptorLine])
      ⟨m.fullName, m.text, m.md5sum⟩ := by
  have hpieces : linesText [m.descriptorLine]
      = indented 1 "pub const MESSAGE_TYPE: &'static MessageType = &MessageType::new("
        ++ (Text.Quoted.quote m.fullName ++ ", " ++ (Text.Quoted.quote m.text ++ ", "
        ++ (Text.Quoted.quote m.md5sum ++ ", " ++ (m.name ++ "::new_boxed);\n")))) := by
    rw [← String.toList_inj]
    simp [linesText, MessageItem.descriptorLine, rawLiterals, indented]
  rw [hpieces]
  exact .bind (.skip _) (.bind (reads_nextArgument _) (.bind (reads_nextArgument _)
    (.bind (reads_nextArgument _) (.last (.skip _) (.pure _)))))

theorem reads_constantLine {item : ConstantItem} {a : ReadConstant} (h : item.IsReadAs a) :
    Reads Reader.constantLine (item.line ++ "\n") a := by
  obtain ⟨name, type, value⟩ := a
  obtain ⟨rfl, rfl, hname, htype, hvalue⟩ := h
  have hpieces : item.line ++ "\n" = indented 1 "" ++ ("pub const " ++ item.name ++ ": "
      ++ item.type ++ " = " ++ (item.literal ++ ";" ++ "\n")) := by
    simp [ConstantItem.line, indented, String.append_assoc]
  rw [hpieces]
  exact .bind (.skip _) (.bind (reads_declaration hname htype) (.bind hvalue
    (.last (.skip _) (.pure _))))

theorem reads_constantLines {items : List ConstantItem} {as : List ReadConstant}
    (has : List.Forall₂ ConstantItem.IsReadAs items as) :
    Reads (Reader.items Reader.constantLine Reader.constructorLine)
      (linesText (items.map ConstantItem.line ++ [Reader.constructorLine])) as := by
  obtain ⟨hlength, hread⟩ := List.forall₂_iff_zip.1 has
  have hlines : (items.zip as).map (fun x => x.1.line) = items.map ConstantItem.line := by
    calc (items.zip as).map (fun x => x.1.line)
        = ((items.zip as).map Prod.fst).map ConstantItem.line := by rw [List.map_map]; rfl
      _ = items.map ConstantItem.line := by rw [List.map_fst_zip hlength.le]
  have hvalues : (items.zip as).map Prod.snd = as :=
    List.map_snd_zip hlength.ge
  have hitems : Reads (Reader.items Reader.constantLine Reader.constructorLine)
      (linesText ((items.zip as).map (fun x => x.1.line) ++ [Reader.constructorLine]))
      ((items.zip as).map Prod.snd) := by
    refine Reads.items _ (fun x hx => reads_constantLine (hread hx)) fun x _ =>
      Refuses.skip fun rest => ?_
    simp [linesText, ConstantItem.line, indented, Reader.constructorLine]
  rwa [hlines, hvalues] at hitems

/-- The lines of the block of a message are read back, whatever the name of its type is. -/
theorem reads_inherentLines {as : List ReadConstant}
    (has : List.Forall₂ ConstantItem.IsReadAs m.constants as) (after : List String) :
    ∃ rest, Reader.inherentLines m.name (linesText (m.inherentLines ++ after)).toList
      = some (⟨m.name, ⟨m.fullName, m.text, m.md5sum⟩, as⟩, rest) := by
  have hlines : m.inherentLines ++ after = ["impl " ++ m.name ++ " " ++ openBrace]
      ++ ([m.descriptorLine] ++ (m.constants.map ConstantItem.line ++ [Reader.constructorLine]))
      ++ ([indented 2 ("Box::new(" ++ m.name ++ "::default())"), indented 1 closeBrace, closeBrace]
      ++ after) := by
    simp [MessageItem.inherentLines, MessageItem.descriptorLine, Reader.constructorLine]
  have hall : Reads (Reader.inherentLines m.name) (linesText
      (["impl " ++ m.name ++ " " ++ openBrace]
      ++ ([m.descriptorLine] ++ (m.constants.map ConstantItem.line ++ [Reader.constructorLine]))))
      ⟨m.name, ⟨m.fullName, m.text, m.md5sum⟩, as⟩ :=
    .lines (.skipLines _)
      (.lines (reads_descriptorLine m) (.last (reads_constantLines has) (.pure _)))
  rw [hlines, linesText_append, String.toList_append]
  exact ⟨_, hall _⟩

end

end Code

end Missive
