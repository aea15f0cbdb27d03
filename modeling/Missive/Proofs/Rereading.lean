import Missive.Code.Raw
import Missive.Proofs.Assignments
import Missive.Proofs.Readers
/-!
# Reading emitted code back

A reader of the unformatted code of a message.  It is told the names and literals in front of the
code and nothing of the fields, and gives what the four places say that deal with fields: the
members of the struct, the values that they start with, and the statements of the two coding
functions.

* `Reader.member`, `Reader.initial`, `Reader.call` -- one line of the code;
* `Reading`, `Reader.message`, `Reading.ofText?` -- all of the code;
* `reads_member`, `reads_initial`, `reads_call` -- each line is read back;
* `MessageItem.IsLegible`, `Reading.ofText?_lines` -- so is the code of a message, if its names are
  made of the characters of names.
-/

namespace Missive.Code

namespace Reader

/-! ## The lines that deal with fields -/

/-- The type of a member, up to the end of its line: the shape, and the type of an element. -/
def declared : Reader (Shape × String) :=
  array <|> vector <|> plain
where
  array : Reader (Shape × String) := do
    skip "["
    let element ← upTo "; "
    let count ← upTo "],\n"
    let count ← StateT.lift (Decimal.magnitude? count.toList)
    return (.exactly count, element)
  vector : Reader (Shape × String) := do
    skip "Vec<"
    let element ← upTo ">,\n"
    return (.many, element)
  plain : Reader (Shape × String) := do
    let element ← upTo ",\n"
    return (.single, element)

/-- A member of the struct: its name, shape and type. -/
def member : Reader (String × Shape × String) := do
  skip "    pub "
  let name ← upTo ": "
  let type ← declared
  return (name, type)

/-- A member of the default value: its name and first value. -/
def initial : Reader (String × String) := do
  skip "            "
  let name ← upTo ": "
  let value ← upTo ",\n"
  return (name, value)

/-- A constant, of which nothing is kept. -/
def constant : Reader Unit := do
  skip "    pub const "
  let _ ← upTo "\n"
  return ()

end Reader

/-- All runtime functions that move fields. -/
def Transfer.all : List Transfer :=
  [writeField, writeArray, readField, readVector, readArray]

/-- The stream that a runtime function works on. -/
def Transfer.stream : Transfer → String
  | writeField | writeArray => "w"
  | readField | readVector | readArray => "r"

namespace Reader

/-- What a runtime function is handed: the member, and the wrapper around it or its elements. -/
def operand : Transfer → Reader (Kind × String)
  | .writeField => do
    skip "FieldRef::"
    let wrapper ← named Kind.all Kind.tag "("
    skip (if byReference wrapper then "&self." else "self.")
    let member ← upTo ")"
    return (wrapper, member)
  | .writeArray => do
    skip "self."
    let member ← upTo ".iter().map(|item| FieldRef::"
    let wrapper ← named Kind.all Kind.tag "("
    skip (if byReference wrapper then "item))" else "*item))")
    return (wrapper, member)
  | .readField => do
    skip "FieldMut::"
    let wrapper ← named Kind.all Kind.tag "("
    skip "&mut self."
    let member ← upTo ")"
    return (wrapper, member)
  | .readVector | .readArray => do
    skip "&mut self."
    let member ← upTo ", |item| FieldMut::"
    let wrapper ← named Kind.all Kind.tag "("
    skip "item)"
    return (wrapper, member)

/-- A statement of a coding function. -/
def call : Reader WireCall := do
  skip "        wire::"
  let transfer ← named Transfer.all Transfer.name "("
  skip (transfer.stream ++ ", FieldKind::")
  let kind ← named Kind.all Kind.tag ", "
  let (wrapper, member) ← operand transfer
  skip ").map_err(|e| e.in_field(\""
  let label ← upTo "\"))?;\n"
  return ⟨transfer, kind, wrapper, member, label⟩

end Reader

/-! ## Whole messages -/

/-- What the code of a message says of its fields. -/
structure Reading where
  /-- The members of the struct: names, shapes and types of elements. -/
  members : List (String × Shape × String)
  /-- The members of the default value, with their first values. -/
  initials : List (String × String)
  writes : List WireCall
  reads : List WireCall
  deriving DecidableEq, Repr

namespace Reader

/-- The line that opens a message's struct. -/
def structLine (name : String) : String :=
  "pub struct " ++ name ++ " " ++ openBrace

/-- What is between the struct and the members of the default value. -/
def defaultLines (name : String) : List String :=
  ["impl Default for " ++ name ++ " " ++ openBrace,
    indented 1 ("fn default() -> Self " ++ openBrace),
    indented 2 (name ++ " " ++ openBrace)]

/-- What is between the default value and the constants that are declared. -/
def descriptorLines (fullName text md5sum name : String) : List String :=
  [indented 1 closeBrace, closeBrace, "impl " ++ name ++ " " ++ openBrace,
    indented 1 ("pub const MESSAGE_TYPE: &'static MessageType = &MessageType::new("
      ++ rawLiterals fullName text md5sum ++ ", " ++ name ++ "::new_boxed);")]

/-- The line behind the constants. -/
def constructorLine : String :=
  indented 1 ("fn new_boxed() -> Box<dyn Message> " ++ openBrace)

/-- What is between the constants and the statements that write. -/
def serializeLines (name sink : String) : List String :=
  [indented 2 ("Box::new(" ++ name ++ "::default())"), indented 1 closeBrace, closeBrace,
    "impl Message for " ++ name ++ " " ++ openBrace,
    indented 1 ("fn message_type(&self) -> &'static MessageType " ++ openBrace),
    indented 2 "Self::MESSAGE_TYPE", indented 1 closeBrace,
    indented 1 ("fn serialize(&self, " ++ sink
      ++ ": &mut dyn Write) -> Result<(), WireError> " ++ openBrace)]

/-- The line behind the statements of a coding function. -/
def successLine : String :=
  indented 2 "Ok(())"

/-- What is between the statements that write and those that read. -/
def deserializeLines (source : String) : List String :=
  [indented 1 closeBrace,
    indented 1 ("fn deserialize(&mut self, " ++ source
      ++ ": &mut dyn Read) -> Result<(), WireError> " ++ openBrace)]

/-- The code of a message with these names and literals. -/
def message (fullName text md5sum name : String) : Reader Reading := do
  skipLines ["///" ++ (" `" ++ fullName ++ "` message."), "#[derive(Debug, Clone, PartialEq)]"]
  skipLines ["#[allow(non_snake_case)]", structLine name] <|> skipLines [structLine name]
  let members ← items member closeBrace
  skipLines (defaultLines name)
  let initials ← items initial (indented 2 closeBrace)
  skipLines (descriptorLines fullName text md5sum name)
  let _ ← items constant constructorLine
  skipLines (serializeLines name (if members.isEmpty then "_w" else "w"))
  let writes ← items call successLine
  skipLines (deserializeLines (if members.isEmpty then "_r" else "r"))
  let reads ← items call successLine
  skipLines [indented 1 closeBrace, closeBrace]
  return ⟨members, initials, writes, reads⟩

end Reader

/-- What a code says of the fields of a message with these names and literals. -/
def Reading.ofText? (fullName text md5sum name code : String) : Option Reading :=
  match Reader.message fullName text md5sum name code.toList with
  | some (reading, []) => some reading
  | _ => none

/-! ## The characters of code -/

/-- The characters of struct members: those of names, and the one of the mark in front of names
that would be keywords. -/
def isMemberChar (c : Char) : Bool :=
  isNameChar c || c == '#'

/-- The characters of types in emitted code. -/
def isPathChar (c : Char) : Bool :=
  isNameChar c || c == ':'

/-- The shape of a member. -/
def MemberType.shape : MemberType → Shape
  | plain _ => .single
  | vector _ => .many
  | array _ count => .exactly count

/-- The type of a member's elements. -/
def MemberType.element : MemberType → TypeRef
  | plain element | vector element | array element _ => element

section

variable {element : String}

theorem reads_plain (h : IsOver isPathChar element) :
    Reads Reader.declared (element ++ ",\n") (.single, element) := by
  have hbracket : '[' ∈ "[".toList := by decide
  have harray : Refuses Reader.declared.array (element ++ ",\n") :=
    .bind (.skip_word hbracket (h.not_mem rfl) rfl (by decide))
  have hangle : '<' ∈ "Vec<".toList := by decide
  have hvector : Refuses Reader.declared.vector (element ++ ",\n") :=
    .bind (.skip_word hangle (h.not_mem rfl) rfl (by decide))
  have hplain : Reads Reader.declared.plain (element ++ ",\n") (.single, element) :=
    .last (.upTo rfl (h.not_mem rfl)) (.pure _)
  exact harray.orElse (hvector.orElse hplain)

theorem reads_vector (h : IsOver isPathChar element) :
    Reads Reader.declared ("Vec<" ++ (element ++ ">,\n")) (.many, element) := by
  have harray : Refuses Reader.declared.array ("Vec<" ++ (element ++ ">,\n")) := by
    refine Refuses.bind (Refuses.skip fun rest => ?_)
    simp
  have hvector : Reads Reader.declared.vector ("Vec<" ++ (element ++ ">,\n")) (.many, element) :=
    .bind (.skip "Vec<") (.last (.upTo rfl (h.not_mem rfl)) (.pure _))
  exact harray.orElse hvector.orElse

theorem reads_array (h : IsOver isPathChar element) (count : Nat) :
    Reads Reader.declared ("[" ++ ((element ++ "; ") ++ (count.repr ++ "],\n")))
      (.exactly count, element) := by
  have hcount : count.repr.toList = Nat.toDigits 10 count := by
    rw [Nat.repr_eq_ofList_toDigits, String.toList_ofList]
  have hdigits : ']' ∉ count.repr.toList := by
    rw [hcount]
    exact Decimal.not_mem_toDigits rfl count
  have harray : Reads Reader.declared.array ("[" ++ ((element ++ "; ") ++ (count.repr ++ "],\n")))
      (.exactly count, element) :=
    .bind (.skip "[") (.bind (.upTo rfl (h.not_mem rfl)) (.last (.upTo rfl hdigits)
      (.last (.lift (hcount ▸ Decimal.magnitude?_toDigits count)) (.pure _))))
  exact harray.orElse

end

theorem reads_declared {type : MemberType} (h : IsOver isPathChar type.element.source) :
    Reads Reader.declared (type.raw ++ ",\n") (type.shape, type.element.source) := by
  cases type with
  | plain element => exact reads_plain h
  | vector element =>
    have hraw : MemberType.raw (.vector element) ++ ",\n" = "Vec<" ++ (element.source ++ ">,\n") :=
      String.toList_inj.1 (by simp [MemberType.raw, toString])
    rw [hraw]
    exact reads_vector h
  | array element count =>
    have hraw : MemberType.raw (.array element count) ++ ",\n"
        = "[" ++ ((element.source ++ "; ") ++ (count.repr ++ "],\n")) :=
      String.toList_inj.1 (by simp [MemberType.raw, toString])
    rw [hraw]
    exact reads_array h count

/-! ## One line after the other -/

theorem reads_member {name : String} {type : MemberType} (hname : IsOver isMemberChar name)
    (htype : IsOver isPathChar type.element.source) :
    Reads Reader.member (indented 1 ("pub " ++ name ++ ": " ++ type.raw ++ ",") ++ "\n")
      (name, type.shape, type.element.source) := by
  have hline : indented 1 ("pub " ++ name ++ ": " ++ type.raw ++ ",") ++ "\n"
      = "    pub " ++ ((name ++ ": ") ++ (type.raw ++ ",\n")) :=
    String.toList_inj.1 (by simp [indented])
  rw [hline]
  exact .bind (.skip _) (.bind (.upTo rfl (hname.not_mem rfl))
    (.last (reads_declared htype) (.pure _)))

theorem reads_initial {name value : String} (hname : IsOver isMemberChar name)
    (hvalue : ',' ∉ value.toList) :
    Reads Reader.initial (indented 3 (name ++ ": " ++ value ++ ",") ++ "\n") (name, value) := by
  have hline : indented 3 (name ++ ": " ++ value ++ ",") ++ "\n"
      = "            " ++ ((name ++ ": ") ++ (value ++ ",\n")) :=
    String.toList_inj.1 (by simp [indented])
  rw [hline]
  exact .bind (.skip _) (.bind (.upTo rfl (hname.not_mem rfl))
    (.last (.upTo rfl hvalue) (.pure _)))

theorem reads_constant {c : ConstantItem} (h : '\n' ∉ c.line.toList) :
    Reads Reader.constant (c.line ++ "\n") () := by
  have hline : c.line
      = "    pub const " ++ (c.name ++ ": " ++ c.type ++ " = " ++ c.literal ++ ";") :=
    String.toList_inj.1 (by simp [ConstantItem.line, indented])
  have hrest : '\n' ∉ (c.name ++ ": " ++ c.type ++ " = " ++ c.literal ++ ";").toList := by
    intro hmem
    rw [hline, String.toList_append] at h
    exact h (List.mem_append_right _ hmem)
  rw [hline, String.append_assoc]
  exact .bind (.skip _) (.last (.upTo rfl hrest) (.pure _))

/-! ### Statements -/

theorem toNat_of_nameChar {c : Char} (h : isNameChar c = true) :
    0x21 ≤ c.toNat ∧ c.toNat ≤ 0x7E :=
  toNat_of_typeChar (by rw [isTypeChar, h, Bool.true_or])

theorem escape_of_nameChar {c : Char} (h : isNameChar c = true) : Text.Quoted.escape c = [c] := by
  have hvisible := toNat_of_nameChar h
  have hne : ∀ d : Char, isNameChar d = false → c ≠ d := by
    rintro d hd rfl
    rw [h] at hd
    cases hd
  have hhidden : Text.Printable.isHidden c = false := by
    rw [Text.Printable.isHidden, if_pos (by omega)]
    simp only [Bool.or_eq_false_iff, decide_eq_false_iff_not, beq_eq_false_iff_ne]
    omega
  have hextender : Text.Printable.isExtender c = false := by
    rw [Text.Printable.isExtender, Text.Printable.extenderBounds]
    exact Text.Crossing.odd_eq_false_of_lt _ (by omega)
  have hshown : Text.Printable.isShown c = true := by
    rw [Text.Printable.isShown, hhidden, hextender]
    rfl
  rw [Text.Quoted.escape, if_neg (hne _ (by decide)), if_neg (hne _ (by decide)),
    if_neg (hne _ (by decide)), if_neg (hne _ (by decide)), if_neg (hne _ (by decide)),
    if_neg (hne _ (by decide)), if_pos hshown]

/-- Names are quoted as they are. -/
theorem quote_of_name {name : String} (h : IsOver isNameChar name) :
    Text.Quoted.quote name = "\"" ++ (name ++ "\"") := by
  have hescape : name.toList.flatMap Text.Quoted.escape = name.toList := by
    rw [List.flatMap_congr fun c hc => escape_of_nameChar (h c hc)]
    exact List.flatMap_singleton' _
  apply String.toList_inj.1
  rw [Text.Quoted.quote, String.toList_ofList, Text.Quoted.quoteChars, hescape]
  simp

theorem find?_tag (k : Kind) : Kind.all.find? (·.tag == k.tag) = some k := by
  cases k with
  | message => rfl
  | primitive p => cases p <;> rfl

theorem find?_transfer (t : Transfer) : Transfer.all.find? (·.name == t.name) = some t := by
  cases t <;> rfl

theorem tag_over (k : Kind) : IsOver isNameChar k.tag := by
  cases k with
  | message => exact List.all_eq_true.1 rfl
  | primitive p => cases p <;> exact List.all_eq_true.1 rfl

theorem Reads.tag (k : Kind) {mark : String} {first : Char} (hmark : mark.toList.head? = some first)
    (hfirst : isNameChar first = false) :
    Reads (Reader.named Kind.all Kind.tag mark) (k.tag ++ mark) k :=
  .named hmark ((tag_over k).not_mem hfirst) (find?_tag k)

/-- What a runtime function is handed besides the stream and the kind. -/
def WireCall.operand (c : WireCall) : String :=
  match c.transfer with
  | .writeField =>
    "FieldRef::" ++ ((c.wrapper.tag ++ "(")
      ++ ((if byReference c.wrapper then "&self." else "self.") ++ (c.member ++ ")")))
  | .writeArray =>
    "self." ++ ((c.member ++ ".iter().map(|item| FieldRef::") ++ ((c.wrapper.tag ++ "(")
      ++ (if byReference c.wrapper then "item))" else "*item))")))
  | .readField => "FieldMut::" ++ ((c.wrapper.tag ++ "(") ++ ("&mut self." ++ (c.member ++ ")")))
  | .readVector | .readArray =>
    "&mut self." ++ ((c.member ++ ", |item| FieldMut::") ++ ((c.wrapper.tag ++ "(") ++ "item)"))

theorem reads_operand {c : WireCall} (h : IsOver isMemberChar c.member) :
    Reads (Reader.operand c.transfer) c.operand (c.wrapper, c.member) := by
  rw [WireCall.operand]
  cases c.transfer with
  | writeField =>
    exact .bind (.skip _) (.bind (.tag c.wrapper rfl rfl) (.bind (.skip _)
      (.last (.upTo rfl (h.not_mem rfl)) (.pure _))))
  | writeArray =>
    exact .bind (.skip _) (.bind (.upTo rfl (h.not_mem rfl)) (.bind (.tag c.wrapper rfl rfl)
      (.last (.skip _) (.pure _))))
  | readField =>
    exact .bind (.skip _) (.bind (.tag c.wrapper rfl rfl) (.bind (.skip _)
      (.last (.upTo rfl (h.not_mem rfl)) (.pure _))))
  | readVector | readArray =>
    exact .bind (.skip _) (.bind (.upTo rfl (h.not_mem rfl)) (.bind (.tag c.wrapper rfl rfl)
      (.last (.skip _) (.pure _))))

/-- The pieces of a statement, as they are read. -/
theorem WireCall.raw_pieces (c : WireCall) (h : IsOver isNameChar c.label) :
    indented 2 c.raw ++ "\n"
      = "        wire::" ++ ((c.transfer.name ++ "(") ++ ((c.transfer.stream ++ ", FieldKind::")
        ++ ((c.kind.tag ++ ", ") ++ (c.operand ++ (").map_err(|e| e.in_field(\""
        ++ (c.label ++ "\"))?;\n")))))) := by
  rw [raw, quote_of_name h]
  obtain ⟨transfer, kind, wrapper, member, label⟩ := c
  apply String.toList_inj.1
  cases transfer <;> cases hw : byReference wrapper <;>
    simp [rawCall, operand, wrapped, indented, Transfer.name, Transfer.stream, toString, hw,
      String.intercalate_cons_cons, String.intercalate_singleton]

theorem reads_call {c : WireCall} (hmember : IsOver isMemberChar c.member)
    (hlabel : IsOver isNameChar c.label) :
    Reads Reader.call (indented 2 c.raw ++ "\n") c := by
  rw [c.raw_pieces hlabel]
  have htransfer : '(' ∉ c.transfer.name.toList := by
    cases c.transfer <;> decide
  exact .bind (.skip _) (.bind (.named rfl htransfer (find?_transfer _)) (.bind (.skip _)
    (.bind (.tag c.kind rfl rfl) (.bind (reads_operand hmember) (.bind (.skip _)
      (.last (.upTo rfl (hlabel.not_mem rfl)) (.pure c)))))))

/-! ## All of the code -/

/-- What the code of a message says of its fields. -/
def MessageItem.reading (m : MessageItem) : Reading where
  members := m.members.map fun (name, type) => (name, type.shape, type.element.source)
  initials := m.initials.map fun (name, value) => (name, value.raw)
  writes := m.writes
  reads := m.reads

/-- The names in a message's code are made of the characters of names, and its literals do not
break lines. -/
structure MessageItem.IsLegible (m : MessageItem) : Prop where
  members : ∀ p ∈ m.members, IsOver isMemberChar p.1 ∧ IsOver isPathChar p.2.element.source
  initials : ∀ p ∈ m.initials, IsOver isMemberChar p.1 ∧ ',' ∉ p.2.raw.toList
  constants : ∀ c ∈ m.constants, '\n' ∉ c.line.toList
  writes : ∀ c ∈ m.writes, IsOver isMemberChar c.member ∧ IsOver isNameChar c.label
  reads : ∀ c ∈ m.reads, IsOver isMemberChar c.member ∧ IsOver isNameChar c.label

namespace MessageItem

variable {m : MessageItem}

theorem reads_members (h : m.IsLegible) :
    Reads (Reader.items Reader.member closeBrace)
      (linesText (m.members.map (fun (name, type) =>
        indented 1 ("pub " ++ name ++ ": " ++ type.raw ++ ",")) ++ [closeBrace]))
      m.reading.members := by
  refine Reads.items m.members (fun p hp => ?_) fun p _ => Refuses.skip fun rest => ?_
  · exact reads_member (h.members p hp).1 (h.members p hp).2
  · simp [linesText, indented, closeBrace]

theorem reads_initials (h : m.IsLegible) :
    Reads (Reader.items Reader.initial (indented 2 closeBrace))
      (linesText (m.initials.map (fun (name, value) =>
        indented 3 (name ++ ": " ++ value.raw ++ ",")) ++ [indented 2 closeBrace]))
      m.reading.initials := by
  refine Reads.items m.initials (fun p hp => ?_) fun p _ => Refuses.skip fun rest => ?_
  · exact reads_initial (h.initials p hp).1 (h.initials p hp).2
  · simp [linesText, indented, closeBrace]

theorem reads_constants (h : m.IsLegible) :
    Reads (Reader.items Reader.constant Reader.constructorLine)
      (linesText (m.constants.map ConstantItem.line ++ [Reader.constructorLine]))
      (m.constants.map fun _ => ()) := by
  refine Reads.items m.constants (fun c hc => ?_) fun c _ => Refuses.skip fun rest => ?_
  · exact reads_constant (h.constants c hc)
  · simp [linesText, ConstantItem.line, indented, Reader.constructorLine]

theorem reads_calls {calls : List WireCall}
    (h : ∀ c ∈ calls, IsOver isMemberChar c.member ∧ IsOver isNameChar c.label) :
    Reads (Reader.items Reader.call Reader.successLine)
      (linesText (calls.map (fun c => indented 2 c.raw) ++ [Reader.successLine])) calls := by
  rw [← List.map_id calls, List.map_map]
  refine Reads.items calls (fun c hc => ?_) fun c _ => Refuses.skip fun rest => ?_
  · exact reads_call (h c hc).1 (h c hc).2
  · simp [linesText, WireCall.raw, WireCall.rawCall, indented, Reader.successLine]

/-- The struct's line, with the attribute in front of it if there is one. -/
theorem reads_structLine (name : String) (capitals : Bool) :
    Reads (Reader.skipLines ["#[allow(non_snake_case)]", Reader.structLine name]
        <|> Reader.skipLines [Reader.structLine name])
      (linesText ((if capitals then ["#[allow(non_snake_case)]"] else [])
        ++ [Reader.structLine name])) () := by
  cases capitals with
  | true => exact (Reads.skipLines _).orElse
  | false =>
    refine Refuses.orElse (Refuses.skip fun rest => ?_) (.skipLines _)
    simp [linesText, Reader.structLine]

/-- The lines of a message, cut where the reader cuts them. -/
theorem lines_eq (m : MessageItem) :
    m.lines = ["///" ++ (" `" ++ m.fullName ++ "` message."), "#[derive(Debug, Clone, PartialEq)]"]
      ++ (((if m.capitals then ["#[allow(non_snake_case)]"] else []) ++ [Reader.structLine m.name])
      ++ ((m.members.map (fun (name, type) =>
        indented 1 ("pub " ++ name ++ ": " ++ type.raw ++ ",")) ++ [closeBrace])
      ++ (Reader.defaultLines m.name
      ++ ((m.initials.map (fun (name, value) =>
        indented 3 (name ++ ": " ++ value.raw ++ ",")) ++ [indented 2 closeBrace])
      ++ (Reader.descriptorLines m.fullName m.text m.md5sum m.name
      ++ ((m.constants.map ConstantItem.line ++ [Reader.constructorLine])
      ++ (Reader.serializeLines m.name m.sinkName
      ++ ((m.writes.map (fun c => indented 2 c.raw) ++ [Reader.successLine])
      ++ (Reader.deserializeLines m.sourceName
      ++ ((m.reads.map (fun c => indented 2 c.raw) ++ [Reader.successLine])
      ++ [indented 1 closeBrace, closeBrace])))))))))) := by
  simp only [lines, structLines, attributes, defaultLines, inherentLines, codingLines,
    Reader.structLine, Reader.defaultLines, Reader.descriptorLines, Reader.constructorLine,
    Reader.serializeLines, Reader.deserializeLines, Reader.successLine, List.append_assoc,
    List.cons_append, List.nil_append]
  rfl

/-- The code of a message is read back as what it was written from. -/
theorem reads_lines (h : m.IsLegible) :
    Reads (Reader.message m.fullName m.text m.md5sum m.name) (linesText m.lines) m.reading := by
  have hsink : m.sinkName = if m.reading.members.isEmpty then "_w" else "w" := by
    rw [sinkName, reading, List.isEmpty_map]
  have hsource : m.sourceName = if m.reading.members.isEmpty then "_r" else "r" := by
    rw [sourceName, reading, List.isEmpty_map]
  rw [m.lines_eq, hsink, hsource]
  exact .lines (.skipLines _) (.lines (reads_structLine m.name m.capitals)
    (.lines (reads_members h) (.lines (.skipLines _) (.lines (reads_initials h)
    (.lines (.skipLines _) (.lines (reads_constants h) (.lines (.skipLines _)
    (.lines (reads_calls h.writes) (.lines (.skipLines _) (.lines (reads_calls h.reads)
    (.last (.skipLines _) (.pure m.reading))))))))))))

end MessageItem

/-- The code of a message says of its fields what it was written from. -/
theorem Reading.ofText?_lines {m : MessageItem} (h : m.IsLegible) :
    Reading.ofText? m.fullName m.text m.md5sum m.name (linesText m.lines) = some m.reading := by
  have hread := MessageItem.reads_lines h []
  rw [List.append_nil] at hread
  rw [Reading.ofText?, hread]

end Missive.Code
