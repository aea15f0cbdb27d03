import Missive.Emission.Generate
import Missive.Proofs.Joining
import Missive.Proofs.Vocabulary
/-!
# What emitted code says

The code of a message is written in four passes over its fields: the struct, its default value, the
statements that write and those that read.  Read back from the text, the four agree with the
definition and with one another, field by field.

* `Field.MovedBy` -- two statements that write and read a field;
* `Message.ofText?_item` -- what the code of a message says, for every message with plain names;
* `Resolver.reading_of_emitMessage` -- so the statements of emitted code mean what the definition
  says.
-/

namespace Missive

open Code (WireCall Reading linesText)

/-- What two statements have to say to write a field and to read it: they name the same member, the
same kind and wrapper and the same label, and they frame the elements in the same way. -/
structure Field.MovedBy (f : Field) (write read : WireCall) : Prop where
  write_member : write.member = Code.memberName f.name
  read_member : read.member = Code.memberName f.name
  write_kind : write.kind = f.kind
  write_wrapper : write.wrapper = f.kind
  read_kind : read.kind = f.kind
  read_wrapper : read.wrapper = f.kind
  write_label : write.label = Name.camel f.name
  read_label : read.label = Name.camel f.name
  fixed : write.transfer = .writeArray ∧ read.transfer = .readArray ↔ f.shape.isFixed = true
  unbounded : write.transfer = .writeArray ∧ read.transfer = .readVector ↔ f.shape.isOpen = true
  single : write.transfer = .writeField ∧ read.transfer = .readField ↔ f.shape.isArray = false

/-- The two statements of a field move it. -/
theorem Field.movedBy (f : Field) : f.MovedBy f.write f.read := by
  refine ⟨rfl, rfl, rfl, rfl, rfl, rfl, rfl, rfl, ?_, ?_, ?_⟩
  · rw [write, read]
    cases f.shape <;> simp [Shape.isFixed, Shape.isArray]
  · rw [write, read]
    cases f.shape <;> simp [Shape.isOpen, Shape.isArray]
  · rw [write, read]
    cases f.shape <;> simp [Shape.isArray]

namespace Message

variable {m : Message} {item : Code.MessageItem}

/-- What the code of a message says of its fields. -/
theorem ofText?_item (h : m.IsPlain) (hitem : m.item = .ok item) :
    Reading.ofText? m.fullName m.text m.fingerprint m.typeName (linesText item.lines) = some {
      members := m.fields.map fun f => (Code.memberName f.name, f.shape, f.type.source)
      initials := m.fields.map fun f => (Code.memberName f.name, f.initial.raw)
      writes := m.fields.map Field.write
      reads := m.fields.map Field.read } := by
  have hread := Reading.ofText?_lines (isLegible_of_item h hitem)
  obtain ⟨constants, -, rfl⟩ := item_eq_ok_iff.1 hitem
  rw [hread, Code.MessageItem.reading]
  simp only [List.map_map, Function.comp_def, Field.memberType_shape, Field.memberType_element,
    Field.member]

/-- The file of a message holds its code behind the imports. -/
theorem file_eq_ok {config : Config} {file : Code.File} (h : m.file config = .ok file) :
    ∃ item, m.item = .ok item ∧ file.messages = [item] ∧
      file.raw = linesText file.importLines ++ linesText item.lines := by
  rw [Message.file] at h
  obtain ⟨⟨⟩, -, h⟩ := Except.bind_eq_ok_iff.1 h
  obtain ⟨item, hitem, h⟩ := Except.bind_eq_ok_iff.1 h
  cases h
  refine ⟨item, hitem, rfl, ?_⟩
  rw [← Code.linesText_append]
  simp [Code.File.raw, Code.File.lines, linesText]

end Message

/-- Text is made of a file exactly if the formatter takes it. -/
theorem bind_finish_eq_ok_iff {formatter : Code.Formatter} {source code : String}
    {made : Except EmitError Code.File} :
    made >>= finish formatter source = .ok code ↔
      ∃ file text, made = .ok file ∧ formatter.format? file = some text ∧
        code = banner source ++ text := by
  rw [Except.bind_eq_ok_iff]
  refine exists_congr fun file => ?_
  rw [finish]
  cases formatter.format? file with
  | none => exact ⟨fun h => (nomatch h.2), fun ⟨_, _, h, _⟩ => (nomatch h)⟩
  | some text =>
    constructor
    · rintro ⟨hmade, hcode⟩
      exact ⟨text, hmade, rfl, (Except.ok.inj hcode).symm⟩
    · rintro ⟨_, hmade, htext, rfl⟩
      cases htext
      exact ⟨hmade, rfl⟩

/-- Code is emitted for a message exactly if the formatter takes its file. -/
theorem emitMessage_eq_ok_iff {config : Config} {formatter : Code.Formatter}
    {source code : String} {m : Message} :
    emitMessage config formatter source m = .ok code ↔
      ∃ file text, m.file config = .ok file ∧ formatter.format? file = some text ∧
        code = banner source ++ text :=
  bind_finish_eq_ok_iff

theorem emitMessage_boxes {config : Config} {m : Message} {file : Code.File}
    (hfile : m.file config = .ok file) (hvalid : file.isValid = true) (source : String) :
    emitMessage config .boxes source m = .ok (banner source ++ file.formatted) :=
  emitMessage_eq_ok_iff.2
    ⟨file, _, hfile, Code.Formatter.boxes_eq_some_iff.2 ⟨hvalid, rfl⟩, rfl⟩

namespace Resolver

/-- **The statements of emitted code.**  Whenever a definition is read and code is emitted for it,
the unformatted code of the message, which is all that is behind the imports, is read back from its
text.  The struct has one member for each field, in this order, with the field's type as it is, in a
vector or in an array of the declared length; the default value gives each of them a first value
once.  The functions that write and read consist of one statement for each field, again in this
order, and the two statements of a field name its member, kind and label and match each other. -/
theorem reading_of_emitMessage (r : Resolver) (config : Config) (formatter : Code.Formatter)
    {name source code : String} {bytes : List UInt8} {m : Message}
    (hm : r.readMessage name bytes = .ok m)
    (hcode : emitMessage config formatter source m = .ok code) :
    ∃ file text item reading, m.file config = .ok file ∧ formatter.format? file = some text ∧
      code = banner source ++ text ∧
      file.messages = [item] ∧
      file.raw = linesText file.importLines ++ linesText item.lines ∧
      Reading.ofText? m.fullName m.text m.fingerprint m.typeName (linesText item.lines)
        = some reading ∧
      reading.members = m.fields.map (fun f => (Code.memberName f.name, f.shape, f.type.source)) ∧
      reading.initials = m.fields.map (fun f => (Code.memberName f.name, f.initial.raw)) ∧
      reading.writes.length = m.fields.length ∧
      reading.reads.length = m.fields.length ∧
      ∀ (i : Nat) (f : Field), m.fields[i]? = some f → ∃ write read,
        reading.writes[i]? = some write ∧ reading.reads[i]? = some read ∧ f.MovedBy write read := by
  obtain ⟨file, text, hfile, hformat, hcode⟩ := emitMessage_eq_ok_iff.1 hcode
  obtain ⟨item, hitem, hmessages, hraw⟩ := Message.file_eq_ok hfile
  have hread := Message.ofText?_item (isPlain_of_readMessage hm) hitem
  refine ⟨file, text, item, _, hfile, hformat, hcode, hmessages, hraw, hread, rfl, rfl,
    List.length_map _, List.length_map _, fun i f hf => ?_⟩
  refine ⟨f.write, f.read, ?_, ?_, f.movedBy⟩
  · rw [List.getElem?_map, hf, Option.map_some]
  · rw [List.getElem?_map, hf, Option.map_some]

end Resolver

/-! ## A shed -/

namespace Garden

/-- Strings in an array under a name that is a keyword, messages in a vector, and a number whose
name has a capital letter; and a constant. -/
def shedText : String :=
  "string[3] type\nPot[] self\nfloat32 Height\nuint8 RIPE=2\n"

def shed : Message where
  package := "garden"
  name := "Shed"
  text := shedText
  fields := [⟨"type", "string", .exactly 3, .primitive .string⟩, ⟨"self", "Pot", .many, .own "Pot"⟩,
    ⟨"Height", "float32", .single, .primitive .float32⟩]
  constants := [⟨"RIPE", "uint8", "2"⟩]
  dependencies := .empty

theorem readMessage_shed : resolver.readMessage "Shed" (Text.Utf8.encode shedText) = .ok shed := by
  rw [Resolver.readMessage_encode]
  rfl

def shedFile : Code.File where
  runtime := Config.standard.runtime
  names := ["self", "FieldKind", "FieldMut", "FieldRef", "Message", "MessageType", "WireError"]
  modules := []
  siblings := ["Pot"]
  messages := [{
    fullName := "garden/Shed"
    text := shedText
    md5sum := shed.fingerprint
    name := "Shed"
    capitals := true
    members := shed.fields.map fun f => (f.member, f.memberType)
    initials := shed.fields.map fun f => (f.member, f.initial)
    constants := [⟨"RIPE", "u8", "2"⟩]
    writes := shed.fields.map Field.write
    reads := shed.fields.map Field.read }]
  service := none

theorem file_shed : shed.file Config.standard = .ok shedFile := by
  rfl

theorem isValid_shed : shedFile.isValid = true := by
  decide +kernel

theorem emitMessage_shed : emitMessage Config.standard .boxes "Shed.msg" shed
    = .ok (banner "Shed.msg" ++ shedFile.formatted) :=
  emitMessage_boxes file_shed isValid_shed "Shed.msg"

/-- The code of the definition is read back: its struct and default value, and what moves the pots
in its second field. -/
theorem reading_of_shed :
    resolver.readMessage "Shed" (Text.Utf8.encode shedText) = .ok shed ∧
    emitMessage Config.standard .boxes "Shed.msg" shed
      = .ok (banner "Shed.msg" ++ shedFile.formatted) ∧
    ∃ item reading, shedFile.messages = [item] ∧
      Reading.ofText? "garden/Shed" shedText shed.fingerprint "Shed" (linesText item.lines)
        = some reading ∧
      reading.members = [("r#type", .exactly 3, "::std::string::String"), ("self_", .many, "Pot"),
        ("Height", .single, "f32")] ∧
      reading.initials = [("r#type", "std::array::from_fn(|_| ::std::string::String::new())"),
        ("self_", "Vec::new()"), ("Height", "0.0")] ∧
      reading.writes.length = 3 ∧ reading.reads.length = 3 ∧
      ∃ write read, reading.writes[1]? = some write ∧ reading.reads[1]? = some read ∧
        write.member = "self_" ∧ write.kind = .message ∧ write.label = "Self" ∧
        write.transfer = .writeArray ∧ read.transfer = .readVector := by
  obtain ⟨file, text, item, reading, hfile, -, -, hmessages, -, hread, hmembers, hinitials, hwrites,
    hreads, hmoved⟩ := Resolver.reading_of_emitMessage resolver Config.standard .boxes
      readMessage_shed emitMessage_shed
  cases hfile.symm.trans file_shed
  obtain ⟨write, read, hwrite, hread', moved⟩ := hmoved 1 _ rfl
  have htransfers := moved.unbounded.2 rfl
  exact ⟨readMessage_shed, emitMessage_shed, item, reading, hmessages, hread, hmembers, hinitials,
    hwrites, hreads, write, read, hwrite, hread', moved.write_member, moved.write_kind,
    moved.write_label, htransfers.1, htransfers.2⟩

end Garden

end Missive
