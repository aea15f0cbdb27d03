import Missive.Code.Formatter
import Missive.Proofs.Bindings
import Missive.Proofs.Blocks
import Missive.Proofs.Imports
import Missive.Proofs.Registrations
/-!
# What emitted code says of its definition

The code of a message carries the full name, the text and the fingerprint of its definition, and the
values of its constants.  Read back from the file, they are what the definition has, whatever is in
them; and a peer that registers what it has read gets the message that was read here.

* `Constant.IsReadAs` -- what is read for a constant;
* `Code.Part`, `Code.File.parts` -- what stands at the top of a file;
* `Code.Formatter.LaysOut` -- a formatter writes the parts of a file as they are;
* `Code.File.Carries` -- the unformatted text of a file says of a message what its definition says;
* `Code.File.Describes` -- so does a text that the file is laid out in;
* `Resolver.readMessageText_config` -- the configuration decides about imports only;
* `Resolver.Registers` -- a message is what its descriptor is read as;
* `Resolver.descriptors_of_emitted` -- all this holds of all code that is emitted.
-/

namespace Missive

open Code (IsOver)

/-! ## Constants -/

/-- What is read for a constant: a text is its trimmed value, and every other value is the one that
is written for it. -/
structure Constant.IsReadAs (c : Constant) (a : Code.ReadConstant) : Prop where
  name : a.name = c.sourceName
  text : c.typeToken = "string" → a.type = "&str" ∧ a.value = .text (Text.trimText c.value)
  other : c.typeToken ≠ "string" →
    ∃ written, c.literal = .ok (a.type, written) ∧ a.value = .other written

theorem Primitive.ofToken?_eq_string_iff {token : String} :
    ofToken? token = some .string ↔ token = "string" := by
  constructor
  · intro h
    have hall : ∀ entry ∈ tokens, entry.2 = .string → entry.1 = "string" := by
      decide
    obtain ⟨before, after, htokens, -⟩ := List.lookup_eq_some_iff.1 h
    exact hall (token, .string) (by simp [htokens]) rfl
  · intro h
    rw [h]
    rfl

namespace Constant

variable {c : Constant} {item : Code.ConstantItem}

theorem exists_read (hname : IsOver isNameChar c.name) (h : c.item = .ok item) :
    ∃ a, item.IsReadAs a ∧ c.IsReadAs a := by
  obtain ⟨p, written, hp, hwritten, hliteral, rfl⟩ := item_eq_ok h
  have hsource : ':' ∉ c.sourceName.toList := (sourceName_over hname).not_mem rfl
  have htype : ' ' ∉ (if p = .string then textSource else p.source).toList := by
    cases p <;> decide
  rcases literalOf_over hwritten with ⟨rfl, rfl⟩ | ⟨hstring, hover⟩
  · have htoken : c.typeToken = "string" := Primitive.ofToken?_eq_string_iff.1 hp
    exact ⟨⟨_, _, .text (Text.trimText c.value)⟩,
      ⟨rfl, rfl, hsource, htype, Code.reads_value_text _⟩,
      ⟨rfl, fun _ => ⟨rfl, rfl⟩, fun hother => absurd htoken hother⟩⟩
  · have htoken : c.typeToken ≠ "string" := by
      intro heq
      rw [heq] at hp
      exact hstring (Option.some.inj hp).symm
    exact ⟨⟨_, _, .other written⟩, ⟨rfl, rfl, hsource, htype, Code.reads_value_other hover⟩,
      ⟨rfl, fun heq => absurd heq htoken, fun _ => ⟨written, hliteral, rfl⟩⟩⟩

theorem exists_reads {constants : List Constant} {items : List Code.ConstantItem}
    (hnames : ∀ c ∈ constants, IsOver isNameChar c.name)
    (h : constants.mapM Constant.item = .ok items) :
    ∃ as, List.Forall₂ Code.ConstantItem.IsReadAs items as ∧
      List.Forall₂ Constant.IsReadAs constants as := by
  induction constants generalizing items with
  | nil =>
    cases h
    exact ⟨[], .nil, .nil⟩
  | cons c rest ih =>
    obtain ⟨hname, hrest⟩ := List.forall_mem_cons.1 hnames
    obtain ⟨item, more, hitem, hmore, rfl⟩ := Except.mapM_cons_eq_ok_iff.1 h
    obtain ⟨a, hread, hdenoted⟩ := exists_read hname hitem
    obtain ⟨as, hreads, hdenotes⟩ := ih hrest hmore
    exact ⟨a :: as, .cons hread hreads, .cons hdenoted hdenotes⟩

end Constant

/-! ## Parts of a file -/

namespace Code

/-- What stands at the top of a file: headings, and the items that are defined. -/
inductive Part where
  | heading (h : Heading)
  /-- The struct of a message, its default value, its constants and constructor, and its coding
  functions. -/
  | struct (m : MessageItem)
  | defaults (m : MessageItem)
  | inherent (m : MessageItem)
  | coding (m : MessageItem)
  /-- The marker of a service, and what it says of itself. -/
  | marker (s : ServiceItem)
  | service (s : ServiceItem)

open Doc in
/-- The struct of a message without its documentation. -/
def MessageItem.bareStructDoc (m : MessageItem) : Doc :=
  attributeDoc m.attributes
    ++ braced (piece ("pub struct " ++ m.typeName))
      (m.members.map fun (name, type) => piece ("pub " ++ name ++ ": ") ++ type.doc ++ piece ",")

open Doc in
/-- The marker of a service without its documentation. -/
def ServiceItem.bareMarkerDoc (s : ServiceItem) : Doc :=
  attributeDoc [serviceAttribute]
    ++ consistent step (piece ("pub struct " ++ (genericNameIn? s.name).getD "" ++ ";"))

/-- The written form of a part. -/
def Part.doc : Part → Doc
  | heading h => h.doc
  | struct m => m.bareStructDoc ++ Doc.hardLine 0
  | defaults m => m.defaultDoc ++ Doc.hardLine 0
  | inherent m => m.inherentDoc ++ Doc.hardLine 0
  | coding m => m.codingDoc ++ Doc.hardLine 0
  | marker s => s.bareMarkerDoc ++ Doc.hardLine 0
  | service s => s.docs.getLastD [] ++ Doc.hardLine 0

/-- The parts that headings are, if there are any. -/
def headingParts (headings? : Option (List Heading)) : List Part :=
  (headings?.getD []).map Part.heading

/-- The items of a message. -/
def MessageItem.items (m : MessageItem) : List Part :=
  [.struct m, .defaults m, .inherent m, .coding m]

/-- The items of a service. -/
def ServiceItem.items (s : ServiceItem) : List Part :=
  [.marker s, .service s]

/-- All that stands at the top of a file. -/
def File.parts (f : File) : List Part :=
  headingParts f.importHeadings?
    ++ f.messages.flatMap (fun m => headingParts (summaryHeadings? m.summary) ++ m.items)
    ++ f.service.toList.flatMap fun s => headingParts (summaryHeadings? s.summary) ++ s.items

theorem headingParts_doc (headings? : Option (List Heading)) :
    (headingParts headings?).flatMap Part.doc = headingsDoc headings? := by
  rw [headingParts, List.flatMap_map]
  rfl

theorem message_doc (m : MessageItem) :
    (headingParts (summaryHeadings? m.summary) ++ m.items).flatMap Part.doc
      = m.docs.flatMap (· ++ Doc.hardLine 0) := by
  rw [List.flatMap_append, headingParts_doc]
  simp only [MessageItem.items, MessageItem.docs, MessageItem.structDoc, MessageItem.bareStructDoc,
    Part.doc, List.flatMap_cons, List.flatMap_nil, List.append_assoc]

theorem service_doc (s : ServiceItem) :
    (headingParts (summaryHeadings? s.summary) ++ s.items).flatMap Part.doc
      = s.docs.flatMap (· ++ Doc.hardLine 0) := by
  rw [List.flatMap_append, headingParts_doc]
  simp only [ServiceItem.items, ServiceItem.docs, ServiceItem.bareMarkerDoc, Part.doc,
    List.flatMap_cons, List.flatMap_nil, List.append_assoc, List.getLastD_cons, List.getLastD_nil]

/-- **The text of a file.**  Boxes write a file part by part. -/
theorem File.formatted_eq (f : File) :
    f.formatted = Doc.render (Doc.consistent 0 (f.parts.flatMap Part.doc)) := by
  have hdocs : f.docs = f.messages.flatMap MessageItem.docs
      ++ f.service.toList.flatMap ServiceItem.docs := by
    rw [docs]
    cases f.service with
    | none => rfl
    | some s => exact congrArg _ (List.flatMap_singleton _ _).symm
  rw [formatted, hdocs, parts, List.flatMap_append, List.flatMap_append, List.flatMap_append,
    headingParts_doc, List.append_assoc]
  simp only [List.flatMap_assoc, message_doc, service_doc]

/-- The type of a message that can be written has a name. -/
theorem isMemberName_typeName {m : MessageItem} (h : m.isValid = true) :
    isMemberName m.typeName = true := by
  simp only [MessageItem.isValid, Bool.and_eq_true] at h
  obtain ⟨word, hword⟩ := Option.isSome_iff_exists.1 h.1.1.1
  rw [MessageItem.typeName, typeName, hword, Option.getD_some]
  rw [nameIn?] at hword
  split at hword
  · split_ifs at hword with hmember
    cases hword
    exact hmember
  · cases hword

/-- A formatter lays out a file if it breaks lines and indents them, and keeps the parts of the file
as they are.  The types of the messages have to have names then. -/
structure Formatter.LaysOut (formatter : Formatter) (f : File) : Prop where
  laidOut : ∀ body, formatter.format? f = some body →
    Doc.LaidOut (Doc.consistent 0 (f.parts.flatMap Part.doc)) body.toList
  names : ∀ body, formatter.format? f = some body →
    ∀ m ∈ f.messages, isMemberName m.typeName = true

/-- Boxes lay out every file. -/
theorem Formatter.laysOut_boxes (f : File) : boxes.LaysOut f := by
  constructor
  · intro body hbody
    rw [(boxes_eq_some_iff.1 hbody).2, f.formatted_eq]
    exact Doc.laidOut_render _
  · intro body hbody m hm
    have hvalid := (boxes_eq_some_iff.1 hbody).1
    simp only [File.isValid, Bool.and_eq_true] at hvalid
    exact isMemberName_typeName (List.all_eq_true.1 hvalid.1.2 m hm)

end Code

/-! ## Files -/

open Code (Part Inherent linesText)
open Code.Doc (LaidOut)

namespace Code.File

variable {f : File} {m : Message} {item : MessageItem} {body : String}

/-- The unformatted text of a file says of a message what its definition says.  Behind the lines in
front of it stands the message's block of constants, and the text from there on is read as a
descriptor with the full name, the text and the fingerprint of the message, and as constants with
the values of the message's, in their order. -/
def Carries (f : File) (m : Message) : Prop :=
  ∃ item before after region constants rest,
    m.item = .ok item ∧ f.lines = before ++ (item.inherentLines ++ after) ∧
    f.raw.toList = (linesText before).toList ++ region ∧
    Reader.inherentLines item.name region = some (⟨item.name, .ofMessage m, constants⟩, rest) ∧
    List.Forall₂ Constant.IsReadAs m.constants constants

/-- A text that a file is laid out in says of a message what its definition says.  Behind all that
is laid out in front of it stands the message's block of constants, and the text from there on is
read as a descriptor with the full name, the text and the fingerprint of the message, and as
constants with the values of the message's, in their order. -/
def Describes (f : File) (m : Message) (body : String) : Prop :=
  ∃ item before after front region constants rest,
    m.item = .ok item ∧ f.parts = before ++ .inherent item :: after ∧
    body.toList = front ++ region ∧ LaidOut (before.flatMap Part.doc) front ∧
    Reader.inherent region = some (⟨item.typeName, .ofMessage m, constants⟩, rest) ∧
    List.Forall₂ Constant.IsReadAs m.constants constants

/-- The unformatted text of a file carries the definitions of all its messages, whatever the names
of their types are. -/
theorem carries (hplain : m.IsPlain) (hitem : m.item = .ok item) (hmem : item ∈ f.messages) :
    f.Carries m := by
  obtain ⟨earlier, later, hmessages⟩ := List.append_of_mem hmem
  obtain ⟨tail, htail⟩ : ∃ tail,
      f.lines = f.importLines ++ f.messages.flatMap MessageItem.lines ++ tail := ⟨_, rfl⟩
  obtain ⟨before, after, hlines⟩ : ∃ before after,
      f.lines = before ++ (item.inherentLines ++ after) := by
    refine ⟨f.importLines ++ earlier.flatMap MessageItem.lines ++ item.structLines
      ++ item.defaultLines, item.codingLines ++ later.flatMap MessageItem.lines ++ tail, ?_⟩
    simp [htail, hmessages, MessageItem.lines]
  obtain ⟨items, hitems, heq⟩ := Message.item_eq_ok_iff.1 hitem
  obtain ⟨constants, hreads, hdenotes⟩ := Constant.exists_reads hplain.constants hitems
  have hconstants : List.Forall₂ ConstantItem.IsReadAs item.constants constants := by
    rw [heq]
    exact hreads
  have hdescriptor : Descriptor.mk item.fullName item.text item.md5sum = .ofMessage m := by
    rw [heq]
    rfl
  obtain ⟨rest, hread⟩ := reads_inherentLines hconstants after
  rw [hdescriptor] at hread
  refine ⟨_, before, after, _, constants, rest, hitem, hlines, ?_, hread, hdenotes⟩
  rw [← String.toList_append, ← Code.linesText_append, ← hlines]
  rfl

/-- A text that a file is laid out in can be cut in front of the block of a message. -/
theorem exists_region {before after : List Part} (h : f.parts = before ++ .inherent item :: after)
    (hbody : LaidOut (Doc.consistent 0 (f.parts.flatMap Part.doc)) body.toList) :
    ∃ front region, body.toList = front ++ region ∧ LaidOut (before.flatMap Part.doc) front ∧
      LaidOut (Doc.ink item.inherentDoc ++ Doc.ink (Doc.hardLine 0 ++ after.flatMap Part.doc))
        region := by
  have hdocs : f.parts.flatMap Part.doc = before.flatMap Part.doc ++
      (item.inherentDoc ++ (Doc.hardLine 0 ++ after.flatMap Part.doc)) := by
    rw [h, List.flatMap_append, List.flatMap_cons, Part.doc, List.append_assoc]
  have himpl : .text "impl" ∈ f.parts.flatMap Part.doc := by
    obtain ⟨behind, hink⟩ := item.ink_inherentDoc
    have hmem : .text "impl" ∈ Doc.ink item.inherentDoc := by
      rw [hink]
      exact List.mem_cons_self
    have hinside := List.mem_of_mem_filter hmem
    rw [hdocs, List.mem_append, List.mem_append]
    exact .inr (.inl hinside)
  have hall := hbody.inside himpl
  rw [hdocs] at hall
  obtain ⟨front, region, hcut, hfront, hregion⟩ := Doc.laidOut_append_iff.1 hall
  refine ⟨front, region, hcut, hfront, ?_⟩
  rw [← Doc.ink_append]
  exact hregion.ink

/-- What a formatter writes for a file that it lays out describes the messages of the file. -/
theorem describes {formatter : Formatter} (hformat : formatter.format? f = some body)
    (hlays : formatter.LaysOut f) (hplain : m.IsPlain) (hitem : m.item = .ok item)
    (hmem : item ∈ f.messages) : f.Describes m body := by
  have hpart : .inherent item ∈ f.parts := by
    simp only [parts, List.mem_append, List.mem_flatMap]
    refine .inl (.inr ⟨item, hmem, .inr ?_⟩)
    simp [MessageItem.items]
  obtain ⟨before, after, hparts⟩ := List.append_of_mem hpart
  obtain ⟨front, region, hcut, hfront, hregion⟩ :=
    exists_region hparts (hlays.laidOut body hformat)
  have hname : isMemberName item.typeName = true := hlays.names body hformat item hmem
  obtain ⟨items, hitems, rfl⟩ := Message.item_eq_ok_iff.1 hitem
  obtain ⟨constants, hreads, hdenotes⟩ := Constant.exists_reads hplain.constants hitems
  obtain ⟨rest, hread⟩ := takes_inherent hname hreads hregion
  exact ⟨_, before, after, front, region, constants, rest, hitem, hparts, hcut, hfront, hread,
    hdenotes⟩

end Code.File

/-- The file of a service holds the code of both messages. -/
theorem Service.file_eq_ok {config : Config} {s : Service} {file : Code.File}
    (h : s.file config = .ok file) : ∃ request response, s.request.item = .ok request ∧
      s.response.item = .ok response ∧ file.messages = [request, response] := by
  rw [Service.file, ← bind_assoc] at h
  obtain ⟨⟨⟩, -, h⟩ := Except.bind_eq_ok_iff.1 h
  obtain ⟨request, hrequest, h⟩ := Except.bind_eq_ok_iff.1 h
  obtain ⟨response, hresponse, h⟩ := Except.bind_eq_ok_iff.1 h
  cases h
  exact ⟨request, response, hrequest, hresponse, rfl⟩

/-! ## Registering what has been read -/

namespace Resolver

variable {r : Resolver} {name text : String} {m : Message}

/-- The configuration decides about imports only. -/
theorem readLine_config (config : Config) {line : List Char} {e : Entry}
    (h : r.readLine line = .ok e) :
    ∃ other, Resolver.readLine ⟨config, r.package⟩ line = .ok other ∧ other.field? = e.field? ∧
      other.constant? = e.constant? := by
  rw [readLine] at h ⊢
  cases hdeclaration : Declaration.read? line with
  | none =>
    rw [hdeclaration] at h
    cases h
  | some d =>
    rw [hdeclaration] at h
    cases d with
    | constant =>
      cases h
      exact ⟨_, rfl, rfl, rfl⟩
    | field type count name trailer =>
      obtain ⟨resolution, hfield, rfl⟩ := Except.map_eq_ok_iff.1 h
      obtain ⟨shape, type, hshape, htype, rfl⟩ := field_eq_ok_iff.1 hfield
      exact ⟨_, Except.map_eq_ok_iff.2
        ⟨_, field_eq_ok_iff.2 ⟨shape, type, hshape, htype, rfl⟩, rfl⟩, rfl, rfl⟩

theorem readLines_config (config : Config) {lines : List (List Char)} {entries : List Entry}
    (h : lines.mapM r.readLine = .ok entries) :
    ∃ others, lines.mapM (Resolver.readLine ⟨config, r.package⟩) = .ok others ∧
      others.filterMap Entry.field? = entries.filterMap Entry.field? ∧
      others.filterMap Entry.constant? = entries.filterMap Entry.constant? := by
  induction lines generalizing entries with
  | nil =>
    cases h
    exact ⟨[], rfl, rfl, rfl⟩
  | cons line rest ih =>
    obtain ⟨first, later, hfirst, hlater, rfl⟩ := Except.mapM_cons_eq_ok_iff.1 h
    obtain ⟨other, hother, hfield, hconstant⟩ := readLine_config config hfirst
    obtain ⟨others, hothers, hfields, hconstants⟩ := ih hlater
    refine ⟨_, Except.mapM_cons_eq_ok_iff.2 ⟨other, others, hother, hothers, rfl⟩, ?_, ?_⟩
    · rw [List.filterMap_cons, List.filterMap_cons, hfield, hfields]
    · rw [List.filterMap_cons, List.filterMap_cons, hconstant, hconstants]

/-- A definition that is read under one configuration is read under every other, with the same
fields and constants. -/
theorem readMessageText_config (config : Config) (h : r.readMessageText name text = .ok m) :
    ∃ other, Resolver.readMessageText ⟨config, r.package⟩ name text = .ok other ∧
      other.fields = m.fields ∧ other.constants = m.constants := by
  obtain ⟨entries, hentries, rfl⟩ := readMessageText_eq_ok_iff.1 h
  obtain ⟨others, hothers, hfields, hconstants⟩ := readLines_config config hentries
  exact ⟨_, readMessageText_eq_ok_iff.2 ⟨others, hothers, rfl⟩, hfields, hconstants⟩

/-- A message is what its descriptor is read as.  Read under the standard configuration, its
definition makes a message with the same fields, constants and fingerprint, the message itself if it
was read so; and this is the one that a registry has after registering a descriptor with its name
and text, if the name was free. -/
def Registers (r : Resolver) (m : Message) : Prop :=
  ∃ other, Resolver.readMessage ⟨Config.standard, r.package⟩ m.name (Text.Utf8.encode m.text)
      = .ok other ∧
    other.fields = m.fields ∧ other.constants = m.constants ∧
    other.fingerprint = m.fingerprint ∧ (r.config = Config.standard → other = m) ∧
    ∀ (reg : Registry) (d : Descriptor), d.name = m.fullName → d.text = m.text →
      reg.find? m.fullName = none →
        (reg.register d).status = .ok () ∧
          (reg.register d).registry.find? m.fullName = some other

theorem registers_of_readMessageText (hpackage : '/' ∉ r.package.toList)
    (h : r.readMessageText name text = .ok m) : r.Registers m := by
  obtain ⟨other, hother, hfields, hconstants⟩ := readMessageText_config Config.standard h
  have hname := r.name_of_readMessageText h
  have htext := r.text_of_readMessageText h
  have hfull : other.fullName = m.fullName := by
    rw [fullName_of_readMessageText hother, fullName_of_readMessageText h]
  refine ⟨other, ?_, hfields, hconstants, ?_, fun hstandard => ?_, fun reg d hd hdtext hfree => ?_⟩
  · rw [readMessage_encode, hname, htext, hother]
  · rw [Message.fingerprint, Message.fingerprint, text_of_readMessageText _ hother, htext]
  · rw [← hstandard, h] at hother
    exact (Except.ok.inj hother).symm
  · have hread : Registry.readDescriptor d = .ok other := by
      rw [Registry.readDescriptor_named (hd.trans (fullName_of_readMessageText h)) hpackage, hdtext,
        htext, hother]
      rfl
    rw [← hfull] at hfree ⊢
    have hdone : reg.register d = ⟨.ok (), ⟨reg.messages.insert other.fullName other⟩⟩ :=
      (Registry.attempt_of_ok (a := .register d) hread).trans (Registry.insert_of_free hfree)
    rw [hdone]
    refine ⟨rfl, ?_⟩
    rw [Registry.find?, Dictionary.find?_insert, if_pos rfl]

end Resolver

namespace Resolver

/-- **What emitted code says of its definition.**  Whenever a definition is read, its text is the
one that was read, byte for byte, and the unformatted text of the file that is made for it carries
the definition: the three literals that the message's descriptor is made of denote the full name,
the text of the definition and its fingerprint, and the literal of a text among the constants
denotes the trimmed value.  Emitted code is the banner and what the formatter writes for this file,
and if the formatter lays out the file, it describes the message in the same way.  The file of a
service carries and describes both of its messages so, whose texts are the two sections of the
service's.  And each message is what its descriptor is read as, unless there is a slash in the name
of the package. -/
theorem descriptors_of_emitted (r : Resolver) (config : Config) (formatter : Code.Formatter)
    (name source : String) (bytes : List UInt8) :
    (∀ m, r.readMessage name bytes = .ok m →
      Text.Utf8.encode m.text = bytes ∧
      (∀ file, m.file config = .ok file → file.Carries m) ∧
      (∀ code, emitMessage config formatter source m = .ok code →
        ∃ file body, m.file config = .ok file ∧ formatter.format? file = some body ∧
          code = banner source ++ body ∧ (formatter.LaysOut file → file.Describes m body)) ∧
      ('/' ∉ r.package.toList → r.Registers m)) ∧
    ∀ s, r.readService name bytes = .ok s →
      Text.Utf8.encode s.text = bytes ∧ sections s.text = [s.request.text, s.response.text] ∧
      (∀ file, s.file config = .ok file → file.Carries s.request ∧ file.Carries s.response) ∧
      (∀ code, emitService config formatter source s = .ok code →
        ∃ file body, s.file config = .ok file ∧ formatter.format? file = some body ∧
          code = banner source ++ body ∧ (formatter.LaysOut file →
            file.Describes s.request body ∧ file.Describes s.response body)) ∧
      ('/' ∉ r.package.toList → r.Registers s.request ∧ r.Registers s.response) := by
  constructor
  · intro m hm
    obtain ⟨text, hdecode, hread⟩ := readMessage_eq_ok_iff.1 hm
    have hplain := isPlain_of_readMessage hm
    refine ⟨?_, fun file hfile => ?_, fun code hcode => ?_, fun hpackage =>
      registers_of_readMessageText hpackage hread⟩
    · rw [r.text_of_readMessageText hread]
      exact Text.Utf8.encode_of_decode hdecode
    · obtain ⟨item, hitem, hmessages, -⟩ := Message.file_eq_ok hfile
      exact Code.File.carries hplain hitem (by simp [hmessages])
    · obtain ⟨file, body, hfile, hbody, hcode⟩ := emitMessage_eq_ok_iff.1 hcode
      obtain ⟨item, hitem, hmessages, -⟩ := Message.file_eq_ok hfile
      exact ⟨file, body, hfile, hbody, hcode, fun hlays =>
        Code.File.describes hbody hlays hplain hitem (by simp [hmessages])⟩
  · intro s hs
    obtain ⟨text, hdecode, hread⟩ := readService_eq_ok_iff.1 hs
    obtain ⟨first, second, q, p, hsections, hq, hp, rfl⟩ := readServiceText_eq_ok_iff.1 hread
    have hqplain := isPlain_of_readMessageText hq
    have hpplain := isPlain_of_readMessageText hp
    refine ⟨Text.Utf8.encode_of_decode hdecode, ?_, fun file hfile => ?_, fun code hcode => ?_,
      fun hpackage => ⟨registers_of_readMessageText hpackage hq,
        registers_of_readMessageText hpackage hp⟩⟩
    · rw [hsections, r.text_of_readMessageText hq, r.text_of_readMessageText hp]
    · obtain ⟨request, response, hrequest, hresponse, hmessages⟩ := Service.file_eq_ok hfile
      exact ⟨Code.File.carries hqplain hrequest (by simp [hmessages]),
        Code.File.carries hpplain hresponse (by simp [hmessages])⟩
    · obtain ⟨file, body, hfile, hbody, hcode⟩ := emitService_eq_ok_iff.1 hcode
      obtain ⟨request, response, hrequest, hresponse, hmessages⟩ := Service.file_eq_ok hfile
      exact ⟨file, body, hfile, hbody, hcode, fun hlays =>
        ⟨Code.File.describes hbody hlays hqplain hrequest (by simp [hmessages]),
          Code.File.describes hbody hlays hpplain hresponse (by simp [hmessages])⟩⟩

end Resolver

/-! ## A plaque -/

namespace Garden

/-- What is on the plaque: quotation marks, a line end as it would be escaped, and a tab. -/
def plaqueValue : String :=
  "say \"grow\"\\n\tor wait"

/-- A text among the constants, and a number. -/
def plaqueText : String :=
  "string TITLE= " ++ plaqueValue ++ " \nuint8 RIPE=2\nbool dug\n"

def plaque : Message where
  package := "garden"
  name := "Plaque"
  text := plaqueText
  fields := [⟨"dug", "bool", .single, .primitive .bool⟩]
  constants := [⟨"TITLE", "string", plaqueValue⟩, ⟨"RIPE", "uint8", "2"⟩]
  dependencies := .empty

theorem readMessage_plaque :
    resolver.readMessage "Plaque" (Text.Utf8.encode plaqueText) = .ok plaque := by
  rw [Resolver.readMessage_encode]
  rfl

def plaqueFile : Code.File where
  runtime := Config.standard.runtime
  names := ["self", "FieldKind", "FieldMut", "FieldRef", "Message", "MessageType", "WireError"]
  modules := []
  siblings := []
  messages := [{
    fullName := "garden/Plaque"
    text := plaqueText
    md5sum := plaque.fingerprint
    name := "Plaque"
    capitals := false
    members := plaque.fields.map fun f => (f.member, f.memberType)
    initials := plaque.fields.map fun f => (f.member, f.initial)
    constants := [⟨"TITLE", "&str", Text.Quoted.quote plaqueValue⟩, ⟨"RIPE", "u8", "2"⟩]
    writes := plaque.fields.map Field.write
    reads := plaque.fields.map Field.read }]
  service := none

theorem file_plaque : plaque.file Config.standard = .ok plaqueFile := by
  rfl

theorem emitMessage_plaque : emitMessage Config.standard .boxes "Plaque.msg" plaque
    = .ok (banner "Plaque.msg" ++ plaqueFile.formatted) := by
  have hvalid : plaqueFile.isValid = true := by
    decide +kernel
  exact emitMessage_boxes file_plaque hvalid "Plaque.msg"

/-- What is read of the constants on the plaque. -/
theorem constants_of_plaque {constants : List Code.ReadConstant}
    (h : List.Forall₂ Constant.IsReadAs plaque.constants constants) :
    constants = [⟨"TITLE", "&str", .text plaqueValue⟩, ⟨"RIPE", "u8", .other "2"⟩] := by
  have hripe : Constant.literal ⟨"RIPE", "uint8", "2"⟩ = .ok ("u8", "2") := by
    decide
  obtain ⟨first, second, rfl, hfirst, hsecond⟩ : ∃ a b, constants = [a, b] ∧
      Constant.IsReadAs ⟨"TITLE", "string", plaqueValue⟩ a ∧
      Constant.IsReadAs ⟨"RIPE", "uint8", "2"⟩ b := by
    cases h with
    | cons hfirst hrest =>
      cases hrest with
      | cons hsecond hnil =>
        cases hnil
        exact ⟨_, _, rfl, hfirst, hsecond⟩
  obtain ⟨name, type, value⟩ := first
  obtain ⟨name', type', value'⟩ := second
  obtain ⟨rfl, rfl⟩ := hfirst.text rfl
  obtain ⟨written, hliteral, rfl⟩ := hsecond.other (by decide)
  obtain ⟨rfl, rfl⟩ := Prod.mk.inj (Except.ok.inj (hripe.symm.trans hliteral))
  have htitle : name = "TITLE" := hfirst.name.trans (by decide)
  have hnumber : name' = "RIPE" := hsecond.name.trans (by decide)
  rw [htitle, hnumber]
  rfl

/-- What the code for the plaque says, unformatted and formatted, and what a peer gets who registers
it. -/
theorem descriptors_of_plaque :
    resolver.readMessage "Plaque" (Text.Utf8.encode plaqueText) = .ok plaque ∧
    plaque.file Config.standard = .ok plaqueFile ∧
    (∃ front region rest, plaqueFile.raw.toList = front ++ region ∧
      Code.Reader.inherentLines "Plaque" region = some (⟨"Plaque",
        ⟨"garden/Plaque", plaqueText, plaque.fingerprint⟩,
        [⟨"TITLE", "&str", .text plaqueValue⟩, ⟨"RIPE", "u8", .other "2"⟩]⟩, rest)) ∧
    emitMessage Config.standard .boxes "Plaque.msg" plaque
      = .ok (banner "Plaque.msg" ++ plaqueFile.formatted) ∧
    (∃ front region rest, plaqueFile.formatted.toList = front ++ region ∧
      Code.Reader.inherent region = some (⟨"Plaque",
        ⟨"garden/Plaque", plaqueText, plaque.fingerprint⟩,
        [⟨"TITLE", "&str", .text plaqueValue⟩, ⟨"RIPE", "u8", .other "2"⟩]⟩, rest)) ∧
    (Registry.empty.register ⟨"garden/Plaque", plaqueText, ""⟩).status = .ok () ∧
    (Registry.empty.register ⟨"garden/Plaque", plaqueText, ""⟩).registry.find? "garden/Plaque"
      = some plaque := by
  obtain ⟨hmessage, -⟩ := Resolver.descriptors_of_emitted resolver Config.standard .boxes "Plaque"
    "Plaque.msg" (Text.Utf8.encode plaqueText)
  obtain ⟨-, hcarries, hdescribes, hregisters⟩ := hmessage plaque readMessage_plaque
  refine ⟨readMessage_plaque, file_plaque, ?_, emitMessage_plaque, ?_, ?_⟩
  · obtain ⟨item, before, after, region, constants, rest, hitem, -, hcut, hread, hconstants⟩ :=
      hcarries plaqueFile file_plaque
    refine ⟨_, region, rest, hcut, ?_⟩
    have hname : item.name = "Plaque" := by
      cases hitem
      decide
    rw [← hname, hread, hname, constants_of_plaque hconstants]
    rfl
  · obtain ⟨file, body, hfile, hbody, -, hdescribed⟩ := hdescribes _ emitMessage_plaque
    obtain rfl : plaqueFile = file := Except.ok.inj (file_plaque.symm.trans hfile)
    obtain ⟨-, hformatted⟩ := Code.Formatter.boxes_eq_some_iff.1 hbody
    obtain ⟨item, before, after, front, region, constants, rest, hitem, -, hcut, -, hread,
      hconstants⟩ := hdescribed (Code.Formatter.laysOut_boxes plaqueFile)
    rw [hformatted] at hcut
    refine ⟨front, region, rest, hcut, ?_⟩
    have hname : item.typeName = "Plaque" := by
      cases hitem
      decide
    rw [hread, hname, constants_of_plaque hconstants]
    rfl
  · obtain ⟨other, -, -, -, -, hsame, hregister⟩ := hregisters (by decide)
    obtain rfl : other = plaque := hsame rfl
    exact hregister _ _ rfl rfl rfl

end Garden

end Missive
