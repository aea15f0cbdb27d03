import Missive.Proofs.Outlines
/-!
# What emitted files bring in

The unformatted text of a file is read as the items that its lines are written for, and nothing
else, as long as the names in it are bland and each line of documentation is one line.

* `MessageItem.IsBalanced` -- a message whose names and values leave no bracket open;
* `Message.isBalanced_of_item` -- so is every message of a definition;
* `MessageItem.headlines`, `ServiceItem.headlines`, `File.headlines` -- the lines that open the
  items of a file;
* `File.items?_raw` -- the items of a file are these.
-/

namespace Missive.Code

/-! ## Types and values -/

section

variable {element : TypeRef}

/-- A phrase in front of a mark and another phrase. -/
theorem IsPhrase.join {a b : List Char} (ha : IsPhrase a) {mark : String}
    (hstart : mark.toList.head?.any (fun c => !isLetter c && c != '"') = true)
    (hturns : turns? 0 mark.toList = some 0) (hb : IsPhrase b) :
    IsPhrase (a ++ (mark.toList ++ b)) := by
  rw [← List.append_assoc]
  exact (ha.endsWith hstart hturns).phrase hb

/-- Phrases with commas between them. -/
theorem isPhrase_intercalate {texts : List String} (h : ∀ text ∈ texts, IsPhrase text.toList) :
    IsPhrase (", ".intercalate texts).toList := by
  induction texts with
  | nil => exact isPhrase_of_inner fun c => nofun
  | cons first rest ih =>
    obtain ⟨hfirst, hrest⟩ := List.forall_mem_cons.1 h
    cases rest with
    | nil => exact hfirst
    | cons second later =>
      rw [String.intercalate_cons_cons]
      simp only [String.toList_append, List.append_assoc]
      exact hfirst.join rfl rfl (ih hrest)

theorem isPhrase_digits (n : Nat) : IsPhrase n.repr.toList := by
  rw [Nat.repr_eq_ofList_toDigits, String.toList_ofList]
  exact isPhrase_of_inner fun c hc =>
    inner_of_class (p := Decimal.isNumeralChar) (by decide) (Decimal.toDigits_over n c hc)

theorem isPhrase_source (h : element.IsPlain) : IsPhrase element.source.toList :=
  isPhrase_of_over (by decide) (TypeRef.source_over h)

theorem isPhrase_zeroSource (h : element.IsPlain) : IsPhrase element.zeroSource.toList := by
  have hmessage (hsource : IsPhrase element.source.toList) :
      IsPhrase (element.source ++ "::default()").toList := by
    rw [String.toList_append]
    exact (hsource.endsWith rfl rfl).isPhrase
  cases element with
  | primitive p =>
    have hnumber {text : String} (hall : text.toList.all isInner = true) : IsPhrase text.toList :=
      isPhrase_of_inner (List.all_eq_true.1 hall)
    have hcall {text : String} (hturns : turns? 0 text.toList = some 0) : IsPhrase text.toList :=
      (moves_of_turns hturns).isPhrase
    cases p with
    | string | time | duration => exact hcall rfl
    | _ => exact hnumber rfl
  | own name => exact hmessage (isPhrase_source h)
  | foreign package name => exact hmessage (isPhrase_source h)

/-- The type of a member. -/
theorem isPhrase_memberType {type : MemberType} (h : type.element.IsPlain) :
    IsPhrase type.raw.toList := by
  have hsource := isPhrase_source h
  cases type with
  | plain element => exact hsource
  | vector element =>
    show IsPhrase ("Vec<" ++ element.source ++ ">").toList
    simp only [String.toList_append, List.append_assoc]
    exact ((hsource.endsWith rfl rfl).given rfl).isPhrase
  | array element count =>
    show IsPhrase ("[" ++ element.source ++ "; " ++ count.repr ++ "]").toList
    simp only [String.toList_append, List.append_assoc]
    have hend : Moves 1 0 (count.repr.toList ++ "]".toList) :=
      (isPhrase_digits count).endsWith rfl rfl
    exact ((hsource.andThen rfl rfl hend).given rfl).isPhrase

/-- The first value of a member. -/
theorem isPhrase_initial {f : Field} (h : f.IsPlain) : IsPhrase f.initial.raw.toList := by
  have hzero := isPhrase_zeroSource h.type
  rw [Field.initial]
  split
  · exact hzero
  · have hempty : Moves 0 0 "Vec::new()".toList := moves_of_turns rfl
    exact hempty.isPhrase
  · rename_i count _
    split_ifs
    · show IsPhrase ("[" ++ f.type.zeroSource ++ "; " ++ count.repr ++ "]").toList
      simp only [String.toList_append, List.append_assoc]
      have hend : Moves 1 0 (count.repr.toList ++ "]".toList) :=
        (isPhrase_digits count).endsWith rfl rfl
      exact ((hzero.andThen rfl rfl hend).given rfl).isPhrase
    · show IsPhrase ("std::array::from_fn(|_| " ++ f.type.zeroSource ++ ")").toList
      simp only [String.toList_append, List.append_assoc]
      exact ((hzero.endsWith rfl rfl).given rfl).isPhrase

end

/-! ## Statements -/

theorem isPhrase_of_all {text : String} (h : text.toList.all isInner = true) :
    IsPhrase text.toList :=
  isPhrase_of_inner (List.all_eq_true.1 h)

theorem isPhrase_tag (kind : Kind) : IsPhrase kind.tag.toList := by
  cases kind with
  | primitive p => cases p <;> exact isPhrase_of_all rfl
  | message => exact isPhrase_of_all rfl

theorem isPhrase_wrapped {family content : String} (kind : Kind) (hfamily : IsPhrase family.toList)
    (hcontent : IsPhrase content.toList) : IsPhrase (wrapped family kind content).toList := by
  show IsPhrase (family ++ "::" ++ kind.tag ++ "(" ++ content ++ ")").toList
  simp only [String.toList_append, List.append_assoc]
  have hend : Moves 1 0 (content.toList ++ ")".toList) := hcontent.endsWith rfl rfl
  exact (hfamily.andThen rfl rfl ((isPhrase_tag kind).andThen rfl rfl hend)).isPhrase

namespace WireCall

variable {c : WireCall}

/-- The call of a function of the runtime. -/
theorem isPhrase_rawCall (h : IsPhrase c.member.toList) : IsPhrase c.rawCall.toList := by
  have hplace : IsPhrase ("self." ++ c.member).toList := by
    rw [String.toList_append]
    exact (moves_of_turns rfl).phrase h
  have hkind : IsPhrase ("FieldKind::" ++ c.kind.tag).toList := by
    rw [String.toList_append]
    exact (moves_of_turns rfl).phrase (isPhrase_tag c.kind)
  have hborrowed {mark : String} (hturns : turns? 0 mark.toList = some 0) :
      IsPhrase (mark ++ ("self." ++ c.member)).toList := by
    rw [String.toList_append]
    exact (moves_of_turns hturns).phrase hplace
  have htaken : IsPhrase ("|item| " ++ wrapped "FieldMut" c.wrapper "item").toList := by
    rw [String.toList_append]
    exact (moves_of_turns rfl).phrase
      (isPhrase_wrapped c.wrapper (isPhrase_of_all rfl) (isPhrase_of_all rfl))
  have helement : IsPhrase (if byReference c.wrapper then "item" else "*item").toList := by
    split_ifs
    · exact isPhrase_of_all rfl
    · exact isPhrase_of_all rfl
  have hvalue : IsPhrase
      (if byReference c.wrapper then "&" ++ ("self." ++ c.member) else "self." ++ c.member).toList
      := by
    split_ifs
    · exact hborrowed rfl
    · exact hplace
  have hmapped : IsPhrase ("self." ++ c.member ++ ".iter().map(|item| "
      ++ wrapped "FieldRef" c.wrapper (if byReference c.wrapper then "item" else "*item")
      ++ ")").toList := by
    have hfamily : IsPhrase "FieldRef".toList := isPhrase_of_all rfl
    have hend : Moves 1 0 (_ ++ ")".toList) :=
      (isPhrase_wrapped c.wrapper hfamily helement).endsWith rfl rfl
    rw [String.toList_append, String.toList_append, String.toList_append, List.append_assoc,
      List.append_assoc]
    exact (hplace.andThen rfl rfl hend).isPhrase
  -- what is common to the five calls is the name, and arguments in parentheses
  have hcall {arguments : List String} (hall : ∀ text ∈ arguments, IsPhrase text.toList) :
      IsPhrase
        ("wire::" ++ c.transfer.name ++ "(" ++ ", ".intercalate arguments ++ ")").toList := by
    have hname : IsPhrase c.transfer.name.toList := by
      cases c.transfer <;> exact isPhrase_of_all rfl
    simp only [String.toList_append, List.append_assoc]
    have hend : Moves 1 0 (_ ++ ")".toList) := (isPhrase_intercalate hall).endsWith rfl rfl
    exact ((hname.andThen rfl rfl hend).given rfl).isPhrase
  rw [rawCall.eq_def]
  refine hcall ?_
  cases c.transfer with
  | writeField =>
    simp only [List.forall_mem_cons]
    exact ⟨isPhrase_of_all rfl, hkind,
      isPhrase_wrapped c.wrapper (isPhrase_of_all rfl) hvalue, nofun⟩
  | writeArray =>
    simp only [List.forall_mem_cons]
    exact ⟨isPhrase_of_all rfl, hkind, hmapped, nofun⟩
  | readField =>
    simp only [List.forall_mem_cons]
    exact ⟨isPhrase_of_all rfl, hkind,
      isPhrase_wrapped c.wrapper (isPhrase_of_all rfl) (hborrowed rfl), nofun⟩
  | readVector | readArray =>
    simp only [List.forall_mem_cons]
    exact ⟨isPhrase_of_all rfl, hkind, hborrowed rfl, htaken, nofun⟩

/-- The statement of a wire call, whatever its label is. -/
theorem movesLine_raw (h : IsPhrase c.member.toList) : MovesLine 0 0 c.raw := by
  rw [MovesLine, raw]
  simp only [String.toList_append, List.append_assoc]
  have hend : Moves 2 0 ((Text.Quoted.quote c.label).toList ++ ("))?;".toList ++ ['\n'])) :=
    (isPhrase_quote c.label).andThen rfl rfl (moves_of_turns rfl)
  exact (isPhrase_rawCall h).andThen rfl rfl hend

end WireCall

/-! ## Lines -/

/-- A line with a phrase between two given texts. -/
theorem IsPhrase.movesLine {i j k : Nat} {front text back : String} (h : IsPhrase text.toList)
    (hfront : turns? i front.toList = some j)
    (hstart : back.toList.head?.any (fun c => !isLetter c && c != '"') = true)
    (hback : turns? j back.toList = some k) : MovesLine i k (front ++ text ++ back) := by
  have hend : Moves k k ['\n'] := moves_of_turns rfl
  rw [MovesLine, String.toList_append, String.toList_append, List.append_assoc, List.append_assoc]
  exact (h.andThen hstart hback hend).given hfront

/-- Lines bring in the items that these headlines open, and no others. -/
def Brings (lines headlines : List String) : Prop :=
  ∀ items, (Outline.behind items).read (linesText lines).toList
    = Outline.behind (items ++ headlines.map words)

section

variable {lines more headlines others : List String}

theorem Brings.nil : Brings [] [] :=
  fun items => by rw [List.map_nil, List.append_nil]; rfl

theorem Brings.append (ha : Brings lines headlines) (hb : Brings more others) :
    Brings (lines ++ more) (headlines ++ others) := by
  intro items
  rw [toList_linesText_append, Outline.read_append, ha, hb, List.map_append, List.append_assoc]

theorem brings_flatMap {α : Type} {xs : List α} {f g : α → List String}
    (h : ∀ x ∈ xs, Brings (f x) (g x)) : Brings (xs.flatMap f) (xs.flatMap g) := by
  induction xs with
  | nil => exact .nil
  | cons x rest ih =>
    obtain ⟨hx, hrest⟩ := List.forall_mem_cons.1 h
    exact hx.append (ih hrest)

/-- A line of documentation. -/
theorem brings_note {note : String} (h : '\n' ∉ note.toList) : Brings ["///" ++ note] [] := by
  intro items
  have hslash : '\n' ∉ '/' :: note.toList := by
    simpa using h
  have htext : (linesText ["///" ++ note]).toList
      = '/' :: '/' :: ('/' :: note.toList ++ ['\n']) := by
    simp [linesText]
  rw [htext, Outline.read_comment items hslash, List.map_nil, List.append_nil]

theorem brings_attribute {inside : String} (h : turns? 0 inside.toList = some 0) :
    Brings ["#[" ++ inside ++ "]"] [] := by
  intro items
  have htext : (linesText ["#[" ++ inside ++ "]"]).toList
      = '#' :: '[' :: (inside.toList ++ [']', '\n']) := by
    simp [linesText]
  rw [htext, Outline.read_attribute items (moves_of_turns h), List.map_nil, List.append_nil]

/-- Words in front of a bland name. -/
theorem headline_over {front name : String} (hfront : front.toList.all isBland = true)
    (h : IsOver isBland name) : IsOver isBland (front ++ name) := by
  have hall : IsOver isBland front := List.all_eq_true.1 hfront
  exact hall.append h

/-- A block behind given words, which open no import, and a bland name. -/
theorem brings_block (front : String) {name : String} {body : List String}
    (hfront : front.toList.all isBland = true)
    (himport : ∀ cs, isImport (wordsFrom [] (front.toList ++ cs)) = false)
    (hname : IsOver isBland name) (hbody : MovesLines 0 0 body) :
    Brings ((front ++ name ++ " " ++ openBrace) :: (body ++ [closeBrace])) [front ++ name] := by
  have hwords : isImport (words (front ++ name)) = false := by
    rw [words, String.toList_append]
    exact himport name.toList
  exact fun items => Outline.read_block items (headline_over hfront hname) hwords hbody

end

/-! ## Messages -/

/-- A message leaves no bracket open, and quotes all texts that are in it. -/
structure MessageItem.IsBalanced (m : MessageItem) : Prop where
  members : ∀ p ∈ m.members, IsPhrase p.1.toList ∧ IsPhrase p.2.raw.toList
  initials : ∀ p ∈ m.initials, IsPhrase p.1.toList ∧ IsPhrase p.2.raw.toList
  constants : ∀ c ∈ m.constants, MovesLine 0 0 c.line
  writes : ∀ c ∈ m.writes, IsPhrase c.member.toList
  reads : ∀ c ∈ m.reads, IsPhrase c.member.toList

/-- The lines that open the items of a message. -/
def MessageItem.headlines (m : MessageItem) : List String :=
  ["pub struct " ++ m.name, "impl Default for " ++ m.name, "impl " ++ m.name,
    "impl Message for " ++ m.name]

/-- The lines that open the items of a service. -/
def ServiceItem.headlines (s : ServiceItem) : List String :=
  ["pub struct " ++ s.name, "impl Service for " ++ s.name]

/-- Quoted texts in a row. -/
theorem isPhrase_rawLiterals (fullName text md5sum : String) :
    IsPhrase (rawLiterals fullName text md5sum).toList := by
  refine isPhrase_intercalate ?_
  simp only [List.forall_mem_cons]
  exact ⟨isPhrase_quote _, isPhrase_quote _, isPhrase_quote _, nofun⟩

namespace MessageItem

variable {m : MessageItem}

theorem isPhrase_name (h : IsOver isBland m.name) : IsPhrase m.name.toList :=
  isPhrase_of_inner fun c hc => inner_of_bland (h c hc)

theorem brings_attributes (m : MessageItem) : Brings m.attributes [] := by
  have hderive : Brings ["#[" ++ "derive(Debug, Clone, PartialEq)" ++ "]"] [] :=
    brings_attribute rfl
  have hallow : Brings ["#[" ++ "allow(non_snake_case)" ++ "]"] [] :=
    brings_attribute rfl
  rw [attributes]
  split_ifs
  · exact hderive.append hallow
  · exact hderive

theorem brings_struct (h : m.IsBalanced) (hname : IsOver isBland m.name)
    (hnote : '\n' ∉ m.summary.toList) : Brings m.structLines ["pub struct " ++ m.name] := by
  have hmembers : MovesLines 0 0 (m.members.map fun p =>
      indented 1 ("pub " ++ p.1 ++ ": " ++ p.2.raw ++ ",")) := by
    refine movesLines_map (fun p hmem => ?_) 0
    obtain ⟨hmember, htype⟩ := h.members p hmem
    refine MovesLine.indented ?_ 1
    rw [MovesLine]
    simp only [String.toList_append, List.append_assoc]
    have hend : Moves 0 0 (p.2.raw.toList ++ (",".toList ++ ['\n'])) :=
      htype.andThen rfl rfl (moves_of_turns rfl)
    exact (hmember.andThen rfl rfl hend).given rfl
  have hblock := brings_block "pub struct " rfl (fun _ => rfl) hname hmembers
  have hall := ((brings_note hnote).append m.brings_attributes).append hblock
  simpa [structLines] using hall

/-- The name of a message in front of the brace of a block. -/
theorem movesLine_open (hname : IsOver isBland m.name) (depth : Nat) :
    MovesLine depth (depth + 1) (m.name ++ " " ++ openBrace) := by
  have hend : Moves 0 1 (m.name.toList ++ (" ".toList ++ (openBrace.toList ++ ['\n']))) :=
    (isPhrase_name hname).andThen rfl rfl (moves_of_turns rfl)
  rw [MovesLine]
  simp only [String.toList_append, List.append_assoc]
  have hmoves := hend.shift depth
  rwa [Nat.zero_add, Nat.add_comm 1 depth] at hmoves

theorem brings_default (h : m.IsBalanced) (hname : IsOver isBland m.name) :
    Brings m.defaultLines ["impl Default for " ++ m.name] := by
  have hinitials : MovesLines 2 2 (m.initials.map fun p =>
      indented 3 (p.1 ++ ": " ++ p.2.raw ++ ",")) := by
    refine movesLines_map (fun p hmem => ?_) 2
    obtain ⟨hmember, hvalue⟩ := h.initials p hmem
    refine MovesLine.indented ?_ 3
    rw [MovesLine]
    simp only [String.toList_append, List.append_assoc]
    have hend : Moves 0 0 (p.2.raw.toList ++ (",".toList ++ ['\n'])) :=
      hvalue.andThen rfl rfl (moves_of_turns rfl)
    exact hmember.andThen rfl rfl hend
  have hfront : MovesLines 0 2 [indented 1 ("fn default() -> Self " ++ openBrace),
      indented 2 (m.name ++ " " ++ openBrace)] :=
    .cons ((movesLine_given rfl).indented 1) (.cons ((movesLine_open hname 1).indented 2) .nil)
  have hback : MovesLines 2 0 [indented 2 closeBrace, indented 1 closeBrace] :=
    .cons ((movesLine_given rfl).indented 2) (.cons ((movesLine_given rfl).indented 1) .nil)
  have hblock := brings_block "impl Default for " rfl (fun _ => rfl) hname
    ((hfront.append hinitials).append hback)
  simpa [defaultLines] using hblock

theorem brings_inherent (h : m.IsBalanced) (hname : IsOver isBland m.name) :
    Brings m.inherentLines ["impl " ++ m.name] := by
  have hdescriptor : MovesLine 0 0
      ("pub const MESSAGE_TYPE: &'static MessageType = &MessageType::new("
        ++ rawLiterals m.fullName m.text m.md5sum ++ ", " ++ m.name ++ "::new_boxed);") := by
    rw [MovesLine]
    simp only [String.toList_append, List.append_assoc]
    have hend : Moves 1 0 (m.name.toList ++ ("::new_boxed);".toList ++ ['\n'])) :=
      (isPhrase_name hname).andThen rfl rfl (moves_of_turns rfl)
    exact ((isPhrase_rawLiterals _ _ _).andThen rfl rfl hend).given (by decide)
  have hboxed : MovesLine 1 1 ("Box::new(" ++ m.name ++ "::default())") :=
    (isPhrase_name hname).movesLine rfl rfl rfl
  have hconstants : MovesLines 0 0 (m.constants.map ConstantItem.line) :=
    movesLines_map h.constants 0
  have hback : MovesLines 0 0 [indented 1 ("fn new_boxed() -> Box<dyn Message> " ++ openBrace),
      indented 2 ("Box::new(" ++ m.name ++ "::default())"), indented 1 closeBrace] :=
    .cons ((movesLine_given rfl).indented 1)
      (.cons (hboxed.indented 2) (.cons ((movesLine_given rfl).indented 1) .nil))
  have hblock := brings_block "impl " rfl (fun _ => rfl) hname
    (.cons (hdescriptor.indented 1) (hconstants.append hback))
  simpa [inherentLines] using hblock

theorem brings_coding (h : m.IsBalanced) (hname : IsOver isBland m.name) :
    Brings m.codingLines ["impl Message for " ++ m.name] := by
  have hwrites : MovesLines 1 1 (m.writes.map fun c => indented 2 c.raw) :=
    movesLines_map (fun c hc => (WireCall.movesLine_raw (h.writes c hc)).indented 2) 1
  have hreads : MovesLines 1 1 (m.reads.map fun c => indented 2 c.raw) :=
    movesLines_map (fun c hc => (WireCall.movesLine_raw (h.reads c hc)).indented 2) 1
  have hsinkName : IsPhrase m.sinkName.toList := by
    rw [sinkName]
    split_ifs
    · exact isPhrase_of_all rfl
    · exact isPhrase_of_all rfl
  have hsink : MovesLine 0 1 ("fn serialize(&self, " ++ m.sinkName
      ++ (": &mut dyn Write) -> Result<(), WireError> " ++ openBrace)) :=
    hsinkName.movesLine rfl rfl rfl
  have hsourceName : IsPhrase m.sourceName.toList := by
    rw [sourceName]
    split_ifs
    · exact isPhrase_of_all rfl
    · exact isPhrase_of_all rfl
  have hsource : MovesLine 0 1 ("fn deserialize(&mut self, " ++ m.sourceName
      ++ (": &mut dyn Read) -> Result<(), WireError> " ++ openBrace)) :=
    hsourceName.movesLine rfl rfl rfl
  have hclose : MovesLine 1 0 (indented 1 closeBrace) :=
    (movesLine_given rfl).indented 1
  have hdone : MovesLines 1 0 [indented 2 "Ok(())", indented 1 closeBrace] :=
    .cons ((movesLine_given rfl).indented 2) (.cons hclose .nil)
  have htype : MovesLines 0 0
      [indented 1 ("fn message_type(&self) -> &'static MessageType " ++ openBrace),
        indented 2 "Self::MESSAGE_TYPE", indented 1 closeBrace] :=
    .cons ((movesLine_given rfl).indented 1)
      (.cons ((movesLine_given rfl).indented 2) (.cons hclose .nil))
  have hserialize : MovesLines 0 0 _ := .cons (hsink.indented 1) (hwrites.append hdone)
  have hdeserialize : MovesLines 0 0 _ := .cons (hsource.indented 1) (hreads.append hdone)
  have hblock := brings_block "impl Message for " rfl (fun _ => rfl) hname
    ((htype.append hserialize).append hdeserialize)
  simpa [codingLines, String.append_assoc] using hblock

/-- A message brings in its struct, its default value, its constants and its coding functions. -/
theorem brings_lines (h : m.IsBalanced) (hname : IsOver isBland m.name)
    (hnote : '\n' ∉ m.summary.toList) : Brings m.lines m.headlines :=
  (((brings_struct h hname hnote).append (brings_default h hname)).append
    (brings_inherent h hname)).append (brings_coding h hname)

end MessageItem

/-! ## Services -/

/-- A service brings in its marker, and what it says of itself. -/
theorem ServiceItem.brings_lines {s : ServiceItem} (hname : IsOver isBland s.name)
    (hrequest : IsOver isBland s.request) (hresponse : IsOver isBland s.response)
    (hnote : '\n' ∉ s.summary.toList) : Brings s.lines s.headlines := by
  have hphrase {name : String} (h : IsOver isBland name) : IsPhrase name.toList :=
    isPhrase_of_inner fun c hc => inner_of_bland (h c hc)
  have hattribute :
      Brings ["#[" ++ "derive(Debug, Clone, Copy, Default, PartialEq, Eq)" ++ "]"] [] :=
    brings_attribute rfl
  have hmarker : Brings ["pub struct " ++ s.name ++ ";"] ["pub struct " ++ s.name] := by
    intro items
    have htext : (linesText ["pub struct " ++ s.name ++ ";"]).toList
        = ("pub struct " ++ s.name).toList ++ [';', '\n'] := by
      simp [linesText]
    rw [htext]
    exact Outline.read_marker items (headline_over rfl hname)
  have htype {front name : String} (hfront : turns? 0 front.toList = some 0)
      (h : IsOver isBland name) : MovesLine 0 0 (front ++ name ++ ";") :=
    (hphrase h).movesLine hfront rfl rfl
  have hdescriptor : MovesLine 0 0
      ("const SERVICE_TYPE: &'static ServiceType = &ServiceType::new("
        ++ rawLiterals s.fullName s.text s.md5sum ++ ", " ++ s.request ++ "::MESSAGE_TYPE, "
        ++ s.response ++ "::MESSAGE_TYPE);") := by
    rw [MovesLine]
    simp only [String.toList_append, List.append_assoc]
    have hend : Moves 1 0 (s.response.toList ++ ("::MESSAGE_TYPE);".toList ++ ['\n'])) :=
      (hphrase hresponse).andThen rfl rfl (moves_of_turns rfl)
    exact ((isPhrase_rawLiterals _ _ _).andThen rfl rfl
      ((hphrase hrequest).andThen rfl rfl hend)).given (by decide)
  have hbody : MovesLines 0 0 [indented 1 ("type Request = " ++ s.request ++ ";"),
      indented 1 ("type Response = " ++ s.response ++ ";"), indented 1 _] :=
    .cons ((htype rfl hrequest).indented 1)
      (.cons ((htype rfl hresponse).indented 1) (.cons (hdescriptor.indented 1) .nil))
  have hblock := brings_block "impl Service for " rfl (fun _ => rfl) hname hbody
  have hall := (((brings_note hnote).append hattribute).append hmarker).append hblock
  simpa [lines, headlines, serviceAttribute] using hall

/-! ## Imports -/

/-- Characters of what an import names, with the braces around a group of names. -/
def isListed (c : Char) : Bool :=
  isBland c || c == '{' || c == '}'

theorem listed_of_bland {text : String} (h : IsOver isBland text) : IsOver isListed text :=
  h.mono fun c hc => by rw [isListed, hc]; rfl

/-- A line that imports what is named between the keyword and the semicolon. -/
theorem brings_import {named : String} (h : IsOver isListed named) :
    Brings ["use " ++ named ++ ";"] ["use " ++ named ++ ";"] := by
  intro items
  have htext : (linesText ["use " ++ named ++ ";"]).toList
      = ("use " ++ named ++ ";").toList ++ ['\n'] := by
    simp [linesText]
  rw [htext]
  refine Outline.read_import items fun c hc => ?_
  have hlisted := h c hc
  simpa [isListed, or_assoc] using hlisted

theorem brings_groupLine {path : String} {names : List String} (hpath : IsOver isBland path)
    (hnames : IsOver isBland (", ".intercalate names)) :
    Brings [groupLine path names] [groupLine path names] := by
  have hopen : IsOver isListed ("::" ++ openBrace) := List.all_eq_true.1 rfl
  have hclose : IsOver isListed closeBrace := List.all_eq_true.1 rfl
  have hbrings := brings_import
    ((((listed_of_bland hpath).append hopen).append (listed_of_bland hnames)).append hclose)
  have hline : groupLine path names
      = "use " ++ (path ++ ("::" ++ openBrace) ++ ", ".intercalate names ++ closeBrace) ++ ";" := by
    simp only [groupLine, String.append_assoc]
  rwa [hline]

theorem ModuleImport.brings_line {i : ModuleImport} (hpath : IsOver isBland i.path)
    (halias : ∀ name ∈ i.alias?, IsOver isBland name) : Brings [i.line] [i.line] := by
  rw [line]
  split
  · exact brings_import (listed_of_bland hpath)
  · rename_i name hname
    have has : IsOver isBland " as " := List.all_eq_true.1 rfl
    have hbrings := brings_import (listed_of_bland ((hpath.append has).append (halias name hname)))
    have hline : "use " ++ i.path ++ " as " ++ name ++ ";"
        = "use " ++ (i.path ++ " as " ++ name) ++ ";" := by
      simp only [String.append_assoc]
    rwa [hline]

theorem brings_siblingLine {name : String} (h : IsOver isBland name) :
    Brings [siblingLine name] [siblingLine name] := by
  have hsuper : IsOver isBland "super::" := List.all_eq_true.1 rfl
  have hbrings := brings_import (listed_of_bland (hsuper.append h))
  have hline : siblingLine name = "use " ++ ("super::" ++ name) ++ ";" := by
    rw [siblingLine, ← String.append_assoc]
    rfl
  rwa [hline]

theorem brings_map {α : Type} {xs : List α} {line : α → String}
    (h : ∀ x ∈ xs, Brings [line x] [line x]) : Brings (xs.map line) (xs.map line) := by
  have hlines := brings_flatMap h
  rwa [← List.map_eq_flatMap] at hlines

/-! ## Files -/

namespace File

variable {f : File}

/-- The lines that open the items of a file: all of its imports, four for each message and two for
the service. -/
def headlines (f : File) : List String :=
  f.importLines ++ f.messages.flatMap MessageItem.headlines
    ++ f.service.toList.flatMap ServiceItem.headlines

/-- The names in a file are bland, its documentation is one line for each definition, and its
messages are balanced. -/
structure IsBland (f : File) : Prop where
  runtime : IsOver isBland f.runtime
  names : IsOver isBland (", ".intercalate f.names)
  paths : ∀ i ∈ f.modules, IsOver isBland i.path
  aliases : ∀ i ∈ f.modules, ∀ name ∈ i.alias?, IsOver isBland name
  siblings : ∀ name ∈ f.siblings, IsOver isBland name
  messages : ∀ m ∈ f.messages, IsOver isBland m.name ∧ '\n' ∉ m.summary.toList ∧ m.IsBalanced
  service : ∀ s ∈ f.service, IsOver isBland s.name ∧ IsOver isBland s.request ∧
    IsOver isBland s.response ∧ '\n' ∉ s.summary.toList

theorem brings_importLines (h : f.IsBland) : Brings f.importLines f.importLines := by
  have hwire : IsOver isBland "::wire" := List.all_eq_true.1 rfl
  have hstream : IsOver isBland streamPath := List.all_eq_true.1 rfl
  have hstreams : IsOver isBland (", ".intercalate streamNames) := List.all_eq_true.1 rfl
  have hgroups := (brings_groupLine (h.runtime.append hwire) h.names).append
    (brings_groupLine hstream hstreams)
  have hmodules : Brings (f.modules.map ModuleImport.line) (f.modules.map ModuleImport.line) :=
    brings_map fun i hi => i.brings_line (h.paths i hi) (h.aliases i hi)
  have hsiblings : Brings (f.siblings.map siblingLine) (f.siblings.map siblingLine) :=
    brings_map fun name hname => brings_siblingLine (h.siblings name hname)
  exact (hgroups.append hmodules).append hsiblings

theorem brings_lines (h : f.IsBland) : Brings f.lines f.headlines := by
  have hmessages : Brings (f.messages.flatMap MessageItem.lines)
      (f.messages.flatMap MessageItem.headlines) :=
    brings_flatMap fun m hm =>
      MessageItem.brings_lines (h.messages m hm).2.2 (h.messages m hm).1 (h.messages m hm).2.1
  have hfront := (brings_importLines h).append hmessages
  rw [lines, headlines]
  split
  · rename_i hnone
    rw [hnone]
    exact hfront.append .nil
  · rename_i s hs
    obtain ⟨hname, hrequest, hresponse, hnote⟩ := h.service s hs
    rw [hs, Option.toList_some, List.flatMap_singleton]
    exact hfront.append (ServiceItem.brings_lines hname hrequest hresponse hnote)

/-- **The items of a file.**  The unformatted text of a bland file is read as the items that its
templates open, in this order. -/
theorem items?_raw (h : f.IsBland) : Outline.items? f.raw = some (f.headlines.map words) := by
  have hread := brings_lines h []
  have hraw : f.raw = linesText f.lines := rfl
  have hend : (Outline.behind []).read (f.raw.toList ++ ['\n'])
      = Outline.behind (f.headlines.map words) := by
    rw [hraw, Outline.read_append, hread]
    rfl
  rw [Outline.items?, hend]
  rfl

end File

end Missive.Code

/-! ## Definitions -/

namespace Missive

open Code (IsPhrase MovesLine)

/-- The line of a constant, whatever its value is. -/
theorem Constant.movesLine_item {c : Constant} {item : Code.ConstantItem}
    (hname : Code.IsOver isNameChar c.name) (h : c.item = .ok item) : MovesLine 0 0 item.line := by
  obtain ⟨p, written, -, hwritten, -, rfl⟩ := item_eq_ok h
  have hsource : IsPhrase c.sourceName.toList :=
    Code.isPhrase_of_over (by decide) (sourceName_over hname)
  have htype : IsPhrase (if p = .string then textSource else p.source).toList := by
    cases p <;> exact Code.isPhrase_of_all rfl
  have hliteral : IsPhrase written.toList := by
    rcases literalOf_over hwritten with ⟨-, rfl⟩ | ⟨-, hover⟩
    · exact Code.isPhrase_quote _
    · exact Code.isPhrase_of_over (by decide) hover
  refine MovesLine.indented ?_ 1
  rw [MovesLine]
  simp only [String.toList_append, List.append_assoc]
  have hend : Code.Moves 0 0 (written.toList ++ (";".toList ++ ['\n'])) :=
    hliteral.andThen rfl rfl (Code.moves_of_turns rfl)
  exact (hsource.andThen rfl rfl (htype.andThen rfl rfl hend)).given rfl

/-- The code of a message with plain names is balanced. -/
theorem Message.isBalanced_of_item {m : Message} {item : Code.MessageItem} (h : m.IsPlain)
    (hitem : m.item = .ok item) : item.IsBalanced := by
  obtain ⟨constants, hconstants, rfl⟩ := item_eq_ok_iff.1 hitem
  have hmember (f : Field) (hf : f ∈ m.fields) : IsPhrase f.member.toList :=
    Code.isPhrase_of_over (by decide) (Code.memberName_over (h.fields f hf).name)
  constructor
  · rw [List.forall_mem_map]
    intro f hf
    refine ⟨hmember f hf, Code.isPhrase_memberType ?_⟩
    rw [f.memberType_element]
    exact (h.fields f hf).type
  · rw [List.forall_mem_map]
    exact fun f hf => ⟨hmember f hf, Code.isPhrase_initial (h.fields f hf)⟩
  · intro c hc
    obtain ⟨constant, hmem, hline⟩ := Except.exists_of_mem_mapM hconstants hc
    exact constant.movesLine_item (h.constants constant hmem) hline
  · rw [List.forall_mem_map]
    exact hmember
  · rw [List.forall_mem_map]
    exact hmember

end Missive
