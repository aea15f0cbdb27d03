import Missive.Proofs.Bindings
import Missive.Proofs.Casing
import Missive.Proofs.Contents
import Missive.Proofs.FileChanges
import Missive.Proofs.Imports
import Missive.Proofs.Layouts
/-!
# What names bring into emitted files

Names, paths and texts from outside stand in the banner of an emitted file, in its documentation,
in literals, in types and in imports.  A line feed in the name of a source ends the comment that it
stands in, and so does one in the name of a package; a semicolon in the path of a module ends the
import; a comment that is opened by a name goes on behind it.  Apart from this, a file brings in
what its templates open, and nothing else, whichever formatter writes it.

* `banner_comments_iff`, `Code.Outline.read_banner` -- the banner is a comment;
* `Resolver.isBland_of_message`, `Resolver.isBland_of_service` -- files for bland names and paths;
* `Code.Formatter.KeepsItems` -- what is asked of a formatter;
* `Config.items_of_generate` -- the items of generated code.
-/

namespace Missive

open Code (IsOver isBland linesText)

/-! ## Banners -/

/-- A word in front of a text is in front of its first piece. -/
theorem Text.pieces_front {separator : Char} {word : List Char} (h : separator ∉ word)
    {cs first : List Char} {later : List (List Char)} (hcs : pieces separator cs = first :: later) :
    pieces separator (word ++ cs) = (word ++ first) :: later := by
  induction word with
  | nil => exact hcs
  | cons c rest ih =>
    rw [List.mem_cons, not_or] at h
    rw [List.cons_append, pieces, if_neg (Ne.symm h.1), ih h.2]
    rfl

/-- A line is empty or a comment. -/
def IsCommentLine (line : List Char) : Prop :=
  line = [] ∨ ['/', '/'] <+: line

/-- The banner, line by line. -/
theorem toList_banner (source : String) : (banner source).toList =
    "// Code generated by rosgen.".toList ++ '\n' :: (("// source: ".toList ++ source.toList) ++
      '\n' :: ("// DO NOT EDIT!".toList ++ ['\n', '\n'])) := by
  have htop : "// Code generated by " ++ programName ++ ".\n// source: "
      = "// Code generated by rosgen." ++ "\n" ++ "// source: " := by
    decide
  have hend : "\n// DO NOT EDIT!\n\n" = "\n" ++ "// DO NOT EDIT!" ++ "\n\n" := by
    decide
  have hbanner : banner source = "// Code generated by rosgen." ++ "\n" ++ "// source: " ++ source
      ++ ("\n" ++ "// DO NOT EDIT!" ++ "\n\n") :=
    congrArg₂ (fun top bottom => top ++ source ++ bottom) htop hend
  rw [hbanner]
  simp only [String.toList_append, List.append_assoc]
  rfl

/-- The lines of a banner are empty or comments exactly if those of the source's name are, from the
second one on. -/
theorem banner_comments_iff (source : String) :
    (∀ line ∈ Text.pieces '\n' (banner source).toList, IsCommentLine line) ↔
      ∀ line ∈ (Text.pieces '\n' source.toList).tail, IsCommentLine line := by
  obtain ⟨first, later, hsource⟩ :=
    List.exists_cons_of_ne_nil (Text.pieces_ne_nil '\n' source.toList)
  have hfront : Text.pieces '\n' "// Code generated by rosgen.".toList
      = ["// Code generated by rosgen.".toList] :=
    Text.pieces_of_not_mem (by decide)
  have hend : Text.pieces '\n' ("// DO NOT EDIT!".toList ++ ['\n', '\n'])
      = ["// DO NOT EDIT!".toList, [], []] := by
    decide
  rw [toList_banner, Text.pieces_append, hfront, Text.pieces_append,
    Text.pieces_front (by decide) hsource, hend, hsource, List.tail_cons]
  constructor
  · intro h line hline
    exact h line (by simp [hline])
  · intro h line hline
    simp only [List.mem_append, List.mem_cons, List.not_mem_nil, or_false] at hline
    rcases hline with rfl | (rfl | hline) | rfl | rfl | rfl
    · exact .inr ⟨_, rfl⟩
    · exact .inr ⟨_, rfl⟩
    · exact h line hline
    · exact .inr ⟨_, rfl⟩
    · exact .inl rfl
    · exact .inl rfl

/-- If the name of a source is one line, then its banner leaves no trace. -/
theorem Code.Outline.read_banner {source : String} (h : '\n' ∉ source.toList) :
    (behind []).read (banner source).toList = behind [] := by
  have htop : "// Code generated by rosgen.".toList
      = '/' :: '/' :: " Code generated by rosgen.".toList := by
    decide
  have hmiddle : "// source: ".toList = '/' :: '/' :: " source: ".toList := by
    decide
  have hend : "// DO NOT EDIT!".toList = '/' :: '/' :: " DO NOT EDIT!".toList := by
    decide
  have hsource : '\n' ∉ " source: ".toList ++ source.toList := by
    rw [List.mem_append, not_or]
    exact ⟨by decide, h⟩
  have hlines : (banner source).toList
      = '/' :: '/' :: (" Code generated by rosgen.".toList ++ ['\n'])
        ++ ('/' :: '/' :: ((" source: ".toList ++ source.toList) ++ ['\n'])
          ++ ('/' :: '/' :: (" DO NOT EDIT!".toList ++ ['\n']) ++ ['\n'])) := by
    rw [toList_banner, htop, hmiddle, hend]
    simp only [List.append_assoc, List.cons_append, List.nil_append]
  rw [hlines, read_append, read_append, read_append, read_comment [] (by decide),
    read_comment [] hsource, read_comment [] (by decide)]
  rfl

/-! ## Plain names -/

theorem bland_of_name {text : String} (h : IsOver isNameChar text) : IsOver isBland text := by
  refine h.mono fun c hc => Code.bland_iff.2 ⟨Code.inner_of_class (by decide) hc, ?_, ?_⟩
  · rintro rfl
    exact absurd hc (by decide)
  · rintro rfl
    exact absurd hc (by decide)

theorem isBland_of_mem_expand (c : Char) (h : isBland c = true) :
    ∀ d ∈ Text.Uppercase.expand c, isBland d = true := by
  -- no mark is a capital letter or above ASCII
  have hmarks : (Code.outerMarks ++ [';', '=']).all (fun d => !d.isUpper && d.toNat < 0x80) :=
    rfl
  intro d hd
  rcases Text.Uppercase.eq_or_of_mem_expand hd with rfl | hother
  · exact h
  · by_contra hbland
    have hmem : d ∈ Code.outerMarks ++ [';', '='] := by
      by_contra hnot
      simp only [List.mem_append, List.mem_cons, List.not_mem_nil, or_false, not_or] at hnot
      have hinner : Code.isInner d = true := by
        simpa [Code.isInner] using hnot.1
      exact hbland (Code.bland_iff.2 ⟨hinner, hnot.2⟩)
    have hmark := List.all_eq_true.1 hmarks d hmem
    rw [Bool.and_eq_true, Bool.not_eq_true', decide_eq_true_eq] at hmark
    rcases hother with hother | hother
    · rw [hmark.1] at hother
      cases hother
    · omega

/-- The name of a type is bland if that of the definition is. -/
theorem Name.camel_bland {name : String} (h : IsOver isBland name) : IsOver isBland (camel name) :=
  camel_of_class isBland_of_mem_expand h

/-- The type of a declared field is made of the characters of types. -/
theorem Declaration.type_over {line : List Char} {type name trailer : String}
    {count : Option String} (h : read? line = some (.field type count name trailer)) :
    IsOver isTypeChar type := by
  obtain ⟨hconstant, l, rfl⟩ := read?_eq_field_iff.1 ⟨_, _, _, _, h⟩
  rw [read?, constant?_eq_none hconstant, field?_text] at h
  cases h
  exact Code.isOver_ofList l.type_run.all

namespace Resolver

variable {r : Resolver}

theorem foreignPackage?_over {line : List Char} {d : Declaration} {package : String}
    (hread : Declaration.read? line = some d) (h : r.foreignPackage? d = some package) :
    IsOver isNameChar package := by
  cases d with
  | constant type name value => cases h
  | field type count name trailer =>
    rw [foreignPackage?] at h
    cases htype : r.typeRef type with
    | error e =>
      rw [htype] at h
      cases h
    | ok ref =>
      rw [htype] at h
      have hplain := typeRef_plain (Declaration.type_over hread) htype
      cases ref with
      | primitive p => cases h
      | own name => cases h
      | foreign owner name =>
        cases h
        exact hplain.1

theorem over_of_offer {package value text : String}
    (h : value ∈ (r.fieldsOf package text).filterMap (r.offer? package)) :
    IsOver isNameChar package := by
  obtain ⟨d, hd, -⟩ := List.mem_filterMap.1 h
  obtain ⟨hread, hforeign⟩ := List.mem_filter.1 hd
  obtain ⟨line, -, hline⟩ := List.mem_filterMap.1 hread
  exact foreignPackage?_over hline (of_decide_eq_true hforeign)

/-- The packages that a definition imports have plain names. -/
theorem package_over {name text : String} {m : Message} (h : r.readMessageText name text = .ok m) :
    ∀ package ∈ m.dependencies.keys, IsOver isNameChar package := by
  intro package hpackage
  obtain ⟨value, -, hfind⟩ := Dictionary.exists_of_mem_keys hpackage
  rw [r.find?_dependencies h] at hfind
  exact over_of_offer (List.mem_of_getLast? hfind)

theorem service_package_over {name text : String} {s : Service}
    (h : r.readServiceText name text = .ok s) :
    ∀ package ∈ s.dependencies.keys, IsOver isNameChar package := by
  intro package hpackage
  obtain ⟨value, -, hfind⟩ := Dictionary.exists_of_mem_keys hpackage
  rw [r.find?_serviceDependencies h, List.filterMap_append] at hfind
  rcases List.mem_append.1 (List.mem_of_getLast? hfind) with hmem | hmem
  · exact over_of_offer hmem
  · exact over_of_offer hmem

end Resolver

theorem Message.sibling_over {m : Message} (h : m.IsPlain) :
    ∀ name ∈ m.siblings, IsOver isNameChar name := by
  intro name hname
  obtain ⟨f, hf, hsibling⟩ := List.mem_filterMap.1 hname
  have htype := (h.fields f hf).type
  rw [Field.sibling?] at hsibling
  split at hsibling
  · rename_i own heq
    cases hsibling
    rw [heq] at htype
    exact Name.camel_over htype
  · cases hsibling

/-! ## Files of requests -/

theorem runtimeNames_bland (hasFields isService : Bool) :
    IsOver isBland (", ".intercalate (runtimeNames hasFields isService)) := by
  have hall : ∀ a b : Bool, ∀ name ∈ runtimeNames a b, name.toList.all isBland = true := by
    decide
  have hmark : ", ".toList.all isBland = true := by
    decide
  exact .intercalate (List.all_eq_true.1 hmark) fun name hname =>
    List.all_eq_true.1 (hall hasFields isService name hname)

theorem moduleImports_bland {dependencies : Dictionary String}
    (h : ∀ package ∈ dependencies.keys, IsOver isNameChar package) :
    ∀ i ∈ moduleImports dependencies, ∀ other ∈ i.alias?, IsOver isBland other := by
  intro i hi other hother
  obtain ⟨⟨package, path⟩, hentry, rfl⟩ := List.mem_map.1 hi
  change other ∈ (moduleImport package path).alias? at hother
  rw [moduleImport] at hother
  split_ifs at hother
  · cases hother
  · cases hother
    exact bland_of_name (h _ (List.mem_map_of_mem hentry))

theorem distinctSorted_bland {names : List String} (h : ∀ name ∈ names, IsOver isNameChar name) :
    ∀ name ∈ distinctSorted names, IsOver isBland name :=
  fun name hname => bland_of_name (h name (mem_of_mem_distinctSorted hname))

/-- The paths from outside, that of the runtime and those of modules, are bland. -/
structure Code.File.HasBlandPaths (f : File) : Prop where
  runtime : IsOver isBland f.runtime
  modules : ∀ i ∈ f.modules, IsOver isBland i.path

/-- The names of a request are bland, and they stand on one line. -/
structure Request.IsBland (r : Request) : Prop where
  package_line : '\n' ∉ r.package.toList
  name_line : '\n' ∉ r.name.toList
  name : IsOver isBland r.name

/-- Documentation of a name is one line exactly if the name is. -/
theorem summary_line_iff {fullName : String} {front behind : String} (hfront : '\n' ∉ front.toList)
    (hbehind : '\n' ∉ behind.toList) :
    '\n' ∉ (front ++ fullName ++ behind).toList ↔ '\n' ∉ fullName.toList := by
  simp [hfront, hbehind]

theorem fullName_line {package name : String} (hpackage : '\n' ∉ package.toList)
    (hname : '\n' ∉ name.toList) : '\n' ∉ (package ++ "/" ++ name).toList := by
  simp [hpackage, hname]

namespace Resolver

variable {r : Resolver} {config : Config} {name : String} {file : Code.File}

/-- What the item of a message needs to be bland. -/
theorem item_bland {text : String} {m : Message} {item : Code.MessageItem}
    (hread : r.readMessageText name text = .ok m) (hitem : m.item = .ok item)
    (hpackage : '\n' ∉ r.package.toList) (hline : '\n' ∉ name.toList)
    (hname : IsOver isBland name) :
    IsOver isBland item.name ∧ '\n' ∉ item.summary.toList ∧ item.IsBalanced := by
  have hbalanced := Message.isBalanced_of_item (isPlain_of_readMessageText hread) hitem
  obtain ⟨constants, -, rfl⟩ := Message.item_eq_ok_iff.1 hitem
  refine ⟨?_, ?_, hbalanced⟩
  · show IsOver isBland (Name.camel m.name)
    rw [r.name_of_readMessageText hread]
    exact Name.camel_bland hname
  · show '\n' ∉ (" `" ++ m.fullName ++ "` message.").toList
    rw [fullName_of_readMessageText hread]
    exact (summary_line_iff (by decide) (by decide)).2 (fullName_line hpackage hline)

/-- The file of a message with a bland name, whose paths are bland, is bland. -/
theorem isBland_of_message {bytes : List UInt8} {m : Message}
    (h : r.readMessage name bytes = .ok m) (hfile : m.file config = .ok file)
    (hpackage : '\n' ∉ r.package.toList) (hline : '\n' ∉ name.toList)
    (hname : IsOver isBland name) (hpaths : file.HasBlandPaths) : file.IsBland := by
  obtain ⟨text, -, hm⟩ := readMessage_eq_ok_iff.1 h
  rw [Message.file] at hfile
  obtain ⟨⟨⟩, -, hfile⟩ := Except.bind_eq_ok_iff.1 hfile
  obtain ⟨item, hitem, hfile⟩ := Except.bind_eq_ok_iff.1 hfile
  cases hfile
  refine ⟨hpaths.runtime, runtimeNames_bland _ _, hpaths.modules,
    moduleImports_bland (package_over hm),
    distinctSorted_bland (Message.sibling_over (isPlain_of_readMessageText hm)),
    fun other hother => ?_, fun s hs => ?_⟩
  · obtain rfl := List.mem_singleton.1 hother
    exact item_bland hm hitem hpackage hline hname
  · cases hs

theorem isBland_of_service {bytes : List UInt8} {s : Service}
    (h : r.readService name bytes = .ok s) (hfile : s.file config = .ok file)
    (hpackage : '\n' ∉ r.package.toList) (hline : '\n' ∉ name.toList)
    (hname : IsOver isBland name) (hpaths : file.HasBlandPaths) : file.IsBland := by
  obtain ⟨text, -, hs⟩ := readService_eq_ok_iff.1 h
  have hpackages := service_package_over hs
  rw [Service.file, ← bind_assoc] at hfile
  obtain ⟨⟨⟩, -, hfile⟩ := Except.bind_eq_ok_iff.1 hfile
  obtain ⟨q, hq, hfile⟩ := Except.bind_eq_ok_iff.1 hfile
  obtain ⟨p, hp, hfile⟩ := Except.bind_eq_ok_iff.1 hfile
  cases hfile
  obtain ⟨_, _, request, response, -, hrequest, hresponse, rfl⟩ := readServiceText_eq_ok_iff.1 hs
  have hsiblings : ∀ name ∈ request.siblings ++ response.siblings, IsOver isNameChar name := by
    intro name hname
    rcases List.mem_append.1 hname with hname | hname
    · exact Message.sibling_over (isPlain_of_readMessageText hrequest) name hname
    · exact Message.sibling_over (isPlain_of_readMessageText hresponse) name hname
  have hbehind {word : String} (hword : word.toList.all (fun c => isBland c && c != '\n') = true) :
      IsOver isBland (name ++ word) ∧ '\n' ∉ (name ++ word).toList := by
    have hall : ∀ c ∈ word.toList, isBland c = true ∧ c ≠ '\n' := by
      simpa using hword
    have hfeed : '\n' ∉ word.toList := fun hmem => (hall '\n' hmem).2 rfl
    exact ⟨hname.append fun c hc => (hall c hc).1, by simp [hline, hfeed]⟩
  have hq_name : _ ∧ '\n' ∉ (name ++ "Request").toList := hbehind rfl
  have hp_name : _ ∧ '\n' ∉ (name ++ "Response").toList := hbehind rfl
  have hq_bland := item_bland hrequest hq hpackage hq_name.2 hq_name.1
  have hp_bland := item_bland hresponse hp hpackage hp_name.2 hp_name.1
  refine ⟨hpaths.runtime, runtimeNames_bland _ _, hpaths.modules, moduleImports_bland hpackages,
    distinctSorted_bland hsiblings, fun m hm => ?_, fun other hother => ?_⟩
  · rcases List.mem_pair.1 hm with rfl | rfl
    · exact hq_bland
    · exact hp_bland
  · cases hother
    refine ⟨Name.camel_bland hname, ?_, ?_, ?_⟩
    · show IsOver isBland (Name.camel request.name)
      rw [r.name_of_readMessageText hrequest]
      exact Name.camel_bland hq_name.1
    · show IsOver isBland (Name.camel response.name)
      rw [r.name_of_readMessageText hresponse]
      exact Name.camel_bland hp_name.1
    · show '\n' ∉ (" `" ++ (r.package ++ "/" ++ name) ++ "` service.").toList
      exact (summary_line_iff (by decide) (by decide)).2 (fullName_line hpackage hline)

end Resolver

/-- A formatter keeps the items of a file, where the file is followed to its end.  What it does to
blanks, comments, commas and the insides of items does not matter. -/
def Code.Formatter.KeepsItems (formatter : Formatter) (f : File) : Prop :=
  ∀ body, formatter.format? f = some body →
    ∀ items, Outline.items? f.raw = some items → Outline.items? body = some items

namespace Config

variable {config : Config} {formatter : Code.Formatter} {r : Request} {code : String}

/-- This file is made for a request. -/
def Makes (config : Config) (r : Request) (file : Code.File) : Prop :=
  match r.kind with
  | .message => ∃ m, Resolver.readMessage ⟨config, r.package⟩ r.name r.bytes = .ok m ∧
      m.file config = .ok file
  | .service => ∃ s, Resolver.readService ⟨config, r.package⟩ r.name r.bytes = .ok s ∧
      s.file config = .ok file

/-- One file at most is made for a request. -/
theorem Makes.unique {file other : Code.File} (h : config.Makes r file)
    (hother : config.Makes r other) : file = other := by
  obtain ⟨kind, package, name, source, bytes⟩ := r
  cases kind with
  | message =>
    obtain ⟨m, hm, hfile⟩ := h
    obtain ⟨m', hm', hfile'⟩ := hother
    obtain rfl : m = m' := Except.ok.inj (hm.symm.trans hm')
    exact Except.ok.inj (hfile.symm.trans hfile')
  | service =>
    obtain ⟨s, hs, hfile⟩ := h
    obtain ⟨s', hs', hfile'⟩ := hother
    obtain rfl : s = s' := Except.ok.inj (hs.symm.trans hs')
    exact Except.ok.inj (hfile.symm.trans hfile')

/-- Code is generated exactly if a file is made that the formatter takes. -/
theorem generate_eq_ok_iff : config.generate formatter r = .ok code ↔
    ∃ file body, config.Makes r file ∧ formatter.format? file = some body ∧
      code = banner r.source ++ body := by
  obtain ⟨kind, package, name, source, bytes⟩ := r
  cases kind with
  | message =>
    show (do
      let m ← (Resolver.readMessage ⟨config, package⟩ name bytes).mapError GenerateError.definition
      (emitMessage config formatter source m).mapError GenerateError.emission) = _ ↔ _
    rw [Except.bind_eq_ok_iff]
    simp only [Except.mapError_eq_ok_iff, emitMessage_eq_ok_iff]
    constructor
    · rintro ⟨m, hm, file, body, hfile, hformat, hcode⟩
      exact ⟨file, body, ⟨m, hm, hfile⟩, hformat, hcode⟩
    · rintro ⟨file, body, ⟨m, hm, hfile⟩, hformat, hcode⟩
      exact ⟨m, hm, file, body, hfile, hformat, hcode⟩
  | service =>
    show (do
      let s ← (Resolver.readService ⟨config, package⟩ name bytes).mapError GenerateError.definition
      (emitService config formatter source s).mapError GenerateError.emission) = _ ↔ _
    rw [Except.bind_eq_ok_iff]
    simp only [Except.mapError_eq_ok_iff, emitService_eq_ok_iff]
    constructor
    · rintro ⟨s, hs, file, body, hfile, hformat, hcode⟩
      exact ⟨file, body, ⟨s, hs, hfile⟩, hformat, hcode⟩
    · rintro ⟨file, body, ⟨s, hs, hfile⟩, hformat, hcode⟩
      exact ⟨s, hs, file, body, hfile, hformat, hcode⟩

theorem isBland_of_makes {file : Code.File} (h : config.Makes r file) (hr : r.IsBland)
    (hpaths : file.HasBlandPaths) : file.IsBland := by
  obtain ⟨kind, package, name, source, bytes⟩ := r
  cases kind with
  | message =>
    obtain ⟨m, hm, hfile⟩ := h
    exact Resolver.isBland_of_message hm hfile hr.package_line hr.name_line hr.name hpaths
  | service =>
    obtain ⟨s, hs, hfile⟩ := h
    exact Resolver.isBland_of_service hs hfile hr.package_line hr.name_line hr.name hpaths

/-- **What generated code brings in.**  Whichever formatter is used, generated code is a banner and
what the formatter makes of the file for the request.

The lines of the banner are empty or comments exactly if those of the source's name are, from its
second line on; and if that name is one line, the banner brings in nothing, so that the items of the
code are those of the formatted text.  If the names of package and definition are one line each, the
latter and all paths without quotes, slashes, brackets, semicolons and equals signs, then the items
of the unformatted text are those that the templates open: the imports, and for each message its
struct, its default value, its constants and its coding functions, and for a service its marker and
what it says of itself.  A formatter that keeps the items of the file writes the same ones. -/
theorem items_of_generate (h : config.generate formatter r = .ok code) : ∃ file body,
    config.Makes r file ∧ formatter.format? file = some body ∧ code = banner r.source ++ body ∧
    ((∀ line ∈ Text.pieces '\n' (banner r.source).toList, IsCommentLine line) ↔
      ∀ line ∈ (Text.pieces '\n' r.source.toList).tail, IsCommentLine line) ∧
    ('\n' ∉ r.source.toList → Code.Outline.items? code = Code.Outline.items? body) ∧
    (r.IsBland → file.HasBlandPaths →
      Code.Outline.items? file.raw = some (file.headlines.map Code.words) ∧
      (formatter.KeepsItems file →
        Code.Outline.items? body = some (file.headlines.map Code.words))) := by
  obtain ⟨file, body, hmakes, hformat, rfl⟩ := generate_eq_ok_iff.1 h
  refine ⟨file, body, hmakes, hformat, rfl, banner_comments_iff r.source, fun hsource => ?_,
    fun hr hpaths => ?_⟩
  · rw [Code.Outline.items?, Code.Outline.items?, String.toList_append, List.append_assoc,
      Code.Outline.read_append, Code.Outline.read_banner hsource]
  · have hraw := Code.File.items?_raw (isBland_of_makes hmakes hr hpaths)
    exact ⟨hraw, fun hkeeps => hkeeps body hformat _ hraw⟩

end Config

/-! ## Beds -/

namespace Garden

open Code (Outline Formatter)

/-- The items of some texts in ASCII, put together, by their bytes. -/
def scan? (texts : List String) : Option (List (List String)) :=
  if texts.all Text.Utf8.isAscii then
    ((Outline.behind []).read (texts.flatMap Text.Utf8.asciiChars ++ ['\n'])).result?
  else none

theorem items?_of_scan {texts : List String} {text : String} {items : List (List String)}
    (htext : text.toList = texts.flatMap String.toList) (h : scan? texts = some items) :
    Outline.items? text = some items := by
  rw [scan?, Option.ite_none_right_eq_some] at h
  obtain ⟨hascii, hread⟩ := h
  have hchars : texts.flatMap Text.Utf8.asciiChars = texts.flatMap String.toList :=
    List.flatMap_congr fun s hs => Text.Utf8.asciiChars_eq (List.all_eq_true.1 hascii s hs)
  rwa [Outline.items?, htext, ← hchars]

/-- What is written of a file in boxes, token by token. -/
def formattedTexts (f : Code.File) : List String :=
  Code.Doc.Page.blank.texts (Code.Doc.measure (Code.Doc.consistent 0
    (Code.headingsDoc f.importHeadings? ++ f.docs.flatMap (· ++ Code.Doc.hardLine 0))))

theorem toList_formatted (f : Code.File) :
    f.formatted.toList = (formattedTexts f).flatMap String.toList :=
  Code.Doc.toList_render _

/-- The request for a bed. -/
def bedRequest (package source text : String) : Request :=
  ⟨.message, package, "Bed", source, Text.Utf8.encode text⟩

/-- The file for a bed, under the standard configuration. -/
def bedFile? (package text : String) : Option Code.File :=
  (Resolver.readMessageText ⟨Config.standard, package⟩ "Bed" text).toOption.bind fun m =>
    (m.file Config.standard).toOption

theorem eq_ok_of_toOption {ε α : Type} {x : Except ε α} {a : α} (h : x.toOption = some a) :
    x = .ok a := by
  cases x with
  | error e => cases h
  | ok b => exact congrArg Except.ok (Option.some.inj h)

theorem makes_bedFile {package text : String} {file : Code.File}
    (h : bedFile? package text = some file) (source : String) :
    Config.standard.Makes (bedRequest package source text) file := by
  obtain ⟨m, hm, hfile⟩ := Option.bind_eq_some_iff.1 h
  refine ⟨m, ?_, eq_ok_of_toOption hfile⟩
  rw [← eq_ok_of_toOption hm]
  exact Resolver.readMessage_encode _ _ _

/-- Code is generated for a bed whose file the boxes take. -/
theorem generate_bed {package text : String} {file : Code.File}
    (h : bedFile? package text = some file) (hvalid : file.isValid = true) (source : String) :
    Config.standard.generate .boxes (bedRequest package source text)
      = .ok (banner source ++ file.formatted) :=
  Config.generate_eq_ok_iff.2 ⟨file, _, makes_bedFile h source,
    Formatter.boxes_eq_some_iff.2 ⟨hvalid, rfl⟩, rfl⟩

/-- What the code for a bed brings in. -/
def bedItems : List (List String) :=
  [["use", "rosgen", "wire", "self", "FieldKind", "FieldMut", "FieldRef", "Message", "MessageType",
      "WireError"],
    ["use", "std", "io", "Read", "Write"], ["pub", "struct", "Bed"],
    ["impl", "Default", "for", "Bed"], ["impl", "Bed"], ["impl", "Message", "for", "Bed"]]

/-- A file without imports of modules that the boxes take, and that brings in the same formatted and
unformatted. -/
def isTame (f : Code.File) : Bool :=
  f.isValid && f.runtime.toList.all isBland && f.modules.isEmpty
    && f.headlines.map Code.words == bedItems && scan? (formattedTexts f) == some bedItems

/-- A file that the boxes take, and in whose text they leave an item that no headline opens. -/
def bringsMore (item : List String) (f : Code.File) : Bool :=
  f.isValid && (scan? (formattedTexts f)).any (·.contains item)
    && !(f.headlines.map Code.words).contains item

/-- The name of a source, in two lines. -/
def wildSource : String :=
  "Bed.msg\nfn weed() \x7b\x7d"

/-- The name of a package that ends the comment in which it stands. -/
def wildPackage : String :=
  "garden\npub struct Weed;\n//"

/-- A bed with a pot of a module whose path has an item in it. -/
def wildText : String :=
  "shed/Pot pot # package=sheds;mod/**/weed\x7b\x7duse/**/sheds\n"

set_option maxRecDepth 20000 in
/-- What there is in the banner and in the files of these beds. -/
theorem scans_of_beds :
    (bedFile? "garden" "bool dug\n").any isTame = true ∧
    "fn weed() \x7b\x7d".toList ∈ Text.pieces '\n' (banner wildSource).toList ∧
    scan? [banner wildSource] = some [["fn", "weed"]] ∧
    (bedFile? wildPackage "bool dug\n").any (bringsMore ["pub", "struct", "Weed"]) = true ∧
    (bedFile? "garden" wildText).any (bringsMore ["mod", "weed"]) = true := by
  refine ⟨?_, ?_, ?_, ?_, ?_⟩ <;> decide +kernel

/-! ### A tame bed -/

theorem isBland_bedRequest {source text : String} : (bedRequest "garden" source text).IsBland := by
  have hpackage : '\n' ∉ "garden".toList := by
    decide
  have hname : '\n' ∉ "Bed".toList ∧ "Bed".toList.all isBland = true := by
    decide
  exact ⟨hpackage, hname.1, List.all_eq_true.1 hname.2⟩

/-- The file of a bed whose names are plain. -/
theorem exists_bedFile : ∃ file, bedFile? "garden" "bool dug\n" = some file ∧
    file.isValid = true ∧ file.HasBlandPaths ∧ file.headlines.map Code.words = bedItems ∧
    Outline.items? file.formatted = some bedItems := by
  obtain ⟨file, hfile, htame⟩ := (Option.any_eq_true _ _).1 scans_of_beds.1
  simp only [isTame, Bool.and_eq_true, beq_iff_eq, List.isEmpty_iff] at htame
  obtain ⟨⟨⟨⟨hvalid, hruntime⟩, hmodules⟩, hheadlines⟩, hscan⟩ := htame
  have hpaths : file.HasBlandPaths := by
    refine ⟨List.all_eq_true.1 hruntime, fun i hi => ?_⟩
    rw [hmodules] at hi
    cases hi
  exact ⟨file, hfile, hvalid, hpaths, hheadlines, items?_of_scan (toList_formatted file) hscan⟩

/-- The code for a bed is its banner, all of it comments, and what the templates open. -/
theorem items_of_bed : ∃ file code,
    Config.standard.Makes (bedRequest "garden" "Bed.msg" "bool dug\n") file ∧
      Config.standard.generate .boxes (bedRequest "garden" "Bed.msg" "bool dug\n") = .ok code ∧
      (∀ line ∈ Text.pieces '\n' (banner "Bed.msg").toList, IsCommentLine line) ∧
      Outline.items? file.raw = some bedItems ∧ Outline.items? code = some bedItems := by
  obtain ⟨file, hfile, hvalid, hpaths, hheadlines, hformatted⟩ := exists_bedFile
  have hmakes := makes_bedFile hfile "Bed.msg"
  have hgenerate := generate_bed hfile hvalid "Bed.msg"
  obtain ⟨other, body, hother, -, -, hlines, hone, hitems⟩ :=
    Config.items_of_generate hgenerate
  obtain rfl : file = other := hmakes.unique hother
  obtain ⟨hraw, hkept⟩ := hitems isBland_bedRequest hpaths
  rw [hheadlines] at hraw hkept
  have hkeeps : Formatter.boxes.KeepsItems file := by
    intro text htext items hread
    obtain rfl : items = bedItems := Option.some.inj (hread.symm.trans hraw)
    rw [(Formatter.boxes_eq_some_iff.1 htext).2]
    exact hformatted
  have hsource : ∀ line ∈ (Text.pieces '\n' "Bed.msg".toList).tail, IsCommentLine line := by
    rw [Text.pieces_of_not_mem (by decide)]
    exact fun line => nofun
  exact ⟨file, _, hmakes, hgenerate, hlines.2 hsource, hraw,
    (hone (by decide)).trans (hkept hkeeps)⟩

/-! ### Wild beds -/

/-- A file that the boxes take, with an item in its text that no headline opens. -/
theorem exists_file_of_any {package text : String} {item : List String}
    (h : (bedFile? package text).any (bringsMore item) = true) : ∃ file items,
      Config.standard.Makes (bedRequest package "Bed.msg" text) file ∧
      Config.standard.generate .boxes (bedRequest package "Bed.msg" text)
        = .ok (banner "Bed.msg" ++ file.formatted) ∧
      Outline.items? file.formatted = some items ∧ item ∈ items ∧
      item ∉ file.headlines.map Code.words := by
  obtain ⟨file, hfile, hmore⟩ := (Option.any_eq_true _ _).1 h
  rw [bringsMore, Bool.and_eq_true, Bool.and_eq_true, Option.any_eq_true] at hmore
  obtain ⟨⟨hvalid, items, hscan, hmem⟩, hnot⟩ := hmore
  refine ⟨file, items, makes_bedFile hfile _, generate_bed hfile hvalid _,
    items?_of_scan (toList_formatted file) hscan, List.contains_iff_mem.1 hmem, ?_⟩
  simpa using hnot

/-- Code is generated for these three requests.  The banner of the first has a line in it that is no
comment, and the texts of the other two an item that no template opens. -/
theorem injections_of_bed :
    (∃ body,
      Config.standard.generate .boxes (bedRequest "garden" wildSource "bool dug\n")
        = .ok (banner wildSource ++ body) ∧
      (¬∀ line ∈ Text.pieces '\n' (banner wildSource).toList, IsCommentLine line) ∧
      Outline.items? (banner wildSource) = some [["fn", "weed"]]) ∧
    (∃ file items,
      Config.standard.Makes (bedRequest wildPackage "Bed.msg" "bool dug\n") file ∧
      Config.standard.generate .boxes (bedRequest wildPackage "Bed.msg" "bool dug\n")
        = .ok (banner "Bed.msg" ++ file.formatted) ∧
      Outline.items? file.formatted = some items ∧ ["pub", "struct", "Weed"] ∈ items ∧
      ["pub", "struct", "Weed"] ∉ file.headlines.map Code.words) ∧
    ∃ file items,
      Config.standard.Makes (bedRequest "garden" "Bed.msg" wildText) file ∧
      Config.standard.generate .boxes (bedRequest "garden" "Bed.msg" wildText)
        = .ok (banner "Bed.msg" ++ file.formatted) ∧
      Outline.items? file.formatted = some items ∧ ["mod", "weed"] ∈ items ∧
      ["mod", "weed"] ∉ file.headlines.map Code.words := by
  obtain ⟨-, hline, hscan, hpackage, htext⟩ := scans_of_beds
  refine ⟨?_, exists_file_of_any hpackage, exists_file_of_any htext⟩
  obtain ⟨file, hfile, hvalid, -⟩ := exists_bedFile
  have hone : (banner wildSource).toList = [banner wildSource].flatMap String.toList :=
    (List.flatMap_singleton _ _).symm
  refine ⟨file.formatted, generate_bed hfile hvalid _, fun hall => ?_, items?_of_scan hone hscan⟩
  rcases hall _ hline with hempty | hcomment
  · exact absurd hempty (by decide)
  · exact absurd hcomment (by decide)

end Garden

end Missive
