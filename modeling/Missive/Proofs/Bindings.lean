import Missive.Proofs.Casing
import Missive.Proofs.Directives
import Missive.Proofs.Scopes
import Missive.Proofs.Sections
import Missive.Proofs.Statements
/-!
# Names in emitted files

Before code is put together for a definition, its names are compared with those on which emitted
code relies.  What these comparisons see to is collected here, and with it, which definitions are
refused and in which ways the names of the others can clash.

* `Checks` -- a check, and what it is about;
* `AvoidsReserved`, `checkNames_checks` -- the checks that come before a file;
* `Message.isChecked_of_file`, `Service.isChecked_of_file` -- so the names of a file have been
  looked at;
* `Resolver.names_of_emitted` -- files of messages and services.
-/

namespace Missive

/-! ## Checks -/

/-- A check succeeds where this holds, and where it does not it reports a reserved name. -/
def Checks (check : Except EmitError Unit) (holds : Prop) : Prop :=
  check = .ok () ∧ holds ∨ (∃ name, check = .error (.reservedName name)) ∧ ¬holds

namespace Checks

variable {check next : Except EmitError Unit} {p q : Prop}

theorem holds_of_ok (h : Checks check p) (hok : check = .ok ()) : p := by
  rcases h with ⟨-, hp⟩ | ⟨⟨name, herror⟩, -⟩
  · exact hp
  · cases hok.symm.trans herror

theorem congr (h : Checks check p) (hpq : p ↔ q) : Checks check q := by
  rwa [Checks, ← hpq]

theorem andThen (h : Checks check p) (hnext : Checks next q) :
    Checks (check >>= fun _ => next) (p ∧ q) := by
  rcases h with ⟨rfl, hp⟩ | ⟨⟨name, rfl⟩, hp⟩
  · rcases hnext with ⟨rfl, hq⟩ | ⟨⟨name, rfl⟩, hq⟩
    · exact .inl ⟨rfl, hp, hq⟩
    · exact .inr ⟨⟨name, rfl⟩, fun h => hq h.2⟩
  · exact .inr ⟨⟨name, rfl⟩, fun h => hp h.1⟩

theorem forM {α : Type} {test : α → Except EmitError Unit} {holds : α → Prop}
    (h : ∀ a, Checks (test a) (holds a)) (items : List α) :
    Checks (items.forM test) (∀ a ∈ items, holds a) := by
  induction items with
  | nil => exact .inl ⟨rfl, fun a ha => by cases ha⟩
  | cons a rest ih =>
    show Checks (test a >>= fun _ => rest.forM test) _
    refine ((h a).andThen ih).congr ?_
    rw [List.forall_mem_cons]

end Checks

theorem refuse_checks (isReserved : String → Bool) (names : List String) :
    Checks (refuse isReserved names) (∀ name ∈ names, isReserved name = false) := by
  rw [refuse]
  split
  · rename_i name hname
    have hreserved := List.find?_some hname
    refine .inr ⟨⟨name, rfl⟩, fun h => ?_⟩
    rw [h name (List.mem_of_find?_eq_some hname)] at hreserved
    cases hreserved
  · rename_i hnone
    refine .inl ⟨rfl, fun name hname => ?_⟩
    simpa using List.find?_eq_none.1 hnone name hname

/-- The names of a message's type and of its constants are not reserved. -/
structure Message.IsFree (m : Message) : Prop where
  typeName : Code.isReservedType m.typeName = false
  constants : ∀ c ∈ m.constants, c.sourceName ≠ Code.descriptorName

/-- None of these names, of types of the own package, of other packages, and of messages, is
reserved. -/
structure AvoidsReserved (siblings packages : List String) (messages : List Message) : Prop where
  siblings : ∀ name ∈ siblings, Code.isReservedType name = false
  packages : ∀ name ∈ packages, Code.isReservedPackage name = false
  messages : ∀ m ∈ messages, m.IsFree

theorem checkMessage_checks (m : Message) : Checks (checkMessage m) m.IsFree := by
  have hfree : (∀ name ∈ [m.typeName], Code.isReservedType name = false) ∧
      (∀ c ∈ m.constants, c.sourceName ≠ Code.descriptorName) ↔ m.IsFree := by
    constructor
    · rintro ⟨htype, hconstants⟩
      exact ⟨htype _ List.mem_cons_self, hconstants⟩
    · rintro ⟨htype, hconstants⟩
      exact ⟨fun name hname => List.mem_singleton.1 hname ▸ htype, hconstants⟩
  refine ((refuse_checks Code.isReservedType [m.typeName]).andThen ?_).congr hfree
  split
  · rename_i c hc
    have hname := List.find?_some hc
    exact .inr ⟨⟨c.name, rfl⟩, fun h =>
      h c (List.mem_of_find?_eq_some hc) (beq_iff_eq.1 hname)⟩
  · rename_i hnone
    refine .inl ⟨rfl, fun c hc heq => ?_⟩
    exact List.find?_eq_none.1 hnone c hc (beq_iff_eq.2 heq)

theorem checkNames_checks (siblings packages : List String) (messages : List Message) :
    Checks (checkNames siblings packages messages) (AvoidsReserved siblings packages messages) := by
  refine ((refuse_checks _ siblings).andThen ((refuse_checks _ packages).andThen
    (.forM checkMessage_checks messages))).congr ?_
  exact ⟨fun ⟨hs, hp, hm⟩ => ⟨hs, hp, hm⟩, fun ⟨hs, hp, hm⟩ => ⟨hs, hp, hm⟩⟩

/-! ## Files that passed the checks -/

/-- A name in upper camel case is not that of the runtime's module. -/
theorem Name.camel_ne_wire (name : String) : camel name ≠ "wire" := by
  intro h
  have hhead : (camel name).toList.head? = some 'w' := by
    rw [h]
    rfl
  exact absurd (head?_camel hhead) (by decide)

namespace Code.File

/-- What a file has from outside is distinct, and apart from the runtime's module it is reserved. -/
theorem fixedNames_eq {f : File} {hasFields isService : Bool}
    (h : f.names = runtimeNames hasFields isService) :
    f.fixedNames.Nodup ∧ ∀ name ∈ f.fixedNames, name = "wire" ∨ isReservedType name = true := by
  rw [fixedNames, h]
  clear h
  revert hasFields isService
  decide

/-- A type whose name is in upper camel case and not reserved has a name of its own. -/
theorem camel_not_mem_fixedNames {f : File} {hasFields isService : Bool}
    (h : f.names = runtimeNames hasFields isService) {name : String}
    (hfree : isReservedType (Name.camel name) = false) : Name.camel name ∉ f.fixedNames := by
  intro hmem
  rcases (fixedNames_eq h).2 _ hmem with hwire | hreserved
  · exact Name.camel_ne_wire name hwire
  · rw [hreserved] at hfree
    cases hfree

end Code.File

theorem distinctSorted_nodup (names : List String) : (distinctSorted names).Nodup :=
  Dictionary.keys_nodup _

theorem mem_of_mem_distinctSorted {name : String} {names : List String}
    (h : name ∈ distinctSorted names) : name ∈ names := by
  obtain ⟨value, -, hfind⟩ := Dictionary.exists_of_mem_keys h
  rw [Dictionary.find?_ofList] at hfind
  obtain ⟨entry, hentry, hvalue⟩ := List.mem_filterMap.1 (List.mem_of_getLast? hfind)
  obtain ⟨other, hother, rfl⟩ := List.mem_map.1 hentry
  split_ifs at hvalue with heq
  rwa [heq]

/-- What it takes for the names of a file to be looked at. -/
theorem Code.File.isChecked_of_names {f : Code.File} {dependencies : Dictionary String}
    {hasFields isService : Bool} {siblings : List String}
    (hnames : f.names = runtimeNames hasFields isService)
    (hmodules : f.modules = moduleImports dependencies)
    (hpackages : ∀ name ∈ dependencies.keys, isReservedPackage name = false)
    (hsiblings : f.siblings = distinctSorted siblings)
    (hsibling : ∀ name ∈ f.siblings, isReservedType name = false)
    (hcamel : ∀ name ∈ siblings, ∃ declared, name = Name.camel declared)
    (hown : f.ownTexts.Nodup)
    (htexts : ∀ text ∈ f.ownTexts, isReservedType text = false ∧
      ∃ declared, text = Name.camel declared) :
    f.IsChecked dependencies where
  fixed := (fixedNames_eq hnames).1
  modules := hmodules
  not_reserved := by
    rw [packages_eq hmodules]
    exact hpackages
  siblings := by
    rw [hsiblings]
    exact distinctSorted_nodup siblings
  siblings_free := by
    intro name hname
    obtain ⟨declared, rfl⟩ := hcamel name (mem_of_mem_distinctSorted (hsiblings ▸ hname))
    exact camel_not_mem_fixedNames hnames (hsibling _ hname)
  own := hown
  own_free := by
    intro text htext
    obtain ⟨hfree, declared, rfl⟩ := htexts text htext
    exact camel_not_mem_fixedNames hnames hfree

theorem Message.camel_of_sibling {m : Message} {name : String} (h : name ∈ m.siblings) :
    ∃ declared, name = Name.camel declared := by
  obtain ⟨f, -, hf⟩ := List.mem_filterMap.1 h
  rw [Field.sibling?] at hf
  split at hf
  · exact ⟨_, (Option.some.inj hf).symm⟩
  · cases hf

theorem Message.name_of_item {m : Message} {item : Code.MessageItem} (h : m.item = .ok item) :
    item.name = m.typeName := by
  obtain ⟨constants, -, rfl⟩ := item_eq_ok_iff.1 h
  rfl

namespace Message

variable {m : Message} {config : Config} {file : Code.File}

/-- The names that are looked at before the file of a message is made. -/
def AvoidsReserved (m : Message) : Prop :=
  Missive.AvoidsReserved (distinctSorted m.siblings) m.dependencies.keys [m]

/-- Where a reserved name is found, there is no file. -/
theorem emitMessage_reserved (config : Config) (formatter : Code.Formatter) (source : String)
    (h : ¬m.AvoidsReserved) :
    ∃ name, emitMessage config formatter source m = .error (.reservedName name) := by
  rcases checkNames_checks (distinctSorted m.siblings) m.dependencies.keys [m] with
    ⟨-, havoids⟩ | ⟨⟨name, hname⟩, -⟩
  · exact absurd havoids h
  · refine ⟨name, ?_⟩
    rw [emitMessage, Message.file, hname]
    rfl

/-- The names in a message's file have been looked at. -/
theorem isChecked_of_file (h : m.file config = .ok file) : file.IsChecked m.dependencies := by
  rw [Message.file] at h
  obtain ⟨⟨⟩, hok, h⟩ := Except.bind_eq_ok_iff.1 h
  obtain ⟨item, hitem, h⟩ := Except.bind_eq_ok_iff.1 h
  have havoids := (checkNames_checks _ _ _).holds_of_ok hok
  cases h
  refine Code.File.isChecked_of_names rfl rfl havoids.packages rfl havoids.siblings
    (fun name => camel_of_sibling) (List.nodup_singleton _) fun text htext => ?_
  obtain rfl := List.mem_singleton.1 htext
  rw [name_of_item hitem]
  exact ⟨(havoids.messages m List.mem_cons_self).typeName, m.name, rfl⟩

end Message

namespace Service

variable {s : Service} {config : Config} {file : Code.File}

/-- The types that a service takes from files beside its own. -/
def siblings (s : Service) : List String :=
  s.request.siblings ++ s.response.siblings

/-- The names that are looked at before the file of a service is made. -/
def AvoidsReserved (s : Service) : Prop :=
  Missive.AvoidsReserved (distinctSorted s.siblings) s.dependencies.keys [s.request, s.response] ∧
    Code.isReservedType (Name.camel s.name) = false

/-- The checks that come before the file of a service. -/
theorem checks (s : Service) :
    Checks (checkNames (distinctSorted (s.request.siblings ++ s.response.siblings))
        s.dependencies.keys [s.request, s.response] >>= fun _ =>
      refuse Code.isReservedType [s.item.name]) s.AvoidsReserved := by
  refine ((checkNames_checks _ _ _).andThen (refuse_checks _ _)).congr ?_
  rw [List.forall_mem_singleton]
  exact Iff.rfl

/-- Where a reserved name is found, there is no file. -/
theorem emitService_reserved (config : Config) (formatter : Code.Formatter) (source : String)
    (h : ¬s.AvoidsReserved) :
    ∃ name, emitService config formatter source s = .error (.reservedName name) := by
  rcases s.checks with ⟨-, havoids⟩ | ⟨⟨name, herror⟩, -⟩
  · exact absurd havoids h
  · refine ⟨name, ?_⟩
    rw [emitService, Service.file, ← bind_assoc, herror]
    rfl

/-- The three names of a service differ. -/
theorem ownTexts_nodup (hrequest : s.request.name = s.name ++ "Request")
    (hresponse : s.response.name = s.name ++ "Response") :
    [s.request.typeName, s.response.typeName, Name.camel s.name].Nodup := by
  obtain ⟨front, hmessage, hself⟩ := Name.camel_serviceWord s.name
  have hq : s.request.typeName = front ++ "Request" := by
    rw [Message.typeName, hrequest]
    exact hmessage "Request" (by decide)
  have hp : s.response.typeName = front ++ "Response" := by
    rw [Message.typeName, hresponse]
    exact hmessage "Response" (by decide)
  have hne : front ++ "Request" ≠ front ++ "Response" := by
    intro h
    exact absurd ((String.append_right_inj front).1 h) (by decide)
  rw [hq, hp]
  have hrequestSelf := hself "Request" (by decide)
  have hresponseSelf := hself "Response" (by decide)
  simp [hne, hrequestSelf.symm, hresponseSelf.symm]

/-- The names in a service's file have been looked at. -/
theorem isChecked_of_file (hrequest : s.request.name = s.name ++ "Request")
    (hresponse : s.response.name = s.name ++ "Response") (h : s.file config = .ok file) :
    file.IsChecked s.dependencies := by
  rw [Service.file, ← bind_assoc] at h
  obtain ⟨⟨⟩, hok, h⟩ := Except.bind_eq_ok_iff.1 h
  obtain ⟨havoids, hname⟩ := s.checks.holds_of_ok hok
  obtain ⟨request, hq, h⟩ := Except.bind_eq_ok_iff.1 h
  obtain ⟨response, hp, h⟩ := Except.bind_eq_ok_iff.1 h
  cases h
  have hown : [s.request.typeName, s.response.typeName, Name.camel s.name]
      = [request.name, response.name, s.item.name] := by
    rw [Message.name_of_item hq, Message.name_of_item hp]
    rfl
  have htexts : ∀ text ∈ [s.request.typeName, s.response.typeName, Name.camel s.name],
      Code.isReservedType text = false ∧ ∃ declared, text = Name.camel declared := by
    rw [List.forall_mem_cons, List.forall_mem_cons, List.forall_mem_singleton]
    exact ⟨⟨(havoids.messages s.request (by simp)).typeName, _, rfl⟩,
      ⟨(havoids.messages s.response (by simp)).typeName, _, rfl⟩,
      hname, _, rfl⟩
  refine Code.File.isChecked_of_names rfl rfl havoids.packages rfl havoids.siblings ?_ ?_ ?_
  · intro name hmem
    rcases List.mem_append.1 hmem with hmem | hmem <;> exact Message.camel_of_sibling hmem
  · have hnodup := ownTexts_nodup hrequest hresponse
    rwa [hown] at hnodup
  · rwa [hown] at htexts

end Service

/-- Code is emitted for a service exactly if the formatter takes its file. -/
theorem emitService_eq_ok_iff {config : Config} {formatter : Code.Formatter}
    {source code : String} {s : Service} :
    emitService config formatter source s = .ok code ↔
      ∃ file text, s.file config = .ok file ∧ formatter.format? file = some text ∧
        code = banner source ++ text :=
  bind_finish_eq_ok_iff

theorem emitService_boxes {config : Config} {s : Service} {file : Code.File}
    (hfile : s.file config = .ok file) (hvalid : file.isValid = true) (source : String) :
    emitService config .boxes source s = .ok (banner source ++ file.formatted) :=
  emitService_eq_ok_iff.2
    ⟨file, _, hfile, Code.Formatter.boxes_eq_some_iff.2 ⟨hvalid, rfl⟩, rfl⟩

namespace Resolver

variable (r : Resolver)

/-- A message keeps the name under which it was read. -/
theorem name_of_readMessageText {name text : String} {m : Message}
    (h : r.readMessageText name text = .ok m) : m.name = name := by
  obtain ⟨entries, -, rfl⟩ := readMessageText_eq_ok_iff.1 h
  rfl

/-- The messages of a service are called after it. -/
theorem names_of_readService {name : String} {bytes : List UInt8} {s : Service}
    (h : r.readService name bytes = .ok s) :
    s.request.name = s.name ++ "Request" ∧ s.response.name = s.name ++ "Response" := by
  obtain ⟨text, -, h⟩ := readService_eq_ok_iff.1 h
  obtain ⟨_, _, request, response, -, hrequest, hresponse, rfl⟩ := readServiceText_eq_ok_iff.1 h
  exact ⟨r.name_of_readMessageText hrequest, r.name_of_readMessageText hresponse⟩

/-- **Names in emitted files.**  A definition with a reserved name is refused.  If code is emitted
for a message, or for a service that has been read, then all names in scope of its file are
distinct, those from outside and those of packages, of types of the own package and of the types
that it defines; types of other packages lead to the modules that are imported for them, and to
nothing else in the file if there is no import; unless names clash in one of five ways that are not
looked for.  A package may be called like a type; a type that the file defines may be used in it as
one from another file; the name of the definition may be read as another one than it is written as;
and a field may have a type of a package that is not imported but called like something in scope, or
that is called like a keyword.

The names are those that the file has from the definition and from the templates.  A module path, or
the name of a package or of a definition, that is code itself brings further items into the file,
and these are not among them; `Config.items_of_generate` says when there are none. -/
theorem names_of_emitted (config : Config) (formatter : Code.Formatter) (source : String) :
    (∀ m : Message,
      (¬m.AvoidsReserved →
        ∃ taken, emitMessage config formatter source m = .error (.reservedName taken)) ∧
      ∀ code, emitMessage config formatter source m = .ok code → ∃ file text,
        m.file config = .ok file ∧ formatter.format? file = some text ∧
        code = banner source ++ text ∧
        (file.KeepsNames m.dependencies m.fields ↔ ¬file.Clash m.fields)) ∧
    (∀ name bytes s, r.readService name bytes = .ok s →
      (¬s.AvoidsReserved →
        ∃ taken, emitService config formatter source s = .error (.reservedName taken)) ∧
      ∀ code, emitService config formatter source s = .ok code → ∃ file text,
        s.file config = .ok file ∧ formatter.format? file = some text ∧
        code = banner source ++ text ∧
        (file.KeepsNames s.dependencies (s.request.fields ++ s.response.fields) ↔
          ¬file.Clash (s.request.fields ++ s.response.fields))) := by
  constructor
  · intro m
    refine ⟨Message.emitMessage_reserved config formatter source, fun code hcode => ?_⟩
    obtain ⟨file, text, hfile, hformat, hcode⟩ := emitMessage_eq_ok_iff.1 hcode
    exact ⟨file, text, hfile, hformat, hcode,
      Code.File.keepsNames_iff (Message.isChecked_of_file hfile)⟩
  · intro name bytes s hread
    obtain ⟨hrequest, hresponse⟩ := r.names_of_readService hread
    refine ⟨Service.emitService_reserved config formatter source, fun code hcode => ?_⟩
    obtain ⟨file, text, hfile, hformat, hcode⟩ := emitService_eq_ok_iff.1 hcode
    exact ⟨file, text, hfile, hformat, hcode,
      Code.File.keepsNames_iff (Service.isChecked_of_file hrequest hresponse hfile)⟩

end Resolver

/-! ## Files of a garden -/

namespace Garden

/-- The names that a file with fields has from outside. -/
def outsideNames (isService : Bool) : List String :=
  ["wire", "FieldKind", "FieldMut", "FieldRef", "Message", "MessageType"]
    ++ (if isService then ["Service", "ServiceType"] else [])
    ++ ["WireError", "Read", "Write"]

/-- A pot is dug: a header of another package, and a type of the own one. -/
def digText : String := "Pot pot\n---\nHeader dug\n"

def headerField : Field :=
  ⟨"dug", "Header", .single, .foreign "std_msgs" "Header"⟩

def potField : Field :=
  ⟨"pot", "Pot", .single, .own "Pot"⟩

def dig : Service where
  package := "garden"
  name := "Dig"
  text := digText
  request := ⟨"garden", "DigRequest", "Pot pot\n", [potField], [], .empty⟩
  response := ⟨"garden", "DigResponse", "\nHeader dug\n", [headerField], [],
    .ofList [("std_msgs", "rosgen::msgs::std_msgs")]⟩

theorem readService_dig : resolver.readService "Dig" (Text.Utf8.encode digText) = .ok dig := by
  rw [Resolver.readService_encode]
  rfl

/-- All names in scope of the service's file. -/
def digScope : List String :=
  outsideNames true ++ Code.preludeNames ++ ["std_msgs", "Pot", "DigRequest", "DigResponse", "Dig"]

theorem file_dig : ∃ file, dig.file Config.standard = .ok file ∧ file.isValid = true ∧
    file.scope = digScope ∧
    file.modules = [moduleImport "std_msgs" "rosgen::msgs::std_msgs"] := by
  refine ⟨_, rfl, ?_, ?_, rfl⟩ <;> decide +kernel

theorem keepsNames_dig {file : Code.File} (hscope : file.scope = digScope)
    (hmodules : file.modules = [moduleImport "std_msgs" "rosgen::msgs::std_msgs"]) :
    file.KeepsNames dig.dependencies [potField, headerField] := by
  refine ⟨by rw [hscope]; decide, fun g hg package name htype => ?_⟩
  rcases List.mem_pair.1 hg with rfl | rfl
  · cases htype
  · cases htype
    refine .inl ⟨"rosgen::msgs::std_msgs", rfl, ?_, rfl, ?_, rfl, by decide⟩
    · rw [hmodules]
      exact List.mem_cons_self
    · rw [hscope]
      decide

theorem keepsNames_shed : shedFile.KeepsNames shed.dependencies shed.fields := by
  refine ⟨by decide, fun g hg package name htype => ?_⟩
  have hown : ∀ g ∈ shed.fields, g.type.package? = none := by decide
  have hnone := hown g hg
  rw [htype] at hnone
  cases hnone

/-- A message with the name of a trait that all files import. -/
def reading : Message :=
  ⟨"garden", "Read", "", [], [], .empty⟩

/-- In the file of a service and in that of a message no names clash; a message with the name of a
trait has no file. -/
theorem names_of_dig :
    (∃ file code, dig.file Config.standard = .ok file ∧
      emitService Config.standard .boxes "Dig.srv" dig = .ok code ∧
      file.KeepsNames dig.dependencies [potField, headerField] ∧
      ¬file.Clash [potField, headerField]) ∧
    (emitMessage Config.standard .boxes "Shed.msg" shed
        = .ok (banner "Shed.msg" ++ shedFile.formatted) ∧
      shedFile.KeepsNames shed.dependencies shed.fields ∧ ¬shedFile.Clash shed.fields) ∧
    ∃ taken, emitMessage Config.standard .boxes "Read.msg" reading
      = .error (.reservedName taken) := by
  refine ⟨?_, ?_, ?_⟩
  · obtain ⟨file, hfile, hvalid, hscope, hmodules⟩ := file_dig
    have hcode := emitService_boxes hfile hvalid "Dig.srv"
    obtain ⟨-, hemitted⟩ := (Resolver.names_of_emitted resolver Config.standard .boxes "Dig.srv").2
      "Dig" _ dig readService_dig
    obtain ⟨other, text, hother, -, -, hkeeps⟩ := hemitted _ hcode
    obtain rfl : file = other := Except.ok.inj (hfile.symm.trans hother)
    have hnames := keepsNames_dig hscope hmodules
    exact ⟨file, _, hfile, hcode, hnames, hkeeps.1 hnames⟩
  · obtain ⟨-, hemitted⟩ :=
      (Resolver.names_of_emitted resolver Config.standard .boxes "Shed.msg").1 shed
    obtain ⟨other, text, hother, -, -, hkeeps⟩ := hemitted _ emitMessage_shed
    obtain rfl : shedFile = other := Except.ok.inj (file_shed.symm.trans hother)
    exact ⟨emitMessage_shed, keepsNames_shed, hkeeps.1 keepsNames_shed⟩
  · refine ((Resolver.names_of_emitted resolver Config.standard .boxes "Read.msg").1 reading).1 ?_
    intro havoids
    exact absurd (havoids.messages reading List.mem_cons_self).typeName (by decide)

/-! ## Names that clash -/

/-- A message that holds messages of its own type, and one with a type of a package that is called
like the module of the runtime. -/
def node : Message :=
  ⟨"garden", "Node", "Node[] children\n", [⟨"children", "Node", .many, .own "Node"⟩], [], .empty⟩

def wired : Message :=
  ⟨"garden", "Wired", "wire/Knot knot\n",
    [⟨"knot", "wire/Knot", .single, .foreign "wire" "Knot"⟩], [], .empty⟩

theorem file_node : ∃ file, node.file Config.standard = .ok file ∧ file.isValid = true ∧
    file.scope = outsideNames false ++ Code.preludeNames ++ ["Node", "Node"] := by
  refine ⟨_, rfl, ?_, ?_⟩ <;> decide +kernel

theorem file_wired : ∃ file, wired.file Config.standard = .ok file ∧ file.isValid = true ∧
    file.scope = outsideNames false ++ Code.preludeNames ++ ["Wired"] ∧ file.modules = [] := by
  refine ⟨_, rfl, ?_, ?_, rfl⟩ <;> decide +kernel

/-- The file of a message that holds itself defines the type that it imports, and the path to a type
of package `wire` leads to the module of the runtime.  Neither of them is refused. -/
theorem names_of_node :
    (resolver.readMessage "Node" (Text.Utf8.encode "Node[] children\n") = .ok node ∧
      ∃ file code, node.file Config.standard = .ok file ∧
        emitMessage Config.standard .boxes "Node.msg" node = .ok code ∧
        file.scope.count "Node" = 2 ∧ ¬file.KeepsNames node.dependencies node.fields) ∧
    (resolver.readMessage "Wired" (Text.Utf8.encode "wire/Knot knot\n") = .ok wired ∧
      ∃ file code, wired.file Config.standard = .ok file ∧
        emitMessage Config.standard .boxes "Wired.msg" wired = .ok code ∧
        "wire" ∈ file.scope ∧ file.modules = [] ∧
        ¬file.KeepsNames wired.dependencies wired.fields) := by
  constructor
  · obtain ⟨file, hfile, hvalid, hscope⟩ := file_node
    have hcode := emitMessage_boxes hfile hvalid "Node.msg"
    have htwice : file.scope.count "Node" = 2 := by
      rw [hscope]
      decide
    refine ⟨by rw [Resolver.readMessage_encode]; rfl, file, _, hfile, hcode, htwice,
      fun hkeeps => ?_⟩
    have honce := List.nodup_iff_count_le_one.1 hkeeps.distinct "Node"
    rw [htwice] at honce
    exact absurd honce (by decide)
  · obtain ⟨file, hfile, hvalid, hscope, hmodules⟩ := file_wired
    have hcode := emitMessage_boxes hfile hvalid "Wired.msg"
    have hwire : "wire" ∈ file.scope := by
      rw [hscope]
      decide
    refine ⟨by rw [Resolver.readMessage_encode]; rfl, file, _, hfile, hcode, hwire, hmodules,
      fun hkeeps => ?_⟩
    rcases hkeeps.foreign _ List.mem_cons_self _ _ rfl with ⟨path, -, hrefers⟩ | ⟨-, hout⟩
    · have himported := hrefers.imported
      rw [hmodules] at himported
      cases himported
    · exact hout.not_bound hwire

end Garden

end Missive
