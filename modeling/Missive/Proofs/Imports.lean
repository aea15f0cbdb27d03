import Missive.Proofs.Directives
import Missive.Proofs.Sections
import Missive.Proofs.Zeros
/-!
# Where the types of other packages are imported from

All fields of one package share one import.  Each field offers a path for it: the one that is stated
in its comment, or else the configured one, if there is one.  The last offer of a message counts,
and of a service the last one in the request, if there is one there.  So a path that is stated at
one field only holds as long as no later field is left to the configuration.

* `Declaration.statedPaths` -- the paths that are stated at a field;
* `Resolver.fieldsOf` -- the fields of a text whose types are of one package;
* `Resolver.find?_dependencies` -- the import of a package is the last path that is offered;
* `Resolver.dependencies_of_statedPath` -- what becomes of a stated path.
-/

namespace Missive

/-! ## Stated paths -/

namespace Declaration

/-- The paths that are stated behind a field for the package of its type, in order. -/
def statedPaths : Declaration → List String
  | constant .. => []
  | field _ _ _ trailer => Directive.statedPaths (trailer.toList.dropWhile (· != '#'))

/-- Whether a path is stated behind a field. -/
def statesPath (d : Declaration) : Bool :=
  !d.statedPaths.isEmpty

theorem packagePath?_eq (trailer : String) :
    packagePath? trailer
      = (Directive.statedPaths (trailer.toList.dropWhile (· != '#'))).getLast? := by
  rw [packagePath?]
  split
  · rename_i hnone
    rw [hnone]
    rfl
  · rw [Directive.find?_collect, String.toList_ofList]

end Declaration

namespace Resolver

variable (r : Resolver)

/-- The other package that a field takes its type from. -/
def foreignPackage? : Declaration → Option String
  | .constant .. => none
  | .field type .. => (r.typeRef type).toOption.bind TypeRef.package?

/-- The fields of a text whose types are of a package, in order. -/
def fieldsOf (package text : String) : List Declaration :=
  ((significantLines text.toList).filterMap Declaration.read?).filter fun d =>
    r.foreignPackage? d = some package

/-- The path that a field offers for the package of its type. -/
def offer? (package : String) (d : Declaration) : Option String :=
  d.statedPaths.getLast?.or (r.config.importPath? package)

/-! ## The offers of a text -/

/-- What an import says about a package. -/
def pathFor? (package : String) (dependency : String × String) : Option String :=
  if package = dependency.1 then some dependency.2 else none

/-- The import of a type is for its package. -/
theorem dependency?_bind (package : String) (type : TypeRef) (path : Option String) :
    (r.dependency? type path).bind (pathFor? package)
      = if type.package? = some package then path.or (r.config.importPath? package) else none := by
  cases type with
  | primitive p => rfl
  | own name => rfl
  | foreign owner name =>
    have horelse : (path <|> r.config.importPath? owner) = path.or (r.config.importPath? owner) :=
      Option.orElse_eq_or
    rw [dependency?, TypeRef.package?, horelse]
    by_cases h : owner = package
    · subst h
      rw [if_pos rfl]
      cases path.or (r.config.importPath? owner) with
      | none => rfl
      | some p => exact if_pos rfl
    · rw [if_neg (mt Option.some.inj h)]
      cases path.or (r.config.importPath? owner) with
      | none => rfl
      | some p => exact if_neg (Ne.symm h)

theorem dependency_of_field {name token : String} {count path : Option String}
    {resolution : Resolution} (h : r.field name token count path = .ok resolution) :
    ∃ type, r.typeRef token = .ok type ∧ resolution.dependency = r.dependency? type path := by
  obtain ⟨_, type, -, htype, rfl⟩ := field_eq_ok_iff.1 h
  exact ⟨type, htype, rfl⟩

/-- What a declaration makes of the import of a package. -/
theorem pathFor?_of_entry {package : String} {d : Declaration} {e : Entry}
    (h : r.entry d = .ok e) :
    e.dependency?.bind (pathFor? package)
      = if r.foreignPackage? d = some package then r.offer? package d else none := by
  cases d with
  | constant type name value =>
    cases h
    rfl
  | field type count name trailer =>
    obtain ⟨resolution, hfield, rfl⟩ := Except.map_eq_ok_iff.1 h
    obtain ⟨ref, href, hdependency⟩ := r.dependency_of_field hfield
    show resolution.dependency.bind _ = _
    rw [hdependency, dependency?_bind, Declaration.packagePath?_eq, foreignPackage?, href]
    rfl

theorem filterMap_pathFor? (package : String) {lines : List (List Char)} {entries : List Entry}
    (h : lines.mapM r.readLine = .ok entries) :
    (entries.filterMap Entry.dependency?).filterMap (pathFor? package)
      = ((lines.filterMap Declaration.read?).filter fun d =>
          r.foreignPackage? d = some package).filterMap (r.offer? package) := by
  induction lines generalizing entries with
  | nil =>
    cases h
    rfl
  | cons line rest ih =>
    obtain ⟨e, later, hline, hrest, rfl⟩ := Except.mapM_cons_eq_ok_iff.1 h
    obtain ⟨d, hd, hentry⟩ : ∃ d, Declaration.read? line = some d ∧ r.entry d = .ok e := by
      rw [readLine] at hline
      split at hline
      · cases hline
      · rename_i d hd
        exact ⟨d, hd, hline⟩
    have hfirst : e.dependency?.bind (pathFor? package)
        = if r.foreignPackage? d = some package then r.offer? package d else none :=
      r.pathFor?_of_entry hentry
    have hlater := ih hrest
    rw [List.filterMap_filterMap] at hlater ⊢
    rw [List.filterMap_cons_some hd]
    by_cases hforeign : r.foreignPackage? d = some package
    · rw [if_pos hforeign] at hfirst
      rw [List.filter_cons, if_pos (decide_eq_true hforeign), List.filterMap_cons,
        List.filterMap_cons, hfirst, hlater]
    · rw [if_neg hforeign] at hfirst
      rw [List.filter_cons, if_neg (by simpa using hforeign), List.filterMap_cons, hfirst, hlater]

theorem text_of_readMessageText {name text : String} {m : Message}
    (h : r.readMessageText name text = .ok m) : m.text = text := by
  obtain ⟨entries, -, rfl⟩ := readMessageText_eq_ok_iff.1 h
  rfl

/-- The import of a package is the last path that its fields offer. -/
theorem find?_dependencies {name text : String} {m : Message}
    (h : r.readMessageText name text = .ok m) (package : String) :
    m.dependencies.find? package
      = ((r.fieldsOf package m.text).filterMap (r.offer? package)).getLast? := by
  obtain ⟨entries, hentries, rfl⟩ := readMessageText_eq_ok_iff.1 h
  show (Dictionary.ofList (entries.filterMap Entry.dependency?)).find? package = _
  rw [Dictionary.find?_ofList]
  exact congrArg List.getLast? (r.filterMap_pathFor? package hentries)

/-- Fields of a request count as if they stood behind those of the response. -/
theorem find?_serviceDependencies {name text : String} {s : Service}
    (h : r.readServiceText name text = .ok s) (package : String) :
    s.dependencies.find? package
      = ((r.fieldsOf package s.response.text ++ r.fieldsOf package s.request.text).filterMap
          (r.offer? package)).getLast? := by
  obtain ⟨_, _, q, p, -, hq, hp, rfl⟩ := readServiceText_eq_ok_iff.1 h
  rw [Service.dependencies, Dictionary.find?_fillFrom, r.find?_dependencies hq,
    r.find?_dependencies hp, List.filterMap_append, List.getLast?_append]

/-! ## One stated path -/

/-- Some of these fields states a path, and none states another one. -/
structure StatesOnly (fields : List Declaration) (path : String) : Prop where
  stated : ∃ d ∈ fields, d.statesPath
  only : ∀ d ∈ fields, ∀ other ∈ d.statedPaths, other = path

/-- A field states this path or none. -/
theorem StatesOnly.getLast?_statedPaths {fields : List Declaration} {path : String}
    (h : StatesOnly fields path) {d : Declaration} (hd : d ∈ fields) :
    d.statedPaths.getLast? = if d.statesPath then some path else none := by
  rw [Declaration.statesPath]
  cases hlast : d.statedPaths.getLast? with
  | none =>
    rw [List.getLast?_eq_none_iff.1 hlast]
    rfl
  | some other =>
    have hmem := List.mem_of_getLast? hlast
    rw [h.only d hd other hmem, if_pos]
    simpa [List.isEmpty_iff] using List.ne_nil_of_mem hmem

/-- The last offer, if one path only is stated. -/
theorem getLast?_offers {package path : String} {fields : List Declaration}
    (h : StatesOnly fields path) :
    (fields.filterMap (r.offer? package)).getLast?
      = if fields.getLast?.any Declaration.statesPath then some path
        else (r.config.importPath? package).or (some path) := by
  have hoffer : ∀ d ∈ fields, r.offer? package d
      = (if d.statesPath then some path else none).or (r.config.importPath? package) := by
    intro d hd
    rw [offer?, h.getLast?_statedPaths hd]
  rw [List.filterMap_congr hoffer]
  cases hconfig : r.config.importPath? package with
  | some other =>
    -- with a configured path every field offers one, and the last field decides
    have hsome : ∀ d ∈ fields, (if d.statesPath then some path else none).or (some other)
        = some (if d.statesPath then path else other) := by
      intro d _
      cases d.statesPath <;> rfl
    rw [List.filterMap_congr hsome, List.filterMap_eq_map', List.getLast?_map]
    obtain ⟨d, hlast⟩ : ∃ d, fields.getLast? = some d := by
      obtain ⟨d, hd, -⟩ := h.stated
      exact Option.isSome_iff_exists.1 (List.getLast?_isSome.2 (List.ne_nil_of_mem hd))
    rw [hlast, Option.map_some, Option.any_some]
    cases d.statesPath <;> rfl
  | none =>
    -- without one only the stated path is offered
    have hpath : (if fields.getLast?.any Declaration.statesPath then some path
        else (none : Option String).or (some path)) = some path := ite_self _
    rw [hpath]
    obtain ⟨d, hd, hstated⟩ := h.stated
    have hmem : path ∈ fields.filterMap fun d =>
        (if d.statesPath then some path else none).or none :=
      List.mem_filterMap.2 ⟨d, hd, by rw [if_pos hstated]; rfl⟩
    obtain ⟨last, hlast⟩ := Option.isSome_iff_exists.1
      (List.getLast?_isSome.2 (List.ne_nil_of_mem hmem))
    obtain ⟨d', -, hd'⟩ := List.mem_filterMap.1 (List.mem_of_getLast? hlast)
    rw [hlast]
    cases hs : d'.statesPath with
    | false => rw [hs] at hd'; cases hd'
    | true => rw [hs] at hd'; exact hd'.symm

/-- **What becomes of a stated path.**  Of a package for which one path only is stated, at whichever
fields and however often, the import is this path if it is stated at the last field of the package,
and also if no path of the package is configured.  Otherwise the last field is left to the
configuration, and the configured path replaces the stated one.  In a service the fields of the
request count after those of the response. -/
theorem dependencies_of_statedPath (package path : String) :
    (∀ name text m, r.readMessageText name text = .ok m →
      StatesOnly (r.fieldsOf package m.text) path →
      m.dependencies.find? package
        = if (r.fieldsOf package m.text).getLast?.any Declaration.statesPath then some path
          else (r.config.importPath? package).or (some path)) ∧
    (∀ name text s, r.readServiceText name text = .ok s →
      StatesOnly (r.fieldsOf package s.response.text ++ r.fieldsOf package s.request.text) path →
      s.dependencies.find? package
        = if (r.fieldsOf package s.response.text ++ r.fieldsOf package s.request.text).getLast?.any
              Declaration.statesPath then some path
          else (r.config.importPath? package).or (some path)) := by
  refine ⟨fun name text m hread hstates => ?_, fun name text s hread hstates => ?_⟩
  · rw [r.find?_dependencies hread, r.getLast?_offers hstates]
  · rw [r.find?_serviceDependencies hread, r.getLast?_offers hstates]

end Resolver

/-! ## A log -/

namespace Garden

/-- Fields of a package with a configured path: two without a path, and one that states another. -/
def dug : Declaration := .field "Header" none "dug" ""

def grown : Declaration := .field "Header" none "grown" ""

def watered : Declaration :=
  .field "std_msgs/Header" none "watered" " # by rust:package=sheds::std now"

theorem statedPaths_watered : watered.statedPaths = ["sheds::std"] := by decide

/-- Fields without a path take nothing from the path that another one states. -/
theorem statesOnly_watered {fields : List Declaration} (hmem : watered ∈ fields)
    (hall : ∀ d ∈ fields, d = watered ∨ d.statedPaths = []) :
    Resolver.StatesOnly fields "sheds::std" where
  stated := ⟨watered, hmem, by decide⟩
  only := by
    intro d hd other hother
    rcases hall d hd with rfl | hnone
    · rw [statedPaths_watered] at hother
      exact List.mem_singleton.1 hother
    · rw [hnone] at hother
      cases hother

/-- The field with the path behind the one without, and the same two the other way round. -/
def logText : String := "Header dug\nstd_msgs/Header watered # by rust:package=sheds::std now\n"

def turnedLogText : String :=
  "std_msgs/Header watered # by rust:package=sheds::std now\nHeader dug\n"

theorem fieldsOf_log : resolver.fieldsOf "std_msgs" logText = [dug, watered] := by decide

theorem fieldsOf_behindLine :
    resolver.fieldsOf "std_msgs" ("\n" ++ logText) = [dug, watered] := by decide

theorem fieldsOf_turnedLog : resolver.fieldsOf "std_msgs" turnedLogText = [watered, dug] := by
  decide

theorem fieldsOf_grown : resolver.fieldsOf "std_msgs" "Header grown\n" = [grown] := by
  decide

theorem fieldsOf_grownBehindLine : resolver.fieldsOf "std_msgs" "\nHeader grown\n" = [grown] := by
  decide

/-- The path that the last field states is the import, and that of a service too if the response
has no such field. -/
theorem dependencies_log :
    (resolver.readMessageText "Log" logText).map (·.dependencies.find? "std_msgs")
      = .ok (some "sheds::std") ∧
    (resolver.readServiceText "Log" (logText ++ "---\nHeader grown\n")).map
        (·.dependencies.find? "std_msgs")
      = .ok (some "sheds::std") := by
  obtain ⟨hmessage, hservice⟩ :=
    Resolver.dependencies_of_statedPath resolver "std_msgs" "sheds::std"
  constructor
  · obtain ⟨m, hm⟩ : ∃ m, resolver.readMessageText "Log" logText = .ok m := ⟨_, rfl⟩
    have hpath := hmessage _ _ m hm
    rw [resolver.text_of_readMessageText hm, fieldsOf_log] at hpath
    rw [hm, Except.map, hpath (statesOnly_watered (by decide) (by decide))]
    decide
  · obtain ⟨s, hs, hrequest, hresponse⟩ : ∃ s,
        resolver.readServiceText "Log" (logText ++ "---\nHeader grown\n") = .ok s ∧
        s.request.text = logText ∧ s.response.text = "\nHeader grown\n" := ⟨_, rfl, rfl, rfl⟩
    have hpath := hservice _ _ s hs
    rw [hrequest, hresponse, fieldsOf_log, fieldsOf_grownBehindLine] at hpath
    rw [hs, Except.map, hpath (statesOnly_watered (by decide) (by decide))]
    decide

/-- In the other order the path is lost: the last field states none, and the configured one counts.
So is a path that only the response states. -/
theorem dependencies_turnedLog :
    (Resolver.StatesOnly (resolver.fieldsOf "std_msgs" turnedLogText) "sheds::std" ∧
      (resolver.readMessageText "Log" turnedLogText).map (·.dependencies.find? "std_msgs")
        = .ok (some "rosgen::msgs::std_msgs")) ∧
    (Resolver.StatesOnly (resolver.fieldsOf "std_msgs" ("\n" ++ logText)
        ++ resolver.fieldsOf "std_msgs" "Header grown\n") "sheds::std" ∧
      (resolver.readServiceText "Log" ("Header grown\n---\n" ++ logText)).map
          (·.dependencies.find? "std_msgs")
        = .ok (some "rosgen::msgs::std_msgs")) := by
  rw [fieldsOf_turnedLog, fieldsOf_behindLine, fieldsOf_grown]
  refine ⟨⟨statesOnly_watered (by decide) (by decide), ?_⟩,
    ⟨statesOnly_watered (by decide) (by decide), ?_⟩⟩ <;> decide +kernel

end Garden

end Missive
