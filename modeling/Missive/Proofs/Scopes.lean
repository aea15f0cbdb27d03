import Mathlib.Data.List.Nodup
import Mathlib.Tactic.Tauto
import Missive.Emission.Generate
/-!
# Names in scope of emitted code

An emitted file gets names from five sides: from the runtime and the standard library, from the
prelude, for the modules of other packages, for types of the own package, and for the types that it
defines.  Here it is said when they are distinct and paths lead where they should, and in which ways
this can fail for a file whose names have been looked at.

* `Code.File.scope` -- all names in scope of a file;
* `Code.File.RefersTo`, `Code.File.KeepsNames` -- what the names should be;
* `Code.File.Clash` -- the clashes that are not looked for;
* `Code.File.IsChecked` -- what is looked for;
* `Code.File.keepsNames_iff` -- the names of such a file clash only in these ways.
-/

namespace Missive

/-! ## Scopes -/

namespace Code

/-- The name of a definition for which this text stands: its first word, without the mark of an
escape. -/
def definedName (text : String) : String :=
  match lexemes? (text ++ ";") with
  | some (.word name :: _) => (escaped? name).getD name
  | _ => text

/-- The name that an import gives to its module. -/
def ModuleImport.name (i : ModuleImport) : String :=
  i.alias?.getD (lastSegment i.path)

/-- The types of the prelude that emitted code uses. -/
def preludeNames : List String :=
  ["Box", "Default", "Result", "Vec"]

namespace File

variable (f : File)

/-- The names that a file has from the runtime, whose module itself is one of them, from the
standard library and from the prelude. -/
def fixedNames : List String :=
  f.names.map (fun name => if name == "self" then "wire" else name) ++ streamNames ++ preludeNames

/-- The names of the modules that a file imports. -/
def packages : List String :=
  f.modules.map ModuleImport.name

/-- The names of the types that a file defines, as they stand in it. -/
def ownTexts : List String :=
  f.messages.map MessageItem.name ++ f.service.toList.map ServiceItem.name

/-- The names of the types that a file defines. -/
def ownNames : List String :=
  f.ownTexts.map definedName

/-- The names in scope of a file. -/
def scope : List String :=
  f.fixedNames ++ f.packages ++ f.siblings ++ f.ownNames

/-- A path that starts with this segment leads to the module of this import: the import is in the
file, and nothing else that the segment could mean. -/
structure RefersTo (segment : String) (i : ModuleImport) : Prop where
  imported : i ∈ f.modules
  named : i.name = segment
  once : f.scope.count segment = 1
  not_reserved : isReservedPackage segment = false
  not_keyword : segment ∉ pathWords

/-- A path that starts with this segment leads out of the file: nothing in the file is called like
it. -/
structure LeadsOut (segment : String) : Prop where
  not_bound : segment ∉ f.scope
  not_reserved : isReservedPackage segment = false
  not_keyword : segment ∉ pathWords

/-- The names in scope of a file are distinct.  The types of other packages in these fields lead to
the modules that are imported for the packages; if there is no import for one they lead to nothing
else in the file. -/
structure KeepsNames (dependencies : Dictionary String) (fields : List Field) : Prop where
  distinct : f.scope.Nodup
  foreign : ∀ g ∈ fields, ∀ package name, g.type = .foreign package name →
    (∃ path, dependencies.find? package = some path ∧
      f.RefersTo package (moduleImport package path)) ∨
    dependencies.find? package = none ∧ f.LeadsOut package

/-- Names of a file clash, in one of the ways that are not looked for. -/
inductive Clash (fields : List Field) : Prop
  /-- A package is called like a type: of the runtime, the prelude, the own package or the file. -/
  | package {name : String} :
      name ∈ f.packages → name ∈ f.fixedNames ++ f.siblings ++ f.ownNames → Clash fields
  /-- A type that the file defines is imported into it, too. -/
  | sibling {name : String} : name ∈ f.siblings → name ∈ f.ownNames → Clash fields
  /-- Behind blanks, comments or an escape stands a name that is taken. -/
  | disguised {text : String} :
      text ∈ f.ownTexts → definedName text ≠ text →
      (definedName text ∈ f.fixedNames ∨
        ∃ other ∈ f.ownTexts, other ≠ text ∧ definedName other = definedName text) →
      Clash fields
  /-- A field has a type of a package that is not imported but called like something in scope. -/
  | unimported {g : Field} {package name : String} :
      g ∈ fields → g.type = .foreign package name → package ∉ f.packages →
      (package ∈ f.scope ∨ isReservedPackage package = true) → Clash fields
  /-- A field has a type of a package that is called like a keyword of paths. -/
  | keyword {g : Field} {package name : String} :
      g ∈ fields → g.type = .foreign package name → package ∈ pathWords → Clash fields

/-- The names of a file as far as they are looked at. -/
structure IsChecked (dependencies : Dictionary String) : Prop where
  fixed : f.fixedNames.Nodup
  modules : f.modules = moduleImports dependencies
  not_reserved : ∀ name ∈ f.packages, isReservedPackage name = false
  siblings : f.siblings.Nodup
  siblings_free : ∀ name ∈ f.siblings, name ∉ f.fixedNames
  own : f.ownTexts.Nodup
  own_free : ∀ text ∈ f.ownTexts, text ∉ f.fixedNames

end File

/-- The module of a package is imported under the name of the package. -/
theorem moduleImport_name (package path : String) :
    (moduleImport package path).name = package := by
  rw [moduleImport, ModuleImport.name]
  split_ifs with h
  · exact beq_iff_eq.1 h
  · rfl

end Code

/-! ## Names of dictionaries -/

namespace Dictionary

variable {α : Type} (d : Dictionary α)

theorem keys_nodup : d.keys.Nodup := by
  rw [keys, List.Nodup, List.pairwise_map]
  exact d.sorted.imp fun h => String.ne_of_lt h

theorem find?_of_not_mem_keys {name : String} (h : name ∉ d.keys) :
    d.find? name = none := by
  refine List.lookup_eq_none_iff.2 fun entry hentry => bne_iff_ne.2 ?_
  intro heq
  exact h (heq ▸ List.mem_map_of_mem hentry)

variable {d}

theorem exists_of_mem_keys {name : String} (h : name ∈ d.keys) :
    ∃ value, (name, value) ∈ d.entries ∧ d.find? name = some value := by
  obtain ⟨⟨key, value⟩, hmem, rfl⟩ := List.mem_map.1 h
  cases hfind : d.find? key with
  | none =>
    have hne := List.lookup_eq_none_iff.1 hfind (key, value) hmem
    simp at hne
  | some other =>
    obtain ⟨before, after, hsplit, -⟩ := List.lookup_eq_some_iff.1 hfind
    exact ⟨other, by rw [hsplit]; simp, rfl⟩

end Dictionary

namespace Code.File

variable {f : File} {dependencies : Dictionary String} {fields : List Field}

theorem packages_eq (h : f.modules = moduleImports dependencies) :
    f.packages = dependencies.keys := by
  rw [packages, h, moduleImports, List.map_map, Dictionary.keys]
  exact List.map_congr_left fun entry _ => moduleImport_name entry.1 entry.2

theorem scope_nodup_iff : f.scope.Nodup ↔
    (f.fixedNames.Nodup ∧ f.packages.Nodup ∧ f.siblings.Nodup ∧ f.ownNames.Nodup) ∧
    f.fixedNames.Disjoint f.siblings ∧ f.fixedNames.Disjoint f.ownNames ∧
    f.siblings.Disjoint f.ownNames ∧
    f.packages.Disjoint (f.fixedNames ++ f.siblings ++ f.ownNames) := by
  rw [scope]
  simp only [List.nodup_append', List.disjoint_append_left, List.disjoint_append_right]
  have hswap : f.packages.Disjoint f.fixedNames ↔ f.fixedNames.Disjoint f.packages :=
    List.disjoint_comm
  tauto

/-- Without a disguise the types that a file defines have the names that stand in it. -/
theorem ownNames_free (h : f.IsChecked dependencies) (hclash : ¬f.Clash fields) :
    f.ownNames.Nodup ∧ f.fixedNames.Disjoint f.ownNames := by
  constructor
  · refine h.own.map_on fun text htext other hother heq => ?_
    by_contra hne
    -- two texts with one name cannot both be names themselves
    by_cases hself : definedName text = text
    · have hdisguise : definedName other ≠ other := by
        intro hother
        exact hne (hself.symm.trans (heq.trans hother))
      exact hclash (.disguised hother hdisguise (.inr ⟨text, htext, hne, heq⟩))
    · exact hclash (.disguised htext hself (.inr ⟨other, hother, Ne.symm hne, heq.symm⟩))
  · intro name hfixed hname
    obtain ⟨text, htext, rfl⟩ := List.mem_map.1 hname
    by_cases hself : definedName text = text
    · rw [hself] at hfixed
      exact h.own_free text htext hfixed
    · exact hclash (.disguised htext hself (.inl hfixed))

/-- Where nothing clashes, the names in scope are distinct. -/
theorem scope_nodup_of_not_clash (h : f.IsChecked dependencies) (hclash : ¬f.Clash fields) :
    f.scope.Nodup := by
  obtain ⟨hown, hfixed⟩ := ownNames_free h hclash
  have hpackages : f.packages.Nodup := by
    rw [packages_eq h.modules]
    exact dependencies.keys_nodup
  refine scope_nodup_iff.2 ⟨⟨h.fixed, hpackages, h.siblings, hown⟩, ?_, hfixed, ?_, ?_⟩
  · exact fun name hname hsibling => h.siblings_free name hsibling hname
  · exact fun name hsibling hname => hclash (.sibling hsibling hname)
  · exact fun name hpackage hname => hclash (.package hpackage hname)

/-- A package in scope is imported from where it is said to be, and its name means nothing else. -/
theorem refersTo_of_mem (h : f.IsChecked dependencies) (hdistinct : f.scope.Nodup) {name : String}
    (hpackage : name ∈ f.packages) (hkeyword : name ∉ pathWords) :
    ∃ path, dependencies.find? name = some path ∧ f.RefersTo name (moduleImport name path) := by
  have hkey := hpackage
  rw [packages_eq h.modules] at hkey
  obtain ⟨path, hentry, hfind⟩ := dependencies.exists_of_mem_keys hkey
  have hscope : name ∈ f.scope := by
    simp [scope, hpackage]
  refine ⟨path, hfind, ?_, moduleImport_name name path, List.count_eq_one_of_mem hdistinct hscope,
    h.not_reserved name hpackage, hkeyword⟩
  rw [h.modules]
  exact List.mem_map.2 ⟨(name, path), hentry, rfl⟩

/-- Names that are kept do not clash. -/
theorem KeepsNames.not_clash (h : f.KeepsNames dependencies fields) : ¬f.Clash fields := by
  obtain ⟨⟨-, -, -, hown⟩, -, hfixed, hsiblings, hpackages⟩ := scope_nodup_iff.1 h.distinct
  rintro (⟨hpackage, hname⟩ | ⟨hsibling, hname⟩ | ⟨htext, -, htaken⟩ | ⟨hg, htype, hnone, htaken⟩ |
    ⟨hg, htype, hkeyword⟩)
  · exact hpackages hpackage hname
  · exact hsiblings hsibling hname
  · rcases htaken with hname | ⟨other, hother, hne, heq⟩
    · exact hfixed hname (List.mem_map_of_mem htext)
    · exact hne (List.inj_on_of_nodup_map hown hother htext heq)
  · rcases h.foreign _ hg _ _ htype with ⟨path, -, hrefers⟩ | ⟨-, hout⟩
    · exact hnone (hrefers.named ▸ List.mem_map_of_mem hrefers.imported)
    · rcases htaken with hbound | hreserved
      · exact hout.not_bound hbound
      · exact absurd (hout.not_reserved.symm.trans hreserved) (by decide)
  · rcases h.foreign _ hg _ _ htype with ⟨path, -, hrefers⟩ | ⟨-, hout⟩
    · exact hrefers.not_keyword hkeyword
    · exact hout.not_keyword hkeyword

/-- The names of a file that passed the checks are kept unless they clash in one of the ways that
are not looked for. -/
theorem keepsNames_iff (h : f.IsChecked dependencies) :
    f.KeepsNames dependencies fields ↔ ¬f.Clash fields := by
  refine ⟨KeepsNames.not_clash, fun hclash => ?_⟩
  have hdistinct := scope_nodup_of_not_clash h hclash
  refine ⟨hdistinct, fun g hg package name htype => ?_⟩
  have hkeyword : package ∉ pathWords := fun hkeyword => hclash (.keyword hg htype hkeyword)
  by_cases hpackage : package ∈ f.packages
  · exact .inl (refersTo_of_mem h hdistinct hpackage hkeyword)
  · have hfind : dependencies.find? package = none := by
      rw [packages_eq h.modules] at hpackage
      exact dependencies.find?_of_not_mem_keys hpackage
    refine .inr ⟨hfind, fun hbound => ?_, ?_, hkeyword⟩
    · exact hclash (.unimported hg htype hpackage (.inl hbound))
    · rw [Bool.eq_false_iff]
      exact fun hreserved => hclash (.unimported hg htype hpackage (.inr hreserved))

end Code.File

end Missive
