import Missive.Proofs.Lines
import Missive.Proofs.Registrations
/-!
# Which messages type tokens name

A token that is not builtin names a message, if it is well formed, and a field of that type leads to
it and to no other one: definitions and registries agree about full names.

* `Resolver.Names`, `Resolver.Names.unique` -- the package and the name that a token stands for;
* `Resolver.names_or_invalid` -- a token that stands for nothing is refused;
* `TypeRef.seenFrom` -- the type of a package and name, which its key leads back to;
* `Resolver.typeRef_of_names` -- what a token is resolved to;
* `Resolver.types_of_tokens` -- all about the types of tokens.
-/

namespace Missive

namespace TypeRef

variable {owner package name : String}

/-- The type of this package and name, as seen from a definition of package `owner`. -/
def seenFrom (owner package name : String) : TypeRef :=
  if package = owner then .own name else .foreign package name

/-- A type is registered under its full name, from wherever it is seen. -/
theorem key?_seenFrom (owner package name : String) :
    (seenFrom owner package name).key? owner = some s!"{package}/{name}" := by
  rw [seenFrom]
  split
  · rename_i h
    rw [h, key?]
  · rfl

theorem isSome_package?_seenFrom (owner package name : String) :
    (seenFrom owner package name).package?.isSome ↔ package ≠ owner := by
  rw [seenFrom]
  split
  · rename_i h
    exact ⟨nofun, fun hne => absurd h hne⟩
  · rename_i h
    exact ⟨fun _ => h, fun _ => rfl⟩

end TypeRef

/-- The message of a type is looked up under its full name and nowhere else. -/
theorem Registry.resolve_seenFrom (reg : Registry) (owner package name : String) :
    reg.resolve owner (.seenFrom owner package name) =
      (reg.find? s!"{package}/{name}").elim
        (.error (.unknownMessage s!"{package}/{name}")) .ok := by
  rw [resolve, TypeRef.key?_seenFrom]
  dsimp only
  cases reg.find? s!"{package}/{name}" <;> rfl

namespace Resolver

/-! ## Tokens -/

/-- The package and the name that a type token stands for in a definition of package `owner`.  The
token for the header is of the bundled package, and another one without a slash is of the package of
the definition. -/
inductive Names (owner : String) : String → String → String → Prop
  | header : Names owner headerToken Config.bundledPackage headerToken
  | bare {name : String} :
      name ≠ "" → '/' ∉ name.toList → name ≠ headerToken → Names owner name owner name
  | qualified {package name : String} :
      package ≠ "" → name ≠ "" → '/' ∉ package.toList → '/' ∉ name.toList →
      Names owner s!"{package}/{name}" package name

variable {owner token package name : String}

theorem Names.package_plain (h : Names owner token package name) (howner : '/' ∉ owner.toList) :
    '/' ∉ package.toList := by
  cases h with
  | header => decide
  | bare => exact howner
  | qualified _ _ hpackage _ => exact hpackage

theorem ne_headerToken (h : '/' ∈ token.toList) : token ≠ headerToken := by
  rintro rfl
  exact absurd h (by decide)

/-- A token in one piece. -/
theorem target_of_bare (hheader : token ≠ headerToken) (hslash : '/' ∉ token.toList) :
    target token = if token = "" then .error (.invalidType token) else .ok (none, token) := by
  rw [target, if_neg (mt beq_iff_eq.1 hheader), Text.pieces_of_not_mem hslash]
  simp only [List.map_cons, List.map_nil, String.ofList_toList, String.isEmpty_iff]

/-- A token in two pieces. -/
theorem target_of_qualified (hpackage : '/' ∉ package.toList) (hname : '/' ∉ name.toList) :
    target s!"{package}/{name}" =
      if package = "" ∨ name = "" then .error (.invalidType s!"{package}/{name}")
      else .ok (some package, name) := by
  have hheader : s!"{package}/{name}" ≠ headerToken :=
    ne_headerToken (by rw [toList_fullName]; simp)
  rw [target, if_neg (mt beq_iff_eq.1 hheader), toList_fullName, Text.pieces_append,
    Text.pieces_of_not_mem hpackage, Text.pieces_of_not_mem hname]
  simp only [List.cons_append, List.nil_append, List.map_cons, List.map_nil, String.ofList_toList,
    Bool.or_eq_true, String.isEmpty_iff]

/-- A token in more than two pieces. -/
theorem target_of_slashes (h : '/' ∈ name.toList) :
    target s!"{package}/{name}" = .error (.invalidType s!"{package}/{name}") := by
  have hheader : s!"{package}/{name}" ≠ headerToken :=
    ne_headerToken (by rw [toList_fullName]; simp)
  rw [target, if_neg (mt beq_iff_eq.1 hheader), toList_fullName]
  obtain ⟨a, b, hname, -⟩ := List.eq_append_cons_of_mem h
  have hlength : 2 < (Text.pieces '/' (package.toList ++ '/' :: name.toList)).length := by
    have hpackage := List.length_pos_iff.2 (Text.pieces_ne_nil '/' package.toList)
    have ha := List.length_pos_iff.2 (Text.pieces_ne_nil '/' a)
    have hb := List.length_pos_iff.2 (Text.pieces_ne_nil '/' b)
    rw [Text.pieces_append, hname, Text.pieces_append, List.length_append, List.length_append]
    omega
  rcases hpieces : Text.pieces '/' (package.toList ++ '/' :: name.toList) with
    _ | ⟨first, _ | ⟨second, _ | ⟨third, rest⟩⟩⟩
  -- there are three pieces at least
  · simp [hpieces] at hlength
  · simp [hpieces] at hlength
  · simp [hpieces] at hlength
  · rfl

theorem target_of_names (h : Names owner token package name) :
    (package = owner ∧ target token = .ok (none, name)) ∨
      target token = .ok (some package, name) := by
  cases h with
  | header => exact .inr rfl
  | bare hname hslash hheader =>
    refine .inl ⟨rfl, ?_⟩
    rw [target_of_bare hheader hslash, if_neg hname]
  | qualified hpackage hname hslash hslash' =>
    refine .inr ?_
    rw [target_of_qualified hslash hslash', if_neg (not_or.2 ⟨hpackage, hname⟩)]

/-- A token that stands for nothing is refused. -/
theorem names_or_invalid (owner token : String) :
    (∃ package name, Names owner token package name) ∨
      target token = .error (.invalidType token) := by
  by_cases hheader : token = headerToken
  · rw [hheader]
    exact .inl ⟨_, _, .header⟩
  by_cases hslash : '/' ∈ token.toList
  · obtain ⟨package, name, rfl, hpackage⟩ := exists_fullName hslash
    by_cases hname : '/' ∈ name.toList
    · exact .inr (target_of_slashes hname)
    · rw [target_of_qualified hpackage hname]
      by_cases hempty : package = "" ∨ name = ""
      · exact .inr (if_pos hempty)
      · obtain ⟨howner, hplain⟩ := not_or.1 hempty
        exact .inl ⟨package, name, .qualified howner hplain hpackage hname⟩
  · rw [target_of_bare hheader hslash]
    by_cases hempty : token = ""
    · exact .inr (if_pos hempty)
    · exact .inl ⟨owner, token, .bare hempty hslash hheader⟩

/-- A token stands for one package and name only. -/
theorem Names.unique {package' name' : String} (h : Names owner token package name)
    (h' : Names owner token package' name') : package = package' ∧ name = name' := by
  rcases target_of_names h with ⟨rfl, ht⟩ | ht <;>
    rcases target_of_names h' with ⟨rfl, ht'⟩ | ht' <;>
    rw [ht] at ht' <;> cases ht'
  · exact ⟨rfl, rfl⟩
  · exact ⟨rfl, rfl⟩

/-! ## Types -/

variable {r : Resolver}

/-- A token that is not builtin is resolved to the type of what it stands for. -/
theorem typeRef_of_names (hbuiltin : Primitive.ofToken? token = none)
    (h : Names r.package token package name) :
    r.typeRef token = .ok (.seenFrom r.package package name) := by
  rw [typeRef, hbuiltin]
  dsimp only
  rcases target_of_names h with ⟨rfl, ht⟩ | ht
  · rw [ht, TypeRef.seenFrom, if_pos rfl]
  · rw [ht, TypeRef.seenFrom]
    dsimp only
    by_cases heq : package = r.package
    · rw [if_pos heq, if_pos (beq_iff_eq.2 heq)]
    · rw [if_neg heq, if_neg (mt beq_iff_eq.1 heq)]

theorem typeRef_of_invalid (hbuiltin : Primitive.ofToken? token = none)
    (h : target token = .error (.invalidType token)) :
    r.typeRef token = .error (.invalidType token) := by
  rw [typeRef, hbuiltin]
  dsimp only
  rw [h]

/-- The type is the only reason to refuse a field whose shape can be read. -/
theorem field_eq_invalidType_iff (hbuiltin : Primitive.ofToken? token = none) {field : String}
    {count path : Option String} :
    r.field field token count path = .error (.invalidType token) ↔
      (∃ shape, Shape.read count = .ok shape) ∧
        ¬∃ package name, Names r.package token package name := by
  rcases hs : Shape.read count with e | shape
  · obtain ⟨digits, cause, rfl⟩ := Shape.read_eq_error hs
    rw [field_of_shape_error hs]
    exact ⟨nofun, fun ⟨⟨_, h⟩, _⟩ => nomatch h⟩
  · rw [field_of_shape hs]
    refine ⟨fun h => ⟨⟨shape, rfl⟩, ?_⟩, fun ⟨_, hnone⟩ => ?_⟩
    · rintro ⟨package, name, hnames⟩
      rw [typeRef_of_names hbuiltin hnames] at h
      cases h
    · rw [typeRef_of_invalid hbuiltin ((names_or_invalid r.package token).resolve_left hnone)]
      rfl

/-- What a field of a message type is, and the import that it needs. -/
theorem field_of_names (hbuiltin : Primitive.ofToken? token = none)
    (h : Names r.package token package name) {shape : Shape} {count : Option String}
    (hs : Shape.read count = .ok shape) (field : String) (path : Option String) :
    r.field field token count path =
      .ok ⟨⟨field, token, shape, .seenFrom r.package package name⟩,
        if package = r.package then none
        else (path.or (r.config.importPath? package)).map fun module => (package, module)⟩ := by
  rw [field_of_shape hs, typeRef_of_names hbuiltin h]
  refine congrArg (fun dependency => Except.ok (Resolution.mk _ dependency)) ?_
  rw [TypeRef.seenFrom]
  split
  · rfl
  · exact congrArg (Option.map _) Option.orElse_eq_or

/-- **Types and registries agree about full names.**  A field whose type is not builtin is refused
for it exactly if the token stands for nothing, and a size that cannot be read is reported first.
Otherwise the message of the type is looked up, in every registry, under the full name that the
token stands for.  The type is of another package exactly if that name is, and then the package is
imported exactly if there is a path beside the field or a configured one, of which the former
counts.  Tokens that stand for one full name are of the same type, in the definition and in emitted
code. -/
theorem types_of_tokens (r : Resolver) (token : String)
    (hbuiltin : Primitive.ofToken? token = none) :
    (∀ name count path, r.field name token count path = .error (.invalidType token) ↔
      (∃ shape, Shape.read count = .ok shape) ∧
        ¬∃ package type, Names r.package token package type) ∧
    ∀ package type, Names r.package token package type →
      (∀ name count path shape, Shape.read count = .ok shape →
        ∃ resolution, r.field name token count path = .ok resolution ∧
          (∀ reg : Registry, reg.resolve r.package resolution.field.type =
            (reg.find? s!"{package}/{type}").elim
              (.error (.unknownMessage s!"{package}/{type}")) .ok) ∧
          (resolution.field.type.package?.isSome ↔ package ≠ r.package) ∧
          (package = r.package → resolution.dependency = none) ∧
          (package ≠ r.package → ∀ module, resolution.dependency = some (package, module) ↔
            path.or (r.config.importPath? package) = some module)) ∧
      ∀ other home ref, Primitive.ofToken? other = none → Names r.package other home ref →
        '/' ∉ r.package.toList → s!"{package}/{type}" = s!"{home}/{ref}" →
        ∀ name count path first, r.field name token count path = .ok first →
        ∀ name' count' path' second, r.field name' other count' path' = .ok second →
          first.field.type = second.field.type ∧
          first.field.type.source = second.field.type.source ∧
          first.field.type.zeroSource = second.field.type.zeroSource := by
  refine ⟨fun name count path => field_eq_invalidType_iff hbuiltin, fun package type hnames =>
    ⟨fun name count path shape hs => ?_, ?_⟩⟩
  · refine ⟨_, field_of_names hbuiltin hnames hs name path,
      fun reg => reg.resolve_seenFrom r.package package type,
      TypeRef.isSome_package?_seenFrom r.package package type, fun heq => if_pos heq,
      fun hne module => ?_⟩
    rw [if_neg hne]
    simp
  · intro other home ref hbuiltin' hnames' howner hkey name count path first hfirst name' count'
      path' second hsecond
    obtain ⟨rfl, rfl⟩ :=
      fullName_inj (hnames.package_plain howner) (hnames'.package_plain howner) hkey
    have htype : first.field.type = second.field.type := by
      obtain ⟨_, _, -, htype, rfl⟩ := field_eq_ok_iff.1 hfirst
      obtain ⟨_, _, -, htype', rfl⟩ := field_eq_ok_iff.1 hsecond
      rw [typeRef_of_names hbuiltin hnames] at htype
      rw [typeRef_of_names hbuiltin' hnames'] at htype'
      exact Except.ok.inj (htype.symm.trans htype')
    exact ⟨htype, congrArg TypeRef.source htype, congrArg TypeRef.zeroSource htype⟩

end Resolver

/-! ## Tokens in a garden -/

namespace Garden

theorem names_header : Resolver.Names "garden" "Header" "std_msgs" "Header" :=
  .header

theorem names_bundledHeader : Resolver.Names "garden" "std_msgs/Header" "std_msgs" "Header" :=
  @Resolver.Names.qualified "garden" "std_msgs" "Header" (by decide) (by decide) (by decide)
    (by decide)

theorem names_nothing : ¬∃ package name, Resolver.Names "garden" "garden//Pot" package name := by
  rintro ⟨package, name, h⟩
  rcases Resolver.target_of_names h with ⟨-, h⟩ | h <;> cases h

/-- The header under both its names, with its messages looked up in one place, and a token with a
slash too many. -/
theorem types_of_tokens_garden :
    (∃ dug, resolver.field "dug" "Header" none none = .ok dug ∧
      dug.dependency = some ("std_msgs", "rosgen::msgs::std_msgs") ∧
      (∀ reg : Registry, reg.resolve "garden" dug.field.type =
        (reg.find? "std_msgs/Header").elim (.error (.unknownMessage "std_msgs/Header")) .ok) ∧
      ∀ sown, resolver.field "sown" "std_msgs/Header" (some "4") (some "sheds") = .ok sown →
        dug.field.type = sown.field.type) ∧
    resolver.field "pot" "garden//Pot" none none = .error (.invalidType "garden//Pot") := by
  obtain ⟨-, hheader⟩ := Resolver.types_of_tokens resolver "Header" rfl
  obtain ⟨hinvalid, -⟩ := Resolver.types_of_tokens resolver "garden//Pot" rfl
  obtain ⟨hfield, hsame⟩ := hheader _ _ names_header
  obtain ⟨dug, hdug, hresolve, -, -, himport⟩ := hfield "dug" none none .single rfl
  refine ⟨⟨dug, hdug, ?_, hresolve, fun sown hsown => ?_⟩,
    (hinvalid _ _ _).2 ⟨⟨.single, rfl⟩, names_nothing⟩⟩
  · exact (himport (by decide) _).2 rfl
  · exact (hsame "std_msgs/Header" _ _ rfl names_bundledHeader (by decide) rfl _ _ _ _ hdug _ _ _ _
      hsown).1

end Garden

end Missive
