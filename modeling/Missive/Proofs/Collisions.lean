import Missive.Proofs.Bindings
/-!
# Names that collide

Names of emitted code are derived from declared ones: a member from the name of a field, an
associated constant from that of a constant, a type from the name under which a message is
registered.  Each way of deriving gives one result for a few different names, and no check looks for
these; which names they are is said here.

* `Code.memberName_eq_iff`, `Constant.sourceName_eq_iff`, `TypeRef.source_eq_iff` -- from which
  names the same one is derived;
* `Name.letters_camel` -- a name in upper camel case has the letters of the name that it is made of;
* `Message.Separates`, `Message.Collides` -- whether different names stay different;
* `Resolver.separates_of_emitted` -- the names in the code of a message.
-/

namespace Missive

open Code (IsOver Reading linesText)

/-! ## Members -/

namespace Code

theorem hash_mem_escaped (name : String) : '#' ∈ (escapeMark ++ name).toList := by
  rw [String.toList_append]
  exact List.mem_append_left _ (by decide)

/-- A name that is not escaped has no mark in it. -/
theorem hash_not_mem {name : String} (h : IsOver isNameChar name) : '#' ∉ name.toList :=
  h.not_mem rfl

theorem hash_not_mem_behind {word : String} (h : word ∈ pathWords) :
    '#' ∉ (word ++ "_").toList := by
  revert word
  decide

/-- A word that no escape can save gets an underscore, and then needs no escape. -/
theorem memberName_pathWord {word : String} (h : word ∈ pathWords) :
    memberName word = word ++ "_" ∧ memberName (word ++ "_") = word ++ "_" := by
  revert word
  decide

/-- The name of a member is that of the field, but for words that are escaped or, where this does
not help, get an underscore. -/
theorem memberName_cases (name : String) :
    (name ∈ pathWords ∧ memberName name = name ++ "_") ∨ memberName name = escapeMark ++ name ∨
      memberName name = name := by
  rw [memberName]
  split_ifs with hpath
  · exact .inl ⟨List.contains_iff_mem.1 hpath, rfl⟩
  · exact .inr (.inl rfl)
  · exact .inr (.inr rfl)

/-- Two fields have one member if they are called alike, or if one is called like a word that no
escape can save and the other has an underscore behind it. -/
theorem memberName_eq_iff {a b : String} (ha : IsOver isNameChar a) (hb : IsOver isNameChar b) :
    memberName a = memberName b ↔
      a = b ∨ (a ∈ pathWords ∧ b = a ++ "_") ∨ (b ∈ pathWords ∧ a = b ++ "_") := by
  constructor
  · intro h
    rcases memberName_cases a with ⟨hpath, hname⟩ | hname | hname <;>
      rcases memberName_cases b with ⟨hpath', hname'⟩ | hname' | hname' <;>
      rw [hname, hname'] at h
    · exact .inl ((String.append_left_inj "_").1 h)
    · exact absurd (h ▸ hash_mem_escaped b) (hash_not_mem_behind hpath)
    · exact .inr (.inl ⟨hpath, h.symm⟩)
    · exact absurd (h ▸ hash_mem_escaped a) (hash_not_mem_behind hpath')
    · exact .inl ((String.append_right_inj escapeMark).1 h)
    · exact absurd (h ▸ hash_mem_escaped a) (hash_not_mem hb)
    · exact .inr (.inr ⟨hpath', h⟩)
    · exact absurd (h ▸ hash_mem_escaped b) (hash_not_mem ha)
    · exact .inl h
  · rintro (rfl | ⟨hpath, rfl⟩ | ⟨hpath, rfl⟩)
    · rfl
    · obtain ⟨hword, hbehind⟩ := memberName_pathWord hpath
      rw [hword, hbehind]
    · obtain ⟨hword, hbehind⟩ := memberName_pathWord hpath
      rw [hword, hbehind]

end Code

/-! ## Constants -/

theorem Char.toNat_lt_of_nameChar {c : Char} (h : isNameChar c = true) : c.toNat < 0x80 := by
  have hc := Code.toNat_of_nameChar h
  omega

/-- On the characters of names the two letter cases determine each other. -/
theorem Char.cases_of_nameChar {c : Char} (h : isNameChar c = true) :
    c.toUpper.toLower = c.toLower ∧ c.toLower.toUpper = c.toUpper := by
  have hascii : ∀ n < 0x80, (Char.ofNat n).toUpper.toLower = (Char.ofNat n).toLower ∧
      (Char.ofNat n).toLower.toUpper = (Char.ofNat n).toUpper := by
    decide
  have hc := hascii c.toNat (toNat_lt_of_nameChar h)
  rwa [Char.ofNat_toNat] at hc

namespace Text.Uppercase

theorem expand_nameChar {c : Char} (h : isNameChar c = true) : expand c = [c.toUpper] :=
  expand_ascii (Char.toNat_lt_of_nameChar h)

theorem upper_eq_map {cs : List Char} (h : ∀ c ∈ cs, isNameChar c = true) :
    upper cs = cs.map Char.toUpper := by
  induction cs with
  | nil => rfl
  | cons c rest ih =>
    obtain ⟨hc, hrest⟩ := List.forall_mem_cons.1 h
    show expand c ++ upper rest = c.toUpper :: rest.map Char.toUpper
    rw [expand_nameChar hc, ih hrest]
    rfl

theorem map_toLower_upper {cs : List Char} (h : ∀ c ∈ cs, isNameChar c = true) :
    (upper cs).map Char.toLower = cs.map Char.toLower := by
  rw [upper_eq_map h, List.map_map]
  exact List.map_congr_left fun c hc => (Char.cases_of_nameChar (h c hc)).1

theorem map_toUpper_lower {cs : List Char} (h : ∀ c ∈ cs, isNameChar c = true) :
    (cs.map Char.toLower).map Char.toUpper = upper cs := by
  rw [upper_eq_map h, List.map_map]
  exact List.map_congr_left fun c hc => (Char.cases_of_nameChar (h c hc)).2

end Text.Uppercase

/-- Two constants have one name in emitted code if their names differ in letter case only. -/
theorem Constant.sourceName_eq_iff {c d : Constant} (hc : IsOver isNameChar c.name)
    (hd : IsOver isNameChar d.name) :
    c.sourceName = d.sourceName ↔
      c.name.toList.map Char.toLower = d.name.toList.map Char.toLower := by
  rw [sourceName, sourceName, String.ofList_inj]
  constructor
  · intro h
    rw [← Text.Uppercase.map_toLower_upper hc, ← Text.Uppercase.map_toLower_upper hd, h]
  · intro h
    rw [← Text.Uppercase.map_toUpper_lower hc, ← Text.Uppercase.map_toUpper_lower hd, h]

/-! ## Types -/

/-- The characters of a name without regard to letter case, and without underscores. -/
def Name.letters (name : String) : List Char :=
  (name.toList.filter (· ≠ '_')).map Char.toLower

/-- Cutting a text drops the separators. -/
theorem Text.flatten_pieces (separator : Char) (cs : List Char) :
    (pieces separator cs).flatten = cs.filter (· ≠ separator) := by
  induction cs with
  | nil => rfl
  | cons c rest ih =>
    rw [pieces]
    by_cases hc : c = separator
    · rw [if_pos hc, List.filter_cons_of_neg (by simpa using hc)]
      exact ih
    · rw [if_neg hc, List.filter_cons_of_pos (by simpa using hc), ← ih]
      cases hrest : pieces separator rest with
      | nil => exact absurd hrest (pieces_ne_nil separator rest)
      | cons first later => rfl

namespace Name

variable {cs : List Char}

theorem map_toLower_raised (h : ∀ c ∈ cs, isNameChar c = true) :
    (raised cs).map Char.toLower = cs.map Char.toLower := by
  cases cs with
  | nil => rfl
  | cons first rest =>
    have hfirst := h first List.mem_cons_self
    rw [raised, Text.Uppercase.expand_nameChar hfirst]
    show first.toUpper.toLower :: rest.map Char.toLower = first.toLower :: rest.map Char.toLower
    rw [(Char.cases_of_nameChar hfirst).1]

theorem map_toLower_camelWord (h : ∀ c ∈ cs, isNameChar c = true) :
    (camelWord cs).map Char.toLower = cs.map Char.toLower := by
  rw [camelWord_eq]
  split_ifs
  · exact Text.Uppercase.map_toLower_upper h
  · exact map_toLower_raised h

theorem underscore_not_mem_upper (h : ∀ c ∈ cs, isNameChar c = true) (hcs : '_' ∉ cs) :
    '_' ∉ Text.Uppercase.upper cs := by
  have hascii : ∀ n < 0x80, (Char.ofNat n).toUpper = '_' → Char.ofNat n = '_' := by
    decide
  rw [Text.Uppercase.upper_eq_map h]
  intro hmem
  obtain ⟨c, hc, hupper⟩ := List.mem_map.1 hmem
  have hself := hascii c.toNat (Char.toNat_lt_of_nameChar (h c hc))
  rw [Char.ofNat_toNat] at hself
  exact hcs (hself hupper ▸ hc)

theorem underscore_not_mem_camelWord (h : ∀ c ∈ cs, isNameChar c = true) (hcs : '_' ∉ cs) :
    '_' ∉ camelWord cs := by
  rw [camelWord_eq]
  split_ifs
  · exact underscore_not_mem_upper h hcs
  · cases cs with
    | nil => exact hcs
    | cons first rest =>
      rw [List.mem_cons, not_or] at hcs
      have hname : ∀ c ∈ [first], isNameChar c = true :=
        fun c hc => h c (List.mem_singleton.1 hc ▸ List.mem_cons_self)
      have hfirst := underscore_not_mem_upper hname (by simpa using hcs.1)
      rw [Text.Uppercase.upper, List.flatMap_singleton] at hfirst
      rw [raised, List.mem_append, not_or]
      exact ⟨hfirst, hcs.2⟩

/-- A name in upper camel case has the letters of the name that it is made of. -/
theorem letters_camel {name : String} (h : IsOver isNameChar name) :
    letters (camel name) = letters name := by
  have hword : ∀ word ∈ Text.pieces '_' name.toList,
      (∀ c ∈ word, isNameChar c = true) ∧ '_' ∉ word := by
    intro word hmem
    have hchars := Text.mem_of_mem_pieces hmem
    exact ⟨fun c hc => h c (hchars c hc).1, fun hc => (hchars _ hc).2 rfl⟩
  rw [letters, letters, camel, String.toList_ofList, ← Text.flatten_pieces '_' name.toList]
  generalize Text.pieces '_' name.toList = words at hword
  have hnone : ∀ c ∈ words.flatMap camelWord, decide (c ≠ '_') = true := by
    intro c hc
    obtain ⟨word, hmem, hc⟩ := List.mem_flatMap.1 hc
    refine decide_eq_true fun heq => ?_
    exact underscore_not_mem_camelWord (hword word hmem).1 (hword word hmem).2 (heq ▸ hc)
  rw [List.filter_eq_self.2 hnone, List.map_flatMap, List.map_flatten, ← List.flatMap_def]
  exact List.flatMap_congr fun word hmem => map_toLower_camelWord (hword word hmem).1

theorem letters_append (a b : String) : letters (a ++ b) = letters a ++ letters b := by
  rw [letters, String.toList_append, List.filter_append, List.map_append]
  rfl

end Name

namespace TypeRef

/-- Types that are called alike in emitted code: they come from the same package, and their names
are the same in upper camel case. -/
inductive IsAlias : TypeRef → TypeRef → Prop
  | own {a b : String} (h : Name.camel a = Name.camel b) : IsAlias (own a) (own b)
  | foreign {package a b : String} (h : Name.camel a = Name.camel b) :
    IsAlias (foreign package a) (foreign package b)

/-- Where plain names stand in front of a colon, the texts in front of it and behind it agree. -/
theorem append_colons_inj {a b x y : String} (ha : IsOver isNameChar a) (hb : IsOver isNameChar b)
    (h : a ++ "::" ++ x = b ++ "::" ++ y) : a = b ∧ x = y := by
  have hlists := congrArg String.toList h
  simp only [String.toList_append, List.append_assoc] at hlists
  have hstop (t : String) : ("::".toList ++ t.toList).takeWhile isNameChar = [] := rfl
  have htake := congrArg (List.takeWhile isNameChar) hlists
  rw [List.takeWhile_append_of_pos ha, List.takeWhile_append_of_pos hb, hstop, hstop,
    List.append_nil, List.append_nil] at htake
  rw [htake, List.append_cancel_left_eq, List.append_cancel_left_eq] at hlists
  exact ⟨String.toList_inj.1 htake, String.toList_inj.1 hlists⟩

theorem colon_mem_foreign (package name : String) :
    ':' ∈ (foreign package name).source.toList := by
  show ':' ∈ (package ++ "::" ++ Name.camel name).toList
  simp

theorem colon_not_mem_own {name : String} (h : IsOver isNameChar name) :
    ':' ∉ (own name).source.toList :=
  (Name.camel_over h).not_mem rfl

variable {s t : TypeRef} {owner k l : String}

/-- Two types of messages are called alike in emitted code if they come from the same package and
their names are the same in upper camel case. -/
theorem source_eq_iff (hs : s.IsPlain) (ht : t.IsPlain) (hk : s.key? owner = some k)
    (hl : t.key? owner = some l) : s.source = t.source ↔ IsAlias s t := by
  constructor
  · intro h
    cases s with
    | primitive p => cases hk
    | own a =>
      cases t with
      | primitive p => cases hl
      | own b => exact .own h
      | foreign package b => exact absurd (h ▸ colon_mem_foreign package b) (colon_not_mem_own hs)
    | foreign package a =>
      cases t with
      | primitive p => cases hl
      | own b => exact absurd (h ▸ colon_mem_foreign package a) (colon_not_mem_own ht)
      | foreign other b =>
        obtain ⟨rfl, hnames⟩ := append_colons_inj hs.1 ht.1 h
        exact .foreign hnames
  · rintro (⟨h⟩ | ⟨h⟩)
    · exact h
    · show _ ++ Name.camel _ = _ ++ Name.camel _
      rw [h]

/-- The keys of two types that are called alike. -/
theorem IsAlias.keys (h : IsAlias s t) (owner : String) : ∃ package a b,
    s.key? owner = some (package ++ "/" ++ a) ∧ t.key? owner = some (package ++ "/" ++ b) ∧
      (s = t ↔ a = b) ∧
      (s.IsPlain → t.IsPlain → Name.letters a = Name.letters b) := by
  have hletters {a b : String} (ha : IsOver isNameChar a) (hb : IsOver isNameChar b)
      (hcamel : Name.camel a = Name.camel b) : Name.letters a = Name.letters b := by
    rw [← Name.letters_camel ha, ← Name.letters_camel hb, hcamel]
  rcases h with ⟨h⟩ | ⟨h⟩
  · rename_i a b
    refine ⟨owner, a, b, rfl, rfl, ?_, fun hs ht => hletters hs ht h⟩
    rw [own.injEq]
  · rename_i package a b
    refine ⟨package, a, b, rfl, rfl, ?_, fun hs ht => hletters hs.2 ht.2 h⟩
    rw [foreign.injEq, eq_self_iff_true, true_and]

/-- Types that are called alike have one key only if they are the same. -/
theorem IsAlias.key_eq_iff (h : IsAlias s t) (hk : s.key? owner = some k)
    (hl : t.key? owner = some l) : k = l ↔ s = t := by
  obtain ⟨package, a, b, hs, ht, heq, -⟩ := h.keys owner
  obtain rfl := Option.some.inj (hk.symm.trans hs)
  obtain rfl := Option.some.inj (hl.symm.trans ht)
  rw [heq]
  exact String.append_right_inj (package ++ "/")

/-- Types that are called alike are registered under names that differ in letter case and in
underscores only. -/
theorem IsAlias.letters_eq (h : IsAlias s t) (hplain : s.IsPlain) (hplain' : t.IsPlain)
    (hk : s.key? owner = some k) (hl : t.key? owner = some l) :
    Name.letters k = Name.letters l := by
  obtain ⟨package, a, b, hs, ht, -, hletters⟩ := h.keys owner
  obtain rfl := Option.some.inj (hk.symm.trans hs)
  obtain rfl := Option.some.inj (hl.symm.trans ht)
  rw [Name.letters_append, Name.letters_append (package ++ "/"), hletters hplain hplain']

end TypeRef

/-! ## Messages -/

namespace Message

/-- Different names of a message stay different in its code: those of fields as members, those of
constants, and the registered names of messages as types. -/
structure Separates (m : Message) : Prop where
  members : ∀ f ∈ m.fields, ∀ g ∈ m.fields, f.member = g.member → f.name = g.name
  constants : ∀ c ∈ m.constants, ∀ d ∈ m.constants, c.sourceName = d.sourceName → c.name = d.name
  types : ∀ f ∈ m.fields, ∀ g ∈ m.fields, ∀ k l, f.type.key? m.package = some k →
    g.type.key? m.package = some l → f.type.source = g.type.source → k = l

/-- The ways in which they do not. -/
inductive Collides (m : Message) : Prop
  /-- The name of a field is a word that no escape can save, and another one has an underscore
  behind it. -/
  | member {f g : Field} (hf : f ∈ m.fields) (hg : g ∈ m.fields) (hword : f.name ∈ Code.pathWords)
    (hbehind : g.name = f.name ++ "_")
  /-- The names of two constants differ in letter case only. -/
  | constant {c d : Constant} (hc : c ∈ m.constants) (hd : d ∈ m.constants) (hne : c.name ≠ d.name)
    (hcase : c.name.toList.map Char.toLower = d.name.toList.map Char.toLower)
  /-- The names of two types of one package are the same in upper camel case. -/
  | type {f g : Field} (hf : f ∈ m.fields) (hg : g ∈ m.fields) (hne : f.type ≠ g.type)
    (halias : f.type.IsAlias g.type)

variable {m : Message}

/-- A word and the word with an underscore behind it differ. -/
theorem append_underscore_ne (word : String) : word ≠ word ++ "_" := by
  intro h
  have hlength := congrArg (fun text => text.toList.length) h
  simp at hlength

/-- Different names stay different unless there is such a collision. -/
theorem separates_iff (h : m.IsPlain) : m.Separates ↔ ¬m.Collides := by
  constructor
  · rintro hsep (⟨hf, hg, hword, hbehind⟩ | ⟨hc, hd, hne, hcase⟩ | ⟨hf, hg, hne, halias⟩)
    · rename_i f g
      have hmember : f.member = g.member :=
        (Code.memberName_eq_iff (h.fields f hf).name (h.fields g hg).name).2
          (.inr (.inl ⟨hword, hbehind⟩))
      have hname := hsep.members f hf g hg hmember
      exact append_underscore_ne f.name (hname.trans hbehind)
    · rename_i c d
      have hsource := (Constant.sourceName_eq_iff (h.constants c hc) (h.constants d hd)).2 hcase
      exact hne (hsep.constants c hc d hd hsource)
    · rename_i f g
      obtain ⟨package, a, b, hk, hl, -⟩ := halias.keys m.package
      have hsource := (TypeRef.source_eq_iff (h.fields f hf).type (h.fields g hg).type hk hl).2
        halias
      exact hne ((halias.key_eq_iff hk hl).1 (hsep.types f hf g hg _ _ hk hl hsource))
  · intro hnone
    refine ⟨fun f hf g hg hmember => ?_, fun c hc d hd hsource => ?_,
      fun f hf g hg k l hk hl hsource => ?_⟩
    · rcases (Code.memberName_eq_iff (h.fields f hf).name (h.fields g hg).name).1 hmember with
        heq | ⟨hword, hbehind⟩ | ⟨hword, hbehind⟩
      · exact heq
      · exact absurd (.member hf hg hword hbehind) hnone
      · exact absurd (.member hg hf hword hbehind) hnone
    · have hcase := (Constant.sourceName_eq_iff (h.constants c hc) (h.constants d hd)).1 hsource
      by_contra hne
      exact hnone (.constant hc hd hne hcase)
    · have halias := (TypeRef.source_eq_iff (h.fields f hf).type (h.fields g hg).type hk hl).1
        hsource
      rw [halias.key_eq_iff hk hl]
      by_contra hne
      exact hnone (.type hf hg hne halias)

end Message

/-- The names under which the constants of a message are written. -/
theorem Constant.names_of_items {constants : List Constant} {items : List Code.ConstantItem}
    (h : constants.mapM Constant.item = .ok items) :
    items.map (·.name) = constants.map Constant.sourceName := by
  induction constants generalizing items with
  | nil =>
    cases h
    rfl
  | cons c rest ih =>
    obtain ⟨first, later, hfirst, hlater, rfl⟩ := Except.mapM_cons_eq_ok_iff.1 h
    have hname : first.name = c.sourceName := by
      rw [Constant.item] at hfirst
      split at hfirst
      · cases hfirst
      · cases hfirst
        rfl
    rw [List.map_cons, List.map_cons, hname, ih hlater]

/-- **Different names in the code of a message.**  If a constant of a message has, in capitals, the
name of the descriptor, then there is no code for it.  In the code of any other message that has
been read the members are those of its fields and the constants have their names in capitals.  Two
fields of different names have different members, two constants of different names stay different,
and types of messages that are registered under different names are different types, just if the
message has no collision: no field is called like a keyword that cannot be escaped while another has
an underscore behind that, the names of no two constants differ in letter case only, and the names
of no two types of one package are the same in upper camel case.  Collisions are not looked for.
The registered names of types that are not kept apart differ in letter case and underscores only. -/
theorem Resolver.separates_of_emitted (r : Resolver) (config : Config)
    (formatter : Code.Formatter) (source : String) {name : String} {bytes : List UInt8}
    {m : Message} (hm : r.readMessage name bytes = .ok m) :
    ((∃ c ∈ m.constants, c.sourceName = Code.descriptorName) →
      ∃ taken, emitMessage config formatter source m = .error (.reservedName taken)) ∧
    ∀ code, emitMessage config formatter source m = .ok code → ∃ file text item reading,
      m.file config = .ok file ∧ formatter.format? file = some text ∧
      code = banner source ++ text ∧
      file.messages = [item] ∧
      file.raw = linesText file.importLines ++ linesText item.lines ∧
      Reading.ofText? m.fullName m.text m.fingerprint m.typeName (linesText item.lines)
        = some reading ∧
      reading.members = m.fields.map (fun f => (f.member, f.shape, f.type.source)) ∧
      item.constants.map (·.name) = m.constants.map Constant.sourceName ∧
      (∀ c ∈ m.constants, c.sourceName ≠ Code.descriptorName) ∧
      (m.Separates ↔ ¬m.Collides) ∧
      ∀ f ∈ m.fields, ∀ g ∈ m.fields, ∀ k l, f.type.key? m.package = some k →
        g.type.key? m.package = some l → f.type.source = g.type.source →
        Name.letters k = Name.letters l := by
  have hplain := isPlain_of_readMessage hm
  have hrefused (h : ∃ c ∈ m.constants, c.sourceName = Code.descriptorName) :
      ∃ taken, emitMessage config formatter source m = .error (.reservedName taken) := by
    obtain ⟨c, hc, hname⟩ := h
    refine Message.emitMessage_reserved config formatter source fun havoids => ?_
    exact (havoids.messages m List.mem_cons_self).constants c hc hname
  refine ⟨hrefused, fun code hcode => ?_⟩
  obtain ⟨file, text, hfile, hformat, hemitted⟩ := emitMessage_eq_ok_iff.1 hcode
  obtain ⟨item, hitem, hmessages, hraw⟩ := Message.file_eq_ok hfile
  obtain ⟨items, hitems, hshape⟩ := Message.item_eq_ok_iff.1 hitem
  have hread := Message.ofText?_item hplain hitem
  refine ⟨file, text, item, _, hfile, hformat, hemitted, hmessages, hraw, hread, rfl, ?_, ?_,
    Message.separates_iff hplain, ?_⟩
  · rw [hshape]
    exact Constant.names_of_items hitems
  · intro c hc hname
    obtain ⟨taken, herror⟩ := hrefused ⟨c, hc, hname⟩
    cases hcode.symm.trans herror
  · intro f hf g hg k l hk hl hsource
    have hf' := (hplain.fields f hf).type
    have hg' := (hplain.fields g hg).type
    exact ((TypeRef.source_eq_iff hf' hg' hk hl).1 hsource).letters_eq hf' hg' hk hl

/-! ## Messages of a garden -/

namespace Garden

theorem separates_shed : shed.Separates := by
  refine ⟨by decide, by decide, fun f hf g hg k l hk hl hsource => ?_⟩
  have honly : ∀ f ∈ shed.fields, ∀ g ∈ shed.fields, f.type.source = g.type.source → f = g := by
    decide
  rw [honly f hf g hg hsource] at hk
  exact Option.some.inj (hk.symm.trans hl)

/-- A message with a constant that is called like the descriptor. -/
def tag : Message :=
  ⟨"garden", "Tag", "uint8 message_type=1\n", [], [⟨"message_type", "uint8", "1"⟩], .empty⟩

theorem readMessage_tag :
    resolver.readMessage "Tag" (Text.Utf8.encode "uint8 message_type=1\n") = .ok tag := by
  rw [Resolver.readMessage_encode]
  rfl

/-- The names of a shed stay apart, its second field under a keyword; and there is no code for a
constant that is called like the descriptor. -/
theorem separates_of_shed :
    (resolver.readMessage "Shed" (Text.Utf8.encode shedText) = .ok shed ∧
      emitMessage Config.standard .boxes "Shed.msg" shed
        = .ok (banner "Shed.msg" ++ shedFile.formatted) ∧
      ∃ item reading, shedFile.messages = [item] ∧
        Reading.ofText? "garden/Shed" shedText shed.fingerprint "Shed" (linesText item.lines)
          = some reading ∧
        reading.members = [("r#type", .exactly 3, "::std::string::String"),
          ("self_", .many, "Pot"), ("Height", .single, "f32")] ∧
        item.constants.map (·.name) = ["RIPE"] ∧ ¬shed.Collides) ∧
    resolver.readMessage "Tag" (Text.Utf8.encode "uint8 message_type=1\n") = .ok tag ∧
    ∃ taken, emitMessage Config.standard .boxes "Tag.msg" tag
      = .error (.reservedName taken) := by
  refine ⟨?_, readMessage_tag, ?_⟩
  · obtain ⟨-, hemitted⟩ := Resolver.separates_of_emitted resolver Config.standard .boxes "Shed.msg"
      readMessage_shed
    obtain ⟨file, text, item, reading, hfile, -, -, hmessages, -, hread, hmembers, hconstants, -,
      hiff, -⟩ := hemitted _ emitMessage_shed
    cases hfile.symm.trans file_shed
    exact ⟨readMessage_shed, emitMessage_shed, item, reading, hmessages, hread, hmembers,
      hconstants, hiff.1 separates_shed⟩
  · refine (Resolver.separates_of_emitted resolver Config.standard .boxes "Tag.msg"
      readMessage_tag).1 ?_
    exact ⟨_, List.mem_cons_self, rfl⟩

/-- Fields called like a keyword, without an underscore and with one. -/
def mirror : Message :=
  ⟨"garden", "Mirror", "uint8 self\nuint8 self_\n",
    [⟨"self", "uint8", .single, .primitive .uint8⟩,
      ⟨"self_", "uint8", .single, .primitive .uint8⟩], [], .empty⟩

/-- Constants whose names differ in letter case. -/
def marks : Message :=
  ⟨"garden", "Marks", "uint8 mark=1\nuint8 MARK=2\n", [],
    [⟨"mark", "uint8", "1"⟩, ⟨"MARK", "uint8", "2"⟩], .empty⟩

/-- Two types whose names are the same in upper camel case. -/
def lids : Message :=
  ⟨"garden", "Lids", "pot_lid small\nPotLid large\n",
    [⟨"small", "pot_lid", .single, .own "pot_lid"⟩,
      ⟨"large", "PotLid", .single, .own "PotLid"⟩], [], .empty⟩

theorem file_mirror : ∃ file, mirror.file Config.standard = .ok file ∧ file.isValid = true ∧
    file.messages.map (·.members.map (·.1)) = [["self_", "self_"]] := by
  refine ⟨_, rfl, ?_, ?_⟩ <;> decide +kernel

theorem file_marks : ∃ file, marks.file Config.standard = .ok file ∧ file.isValid = true ∧
    file.messages.map (·.constants.map (·.name)) = [["MARK", "MARK"]] := by
  refine ⟨_, rfl, ?_, ?_⟩ <;> decide

theorem file_lids : ∃ file, lids.file Config.standard = .ok file ∧ file.isValid = true ∧
    file.messages.map (·.members.map fun member => member.2.element.source)
      = [["PotLid", "PotLid"]] := by
  refine ⟨_, rfl, ?_, ?_⟩ <;> decide +kernel

/-- Code is made of each of the three messages.  The struct of the first has one member twice, the
second has two constants of one name, and in the third two messages are one type, which are
registered under different names. -/
theorem collisions_of_mirror :
    (resolver.readMessage "Mirror" (Text.Utf8.encode "uint8 self\nuint8 self_\n") = .ok mirror ∧
      ∃ file, mirror.file Config.standard = .ok file ∧
        emitMessage Config.standard .boxes "Mirror.msg" mirror
          = .ok (banner "Mirror.msg" ++ file.formatted) ∧
        file.messages.map (·.members.map (·.1)) = [["self_", "self_"]] ∧ ¬mirror.Separates) ∧
    (resolver.readMessage "Marks" (Text.Utf8.encode "uint8 mark=1\nuint8 MARK=2\n") = .ok marks ∧
      ∃ file, marks.file Config.standard = .ok file ∧
        emitMessage Config.standard .boxes "Marks.msg" marks
          = .ok (banner "Marks.msg" ++ file.formatted) ∧
        file.messages.map (·.constants.map (·.name)) = [["MARK", "MARK"]] ∧ ¬marks.Separates) ∧
    (resolver.readMessage "Lids" (Text.Utf8.encode "pot_lid small\nPotLid large\n") = .ok lids ∧
      ∃ file, lids.file Config.standard = .ok file ∧
        emitMessage Config.standard .boxes "Lids.msg" lids
          = .ok (banner "Lids.msg" ++ file.formatted) ∧
        file.messages.map (·.members.map fun member => member.2.element.source)
          = [["PotLid", "PotLid"]] ∧
        lids.fields.map (·.type.key? "garden") = [some "garden/pot_lid", some "garden/PotLid"] ∧
        ¬lids.Separates) := by
  refine ⟨⟨by rw [Resolver.readMessage_encode]; rfl, ?_⟩,
    ⟨by rw [Resolver.readMessage_encode]; rfl, ?_⟩,
    ⟨by rw [Resolver.readMessage_encode]; rfl, ?_⟩⟩
  · obtain ⟨file, hfile, hvalid, hmembers⟩ := file_mirror
    refine ⟨file, hfile, emitMessage_boxes hfile hvalid _, hmembers,
      fun hsep => ?_⟩
    have hname := hsep.members _ List.mem_cons_self _
      (List.mem_cons_of_mem _ List.mem_cons_self) rfl
    exact absurd hname (by decide)
  · obtain ⟨file, hfile, hvalid, hnames⟩ := file_marks
    refine ⟨file, hfile, emitMessage_boxes hfile hvalid _, hnames,
      fun hsep => ?_⟩
    have hname := hsep.constants _ List.mem_cons_self _
      (List.mem_cons_of_mem _ List.mem_cons_self) rfl
    exact absurd hname (by decide)
  · obtain ⟨file, hfile, hvalid, htypes⟩ := file_lids
    refine ⟨file, hfile, emitMessage_boxes hfile hvalid _, htypes, rfl,
      fun hsep => ?_⟩
    have hkey := hsep.types _ List.mem_cons_self _
      (List.mem_cons_of_mem _ List.mem_cons_self) _ _ rfl rfl rfl
    exact absurd hkey (by decide)

end Garden

end Missive
