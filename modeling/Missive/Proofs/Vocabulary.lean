import Missive.Proofs.Rereading
import Missive.Proofs.Zeros
import Missive.Emission.Assembly
/-!
# The characters of names

Names in a definition are made of letters, digits and underscores, and the types, labels and members
that are derived from them in emitted code are as well, up to the few characters that paths and
escapes need.  Literals are written on one line.

* `TypeRef.IsPlain`, `Field.IsPlain`, `Message.IsPlain` -- names made of the characters of names;
* `Resolver.isPlain_of_readMessage` -- so are those of every definition that has been read;
* `Text.Quoted.feed_not_mem_quote`, `Constant.feed_not_mem_line` -- quoted texts and constants stand
  on one line;
* `Constant.literalOf_over` -- a literal is quoted, or it is made of the characters of numbers;
* `Message.isLegible_of_item` -- the code of such a message can be read back.
-/

namespace Missive

open Code (IsOver isMemberChar isPathChar)

/-- What comes out of a list is made of one of its items. -/
theorem Except.exists_of_mem_mapM {ε α β : Type} {f : α → Except ε β} {items : List α}
    {out : List β} (h : items.mapM f = .ok out) {b : β} (hb : b ∈ out) :
    ∃ a ∈ items, f a = .ok b := by
  induction items generalizing out with
  | nil =>
    cases h
    cases hb
  | cons a rest ih =>
    obtain ⟨first, later, hfirst, hlater, rfl⟩ := mapM_cons_eq_ok_iff.1 h
    rcases List.mem_cons.1 hb with rfl | hb
    · exact ⟨a, List.mem_cons_self, hfirst⟩
    · obtain ⟨x, hx, hfx⟩ := ih hlater hb
      exact ⟨x, List.mem_cons_of_mem a hx, hfx⟩

/-! ## Derived names -/

theorem isNameChar_toUpper {c : Char} (h : isNameChar c = true) : isNameChar c.toUpper = true := by
  have hascii : ∀ n < 0x80, isNameChar (Char.ofNat n) = true →
      isNameChar (Char.ofNat n).toUpper = true := by
    decide
  have hc := Code.toNat_of_nameChar h
  have hupper := hascii c.toNat (by omega)
  rw [Char.ofNat_toNat] at hupper
  exact hupper h

namespace Name

variable {p : Char → Bool} {cs : List Char}

theorem upper_over (hp : ∀ c, p c = true → ∀ d ∈ Text.Uppercase.expand c, p d = true)
    (h : ∀ c ∈ cs, p c = true) : ∀ c ∈ Text.Uppercase.upper cs, p c = true := by
  intro d hd
  obtain ⟨c, hc, hexpand⟩ := List.mem_flatMap.1 hd
  exact hp c (h c hc) d hexpand

theorem camelWord_over (hp : ∀ c, p c = true → ∀ d ∈ Text.Uppercase.expand c, p d = true)
    (h : ∀ c ∈ cs, p c = true) : ∀ c ∈ camelWord cs, p c = true := by
  intro d hd
  rw [camelWord.eq_def] at hd
  simp only at hd
  split at hd
  · exact upper_over hp h d hd
  · cases cs with
    | nil => cases hd
    | cons first rest =>
      rcases List.mem_append.1 hd with hd | hd
      · exact hp first (h first List.mem_cons_self) d hd
      · exact h d (List.mem_cons_of_mem first hd)

end Name

/-- A piece is made of characters of the text other than the separator. -/
theorem Text.mem_of_mem_pieces {separator : Char} {cs piece : List Char}
    (h : piece ∈ pieces separator cs) : ∀ c ∈ piece, c ∈ cs ∧ c ≠ separator := by
  induction cs generalizing piece with
  | nil =>
    rw [pieces, List.mem_singleton] at h
    rw [h]
    intro c hc
    cases hc
  | cons c rest ih =>
    intro d hd
    rw [pieces] at h
    split at h
    · rcases List.mem_cons.1 h with rfl | h
      · cases hd
      · exact ⟨List.mem_cons_of_mem c (ih h d hd).1, (ih h d hd).2⟩
    · rename_i hc
      split at h
      · rw [List.mem_singleton] at h
        rw [h, List.mem_singleton] at hd
        exact ⟨hd ▸ List.mem_cons_self, hd ▸ hc⟩
      · rename_i first later hrest
        rcases List.mem_cons.1 h with rfl | h
        · rcases List.mem_cons.1 hd with rfl | hd
          · exact ⟨List.mem_cons_self, hc⟩
          · have hfirst := ih (hrest ▸ List.mem_cons_self) d hd
            exact ⟨List.mem_cons_of_mem c hfirst.1, hfirst.2⟩
        · have hlater := ih (hrest ▸ List.mem_cons_of_mem first h) d hd
          exact ⟨List.mem_cons_of_mem c hlater.1, hlater.2⟩

/-- A name in upper camel case is made of the characters of a class with which it has their upper
cases. -/
theorem Name.camel_of_class {p : Char → Bool}
    (hp : ∀ c, p c = true → ∀ d ∈ Text.Uppercase.expand c, p d = true) {name : String}
    (h : IsOver p name) : IsOver p (camel name) := by
  refine Code.isOver_ofList fun d hd => ?_
  obtain ⟨word, hword, hd⟩ := List.mem_flatMap.1 hd
  exact camelWord_over hp (fun c hc => h c (Text.mem_of_mem_pieces hword c hc).1) d hd

theorem isNameChar_of_mem_expand (c : Char) (h : isNameChar c = true) :
    ∀ d ∈ Text.Uppercase.expand c, isNameChar d = true := by
  have hascii := Code.toNat_of_nameChar h
  rw [Text.Uppercase.expand_ascii (by omega), List.forall_mem_singleton]
  exact isNameChar_toUpper h

theorem Name.camel_over {name : String} (h : IsOver isNameChar name) :
    IsOver isNameChar (camel name) :=
  camel_of_class isNameChar_of_mem_expand h

/-- The name of a struct member is that of the field, up to the mark of an escape. -/
theorem Code.memberName_over {name : String} (h : IsOver isNameChar name) :
    IsOver isMemberChar (memberName name) := by
  have hname : IsOver isMemberChar name :=
    h.mono fun c hc => by rw [isMemberChar, hc, Bool.true_or]
  have hmark : IsOver isMemberChar escapeMark := List.all_eq_true.1 rfl
  have hunderscore : IsOver isMemberChar "_" := List.all_eq_true.1 rfl
  rw [memberName]
  split_ifs
  · exact hname.append hunderscore
  · exact hmark.append hname
  · exact hname

/-! ## Definitions -/

/-- The names of a type are made of the characters of names. -/
def TypeRef.IsPlain : TypeRef → Prop
  | primitive _ => True
  | own name => IsOver isNameChar name
  | foreign package name => IsOver isNameChar package ∧ IsOver isNameChar name

/-- The names of a field are made of the characters of names. -/
structure Field.IsPlain (f : Field) : Prop where
  name : IsOver isNameChar f.name
  type : f.type.IsPlain

/-- The names of a message's fields and constants are made of the characters of names. -/
structure Message.IsPlain (m : Message) : Prop where
  fields : ∀ f ∈ m.fields, f.IsPlain
  constants : ∀ c ∈ m.constants, IsOver isNameChar c.name

namespace Resolver

variable {r : Resolver}

/-- A piece of a type token is made of the characters of names. -/
theorem piece_over {token : String} {pieces : List String} (h : IsOver isTypeChar token)
    (hpieces : (Text.pieces '/' token.toList).map String.ofList = pieces) :
    ∀ piece ∈ pieces, IsOver isNameChar piece := by
  subst hpieces
  intro piece hpiece
  obtain ⟨cs, hcs, rfl⟩ := List.mem_map.1 hpiece
  refine Code.isOver_ofList fun c hc => ?_
  obtain ⟨hmem, hne⟩ := Text.mem_of_mem_pieces hcs c hc
  have hclass := h c hmem
  rw [isTypeChar, beq_false_of_ne hne, Bool.or_false] at hclass
  exact hclass

theorem target_over {token : String} (h : IsOver isTypeChar token) {package? : Option String}
    {name : String} (ht : target token = .ok (package?, name)) :
    (∀ package ∈ package?, IsOver isNameChar package) ∧ IsOver isNameChar name := by
  rw [target] at ht
  split_ifs at ht
  · cases ht
    refine ⟨?_, List.all_eq_true.1 rfl⟩
    intro package hpackage
    cases hpackage
    exact List.all_eq_true.1 rfl
  · split at ht
    · rename_i piece hpieces
      split_ifs at ht
      cases ht
      refine ⟨?_, piece_over h hpieces _ List.mem_cons_self⟩
      intro package hpackage
      cases hpackage
    · rename_i first second hpieces
      split_ifs at ht
      cases ht
      refine ⟨?_, piece_over h hpieces _ (by simp)⟩
      intro package hpackage
      cases hpackage
      exact piece_over h hpieces _ List.mem_cons_self
    · cases ht

theorem typeRef_plain {token : String} {type : TypeRef} (h : IsOver isTypeChar token)
    (ht : r.typeRef token = .ok type) : type.IsPlain := by
  rw [typeRef] at ht
  split at ht
  · cases ht
    trivial
  · split at ht
    · cases ht
    · rename_i name hname
      cases ht
      exact (target_over h hname).2
    · rename_i package name hname
      have hover := target_over h hname
      split_ifs at ht <;> cases ht
      · exact hover.2
      · exact ⟨hover.1 package rfl, hover.2⟩

theorem field_plain {name token : String} {count path : Option String} {resolution : Resolution}
    (hname : IsOver isNameChar name) (htoken : IsOver isTypeChar token)
    (h : r.field name token count path = .ok resolution) : resolution.field.IsPlain := by
  obtain ⟨_, _, -, htype, rfl⟩ := field_eq_ok_iff.1 h
  exact ⟨hname, typeRef_plain htoken htype⟩

/-- What a line contributes has plain names. -/
theorem readLine_plain {line : List Char} {e : Entry} (h : r.readLine line = .ok e) :
    (∀ f ∈ e.field?, f.IsPlain) ∧ ∀ c ∈ e.constant?, IsOver isNameChar c.name := by
  by_cases hc : ∃ l : ConstantLine, l.text = line
  · obtain ⟨l, rfl⟩ := hc
    rw [readLine_constantLine] at h
    cases h
    constructor
    · intro f hf
      cases hf
    · intro c hc
      cases hc
      exact Code.isOver_ofList l.name_run.all
  · by_cases hf : ∃ l : FieldLine, l.text = line
    · obtain ⟨l, rfl⟩ := hf
      rw [readLine_fieldLine r l hc] at h
      obtain ⟨resolution, hfield, rfl⟩ := Except.map_eq_ok_iff.1 h
      have hname := Code.isOver_ofList l.name_run.all
      have htype := Code.isOver_ofList l.type_run.all
      constructor
      · intro f hf
        cases hf
        exact field_plain hname htype hfield
      · intro c hc
        cases hc
    · rw [readLine_unrecognized r hc hf] at h
      cases h

theorem ofEntries_plain {package name text : String} {lines : List (List Char)}
    {entries : List Entry} (h : lines.mapM r.readLine = .ok entries) :
    (Message.ofEntries package name text entries).IsPlain := by
  have hplain : ∀ e ∈ entries,
      (∀ f ∈ e.field?, f.IsPlain) ∧ ∀ c ∈ e.constant?, IsOver isNameChar c.name := by
    intro e he
    obtain ⟨line, -, hline⟩ := Except.exists_of_mem_mapM h he
    exact readLine_plain hline
  constructor
  · intro f hf
    obtain ⟨e, he, hfield⟩ := List.mem_filterMap.1 hf
    exact (hplain e he).1 f hfield
  · intro c hc
    obtain ⟨e, he, hconstant⟩ := List.mem_filterMap.1 hc
    exact (hplain e he).2 c hconstant

/-- Every definition that has been read has plain names. -/
theorem isPlain_of_readMessageText {name text : String} {m : Message}
    (h : r.readMessageText name text = .ok m) : m.IsPlain := by
  obtain ⟨entries, hentries, rfl⟩ := readMessageText_eq_ok_iff.1 h
  exact ofEntries_plain hentries

theorem isPlain_of_readMessage {name : String} {bytes : List UInt8} {m : Message}
    (h : r.readMessage name bytes = .ok m) : m.IsPlain := by
  obtain ⟨text, -, h⟩ := readMessage_eq_ok_iff.1 h
  exact isPlain_of_readMessageText h

end Resolver

/-! ## Types and first values in emitted code -/

theorem path_of_name {text : String} (h : IsOver isNameChar text) : IsOver isPathChar text :=
  h.mono fun c hc => by rw [isPathChar, hc, Bool.true_or]

namespace TypeRef

variable {type : TypeRef}

theorem source_over (h : type.IsPlain) : IsOver isPathChar type.source := by
  cases type with
  | primitive p => cases p <;> exact List.all_eq_true.1 rfl
  | own name => exact path_of_name (Name.camel_over h)
  | foreign package name =>
    have hcolons : IsOver isPathChar "::" := List.all_eq_true.1 rfl
    exact ((path_of_name h.1).append hcolons).append (path_of_name (Name.camel_over h.2))

theorem comma_not_mem_zeroSource (h : type.IsPlain) : ',' ∉ type.zeroSource.toList := by
  have hmessage : ',' ∉ (type.source ++ "::default()").toList := by
    have hsource := (source_over h).not_mem (c := ',') rfl
    simpa using hsource
  cases type with
  | primitive p => cases p <;> decide
  | own name => exact hmessage
  | foreign package name => exact hmessage

end TypeRef

theorem Field.comma_not_mem_initial {f : Field} (h : f.IsPlain) : ',' ∉ f.initial.raw.toList := by
  have hzero := TypeRef.comma_not_mem_zeroSource h.type
  rw [initial]
  split
  · exact hzero
  · decide
  · rename_i count _
    have hcount := Decimal.not_mem_toDigits (c := ',') rfl count
    split_ifs
    · show ',' ∉ ("[" ++ f.type.zeroSource ++ "; " ++ count.repr ++ "]").toList
      simp [hzero, hcount]
    · show ',' ∉ ("std::array::from_fn(|_| " ++ f.type.zeroSource ++ ")").toList
      simp [hzero]

/-! ## Literals -/

namespace Text.Quoted

theorem not_mem_hexDigits {c : Char} (hc : ∀ d < 16, Nat.digitChar d ≠ c) (n : Nat) :
    c ∉ Nat.toDigits 16 n := by
  induction n using Nat.strongRecOn with
  | ind n ih =>
    rw [Nat.toDigits_eq_if (by decide)]
    split_ifs with h
    · rw [List.mem_singleton]
      exact (hc n h).symm
    · rw [List.mem_append, List.mem_singleton]
      rintro (hmem | hmem)
      · exact ih (n / 16) (by omega) hmem
      · exact hc (n % 16) (Nat.mod_lt n (by decide)) hmem.symm

theorem feed_not_mem_escape (c : Char) : '\n' ∉ escape c := by
  rw [escape]
  split_ifs with h0 ht hr hn hb hq hs
  · decide
  · decide
  · decide
  · decide
  · decide
  · decide
  · rw [List.mem_singleton]
    exact fun h => hn h.symm
  · simpa [codeEscape] using not_mem_hexDigits (c := '\n') (by decide) c.toNat

/-- A quoted text stands on one line. -/
theorem feed_not_mem_quote (text : String) : '\n' ∉ (quote text).toList := by
  rw [quote, String.toList_ofList, quoteChars]
  simp only [List.mem_cons, List.mem_append, List.mem_flatMap]
  rintro (h | ⟨c, -, hc⟩ | h)
  · exact absurd h (by decide)
  · exact feed_not_mem_escape c hc
  · exact absurd h (by decide)

end Text.Quoted

namespace Decimal

/-- The characters of written numbers and truth values. -/
def isNumeralChar (c : Char) : Bool :=
  isNameChar c || c == '.' || c == '-'

theorem isNumeralChar_of_isDigit {c : Char} (h : c.isDigit = true) : isNumeralChar c = true := by
  rw [isNumeralChar, isNameChar, Char.isAlphanum, h, Bool.or_true]
  rfl

theorem toDigits_over (n : Nat) : ∀ c ∈ Nat.toDigits 10 n, isNumeralChar c = true :=
  fun _ hc => isNumeralChar_of_isDigit (Nat.isDigit_of_mem_toDigits (by decide) (by decide) hc)

theorem zeros_over (n : Nat) : ∀ c ∈ List.replicate n '0', isNumeralChar c = true := by
  intro c hc
  rw [List.eq_of_mem_replicate hc]
  rfl

theorem integer_over (n : Int) : IsOver isNumeralChar n.repr := by
  have hnat (n : Nat) : IsOver isNumeralChar n.repr := by
    rw [Nat.repr_eq_ofList_toDigits]
    exact Code.isOver_ofList (toDigits_over n)
  cases n with
  | ofNat n => exact hnat n
  | negSucc n =>
    have hsign : IsOver isNumeralChar "-" := List.all_eq_true.1 rfl
    exact hsign.append (hnat (n + 1))

theorem shortest_over (f : Format) (m : Nat) (p : Int) :
    ∀ c ∈ (shortest f m p).1, isNumeralChar c = true := by
  -- the equation of `shortest` is not used: stating it evaluates the search for the digits
  delta shortest
  simp only [List.mem_reverse]
  intro c hc
  have hdigits := (List.dropWhile_sublist _).subset hc
  exact toDigits_over _ c (List.mem_reverse.1 hdigits)

theorem positional_over {digits : List Char} (h : ∀ c ∈ digits, isNumeralChar c = true)
    (e : Int) : ∀ c ∈ Layout.positional digits e, isNumeralChar c = true := by
  have htake (k : Nat) : ∀ c ∈ digits.take k, isNumeralChar c = true :=
    fun c hc => h c (List.mem_of_mem_take hc)
  have hdrop (k : Nat) : ∀ c ∈ digits.drop k, isNumeralChar c = true :=
    fun c hc => h c (List.mem_of_mem_drop hc)
  rw [Layout.positional]
  split_ifs
  · exact List.forall_mem_cons.2 ⟨rfl, List.forall_mem_cons.2 ⟨rfl,
      List.forall_mem_append.2 ⟨zeros_over _, h⟩⟩⟩
  · refine List.forall_mem_append.2 ⟨List.forall_mem_append.2 ⟨htake _, zeros_over _⟩,
      List.forall_mem_cons.2 ⟨rfl, ?_⟩⟩
    split_ifs
    · exact List.forall_mem_singleton.2 rfl
    · exact hdrop _

theorem scientific_over {digits : List Char} (h : ∀ c ∈ digits, isNumeralChar c = true)
    (e : Int) : ∀ c ∈ constantLayout.scientific digits e, isNumeralChar c = true := by
  rw [Layout.scientific]
  refine List.forall_mem_append.2 ⟨List.forall_mem_append.2 ⟨?_, ?_⟩,
    List.forall_mem_cons.2 ⟨rfl, integer_over e⟩⟩
  · exact fun c hc => h c (List.mem_of_mem_take hc)
  · split_ifs
    · exact List.forall_mem_nil _
    · exact List.forall_mem_cons.2 ⟨rfl, fun c hc => h c (List.mem_of_mem_drop hc)⟩

/-- A finite number is written with digits, a point, signs and the mark of an exponent. -/
theorem write_over (f : Format) (negative : Bool) (m : Nat) (p : Int) :
    ∀ c ∈ constantLayout.write f (.finite negative m p), isNumeralChar c = true := by
  have hsign : ∀ c ∈ (if negative then ['-'] else []), isNumeralChar c = true := by
    cases negative
    · exact List.forall_mem_nil _
    · exact List.forall_mem_singleton.2 rfl
  have hdigits := shortest_over f m p
  rw [Layout.write.eq_def]
  simp only
  split
  · rename_i h
    cases h
  · rename_i h
    cases h
  · rename_i h
    cases h
    exact List.forall_mem_append.2 ⟨hsign, List.all_eq_true.1 rfl⟩
  · rename_i h
    cases h
    refine List.forall_mem_append.2 ⟨hsign, ?_⟩
    split_ifs
    · exact positional_over hdigits _
    · exact scientific_over hdigits _

end Decimal

namespace Constant

open Decimal (isNumeralChar)

theorem float_over {token value written : String} {f : Decimal.Format}
    (h : floatLiteral token value f = .ok written) : IsOver isNumeralChar written := by
  rw [floatLiteral] at h
  split at h
  · cases h
  · split at h
    · cases h
      exact Code.isOver_ofList (Decimal.write_over f _ _ _)
    · cases h

theorem integral_over {token value written : String} {least largest : Int}
    (h : integerLiteral token value least largest = .ok written) :
    IsOver isNumeralChar written := by
  rw [integerLiteral] at h
  split at h
  · cases h
  · split_ifs at h
    cases h
    exact Decimal.integer_over _

theorem bool_over {value written : String} (h : boolLiteral? value = some written) :
    IsOver isNumeralChar written := by
  rw [boolLiteral?] at h
  split_ifs at h <;> cases h <;> exact List.all_eq_true.1 rfl

/-- A literal is that of a text, or it is made of the characters of numbers. -/
theorem literalOf_over {p : Primitive} {token value written : String}
    (h : literalOf p token value = .ok written) :
    p = .string ∧ written = Text.Quoted.quote value ∨
      p ≠ .string ∧ IsOver isNumeralChar written := by
  rw [literalOf.eq_def] at h
  split at h
  · rcases hb : boolLiteral? value with _ | text
    · rw [hb] at h
      cases h
    · rw [hb] at h
      cases h
      exact .inr ⟨nofun, bool_over hb⟩
  · exact .inr ⟨nofun, float_over h⟩
  · exact .inr ⟨nofun, float_over h⟩
  · cases h
    exact .inl ⟨rfl, rfl⟩
  · cases h
  · cases h
  · rename_i hstring _ _
    split at h
    · exact .inr ⟨hstring, integral_over h⟩
    · cases h

/-- No literal breaks a line. -/
theorem feed_not_mem_literalOf {p : Primitive} {token value written : String}
    (h : literalOf p token value = .ok written) : '\n' ∉ written.toList := by
  rcases literalOf_over h with ⟨-, rfl⟩ | ⟨-, hover⟩
  · exact Text.Quoted.feed_not_mem_quote value
  · exact hover.not_mem rfl

variable {c : Constant}

/-- The code of a constant has the literal of its trimmed value. -/
theorem item_eq_ok {item : Code.ConstantItem} (h : c.item = .ok item) :
    ∃ p written, Primitive.ofToken? c.typeToken = some p ∧
      literalOf p c.typeToken (Text.trimText c.value) = .ok written ∧
      c.literal = .ok (item.type, written) ∧
      item = ⟨c.sourceName, if p = .string then textSource else p.source, written⟩ := by
  rw [Constant.item] at h
  cases hliteral : c.literal with
  | error fault =>
    rw [hliteral] at h
    cases h
  | ok pair =>
    rw [hliteral] at h
    cases h
    rw [literal] at hliteral
    split at hliteral
    · cases hliteral
    · rename_i p hp
      obtain ⟨written, hwritten, rfl⟩ := Except.map_eq_ok_iff.1 hliteral
      exact ⟨p, written, hp, hwritten, rfl, rfl⟩

/-- The name of a constant in emitted code is made of the characters of names, as its own is. -/
theorem sourceName_over (h : IsOver isNameChar c.name) : IsOver isNameChar c.sourceName :=
  Code.isOver_ofList (Name.upper_over isNameChar_of_mem_expand h)

/-- The line of a constant is one line. -/
theorem feed_not_mem_line {item : Code.ConstantItem} (hname : IsOver isNameChar c.name)
    (h : c.item = .ok item) : '\n' ∉ item.line.toList := by
  obtain ⟨p, written, -, hwritten, -, rfl⟩ := item_eq_ok h
  have hsource : '\n' ∉ c.sourceName.toList := (sourceName_over hname).not_mem rfl
  have htype : '\n' ∉ (if p = .string then textSource else p.source).toList := by
    cases p <;> decide
  have hliteral := feed_not_mem_literalOf hwritten
  simp [Code.ConstantItem.line, Code.indented, hsource, htype, hliteral]

end Constant

/-! ## The code of a message -/

theorem Field.memberType_element (f : Field) : f.memberType.element = f.type := by
  rw [memberType]
  cases f.shape <;> rfl

theorem Field.memberType_shape (f : Field) : f.memberType.shape = f.shape := by
  rw [memberType]
  cases f.shape <;> rfl

namespace Message

variable {m : Message} {item : Code.MessageItem}

theorem item_eq_ok_iff : m.item = .ok item ↔
    ∃ constants, m.constants.mapM Constant.item = .ok constants ∧
      item = {
        fullName := m.fullName
        text := m.text
        md5sum := m.fingerprint
        name := m.typeName
        capitals := m.hasCapitals
        members := m.fields.map fun f => (f.member, f.memberType)
        initials := m.fields.map fun f => (f.member, f.initial)
        constants := constants
        writes := m.fields.map Field.write
        reads := m.fields.map Field.read } := by
  rw [Message.item, Except.bind_eq_ok_iff]
  simp [pure, Except.pure, eq_comm]

/-- The code of a message whose names are plain can be read back. -/
theorem isLegible_of_item (h : m.IsPlain) (hitem : m.item = .ok item) : item.IsLegible := by
  obtain ⟨constants, hconstants, rfl⟩ := item_eq_ok_iff.1 hitem
  have hmember (f : Field) (hf : f ∈ m.fields) : IsOver isMemberChar f.member :=
    Code.memberName_over (h.fields f hf).name
  have hlabel (f : Field) (hf : f ∈ m.fields) : IsOver isNameChar f.label :=
    Name.camel_over (h.fields f hf).name
  constructor
  · rw [List.forall_mem_map]
    intro f hf
    refine ⟨hmember f hf, ?_⟩
    rw [f.memberType_element]
    exact TypeRef.source_over (h.fields f hf).type
  · rw [List.forall_mem_map]
    intro f hf
    exact ⟨hmember f hf, Field.comma_not_mem_initial (h.fields f hf)⟩
  · intro c hc
    obtain ⟨constant, hmem, hline⟩ := Except.exists_of_mem_mapM hconstants hc
    exact Constant.feed_not_mem_line (h.constants constant hmem) hline
  · rw [List.forall_mem_map]
    exact fun f hf => ⟨hmember f hf, hlabel f hf⟩
  · rw [List.forall_mem_map]
    exact fun f hf => ⟨hmember f hf, hlabel f hf⟩

end Message

end Missive
