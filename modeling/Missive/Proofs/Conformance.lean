import Missive.Proofs.RoundTrip
import Missive.Proofs.Writing
/-!
# Which values can be encoded

A value can be encoded if it has the form that the definitions ask for, on all levels, and if no
length in it is too long for its prefix.  If it cannot, the encoder stops at the first place where
something is wrong: fields in the order of their declaration, items from left to right, and what is
nested in one of them before what comes behind it.  Both are said here without the encoder.

* `Registry.Admits`, `Registry.AdmitsMembers` -- a value has the form of its type and its shape;
* `Violation` -- what can be wrong with a value, and the error for it;
* `Registry.FirstViolation`, `Registry.FirstMemberViolation` -- the first thing that is wrong, and
  the labels of the fields around it;
* `Registry.encode_of_admits`, `Registry.encode_of_violation` -- what the encoder makes of both;
* `Registry.admits_or_violates` -- there is no third case;
* `Registry.encode_conformance` -- whole messages.
-/

namespace Missive

/-! ## Values of the right form -/

/-- The length of an element fits into its prefix, if it has one. -/
def Datum.Fits : Datum → Prop
  | string text => (Text.Utf8.encode text).length < lengthLimit
  | _ => True

namespace Registry

/-- A value has the form of a type and a shape: the right primitive, a compound with every declared
member in its right form, or a list of elements of the right form, which is as long as it was
declared.  Other members do not matter. -/
inductive Admits (reg : Registry) : String → TypeRef → Shape → Value → Prop
  | element {owner : String} {d : Datum} :
      d.Fits → Admits reg owner (.primitive d.primitive) .single (.datum d)
  | struct {owner : String} {type : TypeRef} {m : Message} {members : Members} :
      reg.resolve owner type = .ok m → (∀ f ∈ m.fields, (members.lookup f.name).isSome = true) →
      (∀ f ∈ m.fields, ∀ v, members.lookup f.name = some v →
        Admits reg m.package f.type f.shape v) →
      Admits reg owner type .single (.struct members)
  | list {owner : String} {type : TypeRef} {shape : Shape} {items : List Value} :
      shape.isArray = true → (shape.isFixed = true → items.length = shape.count) →
      items.length < lengthLimit → (∀ v ∈ items, Admits reg owner type .single v) →
      Admits reg owner type shape (.list items)

/-- The member for a field of a message is there, and has the right form. -/
def AdmitsMember (reg : Registry) (m : Message) (members : Members) (f : Field) : Prop :=
  ∃ v, members.lookup f.name = some v ∧ reg.Admits m.package f.type f.shape v

/-- All members of a message are there, and have the right form. -/
def AdmitsMembers (reg : Registry) (m : Message) (members : Members) : Prop :=
  ∀ f ∈ m.fields, reg.AdmitsMember m members f

end Registry

/-! ## Violations -/

/-- What can be wrong with a value at some place. -/
inductive Violation where
  /-- A declared member is not there. -/
  | absent (name : String)
  /-- A value is of another form than the one that its kind or its array asks for. -/
  | otherForm (expected : Kind) (found : String)
  /-- A list is not as long as it was declared. -/
  | otherCount (expected found : Nat)
  /-- A length or a count does not fit into its prefix. -/
  | tooLong (length : Nat)
  deriving DecidableEq, Repr

/-- The error for a violation, inside of fields with these labels. -/
def Violation.error (labels : List String) : Violation → CodecError
  | absent name => .missingField labels name
  | otherForm expected found => .wire (labels.foldr .inField (.typeMismatch expected found))
  | otherCount expected found => .wire (labels.foldr .inField (.arrayLength expected found))
  | tooLong length => .wire (labels.foldr .inField (.lengthOverflow length))

theorem Violation.inField_error (label : String) (labels : List String) (violation : Violation) :
    (violation.error labels).inField label = violation.error (label :: labels) := by
  cases violation <;> rfl

namespace Registry

/-- The first thing that is wrong with a value for a type and a shape, and the labels of the fields
around it. -/
inductive FirstViolation (reg : Registry) :
    String → TypeRef → Shape → Value → List String → Violation → Prop
  /-- An array that is no list. -/
  | noList {owner : String} {type : TypeRef} {shape : Shape} {v : Value} :
      shape.isArray = true → (∀ items, v ≠ .list items) →
      FirstViolation reg owner type shape v [] (.otherForm type.kind v.shapeName)
  /-- An array of a declared length that has another one. -/
  | count {owner : String} {type : TypeRef} {shape : Shape} {items : List Value} :
      shape.isFixed = true → items.length ≠ shape.count →
      FirstViolation reg owner type shape (.list items) [] (.otherCount shape.count items.length)
  /-- An array that is too long for its count. -/
  | tooMany {owner : String} {type : TypeRef} {shape : Shape} {items : List Value} :
      shape.isArray = true → (shape.isFixed = true → items.length = shape.count) →
      lengthLimit ≤ items.length →
      FirstViolation reg owner type shape (.list items) [] (.tooLong items.length)
  /-- An item, when all in front of it are right. -/
  | item {owner : String} {type : TypeRef} {shape : Shape} {before after : List Value} {v : Value}
      {labels : List String} {violation : Violation} :
      shape.isArray = true →
      (shape.isFixed = true → (before ++ v :: after).length = shape.count) →
      (before ++ v :: after).length < lengthLimit →
      (∀ w ∈ before, reg.Admits owner type .single w) →
      FirstViolation reg owner type .single v labels violation →
      FirstViolation reg owner type shape (.list (before ++ v :: after)) labels violation
  /-- An element of another primitive, or none at all. -/
  | noElement {owner : String} {p : Primitive} {v : Value} :
      (∀ d, d.primitive = p → v ≠ .datum d) →
      FirstViolation reg owner (.primitive p) .single v [] (.otherForm (.primitive p) v.shapeName)
  /-- A string that is too long. -/
  | tooLong {owner : String} {text : String} :
      lengthLimit ≤ (Text.Utf8.encode text).length →
      FirstViolation reg owner (.primitive .string) .single (.datum (.string text)) []
        (.tooLong (Text.Utf8.encode text).length)
  /-- A message that is no compound. -/
  | noStruct {owner : String} {type : TypeRef} {m : Message} {v : Value} :
      reg.resolve owner type = .ok m → (∀ members, v ≠ .struct members) →
      FirstViolation reg owner type .single v [] (.otherForm .message v.shapeName)
  /-- A member that is not there, when all in front of it are right. -/
  | absent {owner : String} {type : TypeRef} {m : Message} {members : Members}
      {before after : List Field} {f : Field} :
      reg.resolve owner type = .ok m → m.fields = before ++ f :: after →
      (∀ g ∈ before, reg.AdmitsMember m members g) → members.lookup f.name = none →
      FirstViolation reg owner type .single (.struct members) [] (.absent f.name)
  /-- Something in a member, when all members in front of it are right. -/
  | member {owner : String} {type : TypeRef} {m : Message} {members : Members}
      {before after : List Field} {f : Field} {v : Value} {labels : List String}
      {violation : Violation} :
      reg.resolve owner type = .ok m → m.fields = before ++ f :: after →
      (∀ g ∈ before, reg.AdmitsMember m members g) → members.lookup f.name = some v →
      FirstViolation reg m.package f.type f.shape v labels violation →
      FirstViolation reg owner type .single (.struct members) (f.label :: labels) violation

/-- The first thing that is wrong with the members of a message. -/
def FirstMemberViolation (reg : Registry) (m : Message) (members : Members)
    (labels : List String) (violation : Violation) : Prop :=
  ∃ before f after, m.fields = before ++ f :: after ∧
    (∀ g ∈ before, reg.AdmitsMember m members g) ∧
    ((members.lookup f.name = none ∧ labels = [] ∧ violation = .absent f.name) ∨
      ∃ v inner, members.lookup f.name = some v ∧ labels = f.label :: inner ∧
        reg.FirstViolation m.package f.type f.shape v inner violation)

end Registry

/-! ## Items and fields one after the other -/

namespace Value

variable {reg : Registry} {owner : String} {type : TypeRef}

/-- Items that are all encoded are encoded together. -/
theorem encodeItems_eq_ok {items : List Value}
    (h : ∀ v ∈ items, ∃ bytes, v.encode reg owner type .single = .ok bytes) :
    ∃ bytes, encodeItems reg items owner type = .ok bytes := by
  induction items with
  | nil => exact ⟨[], rfl⟩
  | cons v rest ih =>
    obtain ⟨first, hfirst⟩ := h v List.mem_cons_self
    obtain ⟨others, hothers⟩ := ih fun w hw => h w (List.mem_cons_of_mem _ hw)
    exact ⟨first ++ others, encodeItems_cons_eq_ok_iff.2 ⟨first, others, hfirst, hothers, rfl⟩⟩

/-- The error of the first item that is not encoded is the error of all. -/
theorem encodeItems_eq_error {before after : List Value} {v : Value} {e : CodecError}
    (h : ∀ w ∈ before, ∃ bytes, w.encode reg owner type .single = .ok bytes)
    (hv : v.encode reg owner type .single = .error e) :
    encodeItems reg (before ++ v :: after) owner type = .error e := by
  induction before with
  | nil =>
    rw [List.nil_append, encodeItems_cons, hv]
    rfl
  | cons w before ih =>
    obtain ⟨first, hfirst⟩ := h w List.mem_cons_self
    rw [List.cons_append, encodeItems_cons, hfirst,
      ih fun u hu => h u (List.mem_cons_of_mem _ hu)]
    rfl

end Value

section

variable {reg : Registry} {m : Message} {members : Members} {before after : List Field} {f : Field}

/-- The member for a field is there, and is encoded. -/
def Registry.EncodesMember (reg : Registry) (m : Message) (members : Members) (f : Field) : Prop :=
  ∃ v bytes, members.lookup f.name = some v ∧ v.encode reg m.package f.type f.shape = .ok bytes

theorem encodeFields_cons {v : Value} (hv : members.lookup f.name = some v) (rest : List Field) :
    encodeFields m (Value.encoders reg members) (f :: rest)
      = joinEncoded (labelled f.label (v.encode reg m.package f.type f.shape))
          (encodeFields m (Value.encoders reg members) rest) := by
  rw [encodeFields, Value.lookup_encoders, hv]
  rfl

/-- Fields whose members are all encoded are encoded together. -/
theorem encodeFields_eq_ok {fields : List Field} (h : ∀ g ∈ fields, reg.EncodesMember m members g) :
    ∃ bytes, encodeFields m (Value.encoders reg members) fields = .ok bytes := by
  induction fields with
  | nil => exact ⟨[], rfl⟩
  | cons g rest ih =>
    obtain ⟨v, first, hv, hfirst⟩ := h g List.mem_cons_self
    obtain ⟨others, hothers⟩ := ih fun k hk => h k (List.mem_cons_of_mem _ hk)
    exact ⟨first ++ others,
      encodeFields_cons_eq_ok_iff.2 ⟨v, first, others, hv, hfirst, hothers, rfl⟩⟩

/-- Fields whose members are encoded do not keep an error behind them from coming out. -/
theorem encodeFields_eq_error {rest : List Field} {e : CodecError}
    (h : ∀ g ∈ before, reg.EncodesMember m members g)
    (hrest : encodeFields m (Value.encoders reg members) rest = .error e) :
    encodeFields m (Value.encoders reg members) (before ++ rest) = .error e := by
  induction before with
  | nil => exact hrest
  | cons g before ih =>
    obtain ⟨v, first, hv, hfirst⟩ := h g List.mem_cons_self
    rw [List.cons_append, encodeFields_cons hv, hfirst,
      ih fun k hk => h k (List.mem_cons_of_mem _ hk)]
    rfl

/-- A member that is not there ends the encoding. -/
theorem encodeFields_absent (h : ∀ g ∈ before, reg.EncodesMember m members g)
    (hf : members.lookup f.name = none) :
    encodeFields m (Value.encoders reg members) (before ++ f :: after)
      = .error (.missingField [] f.name) := by
  refine encodeFields_eq_error h ?_
  rw [encodeFields, Value.lookup_encoders, hf]
  rfl

/-- A member that is not encoded ends the encoding, too. -/
theorem encodeFields_member {v : Value} {e : CodecError}
    (h : ∀ g ∈ before, reg.EncodesMember m members g) (hf : members.lookup f.name = some v)
    (hv : v.encode reg m.package f.type f.shape = .error e) :
    encodeFields m (Value.encoders reg members) (before ++ f :: after)
      = .error (e.inField f.label) := by
  refine encodeFields_eq_error h ?_
  rw [encodeFields_cons hf, hv]
  rfl

end

/-! ## What the encoder makes of a value -/

theorem encodeCount_of_lt {n : Nat} (h : n < lengthLimit) : encodeCount n = .ok (Bytes.ofNat 4 n) :=
  if_pos h

theorem encodeCount_of_le {n : Nat} (h : lengthLimit ≤ n) :
    encodeCount n = .error (.lengthOverflow n) :=
  if_neg (Nat.not_lt.2 h)

theorem Datum.encode_of_fits {d : Datum} (h : d.Fits) : ∃ bytes, d.encode = .ok bytes := by
  cases d with
  | string text => exact ⟨_, by rw [encode, encodeCount_of_lt h]; rfl⟩
  | _ => exact ⟨_, rfl⟩

namespace Registry

variable {reg : Registry} {owner : String} {type : TypeRef} {shape : Shape} {v : Value}

/-- A value of the right form is encoded. -/
theorem encode_of_admits (h : reg.Admits owner type shape v) :
    ∃ bytes, v.encode reg owner type shape = .ok bytes := by
  induction h with
  | element hfits =>
    obtain ⟨bytes, hbytes⟩ := Datum.encode_of_fits hfits
    exact ⟨bytes, by rw [Value.encode_datum, hbytes]; rfl⟩
  | @struct owner type m members hresolve hpresent _ ih =>
    rw [Value.encode_struct hresolve]
    refine encodeFields_eq_ok fun f hf => ?_
    obtain ⟨v, hv⟩ := Option.isSome_iff_exists.1 (hpresent f hf)
    obtain ⟨bytes, hbytes⟩ := ih f hf v hv
    exact ⟨v, bytes, hv, hbytes⟩
  | list harray hfixed hlength _ ih =>
    obtain ⟨body, hbody⟩ := Value.encodeItems_eq_ok ih
    exact ⟨_, (Value.encode_array_eq_ok_iff harray).2 ⟨_, body, rfl, hfixed, hlength, hbody, rfl⟩⟩

theorem AdmitsMember.encodes {m : Message} {members : Members} {f : Field}
    (h : reg.AdmitsMember m members f) : reg.EncodesMember m members f := by
  obtain ⟨v, hv, hadmits⟩ := h
  obtain ⟨bytes, hbytes⟩ := encode_of_admits hadmits
  exact ⟨v, bytes, hv, hbytes⟩

/-- The error of a value that is no list, where one is asked for. -/
theorem encode_noList (harray : shape.isArray = true) (hv : ∀ items, v ≠ .list items) :
    v.encode reg owner type shape = .error (shapeMismatch type v.shapeName) := by
  cases v with
  | list items => exact absurd rfl (hv items)
  | datum d => simp only [Value.encode, harray, if_true]; rfl
  | struct members => simp only [Value.encode, harray, if_true]; rfl

/-- The error of a value that is not of the primitive that is asked for. -/
theorem encode_noElement {p : Primitive} (hv : ∀ d, d.primitive = p → v ≠ .datum d) :
    v.encode reg owner (.primitive p) .single
      = .error (shapeMismatch (.primitive p) v.shapeName) := by
  cases v with
  | datum d =>
    have hp : d.primitive ≠ p := fun hp => hv d hp rfl
    simp only [Value.encode, Shape.isArray, Bool.false_eq_true, if_false, if_neg hp]
    rfl
  | struct members => rfl
  | list items => rfl

/-- The error of a value that is no compound, where a message is asked for. -/
theorem encode_noStruct {m : Message} (hresolve : reg.resolve owner type = .ok m)
    (hv : ∀ members, v ≠ .struct members) :
    v.encode reg owner type .single = .error (shapeMismatch type v.shapeName) := by
  cases type with
  | primitive p => cases kind_of_resolve hresolve
  | own name | foreign package name =>
    cases v with
    | struct members => exact absurd rfl (hv members)
    | datum d => simp only [Value.encode, Shape.isArray, hresolve]; rfl
    | list items => simp only [Value.encode, Shape.isArray, hresolve]; rfl

/-- The error of a list that is not as long as it was declared. -/
theorem encode_otherCount {items : List Value} (hfixed : shape.isFixed = true)
    (hcount : items.length ≠ shape.count) :
    (Value.list items).encode reg owner type shape
      = .error (.wire (.arrayLength shape.count items.length)) := by
  have harray : shape.isArray = true := by
    cases shape with
    | exactly count => rfl
    | single | many => cases hfixed
  have hrefused : encodeArrayCount shape items.length
      = .error (.wire (.arrayLength shape.count items.length)) := by
    rw [encodeArrayCount, hfixed, bne_iff_ne.2 hcount]
    rfl
  simp only [Value.encode, harray, if_true, hrefused]

/-- The first thing that is wrong with a value is what its encoding fails for. -/
theorem encode_of_violation {labels : List String} {violation : Violation}
    (h : reg.FirstViolation owner type shape v labels violation) :
    v.encode reg owner type shape = .error (violation.error labels) := by
  induction h with
  | noList harray hv => exact encode_noList harray hv
  | count hfixed hcount => exact encode_otherCount hfixed hcount
  | tooMany harray hfixed hlength =>
    rw [Value.encode_list harray hfixed, encodeCount_of_le hlength]
    rfl
  | item harray hfixed hlength hbefore _ ih =>
    rw [Value.encode_list harray hfixed, encodeCount_of_lt hlength,
      Value.encodeItems_eq_error (fun w hw => encode_of_admits (hbefore w hw)) ih]
    rfl
  | noElement hv => exact encode_noElement hv
  | @tooLong owner text hlength =>
    have hencode : (Datum.string text).encode
        = .error (.lengthOverflow (Text.Utf8.encode text).length) := by
      rw [Datum.encode, encodeCount_of_le hlength]
      rfl
    have hdatum := Value.encode_datum reg (.string text) owner
    rw [hencode] at hdatum
    exact hdatum
  | noStruct hresolve hv =>
    rw [encode_noStruct hresolve hv, shapeMismatch, kind_of_resolve hresolve]
    rfl
  | absent hresolve hfields hbefore hf =>
    rw [Value.encode_struct hresolve, hfields,
      encodeFields_absent (fun g hg => (hbefore g hg).encodes) hf]
    rfl
  | member hresolve hfields hbefore hf _ ih =>
    rw [Value.encode_struct hresolve, hfields,
      encodeFields_member (fun g hg => (hbefore g hg).encodes) hf ih, Violation.inField_error]

/-! ## There is no third case -/

/-- All members of a list have a property, or there is a first one without it. -/
theorem forall_or_first {α : Type} (P : α → Prop) (items : List α) :
    (∀ a ∈ items, P a) ∨
      ∃ before a after, items = before ++ a :: after ∧ (∀ b ∈ before, P b) ∧ ¬P a := by
  induction items with
  | nil => exact .inl (List.forall_mem_nil P)
  | cons a rest ih =>
    by_cases ha : P a
    · rcases ih with hall | ⟨before, b, after, rfl, hbefore, hb⟩
      · exact .inl (List.forall_mem_cons.2 ⟨ha, hall⟩)
      · exact .inr ⟨a :: before, b, after, rfl, List.forall_mem_cons.2 ⟨ha, hbefore⟩, hb⟩
    · exact .inr ⟨[], a, rest, rfl, List.forall_mem_nil P, ha⟩

/-- A value has the right form, or something is the first thing that is wrong with it. -/
def Judges (reg : Registry) (owner : String) (type : TypeRef) (shape : Shape) (v : Value) : Prop :=
  reg.Admits owner type shape v ∨
    ∃ labels violation, reg.FirstViolation owner type shape v labels violation

theorem judges_element (owner : String) (p : Primitive) (v : Value) :
    reg.Judges owner (.primitive p) .single v := by
  by_cases hv : ∃ d, d.primitive = p ∧ v = .datum d
  · obtain ⟨d, rfl, rfl⟩ := hv
    by_cases hfits : d.Fits
    · exact .inl (.element hfits)
    · cases d with
      | string text => exact .inr ⟨_, _, .tooLong (Nat.not_lt.1 hfits)⟩
      | _ => exact absurd trivial hfits
  · exact .inr ⟨_, _, .noElement fun d hp hd => hv ⟨d, hp, hd⟩⟩

/-- An array is judged by its length and by its items. -/
theorem judges_array (harray : shape.isArray = true)
    (h : ∀ items, v = .list items → ∀ w ∈ items, reg.Judges owner type .single w) :
    reg.Judges owner type shape v := by
  by_cases hv : ∃ items, v = .list items
  · obtain ⟨items, rfl⟩ := hv
    by_cases hfixed : shape.isFixed = true → items.length = shape.count
    · by_cases hlength : items.length < lengthLimit
      · rcases forall_or_first (reg.Admits owner type .single) items with
          hall | ⟨before, w, after, rfl, hbefore, hw⟩
        · exact .inl (.list harray hfixed hlength hall)
        · have hmem : w ∈ before ++ w :: after :=
            List.mem_append_right before List.mem_cons_self
          rcases h _ rfl w hmem with hadmits | ⟨labels, violation, hviolation⟩
          · exact absurd hadmits hw
          · exact .inr ⟨labels, violation, .item harray hfixed hlength hbefore hviolation⟩
      · exact .inr ⟨_, _, .tooMany harray hfixed (Nat.not_lt.1 hlength)⟩
    · obtain ⟨hdeclared, hcount⟩ := Classical.not_imp.1 hfixed
      exact .inr ⟨_, _, .count hdeclared hcount⟩
  · exact .inr ⟨_, _, .noList harray fun items hi => hv ⟨items, hi⟩⟩

/-- A message is judged by its members. -/
theorem admitsMembers_or_violates {m : Message} {members : Members}
    (h : ∀ f ∈ m.fields, ∀ v, members.lookup f.name = some v →
      reg.Judges m.package f.type f.shape v) :
    reg.AdmitsMembers m members ∨
      ∃ labels violation, reg.FirstMemberViolation m members labels violation := by
  rcases forall_or_first (reg.AdmitsMember m members) m.fields with
    hall | ⟨before, f, after, hfields, hbefore, hf⟩
  · exact .inl hall
  · refine .inr ?_
    cases hv : members.lookup f.name with
    | none => exact ⟨_, _, before, f, after, hfields, hbefore, .inl ⟨hv, rfl, rfl⟩⟩
    | some v =>
      have hmem : f ∈ m.fields := hfields ▸ List.mem_append_right before List.mem_cons_self
      rcases h f hmem v hv with hadmits | ⟨labels, violation, hviolation⟩
      · exact absurd ⟨v, hv, hadmits⟩ hf
      · exact ⟨_, _, before, f, after, hfields, hbefore, .inr ⟨v, labels, hv, rfl, hviolation⟩⟩

theorem admits_struct {m : Message} {members : Members} (hresolve : reg.resolve owner type = .ok m)
    (h : reg.AdmitsMembers m members) : reg.Admits owner type .single (.struct members) := by
  refine .struct hresolve (fun f hf => ?_) fun f hf v hv => ?_
  · obtain ⟨v, hv, -⟩ := h f hf
    exact Option.isSome_iff_exists.2 ⟨v, hv⟩
  · obtain ⟨w, hw, hadmits⟩ := h f hf
    obtain rfl : v = w := Option.some.inj (hv.symm.trans hw)
    exact hadmits

theorem violation_struct {m : Message} {members : Members} {labels : List String}
    {violation : Violation} (hresolve : reg.resolve owner type = .ok m)
    (h : reg.FirstMemberViolation m members labels violation) :
    reg.FirstViolation owner type .single (.struct members) labels violation := by
  obtain ⟨before, f, after, hfields, hbefore,
    ⟨hf, rfl, rfl⟩ | ⟨v, inner, hf, rfl, hviolation⟩⟩ := h
  · exact .absent hresolve hfields hbefore hf
  · exact .member hresolve hfields hbefore hf hviolation

/-- If single elements are judged, all values are that are nested no deeper. -/
theorem judges_of_single {n : Nat}
    (h : ∀ w : Value, w.nesting ≤ n → reg.Judges owner type .single w) (shape : Shape)
    (hv : v.nesting ≤ n) : reg.Judges owner type shape v := by
  cases harray : shape.isArray with
  | false => exact Shape.eq_single harray ▸ h v hv
  | true =>
    refine judges_array harray fun items hi w hw => h w ?_
    subst hi
    exact (Value.nesting_le_of_mem hw).trans hv

/-- Where a message is asked for, a value is judged by its members, if it has some. -/
theorem judges_message {m : Message} (hresolve : reg.resolve owner type = .ok m)
    (h : ∀ members, v = .struct members → ∀ f ∈ m.fields, ∀ w, members.lookup f.name = some w →
      reg.Judges m.package f.type f.shape w) :
    reg.Judges owner type .single v := by
  by_cases hv : ∃ members, v = .struct members
  · obtain ⟨members, rfl⟩ := hv
    rcases admitsMembers_or_violates (h members rfl) with hadmits | ⟨labels, violation, hfirst⟩
    · exact .inl (admits_struct hresolve hadmits)
    · exact .inr ⟨labels, violation, violation_struct hresolve hfirst⟩
  · exact .inr ⟨_, _, .noStruct hresolve fun members hm => hv ⟨members, hm⟩⟩

/-- Every single element is judged.  The induction is on the nesting of values: the members of a
compound are nested less deep than itself, and so are the items in them. -/
theorem judges_single (closed : reg.IsClosed) (v : Value) {owner : String} {type : TypeRef}
    (resolves : reg.Resolves owner type) : reg.Judges owner type .single v := by
  induction hn : v.nesting using Nat.strong_induction_on generalizing owner type v with
  | _ n ih =>
    rcases type_cases reg owner type with ⟨p, rfl⟩ | ⟨e, hkind, herror⟩ | ⟨m, hresolve⟩
    · exact judges_element owner p v
    · obtain ⟨m, hm⟩ := resolves hkind
      rw [herror] at hm
      cases hm
    · refine judges_message hresolve fun members hv f hf w hw => ?_
      subst hv
      rw [Value.nesting] at hn
      refine judges_of_single (fun u hu => ih u.nesting ?_ u ?_ rfl) f.shape
        (Value.nesting_le_of_lookup hw)
      · omega
      · exact closed m (registered_of_resolve hresolve) f hf

/-- The members of a message are all right, or there is a first one that is not. -/
theorem admits_or_violates (closed : reg.IsClosed) {m : Message} (registered : reg.Registered m)
    (members : Members) :
    reg.AdmitsMembers m members ∨
      ∃ labels violation, reg.FirstMemberViolation m members labels violation :=
  admitsMembers_or_violates fun f hf v _ =>
    judges_of_single (fun w _ => judges_single closed w (closed m registered f hf)) f.shape
      (Nat.le_refl v.nesting)

/-! ## Whole messages -/

theorem encode_of_admitsMembers {name : String} {m : Message} {members : Members}
    (hm : reg.find? name = some m) (h : reg.AdmitsMembers m members) :
    ∃ bytes, reg.encode name members = .ok bytes := by
  rw [Registry.encode, hm]
  exact encodeFields_eq_ok fun f hf => (h f hf).encodes

theorem encode_of_memberViolation {name : String} {m : Message} {members : Members}
    {labels : List String} {violation : Violation} (hm : reg.find? name = some m)
    (h : reg.FirstMemberViolation m members labels violation) :
    reg.encode name members = .error (violation.error labels) := by
  rw [Registry.encode, hm]
  obtain ⟨before, f, after, hfields, hbefore,
    ⟨hf, rfl, rfl⟩ | ⟨v, inner, hf, rfl, hviolation⟩⟩ := h
  · simp only [hfields]
    exact encodeFields_absent (fun g hg => (hbefore g hg).encodes) hf
  · simp only [hfields]
    rw [encodeFields_member (fun g hg => (hbefore g hg).encodes) hf
      (encode_of_violation hviolation), Violation.inField_error]

/-- **What can be encoded, and why the rest cannot.**  Of a message in a closed registry exactly the
members of the right form are encoded.  If they are not, the error is that of the first thing that
is wrong with them, in the order of the declaration and with what is nested first, and it has the
labels of the fields around that.  Members that are not declared make no difference. -/
theorem encode_conformance (closed : reg.IsClosed) {name : String} {m : Message}
    (hm : reg.find? name = some m) (members : Members) :
    ((∃ bytes, reg.encode name members = .ok bytes) ↔ reg.AdmitsMembers m members) ∧
    (∀ e, reg.encode name members = .error e ↔
      ∃ labels violation, reg.FirstMemberViolation m members labels violation ∧
        e = violation.error labels) ∧
    (∀ others : Members, (∀ f ∈ m.fields, others.lookup f.name = members.lookup f.name) →
      reg.encode name others = reg.encode name members) := by
  have hcases := admits_or_violates closed ⟨name, hm⟩ members
  refine ⟨⟨?_, encode_of_admitsMembers hm⟩, fun e => ⟨?_, ?_⟩, fun others hothers => ?_⟩
  · rintro ⟨bytes, hbytes⟩
    rcases hcases with hadmits | ⟨labels, violation, hfirst⟩
    · exact hadmits
    · rw [encode_of_memberViolation hm hfirst] at hbytes
      cases hbytes
  · intro herror
    rcases hcases with hadmits | ⟨labels, violation, hfirst⟩
    · obtain ⟨bytes, hbytes⟩ := encode_of_admitsMembers hm hadmits
      rw [hbytes] at herror
      cases herror
    · refine ⟨labels, violation, hfirst, ?_⟩
      rw [encode_of_memberViolation hm hfirst] at herror
      exact (Except.error.inj herror).symm
  · rintro ⟨labels, violation, hfirst, rfl⟩
    exact encode_of_memberViolation hm hfirst
  · simp only [Registry.encode, hm]
    exact encodeFields_congr hothers

end Registry

/-! ## A tree with a wrong one below it -/

namespace Forest

/-- The members of a tree, in whose lower tree a truth value is given as a text, and the marks are
not given at all. -/
def wildMembers : Members :=
  [("marks", .list [.struct [], .struct []]),
    ("below", .list [.struct [("leaf", .struct [("green", .datum (.string "yes"))])]]),
    ("leaf", .struct [("label", .datum (.string "a")), ("green", .datum (.bool true))])]

/-- The members of the grove are all right.  Those of the wild tree are not: the text is found
first, although marks are missing above it. -/
theorem encode_wild : registry.IsClosed ∧ registry.find? "forest/Tree" = some tree ∧
    registry.AdmitsMembers tree groveMembers ∧
    ∃ labels violation, registry.FirstMemberViolation tree wildMembers labels violation ∧
      violation.error labels = .wire (.inField "Below" (.inField "Leaf" (.inField "Green"
        (.typeMismatch (.primitive .bool) "string")))) := by
  have hgrove := Registry.encode_conformance isClosed find?_tree groveMembers
  have hwild := Registry.encode_conformance isClosed find?_tree wildMembers
  obtain ⟨labels, violation, hfirst, herror⟩ := (hwild.2.1 _).1 rfl
  exact ⟨isClosed, find?_tree, hgrove.1.1 ⟨_, rfl⟩, labels, violation, hfirst, herror.symm⟩

end Forest

end Missive
