import Missive.Registry.Standard
/-!
# Registries that hold together

What a registry should be like for its messages to be coded, and which of its types take no bytes
on the wire.

* `Registry.IsClosed`, `Registry.HasDistinctFields`, `Registry.IsKeyed` -- every field's type is
  there, no message has two fields of one name, and every message is found under its own name
  (which is what insertions lead to, `IsKeyed.insert`, `isKeyed_ofMessages`);
* `Registry.Weightless` -- the types that take no bytes, by the height of the tree of their fields;
* `Registry.isEmptyWithin_eq_true_iff` -- the emptiness test finds those of limited height;
* `Registry.isEmptyWithin_ok` -- in a closed registry it has an answer;
* `Forest.registry` -- a registry that holds together, with a message that holds itself.
-/

namespace Missive

theorem Shape.eq_single {shape : Shape} (h : shape.isArray = false) : shape = single := by
  cases shape with
  | single => rfl
  | many | exactly count => cases h

namespace Registry

/-- Some name leads to this message. -/
def Registered (reg : Registry) (m : Message) : Prop :=
  ∃ name, reg.find? name = some m

/-- The type of a field of a message of package `owner` is a primitive or leads to a message. -/
def Resolves (reg : Registry) (owner : String) (type : TypeRef) : Prop :=
  type.kind = .message → ∃ m, reg.resolve owner type = .ok m

/-- Every field of every message resolves. -/
def IsClosed (reg : Registry) : Prop :=
  ∀ m, reg.Registered m → ∀ f ∈ m.fields, reg.Resolves m.package f.type

/-- No message has two fields of one name. -/
def HasDistinctFields (reg : Registry) : Prop :=
  ∀ m, reg.Registered m → (m.fields.map Field.name).Nodup

/-- Every message is stored under its full name. -/
def IsKeyed (reg : Registry) : Prop :=
  ∀ name m, reg.find? name = some m → m.fullName = name

theorem mem_of_find? {reg : Registry} {name : String} {m : Message}
    (h : reg.find? name = some m) : (name, m) ∈ reg.messages.entries := by
  obtain ⟨before, after, he, -⟩ := List.lookup_eq_some_iff.1 h
  rw [he]
  simp

theorem mem_keys_of_find? {reg : Registry} {name : String} {m : Message}
    (h : reg.find? name = some m) : name ∈ reg.messages.keys :=
  List.mem_map_of_mem (mem_of_find? h)

/-- That a registry is closed is seen from its entries. -/
theorem isClosed_of_entries {reg : Registry}
    (h : ∀ entry ∈ reg.messages.entries, ∀ f ∈ entry.2.fields, f.type.kind = .message →
      (reg.resolve entry.2.package f.type).toOption.isSome) : reg.IsClosed := by
  rintro m ⟨name, hm⟩ f hf hk
  have hs := h (name, m) (mem_of_find? hm) f hf hk
  cases hr : reg.resolve m.package f.type with
  | error e => simp [hr, Except.toOption] at hs
  | ok m' => exact ⟨m', rfl⟩

theorem hasDistinctFields_of_entries {reg : Registry}
    (h : ∀ entry ∈ reg.messages.entries, (entry.2.fields.map Field.name).Nodup) :
    reg.HasDistinctFields := by
  rintro m ⟨name, hm⟩
  exact h (name, m) (mem_of_find? hm)

theorem isKeyed_empty : empty.IsKeyed := by
  intro name m h
  cases h

/-- Registries are made by insertions, and these put a message under its full name. -/
theorem IsKeyed.insert {reg : Registry} (h : reg.IsKeyed) (m : Message) :
    (reg.insert m).registry.IsKeyed := by
  rw [Registry.insert]
  split
  · exact h
  · intro name stored hs
    rw [find?, Dictionary.find?_insert] at hs
    split at hs
    · rename_i hn
      cases hs
      exact hn.symm
    · exact h name stored hs

theorem IsKeyed.register {reg : Registry} (h : reg.IsKeyed) (d : Descriptor) :
    (reg.register d).registry.IsKeyed := by
  rw [Registry.register]
  cases readDescriptor d with
  | error e => exact h
  | ok m => exact h.insert m

theorem isKeyed_ofMessages (messages : List Message) : (ofMessages messages).IsKeyed := by
  have hfold : ∀ (reg : Registry), reg.IsKeyed →
      (messages.foldl (fun reg m => (reg.insert m).registry) reg).IsKeyed := by
    induction messages with
    | nil => exact fun _ h => h
    | cons m rest ih => exact fun reg h => ih _ (h.insert m)
  exact hfold empty isKeyed_empty

/-- Only messages resolve to messages, and these are registered. -/
theorem key_of_resolve {reg : Registry} {owner : String} {type : TypeRef} {m : Message}
    (h : reg.resolve owner type = .ok m) :
    ∃ key, type.key? owner = some key ∧ reg.find? key = some m := by
  simp only [resolve] at h
  cases hk : type.key? owner with
  | none => simp [hk] at h
  | some key =>
    cases hf : reg.find? key with
    | none => simp [hk, hf] at h
    | some stored =>
      simp only [hk, hf, Except.ok.injEq] at h
      exact ⟨key, rfl, h ▸ hf⟩

theorem registered_of_resolve {reg : Registry} {owner : String} {type : TypeRef} {m : Message}
    (h : reg.resolve owner type = .ok m) : reg.Registered m :=
  (key_of_resolve h).imp fun _ hk => hk.2

theorem kind_of_resolve {reg : Registry} {owner : String} {type : TypeRef} {m : Message}
    (h : reg.resolve owner type = .ok m) : type.kind = .message := by
  cases type with
  | primitive p => cases h
  | own name => rfl
  | foreign package name => rfl

/-- A type is a primitive, leads nowhere, or leads to a message. -/
theorem type_cases (reg : Registry) (owner : String) (type : TypeRef) :
    (∃ p, type = .primitive p) ∨
      (∃ e, type.kind = .message ∧ reg.resolve owner type = .error e) ∨
      ∃ m, reg.resolve owner type = .ok m := by
  cases type with
  | primitive p => exact .inl ⟨p, rfl⟩
  | own name | foreign package name =>
    rcases reg.resolve owner _ with e | m
    · exact .inr (.inl ⟨e, rfl, rfl⟩)
    · exact .inr (.inr ⟨m, rfl⟩)

/-! ## Types that take no bytes -/

/-- The types whose elements take no bytes on the wire: messages all of whose fields are single
elements of such types.  The height is at least that of the tree of their fields. -/
inductive Weightless (reg : Registry) : Nat → String → TypeRef → Prop
  | leaf {height : Nat} {owner : String} {type : TypeRef} {m : Message} :
      reg.resolve owner type = .ok m → m.fields = [] → Weightless reg height owner type
  | node {height : Nat} {owner : String} {type : TypeRef} {m : Message} :
      reg.resolve owner type = .ok m → (∀ f ∈ m.fields, f.shape = .single) →
      (∀ f ∈ m.fields, Weightless reg height m.package f.type) →
      Weightless reg (height + 1) owner type

namespace Weightless

variable {reg : Registry} {height : Nat} {owner : String} {type : TypeRef}

/-- What a type without bytes is made of. -/
theorem fields (h : reg.Weightless height owner type) :
    ∃ m, reg.resolve owner type = .ok m ∧
      ∀ f ∈ m.fields, f.shape = .single ∧ ∃ k < height, reg.Weightless k m.package f.type := by
  cases h with
  | leaf hr hf => exact ⟨_, hr, by simp [hf]⟩
  | node hr hs hw => exact ⟨_, hr, fun f hf => ⟨hs f hf, _, Nat.lt_succ_self _, hw f hf⟩⟩

theorem mono (h : reg.Weightless height owner type) {k : Nat} (hk : height ≤ k) :
    reg.Weightless k owner type := by
  induction h generalizing k with
  | leaf hr hf => exact leaf hr hf
  | node hr hs hw ih =>
    obtain ⟨k, rfl⟩ := Nat.exists_eq_succ_of_ne_zero (by omega : k ≠ 0)
    exact node hr hs fun f hf => ih f hf (by omega)

end Weightless

/-- Finitely many things that have a bound each have one in common. -/
theorem exists_common_bound {α : Type} {P : Nat → α → Prop} (mono : ∀ n a, P n a → P (n + 1) a)
    {items : List α} (h : ∀ a ∈ items, ∃ n, P n a) : ∃ n, ∀ a ∈ items, P n a := by
  have mono_le : ∀ {n k : Nat} (a : α), n ≤ k → P n a → P k a := by
    intro n k a hk hn
    induction hk with
    | refl => exact hn
    | step _ ih => exact mono _ a ih
  induction items with
  | nil => exact ⟨0, by simp⟩
  | cons a rest ih =>
    rw [List.forall_mem_cons] at h
    obtain ⟨i, hi⟩ := h.1
    obtain ⟨j, hj⟩ := ih h.2
    refine ⟨max i j, List.forall_mem_cons.2 ⟨?_, fun b hb => ?_⟩⟩
    · exact mono_le a (Nat.le_max_left i j) hi
    · exact mono_le b (Nat.le_max_right i j) (hj b hb)

/-- Finitely many types have a common height. -/
theorem weightless_of_fields {reg : Registry} {owner : String} {type : TypeRef} {m : Message}
    (hr : reg.resolve owner type = .ok m)
    (hf : ∀ f ∈ m.fields, f.shape = .single ∧ ∃ k, reg.Weightless k m.package f.type) :
    ∃ k, reg.Weightless k owner type := by
  have hmono : ∀ k (f : Field), reg.Weightless k m.package f.type →
      reg.Weightless (k + 1) m.package f.type := fun k f hw => hw.mono (Nat.le_succ k)
  obtain ⟨k, hk⟩ := exists_common_bound hmono fun f hm => (hf f hm).2
  exact ⟨k + 1, .node hr (fun f hm => (hf f hm).1) hk⟩

/-! ## The emptiness test -/

theorem allTrue_eq_true_iff {α : Type} {test : α → Except CodecError Bool} {items : List α} :
    allTrue test items = .ok true ↔ ∀ a ∈ items, test a = .ok true := by
  induction items with
  | nil => simp [allTrue]
  | cons a rest ih =>
    simp only [allTrue, List.forall_mem_cons]
    rcases h : test a with e | (_ | _) <;> simp [ih]

theorem allTrue_ok {α : Type} {test : α → Except CodecError Bool} {items : List α}
    (h : ∀ a ∈ items, ∃ b, test a = .ok b) : ∃ b, allTrue test items = .ok b := by
  induction items with
  | nil => exact ⟨true, rfl⟩
  | cons a rest ih =>
    obtain ⟨b, hb⟩ := h a List.mem_cons_self
    cases b with
    | false => exact ⟨false, by simp [allTrue, hb]⟩
    | true =>
      simp only [allTrue, hb]
      exact ih fun c hc => h c (List.mem_cons_of_mem _ hc)

theorem isEmptyWithin_message {reg : Registry} {owner : String} {type : TypeRef}
    (h : type.kind = .message) (levels : Nat) :
    reg.isEmptyWithin (levels + 1) owner type = match reg.resolve owner type with
      | .error e => .error e
      | .ok m =>
        allTrue (fun f =>
          if f.shape.isArray then .ok false else reg.isEmptyWithin levels m.package f.type)
          m.fields := by
  cases type with
  | primitive p => cases h
  | own name => rfl
  | foreign package name => rfl

theorem isEmptyWithin_succ_iff {reg : Registry} {levels : Nat} {owner : String} {type : TypeRef} :
    reg.isEmptyWithin (levels + 1) owner type = .ok true ↔
      ∃ m, reg.resolve owner type = .ok m ∧ ∀ f ∈ m.fields,
        f.shape = .single ∧ reg.isEmptyWithin levels m.package f.type = .ok true := by
  cases type with
  | primitive p => simp [isEmptyWithin, resolve, TypeRef.key?]
  | own name | foreign package name =>
    rw [isEmptyWithin_message rfl]
    rcases reg.resolve owner _ with e | m
    · simp
    · simp only [allTrue_eq_true_iff, Except.ok.injEq, exists_eq_left']
      refine forall₂_congr fun f _ => ?_
      cases f.shape <;> simp [Shape.isArray]

/-- The test sees through so many levels of messages, and through no more. -/
theorem isEmptyWithin_eq_true_iff {reg : Registry} {height : Nat} {owner : String}
    {type : TypeRef} :
    reg.isEmptyWithin (height + 1) owner type = .ok true ↔ reg.Weightless height owner type := by
  induction height generalizing owner type with
  | zero =>
    rw [isEmptyWithin_succ_iff]
    constructor
    · rintro ⟨m, hr, hf⟩
      refine .leaf hr (List.eq_nil_iff_forall_not_mem.2 fun f hm => ?_)
      simpa [isEmptyWithin] using hf f hm
    · intro h
      obtain ⟨m, hr, hf⟩ := h.fields
      refine ⟨m, hr, fun f hm => ?_⟩
      obtain ⟨-, k, hk, -⟩ := hf f hm
      omega
  | succ height ih =>
    rw [isEmptyWithin_succ_iff]
    constructor
    · rintro ⟨m, hr, hf⟩
      exact .node hr (fun f hm => (hf f hm).1) fun f hm => ih.1 (hf f hm).2
    · intro h
      obtain ⟨m, hr, hf⟩ := h.fields
      refine ⟨m, hr, fun f hm => ?_⟩
      obtain ⟨hs, k, hk, hw⟩ := hf f hm
      exact ⟨hs, ih.2 (hw.mono (by omega))⟩

theorem isEmptyWithin_ok {reg : Registry} (closed : reg.IsClosed) (levels : Nat) {owner : String}
    {type : TypeRef} (h : reg.Resolves owner type) :
    ∃ b, reg.isEmptyWithin levels owner type = .ok b := by
  induction levels generalizing owner type with
  | zero => exact ⟨false, rfl⟩
  | succ levels ih =>
    cases hk : type.kind with
    | primitive p =>
      cases type <;> cases hk
      exact ⟨false, rfl⟩
    | message =>
      obtain ⟨m, hr⟩ := h hk
      rw [isEmptyWithin_message hk, hr]
      refine allTrue_ok fun f hm => ?_
      split
      · exact ⟨false, rfl⟩
      · exact ih (closed m (registered_of_resolve hr) f hm)

end Registry

/-! ## A small registry -/

namespace Forest

/-- A message without bytes. -/
def mark : Message :=
  ⟨"forest", "Mark", "", [], [], .empty⟩

def leaf : Message :=
  ⟨"forest", "Leaf", "",
    [⟨"green", "bool", .single, .primitive .bool⟩,
      ⟨"label", "string", .single, .primitive .string⟩], [], .empty⟩

/-- A message without truth values. -/
def seed : Message :=
  ⟨"forest", "Seed", "",
    [⟨"weight", "uint16", .single, .primitive .uint16⟩,
      ⟨"origin", "string", .single, .primitive .string⟩], [], .empty⟩

/-- A message that holds itself, with an array of elements that take no bytes. -/
def tree : Message :=
  ⟨"forest", "Tree", "",
    [⟨"leaf", "Leaf", .single, .own "Leaf"⟩, ⟨"marks", "Mark", .exactly 2, .own "Mark"⟩,
      ⟨"below", "Tree", .many, .own "Tree"⟩], [], .empty⟩

def registry : Registry :=
  .ofMessages [mark, leaf, seed, tree]

/-- A tree with one tree below it. -/
def grove : Bytes :=
  [0, 1, 0, 0, 0, 97, 2, 0, 0, 0, 1, 0, 0, 0, 1, 1, 0, 0, 0, 98, 2, 0, 0, 0, 0, 0, 0, 0]

theorem find?_tree : registry.find? "forest/Tree" = some tree := rfl

theorem find?_seed : registry.find? "forest/Seed" = some seed := rfl

theorem isClosed : registry.IsClosed :=
  Registry.isClosed_of_entries (by decide)

theorem hasDistinctFields : registry.HasDistinctFields :=
  Registry.hasDistinctFields_of_entries (by decide)

end Forest

end Missive
