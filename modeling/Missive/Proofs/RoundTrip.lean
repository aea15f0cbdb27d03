import Missive.Proofs.Budgets
import Missive.Proofs.Encoding
/-!
# What was encoded is decoded again

A message is read back from its encoding, whatever bytes come after it.  Only the declared members
are written, so only these come back.  There is one exception: an array may hold more elements
without bytes than a decoder accepts.

* `Value.restrict` -- a value without its undeclared members;
* `Value.nesting` -- how many compounds are nested in a value;
* `Registry.Overfull` -- some array of a value holds too many elements that take no bytes;
* `ElementDecoder.Inverts` -- the invariant: what was written is read back, or refused for that
  reason;
* `Registry.decode_encode_append` -- a message and what is behind it.
-/

namespace Missive

/-! ## The declared part of a value -/

/-- How the declared part of a value is taken, for a type of a package. -/
abbrev Restriction := String → TypeRef → Value

/-- The members that fields of a message of package `owner` declare, in the order of the fields. -/
def declaredMembers (owner : String) (parts : List (String × Restriction)) (fields : List Field) :
    Members :=
  fields.filterMap fun f => (parts.lookup f.name).map fun part => (f.name, part owner f.type)

namespace Value

mutual

/-- The value with its declared members only, on all levels. -/
def restrict (reg : Registry) : Value → Restriction
  | datum d, _, _ => datum d
  | struct members, owner, type =>
    match reg.resolve owner type with
    | .error _ => struct members
    | .ok m => struct (declaredMembers m.package (restrictions reg members) m.fields)
  | list items, owner, type => list (restrictItems reg items owner type)

/-- The items of a list, with their declared members only. -/
def restrictItems (reg : Registry) : List Value → String → TypeRef → List Value
  | [], _, _ => []
  | v :: rest, owner, type => restrict reg v owner type :: restrictItems reg rest owner type

/-- The declared parts of the members of a compound. -/
def restrictions (reg : Registry) : List (String × Value) → List (String × Restriction)
  | [] => []
  | (name, v) :: rest =>
    (name, fun owner type => restrict reg v owner type) :: restrictions reg rest

end

theorem lookup_restrictions (reg : Registry) (members : Members) (name : String) :
    (restrictions reg members).lookup name = (members.lookup name).map (restrict reg ·) := by
  induction members with
  | nil => rfl
  | cons member rest ih =>
    obtain ⟨key, v⟩ := member
    by_cases h : name = key
    · subst h
      simp [restrictions]
    · have hb : (name == key) = false := by simpa using h
      simp [restrictions, List.lookup_cons, hb, ih]

end Value

/-- The members that a message declares, with their declared members only. -/
def Members.restrict (reg : Registry) (m : Message) (members : Members) : Members :=
  declaredMembers m.package (Value.restrictions reg members) m.fields

theorem Value.restrict_struct {reg : Registry} {owner : String} {type : TypeRef} {m : Message}
    (hr : reg.resolve owner type = .ok m) (members : Members) :
    (struct members).restrict reg owner type = struct (members.restrict reg m) := by
  simp only [restrict, hr, Members.restrict]

theorem declaredMembers_cons {reg : Registry} {members : Members} {f : Field} {v : Value}
    (h : members.lookup f.name = some v) (owner : String) (rest : List Field) :
    declaredMembers owner (Value.restrictions reg members) (f :: rest)
      = (f.name, v.restrict reg owner f.type)
        :: declaredMembers owner (Value.restrictions reg members) rest := by
  simp only [declaredMembers, List.filterMap_cons, Value.lookup_restrictions, h, Option.map_some]

/-! ## Nesting -/

namespace Value

mutual

/-- How many compounds are around each other in a value, at most. -/
def nesting : Value → Nat
  | datum _ => 0
  | struct members => nestingMembers members + 1
  | list items => nestingItems items

/-- How many compounds are around each other in the items of a list, at most. -/
def nestingItems : List Value → Nat
  | [] => 0
  | v :: rest => max (nesting v) (nestingItems rest)

/-- How many compounds are around each other in the members of a compound, at most. -/
def nestingMembers : List (String × Value) → Nat
  | [] => 0
  | (_, v) :: rest => max (nesting v) (nestingMembers rest)

end

theorem nesting_le_of_mem {v : Value} {items : List Value} (h : v ∈ items) :
    v.nesting ≤ nestingItems items := by
  induction items with
  | nil => cases h
  | cons w rest ih =>
    rw [nestingItems]
    rcases List.mem_cons.1 h with rfl | h
    · exact Nat.le_max_left _ _
    · exact (ih h).trans (Nat.le_max_right _ _)

theorem nesting_le_of_lookup {v : Value} {members : Members} {name : String}
    (h : members.lookup name = some v) : v.nesting ≤ nestingMembers members := by
  induction members with
  | nil => cases h
  | cons member rest ih =>
    obtain ⟨key, w⟩ := member
    rw [nestingMembers]
    rw [List.lookup_cons] at h
    split at h
    · cases h
      exact Nat.le_max_left _ _
    · exact (ih h).trans (Nat.le_max_right _ _)

end Value

/-! ## Arrays that are too long -/

/-- Somewhere in a value for a type and a shape, an array of elements that take no bytes holds more
of them than a decoder accepts. -/
inductive Registry.Overfull (reg : Registry) : String → TypeRef → Shape → Value → Prop
  | array {owner : String} {type : TypeRef} {shape : Shape} {items : List Value} {height : Nat} :
      shape.isArray = true → reg.Weightless height owner type →
      maxEmptyElements < items.length → Overfull reg owner type shape (.list items)
  | item {owner : String} {type : TypeRef} {shape : Shape} {items : List Value} {v : Value} :
      shape.isArray = true → v ∈ items → Overfull reg owner type .single v →
      Overfull reg owner type shape (.list items)
  | member {owner : String} {type : TypeRef} {m : Message} {members : Members} {f : Field}
      {v : Value} :
      reg.resolve owner type = .ok m → f ∈ m.fields → members.lookup f.name = some v →
      Overfull reg m.package f.type f.shape v → Overfull reg owner type .single (.struct members)

/-- The same, somewhere in the members of a message. -/
def Registry.OverfullMember (reg : Registry) (owner : String) (fields : List Field)
    (members : Members) : Prop :=
  ∃ f ∈ fields, ∃ v, members.lookup f.name = some v ∧ reg.Overfull owner f.type f.shape v

namespace Decoded

variable {α β : Type}

/-- An array of elements without bytes was refused for its length. -/
def Refused (r : Decoded α) : Prop :=
  ∃ e count, r.1 = .error (.wire e) ∧ e.root = .elementLimit count maxEmptyElements ∧
    maxEmptyElements < count

/-- This is what was read, unless there was a reason to refuse it. -/
def Recovers (r : Decoded α) (a : α) (t : Source) (reason : Prop) : Prop :=
  r = (.ok a, t) ∨ reason ∧ Refused r

namespace Recovers

variable {r : Decoded α} {a : α} {b : β} {t u : Source} {reason other : Prop}

theorem imp (h : Recovers r a t reason) (hi : reason → other) : Recovers r a t other :=
  h.imp_right (And.imp_left hi)

/-- Neither of the two outcomes is that of a budget that was too small. -/
theorem not_ranOut (h : Recovers r a t reason) : ¬RanOut r := by
  rintro ⟨around, hx⟩
  rcases h with hok | ⟨-, e, count, he, -⟩
  · rw [hok] at hx
    cases hx
  · rw [he] at hx
    cases hx

theorem andThen {next : α → Source → Decoded β} (h : Recovers r a t reason)
    (hn : Recovers (next a t) b u reason) : Recovers (andThen r next) b u reason := by
  rcases h with rfl | ⟨hr, e, count, he, hroot⟩
  · exact hn
  · rcases r with ⟨_ | _, s⟩
    · cases he
      exact .inr ⟨hr, e, count, rfl, hroot⟩
    · cases he

theorem mapValue (make : α → β) (h : Recovers r a t reason) :
    Recovers (mapValue make r) (make a) t reason := by
  rcases h with rfl | ⟨hr, e, count, he, hroot⟩
  · exact .inl rfl
  · rcases r with ⟨_ | _, s⟩
    · cases he
      exact .inr ⟨hr, e, count, rfl, hroot⟩
    · cases he

theorem inField (label : String) (h : Recovers r a t reason) :
    Recovers (inField label r) a t reason := by
  rcases h with rfl | ⟨hr, e, count, he, hroot⟩
  · exact .inl rfl
  · rcases r with ⟨_ | _, s⟩
    · cases he
      exact .inr ⟨hr, .inField label e, count, rfl, hroot⟩
    · cases he

end Recovers

end Decoded

/-! ## One step -/

/-- A decoder reads back, from in front of anything, the values nested at most `n` times. -/
def ElementDecoder.Inverts (reg : Registry) (n : Nat) (element : ElementDecoder) : Prop :=
  ∀ (v : Value) (owner : String) (type : TypeRef) (bytes : Bytes) (s t : Source),
    v.nesting ≤ n → v.encode reg owner type .single = .ok bytes → s.Reads bytes t →
    Decoded.Recovers (element owner type s) (v.restrict reg owner type) t
      (reg.Overfull owner type .single v)

/-- A count of the declared number, if there is one, is admitted unless elements take no bytes. -/
theorem admitCount_recovers {reg : Registry} (closed : reg.IsClosed) {owner : String} {f : Field}
    (hf : reg.Resolves owner f.type) {count : Nat}
    (hc : f.shape.isFixed = true → count = f.shape.count) (s : Source) :
    Decoded.Recovers (admitCount reg owner f count, s) () s
      ((∃ height, reg.Weightless height owner f.type) ∧ maxEmptyElements < count) := by
  have hfixed : (f.shape.isFixed && count != f.shape.count) = false := by
    cases hs : f.shape.isFixed <;> simp [hs, hc]
  obtain ⟨empty, he⟩ := Registry.isEmptyWithin_ok closed Registry.emptinessLevels hf
  simp only [admitCount, hfixed, Bool.false_eq_true, if_false, Registry.isEmptyElement, he]
  cases empty with
  | false => exact .inl rfl
  | true =>
    rcases Nat.lt_or_ge maxEmptyElements count with h | h
    · have hw := Registry.isEmptyWithin_eq_true_iff.1 he
      simp only [checkEmptyElements, Nat.not_le.2 h, if_false]
      exact .inr ⟨⟨⟨_, hw⟩, h⟩, _, count, rfl, rfl, h⟩
    · simp only [checkEmptyElements, h, if_true]
      exact .inl rfl

section

variable {reg : Registry} {n : Nat} {element : ElementDecoder} (inverts : element.Inverts reg n)

include inverts

theorem decodeItems_recovers {owner : String} {type : TypeRef} {items : List Value} {bytes : Bytes}
    {s t : Source} (hn : ∀ v ∈ items, v.nesting ≤ n)
    (he : Value.encodeItems reg items owner type = .ok bytes) (hr : s.Reads bytes t) :
    Decoded.Recovers (decodeItems (element owner type) items.length [] s)
      (Value.restrictItems reg items owner type) t
      (∃ v ∈ items, reg.Overfull owner type .single v) := by
  induction items generalizing bytes s with
  | nil =>
    obtain rfl : [] = bytes := by simpa [Value.encodeItems] using he
    obtain ⟨-, rfl⟩ := hr.unique (.refl s) rfl
    exact .inl rfl
  | cons v rest ih =>
    obtain ⟨a, b, hv, hrest, rfl⟩ := Value.encodeItems_cons_eq_ok_iff.1 he
    obtain ⟨u, ha, hb⟩ := hr.split
    rw [List.length_cons, decodeItems_succ, Value.restrictItems]
    have hfirst := inverts v owner type a s u (hn v List.mem_cons_self) hv ha
    have hothers := ih (fun w hw => hn w (List.mem_cons_of_mem _ hw)) hrest hb
    refine (hfirst.imp fun h => ⟨v, List.mem_cons_self, h⟩).andThen
      ((hothers.imp ?_).mapValue (_ :: ·))
    rintro ⟨w, hw, h⟩
    exact ⟨w, List.mem_cons_of_mem _ hw, h⟩

variable (closed : reg.IsClosed)

include closed

theorem decodeField_recovers {owner : String} {f : Field} {v : Value} {bytes : Bytes}
    {s t : Source} (hf : reg.Resolves owner f.type) (hn : v.nesting ≤ n)
    (he : v.encode reg owner f.type f.shape = .ok bytes) (hr : s.Reads bytes t) :
    Decoded.Recovers (decodeField reg element owner f s) (v.restrict reg owner f.type) t
      (reg.Overfull owner f.type f.shape v) := by
  cases ha : f.shape.isArray with
  | false =>
    have hs := Shape.eq_single ha
    rw [hs] at he ⊢
    rw [decodeField_single reg element owner ha]
    exact inverts v owner f.type bytes s t hn he hr
  | true =>
    obtain ⟨items, body, rfl, hcount, hlimit, hbody, rfl⟩ :=
      (Value.encode_array_eq_ok_iff ha).1 he
    obtain ⟨u, hprefix, hrest⟩ := hr.split
    have hitem : ∀ w ∈ items, w.nesting ≤ n := fun w hw => by
      rw [Value.nesting] at hn
      exact (Value.nesting_le_of_mem hw).trans hn
    rw [decodeField_array reg element owner ha,
      decodeArray_of_reads reg element owner f hlimit hprefix, Value.restrict]
    refine Decoded.Recovers.mapValue Value.list (.andThen
      ((admitCount_recovers closed hf hcount u).imp ?_)
      ((decodeItems_recovers inverts hitem hbody hrest).imp ?_))
    · rintro ⟨⟨height, hw⟩, hlong⟩
      exact .array ha hw hlong
    · rintro ⟨w, hw, h⟩
      exact .item ha hw h

theorem decodeFields_recovers {m : Message} {members : Members} {fields : List Field}
    {bytes : Bytes} {s t : Source} (hf : ∀ f ∈ fields, reg.Resolves m.package f.type)
    (distinct : (fields.map Field.name).Nodup) (hn : Value.nestingMembers members ≤ n)
    (he : encodeFields m (Value.encoders reg members) fields = .ok bytes) (hr : s.Reads bytes t) :
    Decoded.Recovers (decodeFields reg element m.package fields [] s)
      (declaredMembers m.package (Value.restrictions reg members) fields) t
      (reg.OverfullMember m.package fields members) := by
  induction fields generalizing bytes s with
  | nil =>
    obtain rfl : [] = bytes := by simpa [encodeFields] using he
    obtain ⟨-, rfl⟩ := hr.unique (.refl s) rfl
    exact .inl rfl
  | cons f rest ih =>
    obtain ⟨v, a, b, hv, hfirst, hothers, rfl⟩ := encodeFields_cons_eq_ok_iff.1 he
    obtain ⟨u, ha, hb⟩ := hr.split
    rw [decodeFields_cons reg element m.package distinct, declaredMembers_cons hv]
    have hfield := decodeField_recovers inverts closed (hf f List.mem_cons_self)
      ((Value.nesting_le_of_lookup hv).trans hn) hfirst ha
    have hrest := ih (fun g hg => hf g (List.mem_cons_of_mem _ hg)) (List.nodup_cons.1 distinct).2
      hothers hb
    refine ((hfield.imp fun h => ?_).inField f.label).andThen ?_
    · exact ⟨f, List.mem_cons_self, v, hv, h⟩
    · refine (hrest.imp ?_).mapValue (_ :: ·)
      rintro ⟨g, hg, w, hw, h⟩
      exact ⟨g, List.mem_cons_of_mem _ hg, w, hw, h⟩

end

/-! ## Whole messages -/

namespace Registry

variable {reg : Registry}

/-- With a budget of its nesting, whatever was written is read back. -/
theorem decodeElement_inverts (closed : reg.IsClosed) (distinct : reg.HasDistinctFields)
    (n : Nat) : ElementDecoder.Inverts reg n (reg.decodeElement n) := by
  induction n with
  | zero =>
    intro v owner type bytes s t hn he hr
    rcases Value.encode_single_eq_ok_iff.1 he with ⟨d, rfl, rfl, hd⟩ | ⟨members, m, rfl, -, -⟩
    · rw [decodeElement_primitive, Datum.read_of_encode hd hr]
      exact .inl rfl
    · simp [Value.nesting] at hn
  | succ n ih =>
    intro v owner type bytes s t hn he hr
    rcases Value.encode_single_eq_ok_iff.1 he with ⟨d, rfl, rfl, hd⟩ | ⟨members, m, rfl, hm, hb⟩
    · rw [decodeElement_primitive, Datum.read_of_encode hd hr]
      exact .inl rfl
    · have hreg := registered_of_resolve hm
      have hfields := decodeFields_recovers ih closed (closed m hreg) (distinct m hreg)
        (Nat.succ_le_succ_iff.1 hn) hb hr
      rw [decodeElement_succ hm, Value.restrict_struct hm]
      refine (hfields.imp ?_).mapValue Value.struct
      rintro ⟨f, hf, w, hw, h⟩
      exact .member hm hf hw h

/-- **A message is read back from its encoding.**  What is behind the encoding does not matter.  The
declared members come back as they were, unless there are more elements without bytes in one array
than a decoder accepts. -/
theorem decode_encode_append (closed : reg.IsClosed) (distinct : reg.HasDistinctFields)
    {name : String} {m : Message} {members : Members} {bytes : Bytes}
    (hm : reg.find? name = some m) (he : reg.encode name members = .ok bytes) (rest : Bytes) :
    reg.decode name (bytes ++ rest) = (bytes.length, .ok (members.restrict reg m)) ∨
      reg.OverfullMember m.package m.fields members ∧
        ∃ e count, (reg.decode name (bytes ++ rest)).2 = .error (.wire e) ∧
          e.root = .elementLimit count maxEmptyElements ∧ maxEmptyElements < count := by
  have hreg : reg.Registered m := ⟨name, hm⟩
  have hread : (Source.ofBytes (bytes ++ rest)).Reads bytes ⟨rest, bytes.length, .ended⟩ :=
    ⟨rfl, (Nat.zero_add _).symm, rfl⟩
  simp only [encode, hm] at he
  have h : Decoded.Recovers _ _ _ _ := decodeFields_recovers
    (decodeElement_inverts closed distinct (Value.nestingMembers members)) closed
    (closed m hreg) (distinct m hreg) (Nat.le_refl _) he hread
  change Decoded.Recovers (reg.decodeMessage (Value.nestingMembers members) m _) _ _ _ at h
  have hdone : ¬Decoded.RanOut
      (reg.decodeMessage (Value.nestingMembers members) m (.ofBytes (bytes ++ rest))) := by
    rintro ⟨around, hx⟩
    rcases h with h | ⟨-, e, count, h, -⟩ <;> rw [h] at hx <;> cases hx
  rw [decode_of_decodeMessage hm hdone]
  rcases h with h | ⟨hover, hrefused⟩
  · exact .inl (by rw [h]; rfl)
  · exact .inr ⟨hover, hrefused⟩

end Registry

/-- A tree with one tree below it, and with members that trees do not declare. -/
def Forest.groveMembers : Members :=
  [("age", .datum (.uint8 9)),
    ("below", .list [.struct
      [("leaf", .struct [("label", .datum (.string "b")), ("green", .datum (.bool true))]),
        ("below", .list []), ("marks", .list [.struct [("age", .list [])], .struct []])]]),
    ("leaf", .struct [("green", .datum (.bool false)), ("label", .datum (.string "a"))]),
    ("marks", .list [.struct [], .struct []])]

theorem Forest.decode_encode_grove :
    registry.IsClosed ∧ registry.HasDistinctFields ∧ registry.find? "forest/Tree" = some tree ∧
      registry.encode "forest/Tree" groveMembers = .ok grove ∧
      (registry.decode "forest/Tree" (grove ++ [7, 7])
          = (grove.length, .ok (groveMembers.restrict registry tree)) ∨
        registry.OverfullMember tree.package tree.fields groveMembers ∧
          ∃ e count, (registry.decode "forest/Tree" (grove ++ [7, 7])).2 = .error (.wire e) ∧
            e.root = .elementLimit count maxEmptyElements ∧ maxEmptyElements < count) :=
  ⟨isClosed, hasDistinctFields, find?_tree, rfl,
    Registry.decode_encode_append isClosed hasDistinctFields find?_tree rfl [7, 7]⟩

end Missive
