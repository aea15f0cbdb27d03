import Missive.Proofs.Budgets
import Missive.Proofs.Encoding
/-!
# What was decoded is encoded again

Whatever bytes a value is decoded from, it is encoded as the same bytes, but for truth values: any
byte but zero is read as true, and true is written as one.  So a message that holds no truth values
has one encoding only.

* `Value.boolMask` -- where in the encoding of a value the truth values are;
* `Registry.Conforms` -- a value has the members that its type declares, and no others, on all
  levels;
* `Registry.Writes` -- the invariant: the value conforms, and is written as the bytes it was read
  from;
* `Registry.ReachesBool`, `Registry.Conforms.boolMask_eq_false` -- types without truth values;
* `Registry.encode_after_decode` -- whole messages.
-/

namespace Missive

/-! ## Truth values in an encoding -/

namespace Value

mutual

/-- For each byte of a value's encoding, whether it stands for a truth value.  Members are written
in the order in which they are. -/
def boolMask : Value → List Bool
  | datum d => d.boolMask
  | struct members => membersMask members
  | list items => List.replicate 4 false ++ itemsMask items

/-- The same for the items of a list. -/
def itemsMask : List Value → List Bool
  | [] => []
  | v :: rest => boolMask v ++ itemsMask rest

/-- The same for the members of a compound. -/
def membersMask : List (String × Value) → List Bool
  | [] => []
  | (_, v) :: rest => boolMask v ++ membersMask rest

end

theorem mem_itemsMask {truth : Bool} {items : List Value} (h : truth ∈ itemsMask items) :
    ∃ v ∈ items, truth ∈ v.boolMask := by
  induction items with
  | nil => simp [itemsMask] at h
  | cons v rest ih =>
    rw [itemsMask, List.mem_append] at h
    rcases h with h | h
    · exact ⟨v, List.mem_cons_self, h⟩
    · obtain ⟨w, hw, h⟩ := ih h
      exact ⟨w, List.mem_cons_of_mem _ hw, h⟩

theorem mem_membersMask {truth : Bool} {members : Members} (h : truth ∈ membersMask members) :
    ∃ member ∈ members, truth ∈ member.2.boolMask := by
  induction members with
  | nil => simp [membersMask] at h
  | cons member rest ih =>
    obtain ⟨name, v⟩ := member
    rw [membersMask, List.mem_append] at h
    rcases h with h | h
    · exact ⟨(name, v), List.mem_cons_self, h⟩
    · obtain ⟨w, hw, h⟩ := ih h
      exact ⟨w, List.mem_cons_of_mem _ hw, h⟩

end Value

/-! ## Members -/

theorem Members.lookup_of_mem {members : Members} (distinct : (members.map Prod.fst).Nodup)
    {name : String} {v : Value} (h : (name, v) ∈ members) : members.lookup name = some v := by
  induction members with
  | nil => cases h
  | cons member rest ih =>
    obtain ⟨key, w⟩ := member
    rw [List.map_cons, List.nodup_cons] at distinct
    rcases List.mem_cons.1 h with h | h
    · cases h
      simp
    · have hne : name ≠ key := fun hk => distinct.1 (List.mem_map.2 ⟨(name, v), h, hk⟩)
      have hb : (name == key) = false := by simpa using hne
      rw [List.lookup_cons, hb]
      exact ih distinct.2 h

/-- Every one of the declared members is found under the name of its field. -/
theorem Members.lookup_of_names {members : Members} {fields : List Field}
    (names : members.map Prod.fst = fields.map Field.name)
    (distinct : (fields.map Field.name).Nodup) {member : String × Value} (h : member ∈ members) :
    ∃ f ∈ fields, members.lookup f.name = some member.2 := by
  obtain ⟨name, v⟩ := member
  have hname : name ∈ fields.map Field.name :=
    names ▸ List.mem_map.2 ⟨(name, v), h, rfl⟩
  obtain ⟨f, hf, rfl⟩ := List.mem_map.1 hname
  exact ⟨f, hf, lookup_of_mem (names ▸ distinct) h⟩

/-- The fields behind the first one have other names. -/
theorem Members.lookup_cons_of_mem {f g : Field} {rest : List Field} {v : Value} {others : Members}
    (hf : f.name ∉ rest.map Field.name) (hg : g ∈ rest) :
    List.lookup g.name ((f.name, v) :: others) = others.lookup g.name := by
  have hne : g.name ≠ f.name := fun hn => hf (hn ▸ List.mem_map_of_mem hg)
  have hb : (g.name == f.name) = false := by simpa using hne
  rw [List.lookup_cons, hb]

/-- Only the members that are declared matter for an encoding. -/
theorem encodeFields_congr {reg : Registry} {m : Message} {fields : List Field}
    {members others : Members}
    (h : ∀ f ∈ fields, members.lookup f.name = others.lookup f.name) :
    encodeFields m (Value.encoders reg members) fields
      = encodeFields m (Value.encoders reg others) fields := by
  induction fields with
  | nil => rfl
  | cons f rest ih =>
    simp only [encodeFields, Value.lookup_encoders, h f List.mem_cons_self,
      ih fun g hg => h g (List.mem_cons_of_mem _ hg)]

/-! ## Conforming values -/

namespace Registry

/-- A value is of a type and a shape, and on all levels it has the declared members in the declared
order, and no others. -/
inductive Conforms (reg : Registry) : String → TypeRef → Shape → Value → Prop
  | datum {owner : String} {d : Datum} :
      Conforms reg owner (.primitive d.primitive) .single (.datum d)
  | struct {owner : String} {type : TypeRef} {m : Message} {members : Members} :
      reg.resolve owner type = .ok m → members.map Prod.fst = m.fields.map Field.name →
      (∀ f ∈ m.fields, ∀ v, members.lookup f.name = some v →
        Conforms reg m.package f.type f.shape v) →
      Conforms reg owner type .single (.struct members)
  | list {owner : String} {type : TypeRef} {shape : Shape} {items : List Value} :
      shape.isArray = true → (shape.isFixed = true → items.length = shape.count) →
      (∀ v ∈ items, Conforms reg owner type .single v) →
      Conforms reg owner type shape (.list items)

/-- These are the members that some fields of a message of package `owner` declare. -/
structure ConformsTo (reg : Registry) (owner : String) (fields : List Field) (members : Members) :
    Prop where
  names : members.map Prod.fst = fields.map Field.name
  values : ∀ f ∈ fields, ∀ v, members.lookup f.name = some v →
    reg.Conforms owner f.type f.shape v

theorem ConformsTo.cons {reg : Registry} {owner : String} {f : Field} {rest : List Field}
    {v : Value} {others : Members} (hf : f.name ∉ rest.map Field.name)
    (hv : reg.Conforms owner f.type f.shape v) (h : reg.ConformsTo owner rest others) :
    reg.ConformsTo owner (f :: rest) ((f.name, v) :: others) where
  names := by rw [List.map_cons, List.map_cons, h.names]
  values := by
    refine List.forall_mem_cons.2 ⟨fun w hw => ?_, fun g hg w hw => ?_⟩
    · have hfirst : List.lookup f.name ((f.name, v) :: others) = some v := by simp
      obtain rfl : v = w := Option.some.inj (hfirst.symm.trans hw)
      exact hv
    · exact h.values g hg w ((Members.lookup_cons_of_mem hf hg).symm.trans hw)

/-- Some element of this type holds a truth value. -/
inductive ReachesBool (reg : Registry) : String → TypeRef → Prop
  | here {owner : String} : ReachesBool reg owner (.primitive .bool)
  | inside {owner : String} {type : TypeRef} {m : Message} {f : Field} :
      reg.resolve owner type = .ok m → f ∈ m.fields → ReachesBool reg m.package f.type →
      ReachesBool reg owner type

/-- A value of a type that holds no truth values has none. -/
theorem Conforms.boolMask_eq_false {reg : Registry} (distinct : reg.HasDistinctFields)
    {owner : String} {type : TypeRef} {shape : Shape} {v : Value}
    (h : reg.Conforms owner type shape v) (hb : ¬reg.ReachesBool owner type) :
    ∀ truth ∈ v.boolMask, truth = false := by
  induction h with
  | @datum owner d =>
    intro truth ht
    cases d with
    | bool b => exact absurd .here hb
    | _ => exact List.eq_of_mem_replicate ht
  | @struct owner type m members hm hnames hvalues ih =>
    intro truth ht
    obtain ⟨member, hmem, ht⟩ := Value.mem_membersMask ht
    obtain ⟨f, hf, hv⟩ :=
      Members.lookup_of_names hnames (distinct m (registered_of_resolve hm)) hmem
    exact ih f hf member.2 hv (fun h => hb (.inside hm hf h)) truth ht
  | list _ _ hitems ih =>
    intro truth ht
    rw [Value.boolMask, List.mem_append] at ht
    rcases ht with ht | ht
    · exact List.eq_of_mem_replicate ht
    · obtain ⟨v, hv, ht⟩ := Value.mem_itemsMask ht
      exact ih v hv hb truth ht

/-! ## One step -/

/-- A value conforms, and is written as these bytes in their canonical form. -/
structure Writes (reg : Registry) (owner : String) (type : TypeRef) (shape : Shape) (v : Value)
    (bytes : Bytes) : Prop where
  conforms : reg.Conforms owner type shape v
  encode : v.encode reg owner type shape = .ok (canonicalBytes v.boolMask bytes)
  length : v.boolMask.length = bytes.length

end Registry

/-- Whatever is decoded conforms, and is written as the bytes it was read from. -/
def ElementDecoder.Canonical (reg : Registry) (element : ElementDecoder) : Prop :=
  ∀ (owner : String) (type : TypeRef) (s : Source) (v : Value) (t : Source),
    element owner type s = (.ok v, t) →
    ∃ bytes, s.Reads bytes t ∧ reg.Writes owner type .single v bytes

section

variable {reg : Registry} {element : ElementDecoder} (canonical : element.Canonical reg)

include canonical

theorem decodeItems_writes {owner : String} {type : TypeRef} {n : Nat} {s t : Source}
    {items : List Value} (h : decodeItems (element owner type) n [] s = (.ok items, t)) :
    ∃ bytes, s.Reads bytes t ∧ items.length = n ∧
      (∀ v ∈ items, reg.Conforms owner type .single v) ∧
      Value.encodeItems reg items owner type
        = .ok (canonicalBytes (Value.itemsMask items) bytes) ∧
      (Value.itemsMask items).length = bytes.length := by
  induction n generalizing s items with
  | zero =>
    simp only [decodeItems, List.reverse_nil, Prod.mk.injEq, Except.ok.injEq] at h
    obtain ⟨rfl, rfl⟩ := h
    exact ⟨[], .refl s, rfl, by simp, rfl, rfl⟩
  | succ n ih =>
    rw [decodeItems_succ] at h
    obtain ⟨v, u, hv, h⟩ := Decoded.andThen_eq_ok h
    obtain ⟨rest, hrest, rfl⟩ := Decoded.mapValue_eq_ok h
    obtain ⟨a, ha, hw⟩ := canonical owner type s v u hv
    obtain ⟨b, hb, hl, hc, he, hm⟩ := ih hrest
    refine ⟨a ++ b, ha.append hb, by simp [hl], List.forall_mem_cons.2 ⟨hw.conforms, hc⟩, ?_, ?_⟩
    · rw [Value.itemsMask, canonicalBytes_append hw.length]
      exact Value.encodeItems_cons_eq_ok_iff.2 ⟨_, _, hw.encode, he, rfl⟩
    · rw [Value.itemsMask, List.length_append, List.length_append, hw.length, hm]

theorem decodeField_writes {owner : String} {f : Field} {s t : Source} {v : Value}
    (h : decodeField reg element owner f s = (.ok v, t)) :
    ∃ bytes, s.Reads bytes t ∧ reg.Writes owner f.type f.shape v bytes := by
  cases ha : f.shape.isArray with
  | false =>
    have hs := Shape.eq_single ha
    rw [decodeField_single reg element owner ha] at h
    rw [hs]
    exact canonical owner f.type s v t h
  | true =>
    obtain ⟨n, items, u, hlimit, hcount, hadmits, hitems, rfl⟩ := decodeField_array_eq_ok ha h
    obtain ⟨body, hbody, rfl, hc, he, hm⟩ := decodeItems_writes canonical hitems
    have hfixed : f.shape.isFixed = true → items.length = f.shape.count := by
      intro hfix
      by_contra hne
      simp [admitCount, hfix, hne] at hadmits
    have hprefix : (List.replicate 4 false).length = (Bytes.ofNat 4 items.length).length := by simp
    refine ⟨_, hcount.append hbody, .list ha hfixed hc, ?_, ?_⟩
    · rw [Value.boolMask, canonicalBytes_append hprefix,
        canonicalBytes_of_all_false hprefix fun _ h => List.eq_of_mem_replicate h]
      exact (Value.encode_array_eq_ok_iff ha).2 ⟨items, _, rfl, hfixed, hlimit, he, rfl⟩
    · rw [Value.boolMask, List.length_append, List.length_append, hprefix, hm]

theorem decodeFields_writes {m : Message} {fields : List Field}
    (distinct : (fields.map Field.name).Nodup) {s t : Source} {members : Members}
    (h : decodeFields reg element m.package fields [] s = (.ok members, t)) :
    ∃ bytes, s.Reads bytes t ∧ reg.ConformsTo m.package fields members ∧
      encodeFields m (Value.encoders reg members) fields
        = .ok (canonicalBytes (Value.membersMask members) bytes) ∧
      (Value.membersMask members).length = bytes.length := by
  induction fields generalizing s members with
  | nil =>
    simp only [decodeFields, Prod.mk.injEq, Except.ok.injEq] at h
    obtain ⟨rfl, rfl⟩ := h
    exact ⟨[], .refl s, ⟨rfl, by simp⟩, rfl, rfl⟩
  | cons f rest ih =>
    obtain ⟨hf, hrest⟩ := List.nodup_cons.1 distinct
    rw [decodeFields_cons reg element m.package distinct] at h
    obtain ⟨v, u, hv, h⟩ := Decoded.andThen_eq_ok h
    obtain ⟨others, hothers, rfl⟩ := Decoded.mapValue_eq_ok h
    obtain ⟨a, ha, hw⟩ := decodeField_writes canonical (Decoded.inField_eq_ok hv)
    obtain ⟨b, hb, hc, he, hm⟩ := ih hrest hothers
    refine ⟨a ++ b, ha.append hb, hc.cons hf hw.conforms, ?_, ?_⟩
    · rw [Value.membersMask, canonicalBytes_append hw.length]
      rw [← encodeFields_congr fun g hg => Members.lookup_cons_of_mem (v := v) hf hg] at he
      exact encodeFields_cons_eq_ok_iff.2 ⟨v, _, _, by simp, hw.encode, he, rfl⟩
    · rw [Value.membersMask, List.length_append, List.length_append, hw.length, hm]

end

/-! ## Whole messages -/

namespace Registry

variable {reg : Registry}

theorem decodeElement_canonical (distinct : reg.HasDistinctFields) (n : Nat) :
    ElementDecoder.Canonical reg (reg.decodeElement n) := by
  intro owner type s v t h
  rcases reg.type_cases owner type with ⟨p, rfl⟩ | ⟨e, hk, he⟩ | ⟨m, hm⟩
  · obtain ⟨d, hd, rfl⟩ := decodeElement_primitive_eq_ok h
    obtain ⟨bytes, hr, rfl, he, hl⟩ := Primitive.reads_of_read hd
    exact ⟨bytes, hr, .datum, Value.encode_single_eq_ok_iff.2 (.inl ⟨d, rfl, rfl, he⟩), hl⟩
  · rw [decodeElement_unresolved hk he] at h
    cases h
  · cases n with
    | zero =>
      rw [decodeElement_zero hm] at h
      cases h
    | succ n =>
      rw [decodeElement_succ hm] at h
      obtain ⟨members, hd, rfl⟩ := Decoded.mapValue_eq_ok h
      obtain ⟨bytes, hr, hc, he, hl⟩ := decodeFields_writes (decodeElement_canonical distinct n)
        (distinct m (registered_of_resolve hm)) hd
      exact ⟨bytes, hr, .struct hm hc.names hc.values,
        Value.encode_single_eq_ok_iff.2 (.inr ⟨members, m, rfl, hm, he⟩), hl⟩

/-- What there is behind a message that was decoded. -/
theorem writes_of_decode (distinct : reg.HasDistinctFields) {name : String} {m : Message}
    {bytes : Bytes} {n : Nat} {members : Members} (hm : reg.find? name = some m)
    (h : reg.decode name bytes = (n, .ok members)) :
    n ≤ bytes.length ∧ reg.ConformsTo m.package m.fields members ∧
      reg.encode name members = .ok (canonicalBytes (Value.membersMask members) (bytes.take n)) ∧
      (Value.membersMask members).length = n := by
  simp only [decode, hm, Prod.mk.injEq] at h
  obtain ⟨hn, hok⟩ := h
  obtain ⟨read, hr, hc, he, hl⟩ := decodeFields_writes
    (decodeElement_canonical distinct (reg.nestingBudget bytes.length))
    (distinct m ⟨name, hm⟩) (Prod.ext hok rfl)
  have hlen : read.length = n := by
    rw [← hn, hr.consumed]
    exact (Nat.zero_add _).symm
  have hpending : bytes = read ++ _ := hr.pending
  have htake : bytes.take n = read := by rw [hpending, List.take_left' hlen]
  refine ⟨?_, hc, ?_, hl.trans hlen⟩
  · rw [hpending, List.length_append, hlen]
    exact Nat.le_add_right _ _
  · simp only [encode, hm, htake, he]

/-- **What was decoded is encoded as the bytes it came from**, with every truth value among them in
its canonical form.  Where no truth value can occur these bytes are the only ones. -/
theorem encode_after_decode (distinct : reg.HasDistinctFields) {name : String} {m : Message}
    {bytes : Bytes} {n : Nat} {members : Members} (hm : reg.find? name = some m)
    (h : reg.decode name bytes = (n, .ok members)) :
    reg.ConformsTo m.package m.fields members ∧
      (∃ out, reg.encode name members = .ok out ∧ out.length = n ∧
        out = canonicalBytes (Value.membersMask members) (bytes.take n)) ∧
      ((∀ f ∈ m.fields, ¬reg.ReachesBool m.package f.type) →
        reg.encode name members = .ok (bytes.take n) ∧
          ∀ other k, reg.decode name other = (k, .ok members) →
            other.take k = bytes.take n) := by
  obtain ⟨hn, hc, he, hl⟩ := writes_of_decode distinct hm h
  have htake : (bytes.take n).length = n := by rw [List.length_take, Nat.min_eq_left hn]
  refine ⟨hc, ⟨_, he, ?_, rfl⟩, fun hb => ?_⟩
  · rw [canonicalBytes, List.length_zipWith, hl, htake, Nat.min_self]
  · have hfalse : ∀ truth ∈ Value.membersMask members, truth = false := by
      intro truth ht
      obtain ⟨member, hmem, ht⟩ := Value.mem_membersMask ht
      obtain ⟨f, hf, hv⟩ := Members.lookup_of_names hc.names (distinct m ⟨name, hm⟩) hmem
      exact (hc.values f hf member.2 hv).boolMask_eq_false distinct (hb f hf) truth ht
    rw [canonicalBytes_of_all_false (hl.trans htake.symm) hfalse] at he
    refine ⟨he, fun other k hother => ?_⟩
    obtain ⟨hk, -, heo, hlo⟩ := writes_of_decode distinct hm hother
    have htakeo : (other.take k).length = k := by rw [List.length_take, Nat.min_eq_left hk]
    rw [canonicalBytes_of_all_false (hlo.trans htakeo.symm) hfalse, he] at heo
    exact (Except.ok.inj heo).symm

end Registry

/-- A tree that was read, with one tree below it. -/
def Forest.groveRead : Members :=
  [("leaf", .struct [("green", .datum (.bool true)), ("label", .datum (.string "a"))]),
    ("marks", .list [.struct [], .struct []]),
    ("below", .list [.struct
      [("leaf", .struct [("green", .datum (.bool true)), ("label", .datum (.string "b"))]),
        ("marks", .list [.struct [], .struct []]), ("below", .list [])]])]

/-- A seed that was read. -/
def Forest.seedRead : Members :=
  [("weight", .datum (.uint16 260)), ("origin", .datum (.string "x"))]

/-- A tree read from another form of a truth value than the one that is written, and a seed, which
has no truth values. -/
theorem Forest.encode_groveRead :
    registry.decode "forest/Tree" (7 :: grove.tail) = (28, .ok groveRead) ∧
      registry.encode "forest/Tree" groveRead = .ok (1 :: grove.tail) ∧
      registry.decode "forest/Seed" [4, 1, 1, 0, 0, 0, 120, 9] = (7, .ok seedRead) ∧
      ∀ other k, registry.decode "forest/Seed" other = (k, .ok seedRead) →
        other.take k = [4, 1, 1, 0, 0, 0, 120] := by
  have htree : registry.decode "forest/Tree" (7 :: grove.tail) = (28, .ok groveRead) := rfl
  have hseed : registry.decode "forest/Seed" [4, 1, 1, 0, 0, 0, 120, 9] = (7, .ok seedRead) := rfl
  have hfalse : ∀ f ∈ seed.fields, ¬registry.ReachesBool seed.package f.type := by
    intro f hf h
    rcases List.mem_pair.1 hf with rfl | rfl <;>
      · cases h with
        | inside hm => cases Registry.kind_of_resolve hm
  obtain ⟨-, ⟨out, hout, -, rfl⟩, -⟩ :=
    Registry.encode_after_decode hasDistinctFields find?_tree htree
  obtain ⟨-, -, honly⟩ := Registry.encode_after_decode hasDistinctFields find?_seed hseed
  exact ⟨htree, hout, hseed, (honly hfalse).2⟩

end Missive
