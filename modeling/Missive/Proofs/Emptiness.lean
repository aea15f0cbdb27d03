import Mathlib.Data.Finset.Max
import Missive.Proofs.Registrations
import Missive.Proofs.Restoring
import Missive.Proofs.RoundTrip
import Missive.Proofs.Termination
/-!
# Which elements take no bytes

The emptiness test looks at the definitions only, and no deeper than its limit.  Up to there it is
exact, and what it is about is the same for all three of encoding, decoding and walking: elements of
a type without bytes never take one, elements of any other type always do.

* `Registry.HasHeight` -- the types without bytes, each with its height;
* `Registry.HasHeight.unique`, `Registry.HasHeight.lt_size` -- a type has one height, and fewer
  levels are below it than there are definitions;
* `Registry.Weightless.encode_eq_nil`, `Registry.Weightless.exists_decoded`,
  `Registry.Weightless.skipElement_eq` -- elements of types without bytes;
* `Registry.weightless_of_encode_nil` -- what is encoded as no bytes is of such a type;
* `Registry.elements_empty_or_not` -- the test and the elements;
* `Shells.registry` -- types on both sides of the limit.
-/

namespace Missive

namespace Registry

variable {reg : Registry} {owner : String} {type : TypeRef}

/-! ## Heights -/

/-- The types whose elements take no bytes: messages all of whose fields are single elements of such
types.  Without fields the height is zero, and otherwise it is one more than that of the highest
field. -/
inductive HasHeight (reg : Registry) : Nat → String → TypeRef → Prop
  | leaf {owner : String} {type : TypeRef} {m : Message} :
      reg.resolve owner type = .ok m → m.fields = [] → HasHeight reg 0 owner type
  | node {owner : String} {type : TypeRef} {m : Message} {heights : Field → Nat}
      {highest : Field} :
      reg.resolve owner type = .ok m → (∀ f ∈ m.fields, f.shape = .single) →
      (∀ f ∈ m.fields, HasHeight reg (heights f) m.package f.type) →
      highest ∈ m.fields → (∀ f ∈ m.fields, heights f ≤ heights highest) →
      HasHeight reg (heights highest + 1) owner type

theorem HasHeight.kind {height : Nat} (h : reg.HasHeight height owner type) :
    type.kind = .message := by
  cases h with
  | leaf hr _ | node hr _ _ _ _ => exact kind_of_resolve hr

theorem HasHeight.weightless {height : Nat} (h : reg.HasHeight height owner type) :
    reg.Weightless height owner type := by
  induction h with
  | leaf hr hnone => exact .leaf hr hnone
  | node hr hs _ _ hmax ih => exact .node hr hs fun f hf => (ih f hf).mono (hmax f hf)

/-- The height is the least one that will do. -/
theorem Weightless.hasHeight {bound : Nat} (h : reg.Weightless bound owner type) :
    ∃ height ≤ bound, reg.HasHeight height owner type := by
  induction h with
  | @leaf bound owner type m hr hnone => exact ⟨0, Nat.zero_le bound, .leaf hr hnone⟩
  | @node bound owner type m hr hs _ ih =>
    by_cases hnone : m.fields = []
    · exact ⟨0, Nat.zero_le _, .leaf hr hnone⟩
    · choose! heights hbound hheights using ih
      have hsome : m.fields.toFinset.Nonempty := List.toFinset_nonempty_iff _ |>.2 hnone
      obtain ⟨highest, hmem, hmax⟩ := Finset.exists_max_image m.fields.toFinset heights hsome
      have hmem := List.mem_toFinset.1 hmem
      exact ⟨heights highest + 1, Nat.succ_le_succ (hbound highest hmem),
        .node hr hs hheights hmem fun f hf => hmax f (List.mem_toFinset.2 hf)⟩

namespace HasHeight

/-- A type has one height. -/
theorem unique {height other : Nat} (h : reg.HasHeight height owner type)
    (ho : reg.HasHeight other owner type) : height = other := by
  induction h generalizing other with
  | leaf hr hnone =>
    cases ho with
    | leaf => rfl
    | node hr' _ _ hmem _ =>
      obtain rfl := Except.ok.inj (hr.symm.trans hr')
      rw [hnone] at hmem
      cases hmem
  | @node owner type m heights highest hr hs _ hmem hmax ih =>
    cases ho with
    | leaf hr' hnone =>
      obtain rfl := Except.ok.inj (hr.symm.trans hr')
      rw [hnone] at hmem
      cases hmem
    | @node _ _ _ heights' highest' hr' hs' hheights' hmem' hmax' =>
      obtain rfl := Except.ok.inj (hr.symm.trans hr')
      have hsame : ∀ f ∈ m.fields, heights f = heights' f := fun f hf => ih f hf (hheights' f hf)
      have hle := hmax' highest hmem
      have hge := hmax highest' hmem'
      rw [← hsame highest hmem] at hle
      rw [hsame highest' hmem'] at hge
      rw [Nat.le_antisymm hle hge]

/-- The height is that of the message. -/
theorem of_resolve {height : Nat} (h : reg.HasHeight height owner type) {m : Message}
    (hr : reg.resolve owner type = .ok m) {home : String} {ref : TypeRef}
    (ho : reg.resolve home ref = .ok m) : reg.HasHeight height home ref := by
  cases h with
  | leaf hr' hnone =>
    obtain rfl := Except.ok.inj (hr.symm.trans hr')
    exact .leaf ho hnone
  | node hr' hs hheights hmem hmax =>
    obtain rfl := Except.ok.inj (hr.symm.trans hr')
    exact .node ho hs hheights hmem hmax

/-- Below a type there is one of every smaller height. -/
theorem exists_below {height k : Nat} (h : reg.HasHeight height owner type) (hk : k ≤ height) :
    ∃ home ref, reg.HasHeight k home ref := by
  induction h with
  | @leaf owner type m hr hnone =>
    obtain rfl := Nat.le_zero.1 hk
    exact ⟨owner, type, .leaf hr hnone⟩
  | @node owner type m heights highest hr hs hheights hmem hmax ih =>
    rcases Nat.le_succ_iff.1 hk with hle | rfl
    · exact ih highest hmem hle
    · exact ⟨owner, type, .node hr hs hheights hmem hmax⟩

theorem registered {height : Nat} (h : reg.HasHeight height owner type) :
    ∃ key m, reg.find? key = some m ∧ reg.resolve owner type = .ok m := by
  cases h with
  | leaf hr _ | node hr _ _ _ _ =>
    obtain ⟨key, hkey⟩ := registered_of_resolve hr
    exact ⟨key, _, hkey, hr⟩

/-- Each level is that of another definition. -/
theorem lt_size {height : Nat} (h : reg.HasHeight height owner type) : height < reg.size := by
  have hcard : height + 1 ≤ reg.messages.keys.toFinset.card := by
    refine le_card_of_levels (fun key k => ∃ m home ref, reg.find? key = some m ∧
      reg.resolve home ref = .ok m ∧ reg.HasHeight k home ref) ?_ fun k hk => ?_
    · rintro key i j ⟨m, home, ref, hm, hr, hi⟩ ⟨m', home', ref', hm', hr', hj⟩
      obtain rfl := Option.some.inj (hm.symm.trans hm')
      exact hi.unique (hj.of_resolve hr' hr)
    · obtain ⟨home, ref, hbelow⟩ := h.exists_below (Nat.lt_succ_iff.1 hk)
      obtain ⟨key, m, hkey, hr⟩ := hbelow.registered
      exact ⟨key, List.mem_toFinset.2 (mem_keys_of_find? hkey), m, home, ref, hkey, hr, hbelow⟩
  exact hcard.trans reg.card_keys_le

end HasHeight

/-! ## Elements without bytes -/

/-- Fields that are encoded as no bytes each make no bytes together. -/
theorem encodeFields_eq_nil {m : Message} {members : Members} {fields : List Field}
    (h : ∀ f ∈ fields, ∀ (v : Value) bytes,
      v.encode reg m.package f.type f.shape = .ok bytes → bytes = [])
    {bytes : Bytes} (he : encodeFields m (Value.encoders reg members) fields = .ok bytes) :
    bytes = [] := by
  induction fields generalizing bytes with
  | nil =>
    cases he
    rfl
  | cons f rest ih =>
    obtain ⟨v, a, b, -, ha, hb, rfl⟩ := encodeFields_cons_eq_ok_iff.1 he
    rw [h f List.mem_cons_self v a ha, ih (fun g hg => h g (List.mem_cons_of_mem f hg)) hb]
    rfl

/-- Fields that are decoded from nothing each are decoded from nothing together, to members that do
not depend on the source. -/
theorem exists_decodeFields {height : Nat} {fields : List Field}
    (hs : ∀ f ∈ fields, f.shape = .single)
    (h : ∀ f ∈ fields, ∃ v, ∀ budget s, height < budget →
      reg.decodeElement budget owner f.type s = (.ok v, s)) (members : Members) :
    ∃ out, ∀ budget s, height < budget →
      decodeFields reg (reg.decodeElement budget) owner fields members s = (.ok out, s) := by
  induction fields generalizing members with
  | nil => exact ⟨members, fun _ _ _ => rfl⟩
  | cons f rest ih =>
    obtain ⟨v, hv⟩ := h f List.mem_cons_self
    obtain ⟨out, hout⟩ := ih (fun g hg => hs g (List.mem_cons_of_mem f hg))
      (fun g hg => h g (List.mem_cons_of_mem f hg)) (members.set f.name v)
    have hsingle : f.shape.isArray = false := by rw [hs f List.mem_cons_self]; rfl
    refine ⟨out, fun budget s hb => ?_⟩
    rw [decodeFields_step, decodeField_single reg _ owner hsingle, hv budget s hb]
    exact hout budget s hb

namespace Weightless

variable {height : Nat}

/-- An element of a type without bytes is encoded as none. -/
theorem encode_eq_nil (h : reg.Weightless height owner type) {v : Value} {bytes : Bytes}
    (he : v.encode reg owner type .single = .ok bytes) : bytes = [] := by
  induction h generalizing v bytes with
  | @leaf _ owner type m hr hnone =>
    rcases Value.encode_single_eq_ok_iff.1 he with ⟨d, -, rfl, -⟩ | ⟨members, m', -, hr', hfields⟩
    · cases kind_of_resolve hr
    · obtain rfl := Except.ok.inj (hr.symm.trans hr')
      rw [hnone] at hfields
      exact (Except.ok.inj hfields).symm
  | @node _ owner type m hr hs _ ih =>
    rcases Value.encode_single_eq_ok_iff.1 he with ⟨d, -, rfl, -⟩ | ⟨members, m', -, hr', hfields⟩
    · cases kind_of_resolve hr
    · obtain rfl := Except.ok.inj (hr.symm.trans hr')
      refine encodeFields_eq_nil (fun f hf v bytes hv => ?_) hfields
      rw [hs f hf] at hv
      exact ih f hf hv

/-- An element of a type without bytes is decoded from nothing, always to the same value. -/
theorem exists_decoded (h : reg.Weightless height owner type) :
    ∃ v, ∀ budget s, height < budget → reg.decodeElement budget owner type s = (.ok v, s) := by
  induction h with
  | @leaf height owner type m hr hnone =>
    refine ⟨.struct [], fun budget s hb => ?_⟩
    obtain ⟨budget, rfl⟩ := Nat.exists_eq_add_one.2 (Nat.zero_lt_of_lt hb)
    rw [decodeElement_succ hr, decodeMessage, hnone]
    rfl
  | @node height owner type m hr hs _ ih =>
    obtain ⟨members, hmembers⟩ := exists_decodeFields hs ih []
    refine ⟨.struct members, fun budget s hb => ?_⟩
    obtain ⟨budget, rfl⟩ := Nat.exists_eq_add_one.2 (Nat.zero_lt_of_lt hb)
    rw [decodeElement_succ hr, decodeMessage, hmembers budget s (Nat.lt_of_succ_lt_succ hb)]
    rfl

/-- A walker passes an element of a type without bytes where it stands. -/
theorem skipElement_eq (h : reg.Weightless height owner type) {budget : Nat}
    (hb : height < budget) (w : Walker) :
    Walker.skipElement reg budget owner type w = (.ok (), w) := by
  obtain ⟨v, hv⟩ := h.exists_decoded
  have hshadows := Walker.skipElement_shadows reg budget owner type w
  rw [hv budget w.source hb] at hshadows
  generalize hsource : w.source = s at hshadows
  generalize Walker.skipElement reg budget owner type w = walked at hshadows ⊢
  cases hshadows with
  | ok _ u =>
    obtain ⟨remaining, position⟩ := w
    obtain ⟨remaining', position'⟩ := u
    cases hsource
    rfl

end Weightless

/-! ## Elements with bytes -/

/-- Fields that make no bytes together are encoded as no bytes each. -/
theorem field_of_encodeFields_nil {m : Message} {members : Members} {fields : List Field}
    (h : encodeFields m (Value.encoders reg members) fields = .ok []) :
    ∀ f ∈ fields, ∃ v, members.lookup f.name = some v ∧
      v.encode reg m.package f.type f.shape = .ok [] := by
  induction fields with
  | nil =>
    intro f hf
    cases hf
  | cons f rest ih =>
    obtain ⟨v, a, b, hv, ha, hb, hnil⟩ := encodeFields_cons_eq_ok_iff.1 h
    obtain ⟨rfl, rfl⟩ := List.append_eq_nil_iff.1 hnil
    exact List.forall_mem_cons.2 ⟨⟨v, hv, ha⟩, ih hb⟩

/-- What is encoded as no bytes is a single element of a type without bytes. -/
theorem weightless_of_encode_nil (v : Value) {owner : String} {type : TypeRef} {shape : Shape}
    (h : v.encode reg owner type shape = .ok []) :
    shape = .single ∧ ∃ height, reg.Weightless height owner type := by
  cases ha : shape.isArray with
  | true =>
    -- even an empty array has the bytes of its count
    obtain ⟨items, body, -, -, -, -, hnil⟩ := (Value.encode_array_eq_ok_iff ha).1 h
    have hcount := congrArg List.length (List.append_eq_nil_iff.1 hnil).1
    rw [Bytes.length_ofNat] at hcount
    cases hcount
  | false =>
    obtain rfl := Shape.eq_single ha
    refine ⟨rfl, ?_⟩
    rcases Value.encode_single_eq_ok_iff.1 h with ⟨d, -, -, hd⟩ | ⟨members, m, hv, hr, hfields⟩
    · exact absurd hd d.encode_ne_nil
    · refine weightless_of_fields hr fun f hf => ?_
      obtain ⟨w, hw, hnil⟩ := field_of_encodeFields_nil hfields f hf
      have hsmaller : w.nesting < v.nesting := by
        rw [hv, Value.nesting]
        exact Nat.lt_succ_of_le (Value.nesting_le_of_lookup hw)
      exact weightless_of_encode_nil w hnil
termination_by v.nesting

/-! ## The test and the elements -/

/-- **Elements are empty throughout or never.**  The test says so exactly of the types without bytes
whose height is at most 64, and in a closed registry it always has an answer.  Of a type without
bytes, whatever its height, an element is encoded as nothing, decoded from nothing and passed
without a move, and for the latter two it is enough to go through as many messages as there are
definitions.  Of all other types, an element that is encoded, decoded or passed takes at least one
byte. -/
theorem elements_empty_or_not (reg : Registry) (owner : String) (type : TypeRef) :
    (reg.isEmptyElement owner type = .ok true ↔
      ∃ height ≤ 64, reg.HasHeight height owner type) ∧
    (reg.IsClosed → reg.Resolves owner type →
      ∃ answer, reg.isEmptyElement owner type = .ok answer) ∧
    (∀ height, reg.HasHeight height owner type →
      (∀ (v : Value) bytes, v.encode reg owner type .single = .ok bytes → bytes = []) ∧
      (∃ v, ∀ budget s, reg.size ≤ budget →
        reg.decodeElement budget owner type s = (.ok v, s)) ∧
      ∀ budget w, reg.size ≤ budget →
        Walker.skipElement reg budget owner type w = (.ok (), w)) ∧
    ((¬∃ height, reg.HasHeight height owner type) →
      (∀ (v : Value) bytes, v.encode reg owner type .single = .ok bytes → bytes ≠ []) ∧
      (∀ budget s v t, reg.decodeElement budget owner type s = (.ok v, t) →
        s.consumed < t.consumed) ∧
      ∀ budget w u, Walker.skipElement reg budget owner type w = (.ok (), u) →
        u.remaining.length < w.remaining.length) := by
  refine ⟨?_, fun closed h => isEmptyWithin_ok closed emptinessLevels h, ?_, fun hnone => ?_⟩
  · rw [isEmptyElement, emptinessLevels, isEmptyWithin_eq_true_iff]
    refine ⟨Weightless.hasHeight, ?_⟩
    rintro ⟨height, hle, h⟩
    exact h.weightless.mono hle
  · intro height h
    refine ⟨fun v bytes => h.weightless.encode_eq_nil, ?_, fun budget w hb => ?_⟩
    · obtain ⟨v, hv⟩ := h.weightless.exists_decoded
      exact ⟨v, fun budget s hb => hv budget s (h.lt_size.trans_le hb)⟩
    · exact h.weightless.skipElement_eq (h.lt_size.trans_le hb) w
  · have hheavy : ¬∃ bound, reg.Weightless bound owner type := by
      rintro ⟨bound, h⟩
      obtain ⟨height, -, hheight⟩ := h.hasHeight
      exact hnone ⟨height, hheight⟩
    refine ⟨fun v bytes hv => ?_, fun budget s v t hv => ?_, fun budget w u hu => ?_⟩
    · rintro rfl
      exact hheavy (weightless_of_encode_nil v hv).2
    · have hle := (reg.decodeElement_passes budget owner type s).consumed_le
      rw [hv] at hle
      exact Nat.lt_of_le_of_ne hle fun heq => hheavy (weightless_of_decodeElement hv heq.symm)
    · have hle := Walker.skipElement_goesForward reg budget owner type w u hu
      exact Nat.lt_of_le_of_ne hle fun heq => hheavy (Walker.weightless_of_skipElement hu heq)

end Registry

/-! ## Shells in shells -/

namespace Shells

/-- The name of a shell has one letter more than there are shells inside. -/
def name (k : Nat) : String :=
  String.ofList ('S' :: List.replicate k 's')

/-- The field for the shell inside. -/
def inside (k : Nat) : Field :=
  ⟨"inside", name k, .single, .own (name k)⟩

/-- A shell has the one of the number before inside, and the first shell is empty. -/
def shell : Nat → Message
  | 0 => ⟨"sea", name 0, "", [], [], .empty⟩
  | k + 1 => ⟨"sea", name (k + 1), "", [inside k], [], .empty⟩

/-- The first `n` shells. -/
def registry (n : Nat) : Registry :=
  .ofMessages ((List.range n).map shell)

variable {n k : Nat}

theorem key_shell (k : Nat) : (TypeRef.own (name k)).key? "sea" = some (shell k).fullName := by
  cases k <;> rfl

theorem fullName_inj {i j : Nat} (h : (shell i).fullName = (shell j).fullName) : i = j := by
  have hkey : (TypeRef.own (name i)).key? "sea" = (TypeRef.own (name j)).key? "sea" := by
    rw [key_shell, key_shell, h]
  have htext := congrArg String.toList (Option.some.inj hkey)
  simpa [toString, name, List.replicate_left_inj] using htext

theorem resolve_shell (h : k < n) : (registry n).resolve "sea" (.own (name k)) = .ok (shell k) := by
  have hfind : (registry n).find? (shell k).fullName = some (shell k) := by
    rw [registry, Registry.find?_ofMessages, List.find?_map, Option.map_eq_some_iff]
    refine ⟨k, List.find?_range_eq_some.2 ⟨beq_self_eq_true _, List.mem_range.2 h, ?_⟩, rfl⟩
    exact fun j hj => bne_iff_ne.2 fun heq => hj.ne (fullName_inj heq)
  exact Registry.resolve_of_key (key_shell k) hfind

/-- Nothing but shells is there. -/
theorem exists_shell {m : Message} (h : (registry n).Registered m) : ∃ k < n, m = shell k := by
  obtain ⟨key, hkey⟩ := h
  rw [registry, Registry.find?_ofMessages] at hkey
  obtain ⟨k, hk, rfl⟩ := List.mem_map.1 (List.mem_of_find?_eq_some hkey)
  exact ⟨k, List.mem_range.1 hk, rfl⟩

theorem isClosed (n : Nat) : (registry n).IsClosed := by
  intro m hm f hf _
  obtain ⟨k, hk, rfl⟩ := exists_shell hm
  cases k with
  | zero => cases hf
  | succ k =>
    cases List.mem_singleton.1 hf
    exact ⟨shell k, resolve_shell (Nat.lt_of_succ_lt hk)⟩

/-- The height of a shell is its number. -/
theorem hasHeight (h : k < n) : (registry n).HasHeight k "sea" (.own (name k)) := by
  induction k with
  | zero => exact .leaf (resolve_shell h) rfl
  | succ k ih =>
    -- all fields are the one for the shell inside
    have hinside : ∀ f ∈ (shell (k + 1)).fields, f = inside k := fun f => List.mem_singleton.1
    have hsingle : ∀ f ∈ (shell (k + 1)).fields, f.shape = .single := by
      intro f hf
      rw [hinside f hf]
      rfl
    have hheight : ∀ f ∈ (shell (k + 1)).fields, (registry n).HasHeight k "sea" f.type := by
      intro f hf
      rw [hinside f hf]
      exact ih (Nat.lt_of_succ_lt h)
    have hmem : inside k ∈ (shell (k + 1)).fields := List.mem_singleton.2 rfl
    exact .node (resolve_shell h) hsingle hheight hmem fun _ _ => Nat.le_refl k

/-- Of 66 shells in one another, the last but one is the last that the test sees to be empty.  The
last one is empty all the same, and a number in its place would not be. -/
theorem empty_or_not_shells :
    (registry 66).isEmptyElement "sea" (.own (name 64)) = .ok true ∧
    (registry 66).isEmptyElement "sea" (.own (name 65)) = .ok false ∧
    (∃ v, ∀ budget s, (registry 66).size ≤ budget →
      (registry 66).decodeElement budget "sea" (.own (name 65)) s = (.ok v, s)) ∧
    ∀ budget s v t, (registry 66).decodeElement budget "sea" (.primitive .uint8) s = (.ok v, t) →
      s.consumed < t.consumed := by
  obtain ⟨hfirst, -, -, -⟩ := (registry 66).elements_empty_or_not "sea" (.own (name 64))
  obtain ⟨hlast, hanswer, hempty, -⟩ := (registry 66).elements_empty_or_not "sea" (.own (name 65))
  obtain ⟨-, -, -, hnumber⟩ := (registry 66).elements_empty_or_not "sea" (.primitive .uint8)
  have hheight : (registry 66).HasHeight 65 "sea" (.own (name 65)) := hasHeight (by decide)
  refine ⟨hfirst.2 ⟨64, Nat.le_refl 64, hasHeight (by decide)⟩, ?_, (hempty 65 hheight).2.1,
    (hnumber fun ⟨height, h⟩ => nomatch h.kind).2.1⟩
  · obtain ⟨answer, h⟩ := hanswer (isClosed 66) fun _ => ⟨shell 65, resolve_shell (by decide)⟩
    cases answer with
    | false => exact h
    | true =>
      obtain ⟨height, hle, hheight'⟩ := hlast.1 h
      exact absurd (hheight.unique hheight' ▸ hle) (by decide)

end Shells

end Missive
