import Missive.Proofs.DeclaredCounts
import Missive.Proofs.Limits
/-!
# The chunks of a message

A message is written as one chunk of bytes for each field, in the order in which the fields are
declared.  A chunk is made from what is there under the name of the field, from the type and the
shape of the field, and from the package of the message; it does not matter where the field stands
and what stands around it.  So a message that declares the same fields in another order has the same
chunks in that order, and the same members are read from it.

* `Registry.chunk`, `Registry.chunkOf` -- the bytes of a field;
* `encodeFields_eq_chunks` -- the bytes of a message;
* `Registry.AcceptsChunk`, `Registry.decodeFields_ok_iff` -- a message is read if all of its chunks
  are;
* `Members.lookup_restrict_of_perm` -- what is read does not depend on the order;
* `Registry.encode_of_permuted` -- a message and one that declares its fields in another order.
-/

namespace Missive

/-! ## Bytes of a field -/

namespace Registry

/-- The bytes that a field of this type and shape gives to a message of a package, when this is
there under its name. -/
def chunk (reg : Registry) (owner : String) (type : TypeRef) (shape : Shape) :
    Option Value → Bytes
  | none => []
  | some v => (v.encode reg owner type shape).toOption.getD []

/-- The bytes that a field gives to a message of a package with these members. -/
def chunkOf (reg : Registry) (owner : String) (members : Members) (f : Field) : Bytes :=
  reg.chunk owner f.type f.shape (members.lookup f.name)

variable {reg : Registry} {m : Message} {members : Members}

theorem chunkOf_eq {owner : String} {f : Field} {v : Value} {bytes : Bytes}
    (hv : members.lookup f.name = some v) (he : v.encode reg owner f.type f.shape = .ok bytes) :
    reg.chunkOf owner members f = bytes := by
  rw [chunkOf, hv, chunk, he]
  rfl

/-- The chunk of a field is what its member is encoded as. -/
theorem EncodesMember.encode_eq {f : Field} (h : reg.EncodesMember m members f) :
    ∃ v, members.lookup f.name = some v ∧
      v.encode reg m.package f.type f.shape = .ok (reg.chunkOf m.package members f) := by
  obtain ⟨v, bytes, hv, he⟩ := h
  exact ⟨v, hv, by rw [chunkOf_eq hv he, he]⟩

end Registry

/-- A message is encoded as the chunks of its fields, one after the other. -/
theorem encodeFields_eq_chunks {reg : Registry} {m : Message} {members : Members}
    {fields : List Field} (h : ∀ f ∈ fields, reg.EncodesMember m members f) :
    encodeFields m (Value.encoders reg members) fields
      = .ok (fields.flatMap (reg.chunkOf m.package members)) := by
  induction fields with
  | nil => rfl
  | cons f rest ih =>
    obtain ⟨v, hv, he⟩ := (h f List.mem_cons_self).encode_eq
    have hrest := ih fun g hg => h g (List.mem_cons_of_mem f hg)
    rw [List.flatMap_cons]
    exact encodeFields_cons_eq_ok_iff.2 ⟨v, _, _, hv, he, hrest, rfl⟩

theorem Registry.encode_eq_chunks {reg : Registry} {key : String} {m : Message} {members : Members}
    (hm : reg.find? key = some m) (h : ∀ f ∈ m.fields, reg.EncodesMember m members f) :
    reg.encode key members = .ok (m.fields.flatMap (reg.chunkOf m.package members)) := by
  rw [encode, hm]
  exact encodeFields_eq_chunks h

/-! ## Chunks that are read -/

namespace Registry

/-- With a budget of `n` the chunk of a field is decoded, from in front of something. -/
def AcceptsChunk (reg : Registry) (n : Nat) (owner : String) (members : Members) (f : Field) :
    Prop :=
  ∃ s v t, s.Reads (reg.chunkOf owner members f) t ∧
    decodeField reg (reg.decodeElement n) owner f s = (.ok v, t)

/-- A chunk that is decoded from in front of something is decoded from in front of anything. -/
theorem AcceptsChunk.decodeField {reg : Registry} {n : Nat} {owner : String} {members : Members}
    {f : Field} (h : reg.AcceptsChunk n owner members f) :
    ∃ v, ∀ s t, s.Reads (reg.chunkOf owner members f) t →
      decodeField reg (reg.decodeElement n) owner f s = (.ok v, t) := by
  obtain ⟨s, v, t, hread, hdecode⟩ := h
  obtain ⟨bytes, hbytes, hsame, -⟩ :=
    decodeField_delimits (reg.decodeElement_delimits n) reg owner f s v t hdecode
  have hlength : bytes.length = (reg.chunkOf owner members f).length := by
    have hfirst := hread.length_pending
    have hsecond := hbytes.length_pending
    omega
  obtain ⟨rfl, -⟩ := hbytes.unique hread hlength
  exact ⟨v, fun s t => hsame s t trivial⟩

section

variable {reg : Registry} (closed : reg.IsClosed) (distinct : reg.HasDistinctFields) {m : Message}
  {members : Members} {n : Nat} (hn : Value.nestingMembers members ≤ n)

include closed distinct hn

/-- A field that is decoded takes its chunk. -/
theorem reads_of_decodeField {f : Field} (hf : reg.Resolves m.package f.type)
    (hencodes : reg.EncodesMember m members f) {s t u : Source} {v : Value}
    (hread : s.Reads (reg.chunkOf m.package members f) t)
    (hdecode : decodeField reg (reg.decodeElement n) m.package f s = (.ok v, u)) : u = t := by
  obtain ⟨w, hw, he⟩ := hencodes.encode_eq
  have hnested : w.nesting ≤ n := (Value.nesting_le_of_lookup hw).trans hn
  have hrecovers := decodeField_recovers (decodeElement_inverts closed distinct n) closed hf hnested
    he hread
  rcases hrecovers with hok | ⟨-, e, count, he, -⟩
  · exact (Prod.mk.inj (hdecode.symm.trans hok)).2
  · rw [hdecode] at he
    cases he

/-- From in front of their chunks fields are decoded just if each of the chunks is. -/
theorem decodeFields_ok_iff {fields : List Field} (names : (fields.map Field.name).Nodup)
    (resolves : ∀ f ∈ fields, reg.Resolves m.package f.type)
    (encodes : ∀ f ∈ fields, reg.EncodesMember m members f) {s t : Source}
    (hread : s.Reads (fields.flatMap (reg.chunkOf m.package members)) t) :
    (∃ out u, decodeFields reg (reg.decodeElement n) m.package fields [] s = (.ok out, u)) ↔
      ∀ f ∈ fields, reg.AcceptsChunk n m.package members f := by
  induction fields generalizing s with
  | nil =>
    constructor
    · intro _ f hf
      cases hf
    · intro _
      exact ⟨[], s, rfl⟩
  | cons f rest ih =>
    rw [List.flatMap_cons] at hread
    obtain ⟨mid, hfirst, hothers⟩ := hread.split
    have hrest := ih (List.nodup_cons.1 names).2
      (fun g hg => resolves g (List.mem_cons_of_mem f hg))
      (fun g hg => encodes g (List.mem_cons_of_mem f hg)) hothers
    rw [decodeFields_cons reg _ m.package names]
    constructor
    · rintro ⟨out, u, hout⟩
      obtain ⟨v, w, hv, hw⟩ := Decoded.andThen_eq_ok hout
      obtain ⟨others, hdecoded, -⟩ := Decoded.mapValue_eq_ok hw
      have hfield := Decoded.inField_eq_ok hv
      obtain rfl := reads_of_decodeField closed distinct hn (resolves f List.mem_cons_self)
        (encodes f List.mem_cons_self) hfirst hfield
      intro g hg
      rcases List.mem_cons.1 hg with rfl | hg
      · exact ⟨s, v, w, hfirst, hfield⟩
      · exact hrest.1 ⟨others, u, hdecoded⟩ g hg
    · intro haccepts
      obtain ⟨v, hv⟩ := (haccepts f List.mem_cons_self).decodeField
      obtain ⟨others, u, hdecoded⟩ :=
        hrest.2 fun g hg => haccepts g (List.mem_cons_of_mem f hg)
      refine ⟨(f.name, v) :: others, u, ?_⟩
      rw [hv s mid hfirst, Decoded.inField_ok, Decoded.andThen_ok, hdecoded, Decoded.mapValue_ok]

end

end Registry

/-! ## Members in another order -/

theorem Members.lookup_of_perm {members others : Members}
    (distinct : (members.map Prod.fst).Nodup) (h : others.Perm members) (name : String) :
    others.lookup name = members.lookup name := by
  have hothers : (others.map Prod.fst).Nodup := (h.map Prod.fst).nodup_iff.2 distinct
  cases hv : members.lookup name with
  | none =>
    rw [List.lookup_eq_none_iff] at hv ⊢
    exact fun member hmem => hv member (h.mem_iff.1 hmem)
  | some v =>
    obtain ⟨before, after, hsplit, -⟩ := List.lookup_eq_some_iff.1 hv
    refine Members.lookup_of_mem hothers (h.mem_iff.2 ?_)
    rw [hsplit]
    exact List.mem_append_right before List.mem_cons_self

/-- The declared members have the names of fields. -/
theorem declaredMembers_names (owner : String) (parts : List (String × Restriction))
    (fields : List Field) :
    ((declaredMembers owner parts fields).map Prod.fst).Sublist (fields.map Field.name) := by
  induction fields with
  | nil => exact .slnil
  | cons f rest ih =>
    rw [declaredMembers, List.filterMap_cons]
    cases parts.lookup f.name with
    | none => exact ih.cons f.name
    | some part => exact ih.cons_cons f.name

/-- Which members are declared does not depend on the order of the fields. -/
theorem Members.lookup_restrict_of_perm {reg : Registry} {m m' : Message}
    (names : (m.fields.map Field.name).Nodup) (hpackage : m'.package = m.package)
    (hperm : m'.fields.Perm m.fields) (members : Members) (name : String) :
    (members.restrict reg m').lookup name = (members.restrict reg m).lookup name := by
  refine Members.lookup_of_perm (names.sublist (declaredMembers_names _ _ _)) ?_ name
  rw [Members.restrict, hpackage]
  exact hperm.filterMap _

/-! ## Whole messages -/

namespace Registry

variable {reg : Registry} {key key' : String} {m m' : Message} {members : Members} {bytes : Bytes}

/-- What was encoded is decoded again, all of it, just if each of its chunks is. -/
theorem decode_ok_iff_chunks (closed : reg.IsClosed) (distinct : reg.HasDistinctFields)
    (hm : reg.find? key = some m) (encodes : ∀ f ∈ m.fields, reg.EncodesMember m members f) :
    reg.decode key (m.fields.flatMap (reg.chunkOf m.package members))
        = ((m.fields.flatMap (reg.chunkOf m.package members)).length,
            .ok (members.restrict reg m)) ↔
      ∀ f ∈ m.fields, reg.AcceptsChunk (Value.nestingMembers members) m.package members f := by
  have hread := Source.reads_all (m.fields.flatMap (reg.chunkOf m.package members))
  rw [← decodeFields_ok_iff closed distinct (Nat.le_refl _) (distinct m ⟨key, hm⟩)
    (closed m ⟨key, hm⟩) encodes hread]
  have hmessage := decodeMessage_recovers closed distinct ⟨key, hm⟩ (encodeFields_eq_chunks encodes)
    hread
  rw [decode_of_decodeMessage hm hmessage.not_ranOut]
  constructor
  · intro h
    exact ⟨_, _, Prod.ext (Prod.mk.inj h).2 rfl⟩
  · rintro ⟨out, u, hout⟩
    rcases hmessage with hok | ⟨-, e, count, he, -⟩
    · rw [hok]
    · rw [decodeMessage, hout] at he
      cases he

/-- **The bytes of a message are the chunks of its fields, in the order of declaration.**  The chunk
of a field depends on its type and shape, on the package and on the member of its name, and on
nothing else.  So with the same fields in another order the same members are written as the same
chunks in that order.  Either order is read back if the other one is, and then the same members are
found in both; and both are read back unless an array holds too many elements without bytes. -/
theorem encode_of_permuted (closed : reg.IsClosed) (distinct : reg.HasDistinctFields)
    (hm : reg.find? key = some m) (hm' : reg.find? key' = some m')
    (hpackage : m'.package = m.package) (hperm : m'.fields.Perm m.fields)
    (he : reg.encode key members = .ok bytes) :
    (∀ f ∈ m.fields, ∃ v, members.lookup f.name = some v ∧
      v.encode reg m.package f.type f.shape = .ok (reg.chunkOf m.package members f)) ∧
    bytes = m.fields.flatMap (reg.chunkOf m.package members) ∧
    ∃ bytes', bytes' = m'.fields.flatMap (reg.chunkOf m.package members) ∧
      reg.encode key' members = .ok bytes' ∧
      (reg.decode key' bytes' = (bytes'.length, .ok (members.restrict reg m')) ↔
        reg.decode key bytes = (bytes.length, .ok (members.restrict reg m))) ∧
      (¬reg.OverfullMember m.package m.fields members →
        reg.decode key' bytes' = (bytes'.length, .ok (members.restrict reg m'))) ∧
      ∀ name, (members.restrict reg m').lookup name = (members.restrict reg m).lookup name := by
  have encodes : ∀ f ∈ m.fields, reg.EncodesMember m members f := by
    simp only [encode, hm] at he
    exact fun f hf => encodesMember_of_mem he hf
  have encodes' : ∀ f ∈ m'.fields, reg.EncodesMember m' members f := by
    intro f hf
    obtain ⟨v, chunk, hv, hchunk⟩ := encodes f (hperm.mem_iff.1 hf)
    exact ⟨v, chunk, hv, by rwa [hpackage]⟩
  have hbytes : bytes = m.fields.flatMap (reg.chunkOf m.package members) :=
    Except.ok.inj (he.symm.trans (encode_eq_chunks hm encodes))
  have hencode : reg.encode key' members
      = .ok (m'.fields.flatMap (reg.chunkOf m.package members)) := by
    rw [encode_eq_chunks hm' encodes', hpackage]
  have hiff : reg.decode key' (m'.fields.flatMap (reg.chunkOf m.package members))
        = ((m'.fields.flatMap (reg.chunkOf m.package members)).length,
            .ok (members.restrict reg m')) ↔
      reg.decode key bytes = (bytes.length, .ok (members.restrict reg m)) := by
    have hchunks' := decode_ok_iff_chunks closed distinct hm' encodes'
    rw [hpackage] at hchunks'
    rw [hchunks', hbytes, decode_ok_iff_chunks closed distinct hm encodes]
    -- the same chunks, in whatever order
    exact ⟨fun h f hf => h f (hperm.mem_iff.2 hf), fun h f hf => h f (hperm.mem_iff.1 hf)⟩
  refine ⟨fun f hf => (encodes f hf).encode_eq, hbytes, _, rfl, hencode, hiff, fun hfew => ?_,
    Members.lookup_restrict_of_perm (distinct m ⟨key, hm⟩) hpackage hperm members⟩
  exact hiff.2 (decode_of_encode closed distinct hm he hfew).1

end Registry

/-! ## Stacks and towers -/

namespace Heap

def height : Field :=
  ⟨"height", "uint8", .single, .primitive .uint8⟩

/-- Marks, and a height behind them. -/
def stack : Message :=
  ⟨"heap", "Stack", "Mark[] marks\nuint8 height\n", [marks .many, height], [], .empty⟩

/-- A height, and marks behind it. -/
def tower : Message :=
  ⟨"heap", "Tower", "uint8 height\nMark[] marks\n", [height, marks .many], [], .empty⟩

def yard : Registry :=
  .ofMessages [mark, stack, tower]

theorem find?_stack : yard.find? "heap/Stack" = some stack := rfl

theorem find?_tower : yard.find? "heap/Tower" = some tower := rfl

theorem yard_isClosed : yard.IsClosed :=
  Registry.isClosed_of_entries (by decide)

theorem yard_hasDistinctFields : yard.HasDistinctFields :=
  Registry.hasDistinctFields_of_entries (by decide)

theorem tower_perm_stack : tower.fields.Perm stack.fields :=
  .swap _ _ []

/-- The members of a stack of seven, or of such a tower, with this many marks. -/
def stacked (n : Nat) : Members :=
  [("height", .datum (.uint8 7)), ("marks", .list (List.replicate n (.struct [])))]

/-- Both orders, for two marks. -/
theorem encode_of_stacked :
    yard.encode "heap/Stack" (stacked 2) = .ok [2, 0, 0, 0, 7] ∧
    yard.encode "heap/Tower" (stacked 2) = .ok [7, 2, 0, 0, 0] ∧
    yard.decode "heap/Tower" [7, 2, 0, 0, 0] = (5, .ok (stacked 2)) := by
  have he : yard.encode "heap/Stack" (stacked 2) = .ok [2, 0, 0, 0, 7] := rfl
  obtain ⟨-, -, bytes, rfl, hencode, hiff, -, -⟩ :=
    Registry.encode_of_permuted yard_isClosed yard_hasDistinctFields find?_stack find?_tower rfl
      tower_perm_stack he
  exact ⟨he, hencode, hiff.2 rfl⟩

/-- However many marks there are, they take no bytes but those of their count. -/
theorem encode_marks {n : Nat} (hn : n < lengthLimit) :
    (Value.list (List.replicate n (.struct []))).encode yard "heap" (.own "Mark") .many
      = .ok (Bytes.ofNat 4 n) :=
  Value.encode_emptyItems rfl (fun h => by cases h) hn rfl

theorem encodesMember_stacked {n : Nat} (hn : n < lengthLimit) {m : Message}
    (hpackage : m.package = "heap") {f : Field} (hf : f ∈ [marks .many, height]) :
    yard.EncodesMember m (stacked n) f := by
  rcases List.mem_pair.1 hf with rfl | rfl
  · exact ⟨_, _, rfl, by rw [hpackage]; exact encode_marks hn⟩
  · exact ⟨_, [7], rfl, rfl⟩

/-- So the marks are written in either order, however many they are. -/
theorem encode_stacked {n : Nat} (hn : n < lengthLimit) :
    yard.encode "heap/Stack" (stacked n) = .ok (Bytes.ofNat 4 n ++ [7]) ∧
    yard.encode "heap/Tower" (stacked n) = .ok ([7] ++ Bytes.ofNat 4 n) := by
  have hmarks : yard.chunkOf "heap" (stacked n) (marks .many) = Bytes.ofNat 4 n :=
    Registry.chunkOf_eq rfl (encode_marks hn)
  have hheight : yard.chunkOf "heap" (stacked n) height = [7] := Registry.chunkOf_eq rfl rfl
  constructor
  · rw [Registry.encode_eq_chunks find?_stack fun f hf => encodesMember_stacked hn rfl hf]
    show Except.ok (yard.chunkOf "heap" (stacked n) (marks .many)
      ++ (yard.chunkOf "heap" (stacked n) height ++ [])) = _
    rw [hmarks, hheight, List.append_nil]
  · rw [Registry.encode_eq_chunks find?_tower fun f hf =>
      encodesMember_stacked hn rfl (tower_perm_stack.mem_iff.1 hf)]
    show Except.ok (yard.chunkOf "heap" (stacked n) height
      ++ (yard.chunkOf "heap" (stacked n) (marks .many) ++ [])) = _
    rw [hmarks, hheight, List.append_nil]

/-- With a mark too many both orders are written, but neither is read back. -/
theorem encode_of_crowdedStack : yard.IsClosed ∧ yard.HasDistinctFields ∧
    yard.find? "heap/Stack" = some stack ∧ yard.find? "heap/Tower" = some tower ∧
    tower.package = stack.package ∧ tower.fields.Perm stack.fields ∧
    yard.encode "heap/Stack" (stacked 65537) = .ok [1, 0, 1, 0, 7] ∧
    yard.encode "heap/Tower" (stacked 65537) = .ok [7, 1, 0, 1, 0] ∧
    yard.decode "heap/Stack" [1, 0, 1, 0, 7] = (4, .error refusal) ∧
    yard.decode "heap/Tower" [7, 1, 0, 1, 0] = (5, .error refusal) := by
  obtain ⟨hstack, htower⟩ := encode_stacked (n := 65537) (by decide)
  exact ⟨yard_isClosed, yard_hasDistinctFields, find?_stack, find?_tower, rfl, tower_perm_stack,
    hstack, htower, rfl, rfl⟩

end Heap

end Missive
