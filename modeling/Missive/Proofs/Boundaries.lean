import Missive.Proofs.Limits
/-!
# Messages back to back

Messages need nothing between them.  A walker that is told the types of the messages in front of it
finds where each of them ends, wherever in its byte string it has come to: a jump over elements of a
fixed width, or over an array that is not visited at all, lands where the encoder stopped.

* `Walker.skipMessages` -- passing one message after the other;
* `Value.longest`, `Registry.Overfull.lt_longest` -- a value is beyond the limit of elements without
  bytes only if some list in it is that long;
* `Walker.skipMessage_of_encode` -- one message, from any position;
* `Walker.skipMessages_of_encode` -- messages, from any position;
* `Walker.skipMessages_boundaries` -- where a walker is after each message of a byte string.
-/

namespace Missive

/-! ## The longest list in a value -/

namespace Value

mutual

/-- The length of the longest list in a value. -/
def longest : Value → Nat
  | datum _ => 0
  | struct members => longestMember members
  | list items => max items.length (longestItem items)

/-- The length of the longest list in some values. -/
def longestItem : List Value → Nat
  | [] => 0
  | v :: rest => max (longest v) (longestItem rest)

/-- The length of the longest list in the members of a compound. -/
def longestMember : List (String × Value) → Nat
  | [] => 0
  | (_, v) :: rest => max (longest v) (longestMember rest)

end

theorem longest_le_of_mem {v : Value} {items : List Value} (h : v ∈ items) :
    v.longest ≤ longestItem items := by
  induction items with
  | nil => cases h
  | cons w rest ih =>
    rw [longestItem]
    rcases List.mem_cons.1 h with rfl | h
    · exact Nat.le_max_left _ _
    · exact (ih h).trans (Nat.le_max_right _ _)

theorem longest_le_of_lookup {v : Value} {members : Members} {name : String}
    (h : members.lookup name = some v) : v.longest ≤ longestMember members := by
  induction members with
  | nil => cases h
  | cons member rest ih =>
    obtain ⟨key, w⟩ := member
    rw [longestMember]
    rw [List.lookup_cons] at h
    split at h
    · cases h
      exact Nat.le_max_left _ _
    · exact (ih h).trans (Nat.le_max_right _ _)

end Value

namespace Registry

variable {reg : Registry}

/-- A value is overfull only if some list in it is that long. -/
theorem Overfull.lt_longest {owner : String} {type : TypeRef} {shape : Shape} {v : Value}
    (h : reg.Overfull owner type shape v) : maxEmptyElements < v.longest := by
  induction h with
  | array _ _ hlong => exact Nat.lt_of_lt_of_le hlong (Nat.le_max_left _ _)
  | item _ hmem _ ih =>
    have hle := Value.longest_le_of_mem hmem
    exact Nat.lt_of_lt_of_le ih (hle.trans (Nat.le_max_right _ _))
  | member _ _ hlookup _ ih => exact Nat.lt_of_lt_of_le ih (Value.longest_le_of_lookup hlookup)

theorem not_overfullMember_of_longest {owner : String} {fields : List Field} {members : Members}
    (h : Value.longestMember members ≤ maxEmptyElements) :
    ¬reg.OverfullMember owner fields members := by
  rintro ⟨f, -, v, hlookup, hover⟩
  have hle := Value.longest_le_of_lookup hlookup
  exact Nat.lt_irrefl _ (Nat.lt_of_lt_of_le hover.lt_longest (hle.trans h))

/-- These bytes are the encoding of a message with this name and these members, and no array of
elements without bytes in it is longer than a decoder accepts. -/
structure Delivers (reg : Registry) (message : String × Members) (bytes : Bytes) : Prop where
  encode : reg.encode message.1 message.2 = .ok bytes
  few : ∀ m, reg.find? message.1 = some m → ¬reg.OverfullMember m.package m.fields message.2

end Registry

/-! ## One message -/

/-- Where decoding succeeds, so does the walk, and up to the same place. -/
theorem Shadows.eq_ok {α : Type} {walked : Walked Unit} {r : Decoded α} {a : α} {t : Source}
    (h : Shadows walked r) (hr : r = (.ok a, t)) : ∃ w, walked = (.ok (), w) ∧ w.source = t := by
  cases h with
  | ok _ w => exact ⟨w, rfl, congrArg Prod.snd hr⟩
  | error e w t => cases hr
  | encoding _ t he => cases hr
  | endless _ name t => cases hr

namespace Walker

variable {reg : Registry}

/-- From any position, a walker in front of an encoding passes the encoding and nothing else. -/
theorem skipMessage_of_encode (closed : reg.IsClosed) (distinct : reg.HasDistinctFields)
    {name : String} {m : Message} {members : Members} {bytes rest : Bytes} {w : Walker}
    (hm : reg.find? name = some m) (he : reg.encode name members = .ok bytes)
    (hfew : ¬reg.OverfullMember m.package m.fields members) (hw : w.remaining = bytes ++ rest) :
    w.skipMessage reg name = (.ok bytes.length, ⟨rest, w.position + bytes.length⟩) := by
  have hread : w.source.Reads bytes (source ⟨rest, w.position + bytes.length⟩) := ⟨hw, rfl, rfl⟩
  simp only [Registry.encode, hm] at he
  have hrecovers := Registry.decodeMessage_recovers closed distinct ⟨name, hm⟩ he hread
  have hmessage := Registry.decodeMessage_nestingBudget hrecovers.not_ranOut
  rw [hrecovers.resolve_right fun h => hfew h.1] at hmessage
  have hshadows :=
    skipFields_shadows (skipElement_shadows reg (reg.nestingBudget w.remaining.length))
      m.package m.fields [] w
  obtain ⟨⟨remaining, position⟩, hwalk, hsource⟩ := hshadows.eq_ok hmessage
  simp only [source, Source.mk.injEq, and_true] at hsource
  obtain ⟨rfl, rfl⟩ := hsource
  simp only [skipMessage, hm, hwalk, Nat.add_sub_cancel_left]

/-! ## One after the other -/

/-- Passes messages of these names, one after the other, each from where the one before has left the
walker: what is said about each of them, and the walker after the last one. -/
def skipMessages (reg : Registry) : List String → Walker → List (Except CodecError Nat) × Walker
  | [], w => ([], w)
  | name :: names, w =>
    let (answer, next) := w.skipMessage reg name
    let (answers, last) := skipMessages reg names next
    (answer :: answers, last)

/-- From any position, a walker in front of encodings passes one after the other. -/
theorem skipMessages_of_encode (closed : reg.IsClosed) (distinct : reg.HasDistinctFields)
    {messages : List (String × Members)} {encodings : List Bytes}
    (h : List.Forall₂ reg.Delivers messages encodings) {rest : Bytes} {w : Walker}
    (hw : w.remaining = encodings.flatten ++ rest) :
    skipMessages reg (messages.map Prod.fst) w
      = (encodings.map fun bytes => .ok bytes.length,
          ⟨rest, w.position + encodings.flatten.length⟩) := by
  induction h generalizing w with
  | nil =>
    obtain ⟨remaining, position⟩ := w
    obtain rfl : remaining = rest := hw
    rfl
  | @cons message bytes messages encodings hfirst _ ih =>
    obtain ⟨name, members⟩ := message
    obtain ⟨he, hfew⟩ := hfirst
    cases hm : reg.find? name with
    | none => simp [Registry.encode, hm] at he
    | some m =>
      rw [List.flatten_cons, List.append_assoc] at hw
      have hstep := skipMessage_of_encode closed distinct hm he (hfew m hm) hw
      have hothers := ih (w := ⟨encodings.flatten ++ rest, w.position + bytes.length⟩) rfl
      simp only [List.map_cons, skipMessages, hstep, hothers, List.flatten_cons, List.length_append,
        Nat.add_assoc]

/-- **A walker finds the boundaries of messages that stand back to back.**  Told the names of the
messages in turn, it gives the length of each encoding, is behind the first ones after as many
calls, and has in front of it what comes after them; in the end, that is what comes after all of
them. -/
theorem skipMessages_boundaries (closed : reg.IsClosed) (distinct : reg.HasDistinctFields)
    {messages : List (String × Members)} {encodings : List Bytes}
    (h : List.Forall₂ reg.Delivers messages encodings) (rest : Bytes) :
    (∀ i, skipMessages reg ((messages.take i).map Prod.fst) (.ofBytes (encodings.flatten ++ rest))
      = ((encodings.take i).map fun bytes => .ok bytes.length,
          ⟨(encodings.drop i).flatten ++ rest, (encodings.take i).flatten.length⟩)) ∧
    skipMessages reg (messages.map Prod.fst) (.ofBytes (encodings.flatten ++ rest))
      = (encodings.map fun bytes => .ok bytes.length,
          ⟨rest, encodings.flatten.length⟩) := by
  refine ⟨fun i => ?_, ?_⟩
  · have hsplit : (Walker.ofBytes (encodings.flatten ++ rest)).remaining
        = (encodings.take i).flatten ++ ((encodings.drop i).flatten ++ rest) := by
      rw [← List.append_assoc, ← List.flatten_append, List.take_append_drop]
      rfl
    have hfirst := skipMessages_of_encode closed distinct (List.forall₂_take i h) hsplit
    rwa [ofBytes, Nat.zero_add] at hfirst
  · have hall := skipMessages_of_encode closed distinct h
      (w := .ofBytes (encodings.flatten ++ rest)) rfl
    rwa [ofBytes, Nat.zero_add] at hall

end Walker

namespace Forest

/-- A tree, a mark, which takes no bytes, and a seed. -/
def harvest : List (String × Members) :=
  [("forest/Tree", groveMembers), ("forest/Mark", []),
    ("forest/Seed", [("weight", .datum (.uint16 513)), ("origin", .datum (.string "x"))])]

theorem delivers_harvest :
    List.Forall₂ registry.Delivers harvest [grove, [], [1, 2, 1, 0, 0, 0, 120]] := by
  have hfew : ∀ message ∈ harvest, ∀ m, registry.find? message.1 = some m →
      ¬registry.OverfullMember m.package m.fields message.2 := by
    intro message hmem m _
    have hshort : ∀ message ∈ harvest, Value.longestMember message.2 ≤ maxEmptyElements := by decide
    exact Registry.not_overfullMember_of_longest (hshort message hmem)
  exact .cons ⟨rfl, hfew _ (by simp [harvest])⟩ (.cons ⟨rfl, hfew _ (by simp [harvest])⟩
    (.cons ⟨rfl, hfew _ (by simp [harvest])⟩ .nil))

/-- A walker in front of the three and two more bytes is in front of the seed after two messages,
and of the two bytes after the third one. -/
theorem skipMessages_harvest : registry.IsClosed ∧ registry.HasDistinctFields ∧
    List.Forall₂ registry.Delivers harvest [grove, [], [1, 2, 1, 0, 0, 0, 120]] ∧
    Walker.skipMessages registry ["forest/Tree", "forest/Mark"]
        (.ofBytes (grove ++ [1, 2, 1, 0, 0, 0, 120, 7, 7]))
      = ([.ok 28, .ok 0], ⟨[1, 2, 1, 0, 0, 0, 120, 7, 7], 28⟩) ∧
    Walker.skipMessages registry ["forest/Tree", "forest/Mark", "forest/Seed"]
        (.ofBytes (grove ++ [1, 2, 1, 0, 0, 0, 120, 7, 7]))
      = ([.ok 28, .ok 0, .ok 7], ⟨[7, 7], 35⟩) := by
  obtain ⟨hfirst, hall⟩ :=
    Walker.skipMessages_boundaries isClosed hasDistinctFields delivers_harvest [7, 7]
  exact ⟨isClosed, hasDistinctFields, delivers_harvest, hfirst 2, hall⟩

end Forest

end Missive
