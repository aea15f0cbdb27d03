import Missive.Codec.Encode
import Missive.Proofs.Reading
import Missive.Proofs.Registries
/-!
# Encoding step by step

What a value must be like to be encoded, and of which pieces its encoding is made.

* `Value.encode_single_eq_ok_iff`, `Value.encode_array_eq_ok_iff` -- elements and arrays;
* `Value.encodeItems_cons_eq_ok_iff`, `encodeFields_cons_eq_ok_iff` -- the first item and the first
  field;
* `Value.encode_emptyItems` -- arrays of items without bytes.
-/

namespace Missive

namespace Value

variable {reg : Registry} {owner : String} {type : TypeRef} {shape : Shape} {v : Value}
  {bytes : Bytes}

/-- The elements that can be encoded are those of the right primitive and the compounds whose
fields can be. -/
theorem encode_single_eq_ok_iff :
    encode reg v owner type .single = .ok bytes ↔
      (∃ d, v = datum d ∧ type = .primitive d.primitive ∧ d.encode = .ok bytes) ∨
      ∃ members m, v = struct members ∧ reg.resolve owner type = .ok m ∧
        encodeFields m (encoders reg members) m.fields = .ok bytes := by
  cases v with
  | datum d =>
    cases type with
    | primitive p =>
      by_cases h : d.primitive = p
      · subst h
        simp [encode, Shape.isArray, Except.mapError_eq_ok_iff]
      · simp [encode, Shape.isArray, h, Ne.symm h]
    | own name | foreign package name =>
      simp only [encode, Shape.isArray]
      cases reg.resolve owner _ <;> simp
  | struct members =>
    cases type with
    | primitive p => simp [encode, Shape.isArray, Registry.resolve, TypeRef.key?]
    | own name | foreign package name =>
      simp only [encode, Shape.isArray]
      cases reg.resolve owner _ <;> simp
  | list items =>
    cases type with
    | primitive p => simp [encode, Shape.isArray]
    | own name | foreign package name =>
      simp only [encode, Shape.isArray]
      cases reg.resolve owner _ <;> simp

theorem encodeArrayCount_eq_ok_iff {count : Nat} :
    encodeArrayCount shape count = .ok bytes ↔
      (shape.isFixed = true → count = shape.count) ∧ count < lengthLimit ∧
        Bytes.ofNat 4 count = bytes := by
  have hn : (encodeCount count).mapError CodecError.wire = .ok bytes ↔
      count < lengthLimit ∧ Bytes.ofNat 4 count = bytes := by
    rw [Except.mapError_eq_ok_iff, encodeCount_eq_ok_iff, eq_comm (a := bytes)]
  cases hf : shape.isFixed with
  | false => simpa [encodeArrayCount, hf] using hn
  | true =>
    by_cases hc : count = shape.count
    · simpa [encodeArrayCount, ← hc] using hn
    · simp [encodeArrayCount, hf, hc]

/-- The arrays that can be encoded are the lists of the declared length, or of any length that a
count can hold, whose items can be. -/
theorem encode_array_eq_ok_iff (h : shape.isArray = true) :
    encode reg v owner type shape = .ok bytes ↔
      ∃ items body, v = list items ∧ (shape.isFixed = true → items.length = shape.count) ∧
        items.length < lengthLimit ∧ encodeItems reg items owner type = .ok body ∧
        Bytes.ofNat 4 items.length ++ body = bytes := by
  cases v with
  | datum d => simp [encode, h]
  | struct members => simp [encode, h]
  | list items =>
    have hc : ∀ count, encodeArrayCount shape items.length = .ok count ↔
        (shape.isFixed = true → items.length = shape.count) ∧ items.length < lengthLimit ∧
          Bytes.ofNat 4 items.length = count := fun _ => encodeArrayCount_eq_ok_iff
    simp only [encode, h, if_true, list.injEq]
    constructor
    · intro he
      cases ha : encodeArrayCount shape items.length with
      | error e => simp [ha] at he
      | ok count =>
        obtain ⟨hf, hl, rfl⟩ := (hc _).1 ha
        rw [ha] at he
        obtain ⟨body, hb, rfl⟩ := Except.map_eq_ok_iff.1 he
        exact ⟨items, body, rfl, hf, hl, hb, rfl⟩
    · rintro ⟨_, body, rfl, hf, hl, hb, rfl⟩
      rw [(hc _).2 ⟨hf, hl, rfl⟩, hb]
      rfl

theorem encodeItems_cons_eq_ok_iff {rest : List Value} :
    encodeItems reg (v :: rest) owner type = .ok bytes ↔
      ∃ a b, encode reg v owner type .single = .ok a ∧ encodeItems reg rest owner type = .ok b ∧
        a ++ b = bytes := by
  simp only [encodeItems]
  rcases encode reg v owner type .single with e | a
  · simp
  · simp [Except.map_eq_ok_iff]

/-- Items without bytes are encoded as none, however many there are. -/
theorem encodeItems_empty (h : encode reg v owner type .single = .ok []) (n : Nat) :
    encodeItems reg (List.replicate n v) owner type = .ok [] := by
  induction n with
  | zero => rfl
  | succ n ih =>
    rw [List.replicate_succ]
    exact encodeItems_cons_eq_ok_iff.2 ⟨[], [], h, ih, rfl⟩

/-- An array of them takes the bytes of its count. -/
theorem encode_emptyItems (ha : shape.isArray = true) {n : Nat}
    (hfixed : shape.isFixed = true → n = shape.count) (hn : n < lengthLimit)
    (h : encode reg v owner type .single = .ok []) :
    encode reg (list (List.replicate n v)) owner type shape = .ok (Bytes.ofNat 4 n) := by
  refine (encode_array_eq_ok_iff ha).2 ⟨_, [], rfl, ?_, ?_, encodeItems_empty h n, ?_⟩
  · rwa [List.length_replicate]
  · rwa [List.length_replicate]
  · rw [List.length_replicate, List.append_nil]

end Value

theorem encodeFields_cons_eq_ok_iff {reg : Registry} {m : Message} {members : Members} {f : Field}
    {rest : List Field} {bytes : Bytes} :
    encodeFields m (Value.encoders reg members) (f :: rest) = .ok bytes ↔
      ∃ v a b, members.lookup f.name = some v ∧ v.encode reg m.package f.type f.shape = .ok a ∧
        encodeFields m (Value.encoders reg members) rest = .ok b ∧ a ++ b = bytes := by
  simp only [encodeFields, Value.lookup_encoders]
  rcases members.lookup f.name with - | v
  · simp
  · simp only [Option.map_some, Option.some.injEq, exists_and_left, exists_eq_left', labelled]
    rcases v.encode reg m.package f.type f.shape with e | a
    · simp
    · simp [Except.map_eq_ok_iff]

end Missive
