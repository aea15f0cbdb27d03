import Missive.Codec.Decode
import Missive.Proofs.Reading
import Missive.Proofs.Registries
/-!
# Decoding step by step

The decoder gathers items and members in accumulators and carries a budget.  Here it is taken apart
into steps without accumulators, and every step is seen to move forward in its source.

* `Decoded.andThen`, `Decoded.mapValue`, `Decoded.inField` -- steps one after the other, and the
  outcome seen from further out;
* `decodeItems_succ`, `decodeField_array`, `decodeFields_cons` -- arrays and messages, step by step;
* `Registry.decodeMessage` -- the fields of a message, with a budget;
* `decodeItems_passes` and its kin -- decoding goes forward only.
-/

namespace Missive

namespace Decoded

variable {α β γ : Type}

/-- The next step, if the one before succeeded. -/
def andThen (r : Decoded α) (next : α → Source → Decoded β) : Decoded β :=
  match r with
  | (.error e, s) => (.error e, s)
  | (.ok a, s) => next a s

/-- The same outcome for something made of what was read. -/
def mapValue (make : α → β) (r : Decoded α) : Decoded β :=
  (r.1.map make, r.2)

/-- Adds the label of a field to an error. -/
def inField (label : String) (r : Decoded α) : Decoded α :=
  (labelled label r.1, r.2)

@[simp]
theorem andThen_ok (a : α) (s : Source) (next : α → Source → Decoded β) :
    andThen (.ok a, s) next = next a s := rfl

@[simp]
theorem andThen_error (e : CodecError) (s : Source) (next : α → Source → Decoded β) :
    andThen (.error e, s) next = (.error e, s) := rfl

@[simp]
theorem mapValue_ok (make : α → β) (a : α) (s : Source) :
    mapValue make (.ok a, s) = (.ok (make a), s) := rfl

@[simp]
theorem mapValue_error (make : α → β) (e : CodecError) (s : Source) :
    mapValue make (.error e, s) = (.error e, s) := rfl

@[simp]
theorem inField_ok (label : String) (a : α) (s : Source) :
    inField label (.ok a, s) = (.ok a, s) := rfl

@[simp]
theorem inField_error (label : String) (e : CodecError) (s : Source) :
    inField (α := α) label (.error e, s) = (.error (e.inField label), s) := rfl

theorem mapValue_mapValue (make : α → β) (next : β → γ) (r : Decoded α) :
    mapValue next (mapValue make r) = mapValue (fun a => next (make a)) r := by
  rcases r with ⟨_ | _, _⟩ <;> rfl

/-- If two steps succeed, so do both of them. -/
theorem andThen_eq_ok {r : Decoded α} {next : α → Source → Decoded β} {b : β} {u : Source}
    (h : andThen r next = (.ok b, u)) : ∃ a t, r = (.ok a, t) ∧ next a t = (.ok b, u) := by
  rcases r with ⟨e | a, t⟩
  · simp at h
  · exact ⟨a, t, rfl, h⟩

theorem mapValue_eq_ok {make : α → β} {r : Decoded α} {b : β} {t : Source}
    (h : mapValue make r = (.ok b, t)) : ∃ a, r = (.ok a, t) ∧ make a = b := by
  rcases r with ⟨e | a, s⟩
  · simp at h
  · simp only [mapValue_ok, Prod.mk.injEq, Except.ok.injEq] at h
    exact ⟨a, by rw [h.2], h.1⟩

theorem inField_eq_ok {label : String} {r : Decoded α} {a : α} {t : Source}
    (h : inField label r = (.ok a, t)) : r = (.ok a, t) := by
  rcases r with ⟨e | b, s⟩
  · simp at h
  · exact h

theorem passes_andThen {s : Source} {r : Decoded α} {next : α → Source → Decoded β}
    (h : s.Passes r.2) (hn : ∀ a (t : Source), t.Passes (next a t).2) :
    s.Passes (andThen r next).2 := by
  rcases r with ⟨e | a, t⟩
  · exact h
  · exact h.trans (hn a t)

end Decoded

/-! ## Items -/

theorem decodeItems_acc (element : Source → Decoded Value) (n : Nat) (items : List Value)
    (s : Source) :
    decodeItems element n items s
      = Decoded.mapValue (items.reverse ++ ·) (decodeItems element n [] s) := by
  induction n generalizing items s with
  | zero => simp [decodeItems]
  | succ n ih =>
    simp only [decodeItems]
    rcases element s with ⟨e | v, t⟩
    · rfl
    · simp only
      rw [ih (v :: items), ih [v], Decoded.mapValue_mapValue]
      simp

theorem decodeItems_succ (element : Source → Decoded Value) (n : Nat) (s : Source) :
    decodeItems element (n + 1) [] s = Decoded.andThen (element s) fun v t =>
      Decoded.mapValue (v :: ·) (decodeItems element n [] t) := by
  simp only [decodeItems]
  rcases element s with ⟨e | v, t⟩
  · rfl
  · exact decodeItems_acc element n [v] t

/-! ## Fields -/

/-- Reads the count of an array. -/
def decodeCount (s : Source) : Decoded Nat :=
  ((readCount s).1.mapError .wire, (readCount s).2)

theorem readCount_of_decodeCount {s t : Source} {n : Nat} (h : decodeCount s = (.ok n, t)) :
    readCount s = (.ok n, t) := by
  rw [decodeCount] at h
  rcases hcount : readCount s with ⟨e | k, u⟩ <;> rw [hcount] at h <;> cases h
  rfl

theorem decodeField_single (reg : Registry) (element : ElementDecoder) (owner : String) {f : Field}
    (h : f.shape.isArray = false) (s : Source) :
    decodeField reg element owner f s = element owner f.type s := by
  simp [decodeField, h]

/-- Decodes an array: its count, which must be admitted, and as many elements. -/
def decodeArray (reg : Registry) (element : ElementDecoder) (owner : String) (f : Field)
    (s : Source) : Decoded (List Value) :=
  Decoded.andThen (decodeCount s) fun n t =>
    Decoded.andThen (admitCount reg owner f n, t) fun _ t =>
      decodeItems (element owner f.type) n [] t

theorem decodeField_array (reg : Registry) (element : ElementDecoder) (owner : String) {f : Field}
    (h : f.shape.isArray = true) (s : Source) :
    decodeField reg element owner f s
      = Decoded.mapValue .list (decodeArray reg element owner f s) := by
  simp only [decodeField, h, if_true, decodeArray, decodeCount]
  rcases readCount s with ⟨e | n, t⟩
  · rfl
  · simp only [Except.mapError_ok, Decoded.andThen_ok]
    rcases admitCount reg owner f n with e | -
    · rfl
    · simp only [Decoded.andThen_ok]
      rcases decodeItems (element owner f.type) n [] t with ⟨_ | _, _⟩ <;> rfl

theorem decodeArray_of_reads (reg : Registry) (element : ElementDecoder) (owner : String)
    (f : Field) {n : Nat} {s t : Source} (hn : n < lengthLimit) (h : s.Reads (Bytes.ofNat 4 n) t) :
    decodeArray reg element owner f s = Decoded.andThen (admitCount reg owner f n, t) fun _ t =>
      decodeItems (element owner f.type) n [] t := by
  rw [decodeArray, decodeCount, readCount_of_reads hn h]
  rfl

/-- What there is behind an array that was decoded. -/
theorem decodeField_array_eq_ok {reg : Registry} {element : ElementDecoder} {owner : String}
    {f : Field} (ha : f.shape.isArray = true) {v : Value} {s t : Source}
    (h : decodeField reg element owner f s = (.ok v, t)) :
    ∃ n items u, n < lengthLimit ∧ s.Reads (Bytes.ofNat 4 n) u ∧
      admitCount reg owner f n = .ok () ∧
      decodeItems (element owner f.type) n [] u = (.ok items, t) ∧ v = .list items := by
  rw [decodeField_array reg element owner ha] at h
  obtain ⟨items, harray, rfl⟩ := Decoded.mapValue_eq_ok h
  obtain ⟨n, u, hn, hafter⟩ := Decoded.andThen_eq_ok harray
  obtain ⟨⟨⟩, w, hw, hi⟩ := Decoded.andThen_eq_ok hafter
  obtain ⟨hadmits, rfl⟩ := Prod.mk.inj hw
  obtain ⟨hlimit, hreads⟩ := reads_of_readCount (readCount_of_decodeCount hn)
  exact ⟨n, items, u, hlimit, hreads, hadmits, hi, rfl⟩

theorem Members.set_of_not_mem {members : Members} {name : String} (v : Value)
    (h : name ∉ members.map Prod.fst) : members.set name v = members ++ [(name, v)] := by
  have hl : members.lookup name = none := by
    rw [List.lookup_eq_none_iff]
    intro p hp
    have hne : name ≠ p.1 := fun hn => h (hn ▸ List.mem_map_of_mem hp)
    simpa using hne
  simp [Members.set, hl]

theorem decodeFields_step (reg : Registry) (element : ElementDecoder) (owner : String) (f : Field)
    (rest : List Field) (members : Members) (s : Source) :
    decodeFields reg element owner (f :: rest) members s
      = Decoded.andThen (Decoded.inField f.label (decodeField reg element owner f s)) fun v t =>
          decodeFields reg element owner rest (members.set f.name v) t := by
  simp only [decodeFields]
  rcases decodeField reg element owner f s with ⟨_ | _, _⟩ <;> rfl

theorem decodeFields_acc (reg : Registry) (element : ElementDecoder) (owner : String)
    {fields : List Field} (members : Members)
    (distinct : (members.map Prod.fst ++ fields.map Field.name).Nodup) (s : Source) :
    decodeFields reg element owner fields members s
      = Decoded.mapValue (members ++ ·) (decodeFields reg element owner fields [] s) := by
  induction fields generalizing members s with
  | nil => simp [decodeFields]
  | cons f rest ih =>
    obtain ⟨-, hr, hd⟩ := List.nodup_append.1 distinct
    have hf : f.name ∉ members.map Prod.fst := fun hm => hd _ hm f.name (by simp) rfl
    rw [decodeFields_step, decodeFields_step]
    rcases Decoded.inField f.label (decodeField reg element owner f s) with ⟨e | v, t⟩
    · rfl
    · simp only [Decoded.andThen_ok]
      rw [Members.set_of_not_mem v hf, Members.set_of_not_mem v (by simp), List.nil_append,
        ih _ (by simpa using distinct), ih [(f.name, v)] hr, Decoded.mapValue_mapValue]
      simp

/-- A message with distinct field names is decoded into one member after the other. -/
theorem decodeFields_cons (reg : Registry) (element : ElementDecoder) (owner : String) {f : Field}
    {rest : List Field} (distinct : ((f :: rest).map Field.name).Nodup) (s : Source) :
    decodeFields reg element owner (f :: rest) [] s
      = Decoded.andThen (Decoded.inField f.label (decodeField reg element owner f s)) fun v t =>
          Decoded.mapValue ((f.name, v) :: ·) (decodeFields reg element owner rest [] t) := by
  rw [decodeFields_step]
  refine congrArg _ (funext fun v => funext fun t => ?_)
  exact decodeFields_acc reg element owner [(f.name, v)] (by simpa using distinct) t

/-! ## Elements and messages -/

namespace Registry

/-- Decodes the fields of a message, through at most `budget` further messages. -/
def decodeMessage (reg : Registry) (budget : Nat) (m : Message) (s : Source) : Decoded Members :=
  decodeFields reg (reg.decodeElement budget) m.package m.fields [] s

theorem decodeElement_primitive (reg : Registry) (budget : Nat) (owner : String) (p : Primitive)
    (s : Source) :
    reg.decodeElement budget owner (.primitive p) s = match p.read s with
      | (.error e, t) => (.error (.wire e), t)
      | (.ok d, t) => (.ok (.datum d), t) := by
  cases budget <;> rfl

theorem decodeElement_primitive_eq_ok {reg : Registry} {budget : Nat} {owner : String}
    {p : Primitive} {v : Value} {s t : Source}
    (h : reg.decodeElement budget owner (.primitive p) s = (.ok v, t)) :
    ∃ d, p.read s = (.ok d, t) ∧ v = .datum d := by
  rw [decodeElement_primitive] at h
  rcases hr : p.read s with ⟨e | d, u⟩
  · simp [hr] at h
  · simp only [hr, Prod.mk.injEq, Except.ok.injEq] at h
    exact ⟨d, by rw [h.2], h.1.symm⟩

theorem decodeElement_unresolved {reg : Registry} {owner : String} {type : TypeRef}
    {e : CodecError} (hk : type.kind = .message) (hr : reg.resolve owner type = .error e)
    (budget : Nat) (s : Source) : reg.decodeElement budget owner type s = (.error e, s) := by
  cases type with
  | primitive p => cases hk
  | own name | foreign package name => cases budget <;> simp only [decodeElement, hr]

theorem decodeElement_zero {reg : Registry} {owner : String} {type : TypeRef} {m : Message}
    (hr : reg.resolve owner type = .ok m) (s : Source) :
    reg.decodeElement 0 owner type s = (.error (.endless m.fullName), s) := by
  cases type with
  | primitive p => cases kind_of_resolve hr
  | own name | foreign package name => simp only [decodeElement, hr]

theorem decodeElement_succ {reg : Registry} {owner : String} {type : TypeRef} {m : Message}
    (hr : reg.resolve owner type = .ok m) (budget : Nat) (s : Source) :
    reg.decodeElement (budget + 1) owner type s
      = Decoded.mapValue .struct (reg.decodeMessage budget m s) := by
  cases type with
  | primitive p => cases kind_of_resolve hr
  | own name | foreign package name =>
    simp only [decodeElement, hr, decodeMessage]
    rcases decodeFields reg (reg.decodeElement budget) m.package m.fields [] s with ⟨_ | _, _⟩ <;>
      rfl

end Registry

/-! ## Decoding goes forward -/

/-- An element decoder never goes back. -/
def ElementDecoder.GoesForward (element : ElementDecoder) : Prop :=
  ∀ (owner : String) (type : TypeRef) (s : Source), s.Passes (element owner type s).2

theorem decodeItems_passes {element : Source → Decoded Value}
    (forward : ∀ s : Source, s.Passes (element s).2) (n : Nat) (s : Source) :
    s.Passes (decodeItems element n [] s).2 := by
  induction n generalizing s with
  | zero => exact .refl s
  | succ n ih =>
    rw [decodeItems_succ]
    exact Decoded.passes_andThen (forward s) fun _ t => ih t

theorem decodeField_passes (reg : Registry) {element : ElementDecoder}
    (forward : element.GoesForward) (owner : String) (f : Field) (s : Source) :
    s.Passes (decodeField reg element owner f s).2 := by
  cases h : f.shape.isArray with
  | false =>
    rw [decodeField_single reg element owner h]
    exact forward owner f.type s
  | true =>
    rw [decodeField_array reg element owner h]
    show s.Passes (decodeArray reg element owner f s).2
    refine Decoded.passes_andThen (readCount_passes s) fun n t => ?_
    exact Decoded.passes_andThen (.refl t) fun _ t =>
      decodeItems_passes (forward owner f.type) n t

theorem decodeFields_passes (reg : Registry) {element : ElementDecoder}
    (forward : element.GoesForward) (owner : String) (fields : List Field) (members : Members)
    (s : Source) : s.Passes (decodeFields reg element owner fields members s).2 := by
  induction fields generalizing members s with
  | nil => exact .refl s
  | cons f rest ih =>
    rw [decodeFields_step]
    exact Decoded.passes_andThen (decodeField_passes reg forward owner f s) fun v t => ih _ t

theorem Registry.decodeElement_passes (reg : Registry) (budget : Nat) :
    ElementDecoder.GoesForward (reg.decodeElement budget) := by
  intro owner type s
  rcases reg.type_cases owner type with ⟨p, rfl⟩ | ⟨e, hk, he⟩ | ⟨m, hm⟩
  · have h := p.read_passes s
    rw [decodeElement_primitive]
    rcases hr : p.read s with ⟨_ | _, t⟩ <;> rw [hr] at h <;> exact h
  · rw [decodeElement_unresolved hk he]
    exact .refl s
  · cases budget with
    | zero =>
      rw [decodeElement_zero hm]
      exact .refl s
    | succ budget =>
      rw [decodeElement_succ hm]
      exact decodeFields_passes reg (reg.decodeElement_passes budget) m.package m.fields [] s

end Missive
