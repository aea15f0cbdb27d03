import Missive.Codec.Extent
import Missive.Proofs.Weights
/-!
# Walking and decoding

A walker finds the end of a message as the decoder does, and fails where the decoder fails, with the
same error.  It makes no texts, so what is wrong with a text is the one thing that it does not see.

* `Walker.source` -- what a walker has in front of it, as a source;
* `Shadows` -- the invariant: a walk has the outcome of decoding, unless that is an encoding error
  or does not come to an end;
* `Walker.advance_shadows` -- one jump over elements of a fixed width, instead of one step for each;
* `Walker.skipElement_shadows` -- elements of all types;
* `Registry.extent_matches_decode` -- whole messages.
-/

namespace Missive

/-- The root of the error is a byte string that is no text. -/
def CodecError.IsEncoding (e : CodecError) : Prop :=
  ∃ inner fault, e = .wire inner ∧ inner.root = .encoding fault

theorem CodecError.IsEncoding.inField {e : CodecError} (h : e.IsEncoding) (label : String) :
    (e.inField label).IsEncoding := by
  obtain ⟨inner, fault, rfl, hroot⟩ := h
  exact ⟨.inField label inner, fault, rfl, hroot⟩

/-- Only primitives have a fixed width. -/
theorem TypeRef.eq_primitive_of_width {type : TypeRef} {width : Nat}
    (h : type.kind.width = some width) : ∃ p, type = .primitive p ∧ p.width = some width := by
  cases type with
  | primitive p => exact ⟨p, rfl, h⟩
  | own name | foreign package name => cases h

/-! ## Steps of a walk -/

namespace Walked

/-- The next step, if the one before succeeded. -/
def andThen (walked : Walked Unit) (next : Walker → Walked Unit) : Walked Unit :=
  match walked with
  | (.error e, w) => (.error e, w)
  | (.ok (), w) => next w

/-- Adds the label of a field to an error. -/
def inField (label : String) (walked : Walked Unit) : Walked Unit :=
  (labelled label walked.1, walked.2)

variable {walked : Walked Unit} {next : Walker → Walked Unit} {u : Walker}

theorem andThen_eq_ok (h : walked.andThen next = (.ok (), u)) :
    ∃ w, walked = (.ok (), w) ∧ next w = (.ok (), u) := by
  rcases walked with ⟨e | ⟨⟩, w⟩
  · cases h
  · exact ⟨w, rfl, h⟩

theorem inField_eq_ok {label : String} (h : inField label walked = (.ok (), u)) :
    walked = (.ok (), u) := by
  rcases walked with ⟨e | ⟨⟩, w⟩
  · cases h
  · exact h

end Walked

namespace Walker

/-- What a walker has in front of it, as a source that ends there. -/
def source (w : Walker) : Source :=
  ⟨w.remaining, w.position, .ended⟩

/-- A walker passes bytes as a source gives them. -/
theorem advance_cases (w : Walker) (n : Nat) (kind : Kind) :
    (∃ bytes u, w.source.exact n = (.ok bytes, source u) ∧ w.advance n kind = (.ok (), u)) ∨
      ∃ t, w.source.exact n = (.error .ended, t) ∧
        w.advance n kind = (.error (.wire (.truncated kind)), w) := by
  simp only [Source.exact, source, advance, dropExact?_eq]
  rcases takeExact? n w.remaining with - | ⟨bytes, rest⟩
  · exact .inr ⟨_, rfl, rfl⟩
  · exact .inl ⟨bytes, ⟨rest, w.position + n⟩, rfl, rfl⟩

theorem readCount_cases (w : Walker) :
    (∃ n u, Missive.readCount w.source = (.ok n, source u) ∧ w.readCount = (.ok n, u)) ∨
      ∃ t, Missive.readCount w.source = (.error (.truncated (.primitive .uint32)), t) ∧
        w.readCount = (.error (.wire (.truncated (.primitive .uint32))), w) := by
  simp only [Missive.readCount, Source.exact, source, readCount]
  rcases takeExact? 4 w.remaining with - | ⟨bytes, rest⟩
  · exact .inr ⟨_, rfl, rfl⟩
  · exact .inl ⟨Bytes.toNat bytes, ⟨rest, w.position + 4⟩, rfl, rfl⟩

theorem skipItems_succ (element : Walker → Walked Unit) (n : Nat) (w : Walker) :
    skipItems element (n + 1) w = (element w).andThen (skipItems element n) := by
  rw [skipItems]
  rcases element w with ⟨_ | _, _⟩ <;> rfl

theorem skipFields_cons (reg : Registry) (element : ElementWalker) (owner : String) (f : Field)
    (rest : List Field) (w : Walker) :
    skipFields reg element owner (f :: rest) w
      = (Walked.inField f.label (skipField reg element owner f w)).andThen
          (skipFields reg element owner rest) := by
  rw [skipFields]
  rcases skipField reg element owner f w with ⟨_ | _, _⟩ <;> rfl

theorem skipElement_primitive (reg : Registry) (budget : Nat) (owner : String) (p : Primitive)
    (w : Walker) : skipElement reg budget owner (.primitive p) w = w.skipPrimitive p := by
  cases budget <;> rfl

theorem skipElement_unresolved {reg : Registry} {owner : String} {type : TypeRef}
    {e : CodecError} (hk : type.kind = .message) (hr : reg.resolve owner type = .error e)
    (budget : Nat) (w : Walker) : skipElement reg budget owner type w = (.error e, w) := by
  cases type with
  | primitive p => cases hk
  | own name | foreign package name => cases budget <;> simp only [skipElement, hr]

theorem skipElement_succ {reg : Registry} {owner : String} {type : TypeRef} {m : Message}
    (hr : reg.resolve owner type = .ok m) (budget : Nat) (w : Walker) :
    skipElement reg (budget + 1) owner type w
      = skipFields reg (skipElement reg budget) m.package m.fields w := by
  cases type with
  | primitive p => cases Registry.kind_of_resolve hr
  | own name | foreign package name => simp only [skipElement, hr]

end Walker

/-! ## Shadows -/

/-- A walk has the outcome of decoding, unless this is an encoding error or has no end. -/
inductive Shadows {α : Type} : Walked Unit → Decoded α → Prop
  | ok (a : α) (w : Walker) : Shadows (.ok (), w) (.ok a, w.source)
  | error (e : CodecError) (w : Walker) (t : Source) : Shadows (.error e, w) (.error e, t)
  | encoding (walked : Walked Unit) {e : CodecError} (t : Source) :
      e.IsEncoding → Shadows walked (.error e, t)
  | endless (walked : Walked Unit) (name : String) (t : Source) :
      Shadows walked (.error (.endless name), t)

namespace Shadows

variable {α β : Type} {walked : Walked Unit} {r : Decoded α}

theorem andThen {walk : Walker → Walked Unit} {next : α → Source → Decoded β}
    (h : Shadows walked r) (hn : ∀ a w, Shadows (walk w) (next a w.source)) :
    Shadows (walked.andThen walk) (Decoded.andThen r next) := by
  cases h with
  | ok a w => exact hn a w
  | error e w t => exact .error e w t
  | encoding _ t he => exact .encoding _ t he
  | endless _ name t => exact .endless _ name t

theorem mapValue (make : α → β) (h : Shadows walked r) :
    Shadows walked (Decoded.mapValue make r) := by
  cases h with
  | ok a w => exact .ok (make a) w
  | error e w t => exact .error e w t
  | encoding _ t he => exact .encoding _ t he
  | endless _ name t => exact .endless _ name t

theorem inField (label : String) (h : Shadows walked r) :
    Shadows (Walked.inField label walked) (Decoded.inField label r) := by
  cases h with
  | ok a w => exact .ok a w
  | error e w t => exact .error (e.inField label) w t
  | encoding _ t he => exact .encoding _ t (he.inField label)
  | endless _ name t => exact .endless _ name t

/-- What is decoded from nothing need not be visited. -/
theorem of_stays {w : Walker} (h : Decoded.Stays r w.source) : Shadows (.ok (), w) r := by
  obtain ⟨result, t⟩ := r
  rcases h with ⟨name, hr⟩ | ⟨a, ha⟩
  · obtain rfl : result = .error (.endless name) := hr
    exact .endless _ name t
  · rw [ha]
    exact .ok a w

end Shadows

namespace Walker

variable {reg : Registry}

theorem skipPrimitive_shadows (budget : Nat) (owner : String) (p : Primitive) (w : Walker) :
    Shadows (w.skipPrimitive p) (reg.decodeElement budget owner (.primitive p) w.source) := by
  rw [Registry.decodeElement_primitive]
  cases hw : p.width with
  | some width =>
    rw [Primitive.read_of_width hw, skipPrimitive, hw]
    rcases w.advance_cases width (.primitive p) with ⟨bytes, u, he, ha⟩ | ⟨t, he, ha⟩
    · simp only [he, ha]
      exact .ok _ u
    · simp only [he, ha]
      exact .error _ w t
  | none =>
    cases p <;> simp only [Primitive.width, reduceCtorEq] at hw
    case string =>
      rw [Primitive.read_string]
      simp only [skipPrimitive, Primitive.width]
      rcases w.readCount_cases with ⟨n, u, hr, hc⟩ | ⟨t, hr, hc⟩
      · simp only [hr, hc]
        rcases u.advance_cases n (.primitive .string) with ⟨bytes, v, he, ha⟩ | ⟨t, he, ha⟩
        · simp only [he, ha]
          cases Text.Utf8.decode bytes with
          | error fault => exact .encoding _ _ ⟨_, fault, rfl, rfl⟩
          | ok text => exact .ok _ v
        · simp only [he, ha]
          exact .error _ u t
      · simp only [hr, hc]
        exact .error _ w t

/-! ## Arrays -/

theorem skipItems_shadows {walk : Walker → Walked Unit} {element : Source → Decoded Value}
    (h : ∀ w, Shadows (walk w) (element w.source)) (n : Nat) (w : Walker) :
    Shadows (skipItems walk n w) (decodeItems element n [] w.source) := by
  induction n generalizing w with
  | zero => exact .ok [] w
  | succ n ih =>
    rw [skipItems_succ, decodeItems_succ]
    exact (h w).andThen fun v u => (ih u).mapValue (v :: ·)

/-- Elements of a fixed width are there, one after the other, if their bytes are. -/
theorem decodeItems_of_width (reg : Registry) {p : Primitive} {width : Nat}
    (hw : p.width = some width) (budget : Nat) (owner : String) (n : Nat) (s : Source) :
    (∃ bytes items t, s.exact (n * width) = (.ok bytes, t) ∧
        decodeItems (reg.decodeElement budget owner (.primitive p)) n [] s = (.ok items, t)) ∨
      ∃ stop t u, s.exact (n * width) = (.error stop, t) ∧
        decodeItems (reg.decodeElement budget owner (.primitive p)) n [] s
          = (.error (.wire (stop.error (.primitive p))), u) := by
  induction n generalizing s with
  | zero =>
    have h := Source.exact_of_reads (.refl s)
    exact .inl ⟨[], [], s, by rwa [Nat.zero_mul], rfl⟩
  | succ n ih =>
    rw [Nat.succ_mul, Nat.add_comm, Source.exact_add, decodeItems_succ,
      Registry.decodeElement_primitive, Primitive.read_of_width hw]
    rcases s.exact width with ⟨stop | a, t⟩
    · exact .inr ⟨stop, t, t, rfl, rfl⟩
    · rcases ih t with ⟨b, items, u, hb, hi⟩ | ⟨stop, u, v, hb, hi⟩
      · exact .inl ⟨a ++ b, _, u, by simp only [hb], by rw [Decoded.andThen_ok, hi]; rfl⟩
      · exact .inr ⟨stop, u, v, by simp only [hb], by rw [Decoded.andThen_ok, hi]; rfl⟩

/-- One jump over elements of a fixed width comes to the same as a step over each. -/
theorem advance_shadows {p : Primitive} {width : Nat} (hw : p.width = some width)
    (budget : Nat) (owner : String) (n : Nat) (w : Walker) :
    Shadows (w.advance (n * width) (.primitive p))
      (decodeItems (reg.decodeElement budget owner (.primitive p)) n [] w.source) := by
  have hitems := decodeItems_of_width reg hw budget owner n w.source
  rcases w.advance_cases (n * width) (.primitive p) with ⟨bytes, u, he, ha⟩ | ⟨t, he, ha⟩
  · rcases hitems with ⟨b, items, t, hb, hi⟩ | ⟨stop, t, v, hb, -⟩
    · obtain rfl : u.source = t := congrArg Prod.snd (he.symm.trans hb)
      rw [ha, hi]
      exact .ok items u
    · cases he.symm.trans hb
  · rcases hitems with ⟨b, items, t', hb, -⟩ | ⟨stop, t', v, hb, hi⟩
    · cases he.symm.trans hb
    · cases he.symm.trans hb
      rw [ha, hi]
      exact .error _ w v

section

variable {budget : Nat} (shadows : ∀ owner type w,
  Shadows (skipElement reg budget owner type w) (reg.decodeElement budget owner type (source w)))

include shadows

/-- The count of an array is judged in the same way, and the elements are passed, if not always
visited. -/
theorem skipArray_shadows (owner : String) (f : Field) (n : Nat) (w : Walker) :
    Shadows (skipArray reg (skipElement reg budget) owner f n w)
      (Decoded.andThen (admitCount reg owner f n, w.source) fun _ t =>
        decodeItems (reg.decodeElement budget owner f.type) n [] t) := by
  simp only [skipArray, admitCount]
  split
  · exact .error _ w _
  · cases he : reg.isEmptyElement owner f.type with
    | error e => exact .error e w _
    | ok empty =>
      cases empty with
      | true =>
        have hweightless := Registry.isEmptyWithin_eq_true_iff.1 he
        simp only
        cases checkEmptyElements n with
        | error e => exact .error _ w _
        | ok _ =>
          exact .of_stays (decodeItems_stays
            (Registry.decodeElement_stays hweightless budget w.source) n)
      | false =>
        simp only [Decoded.andThen_ok]
        cases hk : f.kind.width with
        | none => exact skipItems_shadows (shadows owner f.type) n w
        | some width =>
          obtain ⟨p, ht, hw⟩ := TypeRef.eq_primitive_of_width hk
          rw [Field.kind, ht]
          exact advance_shadows hw budget owner n w

theorem skipField_shadows (owner : String) (f : Field) (w : Walker) :
    Shadows (skipField reg (skipElement reg budget) owner f w)
      (decodeField reg (reg.decodeElement budget) owner f w.source) := by
  cases ha : f.shape.isArray with
  | false =>
    rw [decodeField_single reg _ owner ha]
    simp only [skipField, ha]
    exact shadows owner f.type w
  | true =>
    rw [decodeField_array reg _ owner ha]
    refine Shadows.mapValue Value.list ?_
    simp only [skipField, ha, if_true, decodeArray, decodeCount]
    rcases w.readCount_cases with ⟨n, u, hr, hc⟩ | ⟨t, hr, hc⟩
    · simp only [hr, hc]
      exact skipArray_shadows shadows owner f n u
    · simp only [hr, hc]
      exact .error _ w t

theorem skipFields_shadows (owner : String) (fields : List Field) (members : Members)
    (w : Walker) :
    Shadows (skipFields reg (skipElement reg budget) owner fields w)
      (decodeFields reg (reg.decodeElement budget) owner fields members w.source) := by
  induction fields generalizing members w with
  | nil => exact .ok members w
  | cons f rest ih =>
    rw [skipFields_cons, decodeFields_step]
    exact ((skipField_shadows shadows owner f w).inField f.label).andThen fun v u => ih _ u

end

/-- Whatever the type, an element is passed as it is decoded. -/
theorem skipElement_shadows (reg : Registry) (budget : Nat) (owner : String) (type : TypeRef)
    (w : Walker) :
    Shadows (skipElement reg budget owner type w)
      (reg.decodeElement budget owner type w.source) := by
  rcases reg.type_cases owner type with ⟨p, rfl⟩ | ⟨e, hk, he⟩ | ⟨m, hm⟩
  · rw [skipElement_primitive]
    exact skipPrimitive_shadows budget owner p w
  · rw [skipElement_unresolved hk he, Registry.decodeElement_unresolved hk he]
    exact .error e w _
  · cases budget with
    | zero =>
      rw [Registry.decodeElement_zero hm]
      exact .endless _ _ _
    | succ budget =>
      rw [skipElement_succ hm, Registry.decodeElement_succ hm]
      exact (skipFields_shadows (skipElement_shadows reg budget) m.package m.fields [] w).mapValue _

end Walker

/-! ## Whole messages -/

namespace Registry

variable {reg : Registry} {name : String} {bytes : Bytes}

theorem extent_of_find? {m : Message} (hm : reg.find? name = some m) :
    reg.extent name bytes
      = (Walker.skipFields reg (Walker.skipElement reg (reg.nestingBudget bytes.length)) m.package
          m.fields (.ofBytes bytes)).1.map fun _ =>
            (Walker.skipFields reg (Walker.skipElement reg (reg.nestingBudget bytes.length))
              m.package m.fields (.ofBytes bytes)).2.position := by
  simp only [extent, Walker.skipMessage, hm, Walker.ofBytes]
  rcases Walker.skipFields reg _ m.package m.fields _ with ⟨_ | _, _⟩ <;> rfl

/-- Decoding that comes to an end succeeds where the walk does, or fails with its error or with one
that it does not see. -/
theorem extent_cases (finishes : reg.Finishes name bytes) :
    (∃ n members, reg.decode name bytes = (n, .ok members) ∧ reg.extent name bytes = .ok n) ∨
      ∃ n e, reg.decode name bytes = (n, .error e) ∧
        (reg.extent name bytes = .error e ∨ e.IsEncoding) := by
  have hends := finishes_iff.1 finishes
  cases hm : reg.find? name with
  | none =>
    refine .inr ⟨0, .unknownMessage name, ?_, .inl ?_⟩
    · simp only [decode, hm]
    · simp only [extent, Walker.skipMessage, hm]
  | some m =>
    have h : Shadows _ (reg.decodeMessage (reg.nestingBudget bytes.length) m (.ofBytes bytes)) :=
      Walker.skipFields_shadows (Walker.skipElement_shadows reg _) m.package m.fields []
        (.ofBytes bytes)
    rw [decode_eq_decodeWithin] at hends ⊢
    simp only [decodeWithin, hm] at hends ⊢
    rw [extent_of_find? hm]
    generalize reg.decodeMessage (reg.nestingBudget bytes.length) m (.ofBytes bytes) = r
      at h hends ⊢
    generalize Walker.skipFields reg _ m.package m.fields (.ofBytes bytes) = walked at h ⊢
    cases h with
    | ok members w => exact .inl ⟨w.position, members, rfl, rfl⟩
    | error e w t => exact .inr ⟨t.consumed, e, rfl, .inl rfl⟩
    | encoding _ t he => exact .inr ⟨t.consumed, _, rfl, .inr he⟩
    | endless _ around t => exact absurd rfl (hends around)

/-- **The extent walk agrees with decoding**, on every byte string on which decoding comes to an
end: it finds the number of bytes that decoding consumes, and every error of decoding other than a
text that is none. -/
theorem extent_matches_decode (finishes : reg.Finishes name bytes) :
    (∀ n members, reg.decode name bytes = (n, .ok members) → reg.extent name bytes = .ok n) ∧
      (∀ n e, reg.decode name bytes = (n, .error e) → ¬e.IsEncoding →
        reg.extent name bytes = .error e) ∧
      (∀ n, reg.extent name bytes = .ok n →
        (∃ members, reg.decode name bytes = (n, .ok members)) ∨
          ∃ k e, reg.decode name bytes = (k, .error e) ∧ e.IsEncoding) ∧
      ∀ e, reg.extent name bytes = .error e →
        ∃ n e', reg.decode name bytes = (n, .error e') ∧ (e' = e ∨ e'.IsEncoding) := by
  rcases extent_cases finishes with ⟨n, members, hd, hx⟩ | ⟨n, e, hd, hx⟩
  · refine ⟨fun k out h => ?_, fun k e h => ?_, fun k h => ?_, fun e h => ?_⟩
    · cases hd.symm.trans h
      exact hx
    · cases hd.symm.trans h
    · cases hx.symm.trans h
      exact .inl ⟨members, hd⟩
    · cases hx.symm.trans h
  · refine ⟨fun k out h => ?_, fun k e' h hseen => ?_, fun k h => ?_, fun e' h => ?_⟩
    · cases hd.symm.trans h
    · cases hd.symm.trans h
      exact hx.resolve_right hseen
    · rcases hx with hx | hx
      · cases hx.symm.trans h
      · exact .inr ⟨n, e, hd, hx⟩
    · rcases hx with hx | hx
      · cases hx.symm.trans h
        exact ⟨n, e, hd, .inl rfl⟩
      · exact ⟨n, e, hd, .inr hx⟩

end Registry

/-- A whole tree with a byte behind it, and one that ends inside the tree below it. -/
theorem Forest.extent_grove :
    registry.Finishes "forest/Tree" (grove ++ [7]) ∧
      registry.extent "forest/Tree" (grove ++ [7]) = .ok 28 ∧
      registry.Finishes "forest/Tree" (grove.take 20) ∧
      registry.extent "forest/Tree" (grove.take 20) = .error
        (.wire (.inField "Below" (.inField "Marks" (.truncated (.primitive .uint32))))) := by
  have hwhole : registry.Finishes "forest/Tree" (grove ++ [7]) := by
    rw [Registry.finishes_iff]
    intro around h
    cases h
  have hpart : registry.Finishes "forest/Tree" (grove.take 20) := by
    rw [Registry.finishes_iff]
    intro around h
    cases h
  obtain ⟨hok, -⟩ := Registry.extent_matches_decode hwhole
  obtain ⟨-, herror, -⟩ := Registry.extent_matches_decode hpart
  refine ⟨hwhole, hok 28 _ rfl, hpart, herror 20 _ rfl ?_⟩
  rintro ⟨inner, fault, h, hroot⟩
  cases h
  cases hroot

end Missive
