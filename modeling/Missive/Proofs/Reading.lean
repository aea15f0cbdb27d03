import Missive.Wire.Element
/-!
# Reading from the front of a source

What a read takes off a source, and what the elements that it yields have to do with the bytes
taken.

* `Except.map_eq_ok_iff`, `Except.mapError_eq_ok_iff`, `Except.bind_eq_ok_iff` -- results that are
  carried over, or go into another step;
* `Source.Reads`, `Source.Passes` -- the bytes between a source and what is left of it, with
  `Reads.append` and `Reads.split` to put reads together and to take them apart;
* `readCount_of_reads`, `reads_of_readCount` -- a count is read exactly where it was written;
* `Datum.ofBytes`, `Primitive.read_of_width` -- the elements of a fixed width, as a function of
  their bytes;
* `Datum.read_of_encode` -- an element is read back from its encoding;
* `Primitive.reads_of_read` -- whatever is read is encoded as the bytes it was read from, up to the
  one truth value that has more than one form (`canonicalBytes`).
-/

namespace Missive

/-! ## Results -/

namespace Except

variable {ε δ α β : Type}

@[simp]
theorem mapError_ok (f : ε → δ) (a : α) : (Except.ok a).mapError f = .ok a := rfl

@[simp]
theorem mapError_error (f : ε → δ) (e : ε) :
    (Except.error e : Except ε α).mapError f = .error (f e) := rfl

theorem mapError_eq_ok_iff {f : ε → δ} {x : Except ε α} {a : α} :
    x.mapError f = .ok a ↔ x = .ok a := by
  cases x <;> simp

theorem map_eq_ok_iff {f : α → β} {x : Except ε α} {b : β} :
    x.map f = .ok b ↔ ∃ a, x = .ok a ∧ f a = b := by
  cases x <;> simp [Except.map]

/-- A step that depends on another succeeds with what both succeed with. -/
theorem bind_eq_ok_iff {x : Except ε α} {next : α → Except ε β} {b : β} :
    x >>= next = .ok b ↔ ∃ a, x = .ok a ∧ next a = .ok b := by
  cases x <;> simp [bind, Except.bind]

end Except

/-! ## Sources -/

namespace Source

/-- Taking these bytes off the front of `s` leaves `t`. -/
structure Reads (s : Source) (bytes : Bytes) (t : Source) : Prop where
  pending : s.pending = bytes ++ t.pending
  consumed : t.consumed = s.consumed + bytes.length
  stop : t.stop = s.stop

namespace Reads

variable {s t u : Source} {a b : Bytes}

theorem refl (s : Source) : s.Reads [] s :=
  ⟨rfl, rfl, rfl⟩

theorem append (h : s.Reads a t) (k : t.Reads b u) : s.Reads (a ++ b) u where
  pending := by rw [h.pending, k.pending, List.append_assoc]
  consumed := by rw [k.consumed, h.consumed, List.length_append, Nat.add_assoc]
  stop := k.stop.trans h.stop

/-- A read of two pieces passes through the source between them. -/
theorem split (h : s.Reads (a ++ b) u) : ∃ t, s.Reads a t ∧ t.Reads b u := by
  refine ⟨⟨b ++ u.pending, s.consumed + a.length, s.stop⟩, ⟨?_, rfl, rfl⟩, ⟨rfl, ?_, h.stop⟩⟩
  · rw [h.pending, List.append_assoc]
  · rw [h.consumed, List.length_append, Nat.add_assoc]

theorem length_pending (h : s.Reads a t) : s.pending.length = a.length + t.pending.length := by
  rw [h.pending, List.length_append]

/-- Two reads of the same length are the same read. -/
theorem unique (h : s.Reads a t) (k : s.Reads b u) (hl : a.length = b.length) : a = b ∧ t = u := by
  have hab : a ++ t.pending = b ++ u.pending := h.pending.symm.trans k.pending
  obtain ⟨rfl, hp⟩ := List.append_inj hab hl
  refine ⟨rfl, ?_⟩
  obtain ⟨tp, tc, ts⟩ := t
  obtain ⟨up, uc, us⟩ := u
  have hc : tc = uc := h.consumed.trans k.consumed.symm
  have hs : ts = us := h.stop.trans k.stop.symm
  have hp : tp = up := hp
  rw [hp, hc, hs]

end Reads

/-- The first bytes of a byte string are read off its front. -/
theorem reads_front (bytes rest : Bytes) :
    (ofBytes (bytes ++ rest)).Reads bytes ⟨rest, bytes.length, .ended⟩ :=
  ⟨rfl, (Nat.zero_add _).symm, rfl⟩

theorem reads_all (bytes : Bytes) : (ofBytes bytes).Reads bytes ⟨[], bytes.length, .ended⟩ := by
  simpa using reads_front bytes []

/-- `t` is where `s` is, or further along. -/
def Passes (s t : Source) : Prop :=
  ∃ bytes, s.Reads bytes t

namespace Passes

variable {s t u : Source}

theorem refl (s : Source) : s.Passes s :=
  ⟨[], .refl s⟩

theorem trans (h : s.Passes t) (k : t.Passes u) : s.Passes u := by
  obtain ⟨a, ha⟩ := h
  obtain ⟨b, hb⟩ := k
  exact ⟨a ++ b, ha.append hb⟩

theorem length_le (h : s.Passes t) : t.pending.length ≤ s.pending.length := by
  obtain ⟨a, ha⟩ := h
  have := ha.length_pending
  omega

/-- Where a source is after some reads is seen from how much of it is left. -/
theorem eq_of_length (h : s.Passes t) (k : s.Passes u)
    (hl : t.pending.length = u.pending.length) : t = u := by
  obtain ⟨a, ha⟩ := h
  obtain ⟨b, hb⟩ := k
  have ht := ha.length_pending
  have hu := hb.length_pending
  exact (ha.unique hb (by omega)).2

end Passes

theorem exact_of_reads {s t : Source} {bytes : Bytes} (h : s.Reads bytes t) :
    s.exact bytes.length = (.ok bytes, t) := by
  have ht : takeExact? bytes.length s.pending = some (bytes, t.pending) :=
    takeExact?_eq_some_iff.2 ⟨rfl, h.pending⟩
  simp only [exact, ht, ← h.consumed, ← h.stop]

theorem exact_of_short {s : Source} {n : Nat} (h : s.pending.length < n) :
    s.exact n = (.error s.stop, ⟨[], s.consumed + s.pending.length, s.stop⟩) := by
  simp only [exact, takeExact?_eq_none_iff.2 h]

/-- A source gives `n` bytes, or it has fewer and all of them are gone. -/
theorem exact_cases (s : Source) (n : Nat) :
    (∃ bytes t, s.exact n = (.ok bytes, t) ∧ bytes.length = n ∧ s.Reads bytes t) ∨
      (s.pending.length < n ∧
        s.exact n = (.error s.stop, ⟨[], s.consumed + s.pending.length, s.stop⟩) ∧
        s.Reads s.pending ⟨[], s.consumed + s.pending.length, s.stop⟩) := by
  rcases Nat.lt_or_ge s.pending.length n with h | h
  · exact .inr ⟨h, exact_of_short h, by simp, rfl, rfl⟩
  · have hr : s.Reads (s.pending.take n) ⟨s.pending.drop n, s.consumed + n, s.stop⟩ :=
      ⟨by simp, by simp [Nat.min_eq_left h], rfl⟩
    have hl : (s.pending.take n).length = n := by simp [Nat.min_eq_left h]
    have he := exact_of_reads hr
    rw [hl] at he
    exact .inl ⟨_, _, he, hl, hr⟩

/-- Reading two pieces, one after the other, is reading both at once. -/
theorem exact_add (s : Source) (m n : Nat) :
    s.exact (m + n) = match s.exact m with
      | (.error stop, t) => (.error stop, t)
      | (.ok a, t) =>
        match t.exact n with
        | (.error stop, u) => (.error stop, u)
        | (.ok b, u) => (.ok (a ++ b), u) := by
  rcases s.exact_cases m with ⟨a, t, ha, hla, hra⟩ | ⟨hs, ha, -⟩
  · rcases t.exact_cases n with ⟨b, u, hb, hlb, hrb⟩ | ⟨ht, hb, hrb⟩
    · have h := exact_of_reads (hra.append hrb)
      rw [List.length_append, hla, hlb] at h
      simp only [ha, hb, h]
    · have hl := hra.length_pending
      have hc := hra.consumed
      rw [exact_of_short (by omega)]
      simp only [ha, hb, hra.stop]
      rw [show s.consumed + s.pending.length = t.consumed + t.pending.length by omega]
  · rw [exact_of_short (by omega)]
    simp only [ha]

end Source

/-! ## Counts -/

theorem readCount_of_reads {s t : Source} {n : Nat} (hn : n < lengthLimit)
    (h : s.Reads (Bytes.ofNat 4 n) t) : readCount s = (.ok n, t) := by
  have he := Source.exact_of_reads h
  rw [Bytes.length_ofNat] at he
  simp only [readCount, he, Bytes.toNat_ofNat (show n < Nat.pow 256 4 from hn)]

theorem reads_of_readCount {s t : Source} {n : Nat} (h : readCount s = (.ok n, t)) :
    n < lengthLimit ∧ s.Reads (Bytes.ofNat 4 n) t := by
  rcases s.exact_cases 4 with ⟨bytes, u, he, hl, hr⟩ | ⟨-, he, -⟩
  · simp only [readCount, he, Prod.mk.injEq, Except.ok.injEq] at h
    obtain ⟨rfl, rfl⟩ := h
    have hb := Bytes.toNat_lt bytes
    have ho := Bytes.ofNat_toNat bytes
    rw [hl] at hb ho
    exact ⟨hb, by rwa [ho]⟩
  · simp [readCount, he] at h

/-- Where a count cannot be read, the bytes that are left are fewer than its four. -/
theorem readCount_error {s t : Source} {e : WireError} (h : readCount s = (.error e, t)) :
    s.pending.length < 4 ∧ e = s.stop.error (.primitive .uint32) ∧ s.Reads s.pending t := by
  rcases s.exact_cases 4 with ⟨bytes, u, he, -, -⟩ | ⟨hs, he, hr⟩
  · simp [readCount, he] at h
  · simp only [readCount, he, Prod.mk.injEq, Except.error.injEq] at h
    obtain ⟨rfl, rfl⟩ := h
    exact ⟨hs, rfl, hr⟩

theorem readCount_passes (s : Source) : s.Passes (readCount s).2 := by
  rcases h : readCount s with ⟨e | n, t⟩
  · exact ⟨_, (readCount_error h).2.2⟩
  · exact ⟨_, (reads_of_readCount h).2⟩

theorem encodeCount_eq_ok_iff {n : Nat} {bytes : Bytes} :
    encodeCount n = .ok bytes ↔ n < lengthLimit ∧ bytes = Bytes.ofNat 4 n := by
  by_cases h : n < lengthLimit
  · simp [encodeCount, h, eq_comm]
  · simp [encodeCount, h]

/-! ## Elements -/

namespace Datum

/-- The element of a primitive of fixed width that these bytes stand for. -/
def ofBytes (p : Primitive) (bytes : Bytes) : Datum :=
  match p with
  | .bool => bool (bytes.toNat != 0)
  | .int8 => int8 bytes.toNat.toUInt8.toInt8
  | .uint8 => uint8 bytes.toNat.toUInt8
  | .int16 => int16 bytes.toNat.toUInt16.toInt16
  | .uint16 => uint16 bytes.toNat.toUInt16
  | .int32 => int32 bytes.toNat.toUInt32.toInt32
  | .uint32 => uint32 bytes.toNat.toUInt32
  | .int64 => int64 bytes.toNat.toUInt64.toInt64
  | .uint64 => uint64 bytes.toNat.toUInt64
  | .float32 => float32 bytes.toNat.toUInt32
  | .float64 => float64 bytes.toNat.toUInt64
  | .string => string ""
  | .time => time ⟨(Bytes.toNat (bytes.take 4)).toUInt32, (Bytes.toNat (bytes.drop 4)).toUInt32⟩
  | .duration =>
    duration ⟨(Bytes.toNat (bytes.take 4)).toUInt32, (Bytes.toNat (bytes.drop 4)).toUInt32⟩

@[simp]
theorem primitive_ofBytes (p : Primitive) (bytes : Bytes) : (ofBytes p bytes).primitive = p := by
  cases p <;> rfl

/-- For each byte of an element's encoding, whether it stands for a truth value. -/
def boolMask (d : Datum) : List Bool :=
  match d with
  | bool _ => [true]
  | string text => List.replicate (4 + (Text.Utf8.encode text).length) false
  | other => List.replicate (other.primitive.width.getD 0) false

end Datum

/-- The bytes with every truth value among them in the form in which it is written: any byte but
zero is read as true, and true is written as one. -/
def canonicalBytes (mask : List Bool) (bytes : Bytes) : Bytes :=
  List.zipWith (fun truth b => if truth && b != 0 then 1 else b) mask bytes

theorem canonicalBytes_append {m k : List Bool} {a b : Bytes} (h : m.length = a.length) :
    canonicalBytes (m ++ k) (a ++ b) = canonicalBytes m a ++ canonicalBytes k b :=
  List.zipWith_append h

theorem canonicalBytes_replicate (bytes : Bytes) :
    canonicalBytes (List.replicate bytes.length false) bytes = bytes := by
  induction bytes with
  | nil => rfl
  | cons b rest ih => exact congrArg (b :: ·) ih

/-- A byte string that holds no truth values is canonical. -/
theorem canonicalBytes_of_all_false {mask : List Bool} {bytes : Bytes}
    (hl : mask.length = bytes.length) (hm : ∀ m ∈ mask, m = false) :
    canonicalBytes mask bytes = bytes := by
  rw [List.eq_replicate_of_mem hm, hl]
  exact canonicalBytes_replicate bytes

/-! ## Reading elements -/

namespace Datum

/-- What a read into an element amounts to, the element left by a failed read forgotten. -/
def Refilled.outcome (r : Refilled) : Except WireError Datum × Source :=
  (r.status.map fun _ => r.datum, r.source)

theorem outcome_refillNumber (d : Datum) (w : Nat) (make : Nat → Datum) (s : Source) :
    (d.refillNumber w make s).outcome = match s.exact w with
      | (.ok bytes, t) => (.ok (make bytes.toNat), t)
      | (.error stop, t) => (.error (stop.error (.primitive d.primitive)), t) := by
  rcases s.exact_cases w with ⟨a, t, ha, -, -⟩ | ⟨-, ha, -⟩ <;>
    simp only [refillNumber, ha] <;> rfl

/-- Two words that are read one after the other might as well be read at once. -/
theorem outcome_refillPair (d : Datum) (first : UInt32 → Datum) (both : UInt32 → UInt32 → Datum)
    (s : Source) :
    (d.refillPair first both s).outcome = match s.exact 8 with
      | (.ok bytes, t) =>
        (.ok (both (Bytes.toNat (bytes.take 4)).toUInt32 (Bytes.toNat (bytes.drop 4)).toUInt32), t)
      | (.error stop, t) => (.error (stop.error (.primitive d.primitive)), t) := by
  rw [show (8 : Nat) = 4 + 4 from rfl, Source.exact_add]
  rcases s.exact_cases 4 with ⟨a, t, ha, hl, -⟩ | ⟨-, ha, -⟩
  · rcases t.exact_cases 4 with ⟨b, u, hb, -, -⟩ | ⟨-, hb, -⟩
    · simp only [refillPair, ha, hb, List.take_left' hl, List.drop_left' hl]
      rfl
    · simp only [refillPair, ha, hb]
      rfl
  · simp only [refillPair, ha]
    rfl

end Datum

namespace Primitive

theorem read_of_width {p : Primitive} {w : Nat} (h : p.width = some w) (s : Source) :
    p.read s = match s.exact w with
      | (.ok bytes, t) => (.ok (.ofBytes p bytes), t)
      | (.error stop, t) => (.error (stop.error (.primitive p)), t) := by
  cases p <;> simp only [width, Option.some.injEq, reduceCtorEq] at h <;> subst h
  case time | duration => exact Datum.outcome_refillPair _ _ _ s
  all_goals exact Datum.outcome_refillNumber _ _ _ s

theorem read_string (s : Source) :
    Primitive.string.read s = match readCount s with
      | (.error e, t) => (.error e, t)
      | (.ok n, t) =>
        match t.exact n with
        | (.error stop, u) => (.error (stop.error (.primitive .string)), u)
        | (.ok bytes, u) =>
          match Text.Utf8.decode bytes with
          | .error fault => (.error (.encoding fault), u)
          | .ok text => (.ok (.string text), u) := by
  simp only [read, Datum.zero, Datum.refill, Datum.refillString]
  rcases readCount s with ⟨_ | n, t⟩
  · rfl
  · rcases t.exact_cases n with ⟨bytes, u, hb, -, -⟩ | ⟨-, hb, -⟩
    · simp only [hb]
      cases Text.Utf8.decode bytes <;> rfl
    · simp only [hb]
      rfl

end Primitive

namespace Datum

/-- A word holds all of the bytes it was made of. -/
theorem ofNat_toNat_mod {bytes : Bytes} {width size : Nat} (hl : bytes.length = width)
    (hs : Nat.pow 256 width = size) : Bytes.ofNat width (bytes.toNat % size) = bytes := by
  have hlt := Bytes.toNat_lt bytes
  rw [hl, hs] at hlt
  rw [Nat.mod_eq_of_lt hlt, ← hl]
  exact Bytes.ofNat_toNat bytes

/-- Writing back what bytes stand for gives these bytes in their canonical form. -/
theorem encode_ofBytes {p : Primitive} {bytes : Bytes} (h : p.width = some bytes.length) :
    (ofBytes p bytes).encode = .ok (canonicalBytes (ofBytes p bytes).boolMask bytes) ∧
      (ofBytes p bytes).boolMask.length = bytes.length := by
  have hc := canonicalBytes_replicate bytes
  cases p <;> simp only [Primitive.width, Option.some.injEq, reduceCtorEq] at h <;>
    rw [← h] at hc
  case bool =>
    obtain ⟨b, rfl⟩ := List.length_eq_one_iff.1 h.symm
    by_cases hz : b = 0
    · simp [ofBytes, encode, boolMask, canonicalBytes, Bytes.toNat, hz]
    · have hn : b.toNat ≠ 0 := fun hn => hz (UInt8.toNat_inj.1 hn)
      simp [ofBytes, encode, boolMask, canonicalBytes, Bytes.toNat, hz, hn]
  case time | duration =>
    have ht : Bytes.ofNat 4 (Bytes.toNat (bytes.take 4) % 4294967296) = bytes.take 4 :=
      ofNat_toNat_mod (by simp [← h]) rfl
    have hd : Bytes.ofNat 4 (Bytes.toNat (bytes.drop 4) % 4294967296) = bytes.drop 4 :=
      ofNat_toNat_mod (by simp [← h]) rfl
    refine ⟨?_, by simp [ofBytes, boolMask, primitive, Primitive.width, ← h]⟩
    simp only [ofBytes, encode, boolMask, primitive, Primitive.width, Option.getD_some, hc]
    simp [ht, hd]
  all_goals
    refine ⟨?_, by simp [ofBytes, boolMask, primitive, Primitive.width, ← h]⟩
    simp only [ofBytes, encode, boolMask, primitive, Primitive.width, Option.getD_some, hc]
    simpa using ofNat_toNat_mod h.symm rfl

/-- An element of fixed width is what its encoding stands for. -/
theorem ofBytes_of_encode {d : Datum} {w : Nat} (h : d.primitive.width = some w) :
    ∃ bytes, d.encode = .ok bytes ∧ bytes.length = w ∧ ofBytes d.primitive bytes = d := by
  cases d <;> simp only [primitive, Primitive.width, Option.some.injEq, reduceCtorEq] at h <;>
    subst h
  case bool b => cases b <;> exact ⟨_, rfl, rfl, rfl⟩
  all_goals refine ⟨_, rfl, by simp, ?_⟩
  all_goals simp only [ofBytes, primitive]
  case int8 | uint8 =>
    rw [Bytes.toNat_ofNat (UInt8.toNat_lt _)]
    simp
  case int16 | uint16 =>
    rw [Bytes.toNat_ofNat (UInt16.toNat_lt _)]
    simp
  case int32 | uint32 | float32 =>
    rw [Bytes.toNat_ofNat (UInt32.toNat_lt _)]
    simp
  case int64 | uint64 | float64 =>
    rw [Bytes.toNat_ofNat (UInt64.toNat_lt _)]
    simp
  case time | duration =>
    rw [List.take_left' (by simp), List.drop_left' (by simp),
      Bytes.toNat_ofNat (UInt32.toNat_lt _), Bytes.toNat_ofNat (UInt32.toNat_lt _)]
    simp

/-- An element is read back from its encoding, whatever comes after it. -/
theorem read_of_encode {d : Datum} {bytes : Bytes} {s t : Source} (h : d.encode = .ok bytes)
    (hr : s.Reads bytes t) : d.primitive.read s = (.ok d, t) := by
  cases hw : d.primitive.width with
  | some w =>
    obtain ⟨b, hb, rfl, ho⟩ := ofBytes_of_encode hw
    obtain rfl : b = bytes := by rwa [h, Except.ok.injEq, eq_comm] at hb
    rw [Primitive.read_of_width hw, Source.exact_of_reads hr]
    simp only [ho]
  | none =>
    cases d <;> simp only [primitive, Primitive.width, reduceCtorEq] at hw
    case string text =>
      simp only [encode] at h
      cases hc : encodeCount (Text.Utf8.encode text).length with
      | error e => simp [hc, Except.map] at h
      | ok count =>
        obtain ⟨hlt, rfl⟩ := encodeCount_eq_ok_iff.1 hc
        simp only [hc, Except.map, Except.ok.injEq] at h
        obtain ⟨u, hcount, hbody⟩ := (h ▸ hr).split
        simp only [primitive, Primitive.read_string, readCount_of_reads hlt hcount,
          Source.exact_of_reads hbody, Text.Utf8.decode_encode]

end Datum

namespace Primitive

theorem reads_of_read_string {d : Datum} {s t : Source}
    (h : Primitive.string.read s = (.ok d, t)) :
    ∃ bytes, s.Reads bytes t ∧ d.primitive = .string ∧
      d.encode = .ok (canonicalBytes d.boolMask bytes) ∧ d.boolMask.length = bytes.length := by
  rw [read_string] at h
  rcases hc : readCount s with ⟨_ | n, u⟩
  · simp [hc] at h
  · obtain ⟨hlt, hcount⟩ := reads_of_readCount hc
    simp only [hc] at h
    rcases u.exact_cases n with ⟨body, v, he, hl, hbody⟩ | ⟨-, he, -⟩
    · simp only [he] at h
      cases hd : Text.Utf8.decode body with
      | error fault => simp [hd] at h
      | ok text =>
        simp only [hd, Prod.mk.injEq, Except.ok.injEq] at h
        obtain ⟨rfl, rfl⟩ := h
        have hb := Text.Utf8.encode_of_decode hd
        have hm : (Datum.string text).boolMask.length = (Bytes.ofNat 4 n ++ body).length := by
          simp [Datum.boolMask, hb]
        have hf := canonicalBytes_of_all_false hm fun m h => List.eq_of_mem_replicate h
        refine ⟨_, hcount.append hbody, rfl, ?_, hm⟩
        rw [hf, Datum.encode, hb, encodeCount_eq_ok_iff.2 ⟨hl ▸ hlt, rfl⟩, hl]
        rfl
    · simp [he] at h

/-- Whatever is read is encoded as the bytes it was read from, in their canonical form. -/
theorem reads_of_read {p : Primitive} {d : Datum} {s t : Source} (h : p.read s = (.ok d, t)) :
    ∃ bytes, s.Reads bytes t ∧ d.primitive = p ∧
      d.encode = .ok (canonicalBytes d.boolMask bytes) ∧ d.boolMask.length = bytes.length := by
  cases hw : p.width with
  | some w =>
    rw [read_of_width hw] at h
    rcases s.exact_cases w with ⟨bytes, u, he, rfl, hr⟩ | ⟨-, he, -⟩
    · simp only [he, Prod.mk.injEq, Except.ok.injEq] at h
      obtain ⟨rfl, rfl⟩ := h
      exact ⟨bytes, hr, Datum.primitive_ofBytes p bytes, Datum.encode_ofBytes hw⟩
    · simp [he] at h
  | none =>
    cases p <;> simp only [width, reduceCtorEq] at hw
    case string => exact reads_of_read_string h

/-- A read takes bytes off the front of its source, also if it fails. -/
theorem read_passes (p : Primitive) (s : Source) : s.Passes (p.read s).2 := by
  cases hw : p.width with
  | some w =>
    rw [read_of_width hw]
    rcases s.exact_cases w with ⟨bytes, u, he, -, hr⟩ | ⟨-, he, hr⟩
    · exact ⟨bytes, by simpa only [he] using hr⟩
    · exact ⟨s.pending, by simpa only [he] using hr⟩
  | none =>
    cases p <;> simp only [width, reduceCtorEq] at hw
    case string =>
      rw [read_string]
      rcases hc : readCount s with ⟨e | n, u⟩
      · exact ⟨s.pending, (readCount_error hc).2.2⟩
      · have hcount := (reads_of_readCount hc).2
        simp only
        rcases u.exact_cases n with ⟨body, v, he, -, hbody⟩ | ⟨-, he, hbody⟩
        · simp only [he]
          exact ⟨_, by cases Text.Utf8.decode body <;> exact hcount.append hbody⟩
        · simp only [he]
          exact ⟨_, hcount.append hbody⟩

end Primitive

end Missive
