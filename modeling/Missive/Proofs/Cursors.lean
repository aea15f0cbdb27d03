import Missive.Proofs.Boundaries
import Missive.Proofs.Termination
/-!
# Walking with machine words

A walker counts its bytes with numbers that have no bound.  A cursor keeps its place as a word of 64
bits in a byte string, and looks at each calculation: one that a word cannot hold, or a slice from
behind the end, is the end of the walk.  In a byte string as long as one can be in memory, this
never happens: whatever is called, in whatever order and with whatever outcome, the cursor is where
the walker is, and that is never outside of the byte string nor further back than before.

* `Overrun`, `hold` -- calculations that may leave the range of a word;
* `Cursor`, `Cursor.skipElement`, `Cursor.skipMessage` -- the walk, with each of them looked at;
* `Walker.Within`, `Walker.inWords` -- a walker over a byte string, and the cursor in its place;
* `Follows` -- the invariant: a cursor does what a walker does, which goes forward and stays inside;
* `Cursor.skipElement_follows`, `Cursor.skipMessage_follows` -- elements and messages;
* `Walker.calls_stay_within` -- any sequence of calls.
-/

namespace Missive

theorem takeExact?_of_le {α : Type} {n : Nat} {items : List α} (h : n ≤ items.length) :
    takeExact? n items = some (items.take n, items.drop n) :=
  takeExact?_eq_some_iff.2 ⟨List.length_take_of_le h, (List.take_append_drop n items).symm⟩

/-- No element of a fixed width has more than eight bytes. -/
theorem Primitive.width_le {p : Primitive} {width : Nat} (h : p.width = some width) :
    width ≤ 8 := by
  cases p <;> cases h <;> decide

/-! ## Calculations -/

/-- What may go wrong with the place of a cursor. -/
inductive Overrun where
  /-- A word does not hold the place where a count ends. -/
  | countEnd
  /-- The number of bytes left would be negative. -/
  | bytesLeft
  /-- A word does not hold the place after a step. -/
  | step
  /-- A word does not hold the number of bytes in an array. -/
  | arraySize
  /-- The number of bytes passed would be negative. -/
  | bytesPassed
  /-- A slice begins or ends behind the end of the byte string. -/
  | slice
  deriving DecidableEq, Repr

/-- What is calculated with words, unless that goes wrong. -/
abbrev Checked := Except Overrun

theorem Checked.ok_bind {α β : Type} (a : α) (next : α → Checked β) :
    (.ok a >>= next : Checked β) = next a := rfl

/-- The exact outcome of a calculation, if a word holds it. -/
def hold (o : Overrun) (n : Int) : Checked UInt64 :=
  if 0 ≤ n ∧ n < UInt64.size then .ok (UInt64.ofNat n.toNat) else .error o

theorem hold_of_lt (o : Overrun) {n : Int} {k : Nat} (hn : n = k) (hk : k < UInt64.size) :
    hold o n = .ok (UInt64.ofNat k) := by
  subst hn
  rw [hold, if_pos ⟨Int.natCast_nonneg k, Int.ofNat_lt.2 hk⟩, Int.toNat_natCast]

/-! ## Cursors -/

/-- A place in a byte string. -/
structure Cursor where
  data : Bytes
  position : UInt64
  deriving DecidableEq, Repr

/-- A step of a cursor: whether it succeeded, and the cursor after it. -/
abbrev Moved (α : Type) := Except CodecError α × Cursor

/-- How a cursor passes one element of a type of a package. -/
abbrev ElementCursor := String → TypeRef → Cursor → Checked (Moved Unit)

namespace Moved

/-- The next step, if the one before succeeded. -/
def andThen {α β : Type} (moved : Checked (Moved α)) (next : α → Cursor → Checked (Moved β)) :
    Checked (Moved β) := do
  match ← moved with
  | (.error e, c) => return (.error e, c)
  | (.ok a, c) => next a c

/-- Adds the label of a field to an error. -/
def inField (label : String) (moved : Checked (Moved Unit)) : Checked (Moved Unit) := do
  let (result, c) ← moved
  return (labelled label result, c)

end Moved

namespace Cursor

/-- A cursor at the start of a byte string. -/
def ofBytes (bytes : Bytes) : Cursor := ⟨bytes, 0⟩

/-- The bytes not yet passed. -/
def remaining (c : Cursor) : Checked Bytes :=
  if c.position.toNat ≤ c.data.length then .ok (c.data.drop c.position.toNat) else .error .slice

/-- Moves on by `n` bytes. -/
def move (c : Cursor) (n : UInt64) : Checked Cursor := do
  let position ← hold .step (c.position.toNat + n.toNat)
  return { c with position }

/-- Passes `n` bytes of an element of this kind; if there are not as many, the cursor stays. -/
def advance (c : Cursor) (n : UInt64) (kind : Kind) : Checked (Moved Unit) := do
  let left ← hold .bytesLeft (c.data.length - c.position.toNat)
  if left < n then
    return (.error (.wire (.truncated kind)), c)
  return (.ok (), ← c.move n)

/-- Reads a length or a count; if it is not all there, the cursor stays. -/
def readCount (c : Cursor) : Checked (Moved UInt64) := do
  let stop ← hold .countEnd (c.position.toNat + 4)
  if c.data.length < stop.toNat then
    return (.error (.wire (.truncated (.primitive .uint32))), c)
  match takeExact? 4 (← c.remaining) with
  | some (bytes, _) => return (.ok (UInt64.ofNat (Bytes.toNat bytes)), ← c.move 4)
  | none => throw .slice

/-- A place so far behind the end that there is no word for the end of a count. -/
example : readCount ⟨[], 18446744073709551614⟩ = .error .countEnd := by decide

/-- Passes one element of a primitive. -/
def skipPrimitive (c : Cursor) (p : Primitive) : Checked (Moved Unit) :=
  match p.width with
  | some width => c.advance (UInt64.ofNat width) (.primitive p)
  | none => Moved.andThen c.readCount fun length c => c.advance length (.primitive p)

/-- Passes `n` elements. -/
def skipItems (element : Cursor → Checked (Moved Unit)) : Nat → Cursor → Checked (Moved Unit)
  | 0, c => .ok (.ok (), c)
  | n + 1, c => Moved.andThen (element c) fun _ c => skipItems element n c

/-- Passes the elements of an array, after its count. -/
def skipArray (reg : Registry) (element : ElementCursor) (owner : String) (f : Field)
    (count : UInt64) (c : Cursor) : Checked (Moved Unit) :=
  if f.shape.isFixed && count.toNat != f.shape.count then
    .ok (.error (.wire (.arrayLength f.shape.count count.toNat)), c)
  else
    match reg.isEmptyElement owner f.type with
    | .error e => .ok (.error e, c)
    | .ok true => .ok ((checkEmptyElements count.toNat).mapError .wire, c)
    | .ok false =>
      match f.kind.width with
      | some width => do c.advance (← hold .arraySize (count.toNat * width)) f.kind
      | none => skipItems (element owner f.type) count.toNat c

/-- Passes a field of a message of package `owner`. -/
def skipField (reg : Registry) (element : ElementCursor) (owner : String) (f : Field)
    (c : Cursor) : Checked (Moved Unit) :=
  if f.shape.isArray then
    Moved.andThen c.readCount fun count c => skipArray reg element owner f count c
  else element owner f.type c

/-- Passes the fields of a message, one after the other. -/
def skipFields (reg : Registry) (element : ElementCursor) (owner : String) :
    List Field → Cursor → Checked (Moved Unit)
  | [], c => .ok (.ok (), c)
  | f :: rest, c =>
    Moved.andThen (Moved.inField f.label (skipField reg element owner f c)) fun _ c =>
      skipFields reg element owner rest c

/-- Passes one element, through at most `depth` nested messages. -/
def skipElement (reg : Registry) : Nat → ElementCursor
  | depth, owner, type, c =>
    match type with
    | .primitive p => c.skipPrimitive p
    | _ =>
      match reg.resolve owner type with
      | .error e => .ok (.error e, c)
      | .ok m =>
        match depth with
        | 0 => .ok (.error (.endless m.fullName), c)
        | depth + 1 => skipFields reg (skipElement reg depth) m.package m.fields c

/-- Passes one message of this name, through at most `depth` messages nested in it, and says how
many bytes it occupies. -/
def skipMessage (reg : Registry) (depth : Nat) (c : Cursor) (name : String) : Checked (Moved Nat) :=
  match reg.find? name with
  | none => .ok (.error (.unknownMessage name), c)
  | some m =>
    Moved.andThen (skipFields reg (skipElement reg depth) m.package m.fields c) fun _ after => do
      let passed ← hold .bytesPassed (after.position.toNat - c.position.toNat)
      return (.ok passed.toNat, after)

/-- Passes messages of these names, one after the other, each from where the one before has left the
cursor. -/
def skipMessages (reg : Registry) : List String → Cursor →
    Checked (List (Except CodecError Nat) × Cursor)
  | [], c => .ok ([], c)
  | name :: names, c => do
    let depth := reg.nestingBudget (← c.remaining).length
    let (answer, next) ← c.skipMessage reg depth name
    let (answers, last) ← skipMessages reg names next
    return (answer :: answers, last)

end Cursor

/-! ## A walker and a cursor -/

/-- The largest number of bytes that a byte string in memory can have. -/
def memoryLimit : Nat := 2 ^ 63 - 1

namespace Walker

/-- A walker is somewhere in a byte string, with the rest of it in front. -/
structure Within (data : Bytes) (w : Walker) : Prop where
  position_le : w.position ≤ data.length
  remaining_eq : w.remaining = data.drop w.position

/-- The cursor in a walker's place. -/
def inWords (data : Bytes) (w : Walker) : Cursor :=
  ⟨data, UInt64.ofNat w.position⟩

/-- Passes one message of this name, through at most `depth` messages nested in it. -/
def skipMessageWithin (reg : Registry) (depth : Nat) (w : Walker) (name : String) : Walked Nat :=
  match reg.find? name with
  | none => (.error (.unknownMessage name), w)
  | some m =>
    match passMessage reg depth m w with
    | (.error e, after) => (.error e, after)
    | (.ok (), after) => (.ok (after.position - w.position), after)

theorem skipMessage_eq_skipMessageWithin (reg : Registry) (w : Walker) (name : String) :
    w.skipMessage reg name
      = w.skipMessageWithin reg (reg.nestingBudget w.remaining.length) name := rfl

theorem within_ofBytes (data : Bytes) : (ofBytes data).Within data :=
  ⟨Nat.zero_le _, rfl⟩

theorem Within.length_remaining {data : Bytes} {w : Walker} (hw : w.Within data) :
    w.remaining.length = data.length - w.position := by
  rw [hw.remaining_eq, List.length_drop]

/-! What a walker does, by the number of bytes in front of it. -/

theorem advance_of_le {w : Walker} {n : Nat} (h : n ≤ w.remaining.length) (kind : Kind) :
    w.advance n kind = (.ok (), ⟨w.remaining.drop n, w.position + n⟩) := by
  rw [advance, dropExact?_eq, takeExact?_of_le h]
  rfl

theorem advance_of_lt {w : Walker} {n : Nat} (h : w.remaining.length < n) (kind : Kind) :
    w.advance n kind = (.error (.wire (.truncated kind)), w) := by
  rw [advance, dropExact?_eq, takeExact?_eq_none_iff.2 h]
  rfl

theorem readCount_of_le {w : Walker} (h : 4 ≤ w.remaining.length) :
    w.readCount = (.ok (Bytes.toNat (w.remaining.take 4)),
      ⟨w.remaining.drop 4, w.position + 4⟩) := by
  rw [readCount, takeExact?_of_le h]

theorem readCount_of_lt {w : Walker} (h : w.remaining.length < 4) :
    w.readCount = (.error (.wire (.truncated (.primitive .uint32))), w) := by
  rw [readCount, takeExact?_eq_none_iff.2 h]

end Walker

/-- A cursor does what a walker does from `w`: no calculation goes wrong, the outcome is the same
and the cursor is in the walker's place.  The walker has not gone back, and is still within the byte
string. -/
structure Follows {α : Type} (data : Bytes) (w : Walker) (walked : α × Walker)
    (moved : Checked (α × Cursor)) : Prop where
  agrees : moved = .ok (walked.1, walked.2.inWords data)
  forward : w.position ≤ walked.2.position
  within : walked.2.Within data

namespace Follows

variable {data : Bytes} {w : Walker}

/-- Whatever the outcome, a walker may stay. -/
theorem stays {α : Type} (hw : w.Within data) (result : α) :
    Follows data w (result, w) (.ok (result, w.inWords data)) :=
  ⟨rfl, Nat.le_refl _, hw⟩

/-- What follows from a later place follows from here. -/
theorem of_le {α : Type} {u : Walker} {walked : α × Walker} {moved : Checked (α × Cursor)}
    (h : Follows data u walked moved) (hle : w.position ≤ u.position) :
    Follows data w walked moved :=
  ⟨h.agrees, hle.trans h.forward, h.within⟩

variable {walked : Walked Unit} {moved : Checked (Moved Unit)}

theorem andThen {walk : Walker → Walked Unit} {next : Unit → Cursor → Checked (Moved Unit)}
    (h : Follows data w walked moved)
    (hnext : ∀ u, u.Within data → Follows data u (walk u) (next () (u.inWords data))) :
    Follows data w (walked.andThen walk) (Moved.andThen moved next) := by
  obtain ⟨result, u⟩ := walked
  obtain ⟨hagrees, hforward, hwithin⟩ := h
  subst hagrees
  cases result with
  | error e => exact ⟨rfl, hforward, hwithin⟩
  | ok _ => exact (hnext u hwithin).of_le hforward

theorem inField (label : String) (h : Follows data w walked moved) :
    Follows data w (Walked.inField label walked) (Moved.inField label moved) := by
  obtain ⟨hagrees, hforward, hwithin⟩ := h
  subst hagrees
  exact ⟨rfl, hforward, hwithin⟩

end Follows

namespace Cursor

variable {data : Bytes} {w : Walker}

/-- Half of the numbers that a word can hold are enough for a place, so that a count may end behind
the byte string. -/
theorem length_lt_of_small (small : data.length ≤ memoryLimit) : data.length + 4 < UInt64.size :=
  Nat.lt_of_le_of_lt (Nat.add_le_add_right small 4) (by decide)

section

variable (small : data.length ≤ memoryLimit) (hw : w.Within data)

include small hw

theorem toNat_position : (w.inWords data).position.toNat = w.position := by
  have hfits := length_lt_of_small small
  have hle := hw.position_le
  exact UInt64.toNat_ofNat_of_lt' (by omega)

theorem remaining_inWords : (w.inWords data).remaining = .ok w.remaining := by
  have hposition := toNat_position small hw
  have hle : w.position ≤ (w.inWords data).data.length := hw.position_le
  rw [remaining, hposition, if_pos hle, hw.remaining_eq]
  rfl

theorem move_inWords {n : Nat} (hn : w.position + n ≤ data.length) :
    (w.inWords data).move (UInt64.ofNat n)
      = .ok (Walker.inWords data ⟨w.remaining.drop n, w.position + n⟩) ∧
    Walker.Within data ⟨w.remaining.drop n, w.position + n⟩ := by
  have hfits := length_lt_of_small small
  have hposition := toNat_position small hw
  have hcount : (UInt64.ofNat n).toNat = n := UInt64.toNat_ofNat_of_lt' (by omega)
  have hhold : hold .step ((w.inWords data).position.toNat + (UInt64.ofNat n).toNat)
      = .ok (UInt64.ofNat (w.position + n)) :=
    hold_of_lt _ (by rw [hposition, hcount]; rfl) (by omega)
  constructor
  · rw [move, hhold]
    rfl
  · exact ⟨hn, by rw [hw.remaining_eq, List.drop_drop]⟩

theorem advance_follows {n : Nat} (hn : n < UInt64.size) (kind : Kind) :
    Follows data w (w.advance n kind) ((w.inWords data).advance (UInt64.ofNat n) kind) := by
  have hfits := length_lt_of_small small
  have hposition := toNat_position small hw
  have hle := hw.position_le
  have hlength := hw.length_remaining
  have hleft : hold .bytesLeft ((w.inWords data).data.length - (w.inWords data).position.toNat)
      = .ok (UInt64.ofNat w.remaining.length) := by
    refine hold_of_lt _ ?_ (by omega)
    rw [hposition, hlength]
    exact (Int.ofNat_sub hle).symm
  have hless : UInt64.ofNat w.remaining.length < UInt64.ofNat n ↔ w.remaining.length < n := by
    rw [UInt64.lt_iff_toNat_lt, UInt64.toNat_ofNat_of_lt' hn,
      UInt64.toNat_ofNat_of_lt' (by omega)]
  rw [advance, hleft]
  rcases Nat.lt_or_ge w.remaining.length n with hshort | henough
  · rw [Walker.advance_of_lt hshort]
    simp only [Checked.ok_bind, if_pos (hless.2 hshort)]
    exact .stays hw _
  · obtain ⟨hmove, hwithin⟩ := move_inWords small hw (n := n) (by omega)
    rw [Walker.advance_of_le henough]
    simp only [Checked.ok_bind, if_neg (mt hless.1 (Nat.not_lt.2 henough)), hmove]
    exact ⟨rfl, Nat.le_add_right _ _, hwithin⟩

/-- A count is read as by a walker, and has 32 bits. -/
theorem readCount_cases :
    (∃ n u, w.readCount = (.ok n, u) ∧
      (w.inWords data).readCount = .ok (.ok (UInt64.ofNat n), u.inWords data) ∧
      n < 2 ^ 32 ∧ w.position ≤ u.position ∧ u.Within data) ∨
    ∃ e, w.readCount = (.error e, w) ∧
      (w.inWords data).readCount = .ok (.error e, w.inWords data) := by
  have hfits := length_lt_of_small small
  have hposition := toNat_position small hw
  have hle := hw.position_le
  have hlength := hw.length_remaining
  have hstop : hold .countEnd ((w.inWords data).position.toNat + 4)
      = .ok (UInt64.ofNat (w.position + 4)) :=
    hold_of_lt _ (by rw [hposition]; rfl) (by omega)
  have hnat : (UInt64.ofNat (w.position + 4)).toNat = w.position + 4 :=
    UInt64.toNat_ofNat_of_lt' (by omega)
  rw [readCount, hstop]
  simp only [Checked.ok_bind, hnat]
  rcases Nat.lt_or_ge w.remaining.length 4 with hshort | henough
  · have hover : (w.inWords data).data.length < w.position + 4 := by
      show data.length < _
      omega
    rw [if_pos hover]
    exact .inr ⟨_, Walker.readCount_of_lt hshort, rfl⟩
  · have hinside : ¬(w.inWords data).data.length < w.position + 4 := by
      show ¬data.length < _
      omega
    obtain ⟨hmove, hwithin⟩ := move_inWords small hw (n := 4) (by omega)
    have hcount := Bytes.toNat_lt (w.remaining.take 4)
    rw [List.length_take_of_le henough] at hcount
    rw [if_neg hinside, remaining_inWords small hw]
    simp only [Checked.ok_bind, takeExact?_of_le henough]
    have hfour : (w.inWords data).move 4 = (w.inWords data).move (UInt64.ofNat 4) := rfl
    rw [hfour, hmove]
    exact .inl ⟨_, _, Walker.readCount_of_le henough, rfl, hcount, Nat.le_add_right _ _, hwithin⟩

theorem skipPrimitive_follows (p : Primitive) :
    Follows data w (w.skipPrimitive p) ((w.inWords data).skipPrimitive p) := by
  rw [skipPrimitive, Walker.skipPrimitive]
  cases hp : p.width with
  | some width =>
    have hwidth : width < UInt64.size := Nat.lt_of_le_of_lt (Primitive.width_le hp) (by decide)
    exact advance_follows small hw hwidth _
  | none =>
    rcases readCount_cases small hw with ⟨n, u, hwalk, hmove, hn, hle, hu⟩ | ⟨e, hwalk, hmove⟩
    · simp only [hwalk, hmove]
      have hword : n < UInt64.size := Nat.lt_trans hn (by decide)
      exact (advance_follows small hu hword _).of_le hle
    · simp only [hwalk, hmove]
      exact .stays hw _

end

/-! ## Elements and messages -/

theorem skipElement_primitive (reg : Registry) (depth : Nat) (owner : String) (p : Primitive)
    (c : Cursor) : skipElement reg depth owner (.primitive p) c = c.skipPrimitive p := by
  cases depth <;> rfl

theorem skipElement_unresolved {reg : Registry} {owner : String} {type : TypeRef}
    {e : CodecError} (hk : type.kind = .message) (hr : reg.resolve owner type = .error e)
    (depth : Nat) (c : Cursor) : skipElement reg depth owner type c = .ok (.error e, c) := by
  cases type with
  | primitive p => cases hk
  | own name | foreign package name => cases depth <;> simp only [skipElement, hr]

section

variable {reg : Registry} {owner : String} {type : TypeRef} {m : Message}

theorem skipElement_zero (hr : reg.resolve owner type = .ok m) (c : Cursor) :
    skipElement reg 0 owner type c = .ok (.error (.endless m.fullName), c) := by
  cases type with
  | primitive p => cases Registry.kind_of_resolve hr
  | own name | foreign package name => simp only [skipElement, hr]

theorem skipElement_succ (hr : reg.resolve owner type = .ok m) (depth : Nat) (c : Cursor) :
    skipElement reg (depth + 1) owner type c
      = skipFields reg (skipElement reg depth) m.package m.fields c := by
  cases type with
  | primitive p => cases Registry.kind_of_resolve hr
  | own name | foreign package name => simp only [skipElement, hr]

end

theorem skipItems_follows {walk : Walker → Walked Unit} {element : Cursor → Checked (Moved Unit)}
    (follows : ∀ w, w.Within data → Follows data w (walk w) (element (w.inWords data))) (n : Nat)
    (hw : w.Within data) :
    Follows data w (Walker.skipItems walk n w) (skipItems element n (w.inWords data)) := by
  induction n generalizing w with
  | zero => exact .stays hw _
  | succ n ih =>
    rw [Walker.skipItems_succ, skipItems]
    exact (follows w hw).andThen fun u hu => ih hu

section

variable (small : data.length ≤ memoryLimit)

include small

section

variable {reg : Registry} {walk : ElementWalker} {element : ElementCursor}
  (follows : ∀ owner type w, w.Within data →
    Follows data w (walk owner type w) (element owner type (w.inWords data)))

include follows

/-- A count has 32 bits, so that a word holds the number of bytes of the elements. -/
theorem skipArray_follows (owner : String) (f : Field) {n : Nat} (hn : n < 2 ^ 32)
    (hw : w.Within data) :
    Follows data w (Walker.skipArray reg walk owner f n w)
      (skipArray reg element owner f (UInt64.ofNat n) (w.inWords data)) := by
  have hcount : (UInt64.ofNat n).toNat = n :=
    UInt64.toNat_ofNat_of_lt' (Nat.lt_trans hn (by decide))
  rw [skipArray, Walker.skipArray, hcount]
  split
  · exact .stays hw _
  · cases reg.isEmptyElement owner f.type with
    | error e => exact .stays hw _
    | ok empty =>
      cases empty with
      | true => exact .stays hw _
      | false =>
        cases hk : f.kind.width with
        | none => exact skipItems_follows (follows owner f.type) n hw
        | some width =>
          obtain ⟨p, -, hp⟩ := TypeRef.eq_primitive_of_width hk
          -- fewer than 2 ^ 32 elements of at most eight bytes
          have hbytes : n * width < UInt64.size := by
            have hmul := Nat.mul_le_mul (Nat.le_of_lt hn) (Primitive.width_le hp)
            exact Nat.lt_of_le_of_lt hmul (by decide)
          have hsize : hold .arraySize (n * width) = .ok (UInt64.ofNat (n * width)) :=
            hold_of_lt _ (Int.natCast_mul n width).symm hbytes
          simp only [hsize, Checked.ok_bind]
          exact advance_follows small hw hbytes _

theorem skipField_follows (owner : String) (f : Field) (hw : w.Within data) :
    Follows data w (Walker.skipField reg walk owner f w)
      (skipField reg element owner f (w.inWords data)) := by
  rw [skipField, Walker.skipField]
  split
  · rcases readCount_cases small hw with ⟨n, u, hwalk, hmove, hn, hle, hu⟩ | ⟨e, hwalk, hmove⟩
    · simp only [hwalk, hmove]
      exact (skipArray_follows small follows owner f hn hu).of_le hle
    · simp only [hwalk, hmove]
      exact .stays hw _
  · exact follows owner f.type w hw

theorem skipFields_follows (owner : String) (fields : List Field) (hw : w.Within data) :
    Follows data w (Walker.skipFields reg walk owner fields w)
      (skipFields reg element owner fields (w.inWords data)) := by
  induction fields generalizing w with
  | nil => exact .stays hw _
  | cons f rest ih =>
    rw [Walker.skipFields_cons, skipFields]
    exact ((skipField_follows small follows owner f hw).inField f.label).andThen fun u hu => ih hu

end

/-- Whatever the type, and however deep its nesting, a cursor passes an element as a walker does. -/
theorem skipElement_follows (reg : Registry) (depth : Nat) (owner : String) (type : TypeRef)
    (w : Walker) (hw : w.Within data) :
    Follows data w (Walker.skipElement reg depth owner type w)
      (skipElement reg depth owner type (w.inWords data)) := by
  rcases reg.type_cases owner type with ⟨p, rfl⟩ | ⟨e, hk, hr⟩ | ⟨m, hr⟩
  · rw [Walker.skipElement_primitive, skipElement_primitive]
    exact skipPrimitive_follows small hw p
  · rw [Walker.skipElement_unresolved hk hr, skipElement_unresolved hk hr]
    exact .stays hw _
  · cases depth with
    | zero =>
      rw [Walker.skipElement_zero hr, skipElement_zero hr]
      exact .stays hw _
    | succ depth =>
      rw [Walker.skipElement_succ hr, skipElement_succ hr]
      exact skipFields_follows small (skipElement_follows reg depth) m.package m.fields hw

/-- So does it pass a message; the number of bytes in between cannot be negative. -/
theorem skipMessage_follows (reg : Registry) (depth : Nat) (name : String) (hw : w.Within data) :
    Follows data w (w.skipMessageWithin reg depth name)
      ((w.inWords data).skipMessage reg depth name) := by
  rw [skipMessage, Walker.skipMessageWithin]
  cases reg.find? name with
  | none => exact .stays hw _
  | some m =>
    have hfields : Follows data w (Walker.skipFields reg _ m.package m.fields w) _ :=
      skipFields_follows small (skipElement_follows small reg depth) m.package m.fields hw
    simp only [Walker.passMessage]
    generalize Walker.skipFields reg _ m.package m.fields w = walked at hfields ⊢
    obtain ⟨result, u⟩ := walked
    obtain ⟨hagrees, hforward, hwithin⟩ := hfields
    rw [hagrees]
    cases result with
    | error e => exact ⟨rfl, hforward, hwithin⟩
    | ok _ =>
      have hbefore := toNat_position small hw
      have hafter := toNat_position small hwithin
      have hle : u.position ≤ data.length := hwithin.position_le
      have hfits := length_lt_of_small small
      have hpassed : hold .bytesPassed
          ((u.inWords data).position.toNat - (w.inWords data).position.toNat)
          = .ok (UInt64.ofNat (u.position - w.position)) := by
        refine hold_of_lt _ ?_ (by omega)
        rw [hbefore, hafter]
        exact (Int.ofNat_sub hforward).symm
      have hnat : (UInt64.ofNat (u.position - w.position)).toNat = u.position - w.position :=
        UInt64.toNat_ofNat_of_lt' (by omega)
      refine ⟨?_, hforward, hwithin⟩
      simp only [Moved.andThen, Checked.ok_bind, hpassed, hnat]
      rfl

/-- And so it passes one message after the other, also where some of them fail. -/
theorem skipMessages_follows (reg : Registry) (names : List String) (hw : w.Within data) :
    Follows data w (Walker.skipMessages reg names w) (skipMessages reg names (w.inWords data)) := by
  induction names generalizing w with
  | nil => exact .stays hw _
  | cons name names ih =>
    -- the walker and the cursor have the same bytes in front of them, hence the same budget
    have hfirst : Follows data w (w.skipMessage reg name)
        ((w.inWords data).skipMessage reg (reg.nestingBudget w.remaining.length) name) := by
      rw [Walker.skipMessage_eq_skipMessageWithin]
      exact skipMessage_follows small reg _ name hw
    have hothers := ih hfirst.within
    refine ⟨?_, hfirst.forward.trans hothers.forward, hothers.within⟩
    simp only [skipMessages, remaining_inWords small hw, Checked.ok_bind, hfirst.agrees,
      hothers.agrees]
    rfl

end

end Cursor

/-! ## Any calls -/

namespace Walker

/-- Where a walker over a byte string is after calls with these names. -/
def after (reg : Registry) (names : List String) (data : Bytes) : Walker :=
  (skipMessages reg names (ofBytes data)).2

theorem snd_skipMessages_append (reg : Registry) (names more : List String) (w : Walker) :
    (skipMessages reg (names ++ more) w).2
      = (skipMessages reg more (skipMessages reg names w).2).2 := by
  induction names generalizing w with
  | nil => rfl
  | cons name names ih => exact ih _

/-- **A walker stays in its byte string.**  Whatever the registry, and whatever is called, after any
of the calls the walker is no further back than after those before it and not behind the end, with
the rest of the byte string in front.  A cursor, whose place is a word of 64 bits, makes all these
calls without a calculation going wrong, gives the same answers, and is where the walker is; and
from there it can make any other call, through any number of nested messages. -/
theorem calls_stay_within (reg : Registry) {data : Bytes} (small : data.length ≤ memoryLimit)
    (names more : List String) :
    (after reg names data).position ≤ (after reg (names ++ more) data).position ∧
    (after reg names data).position ≤ data.length ∧
    (after reg names data).remaining = data.drop (after reg names data).position ∧
    Cursor.skipMessages reg names (.ofBytes data)
      = .ok ((skipMessages reg names (.ofBytes data)).1, (after reg names data).inWords data) ∧
    ((after reg names data).inWords data).position.toNat = (after reg names data).position ∧
    ((after reg names data).inWords data).remaining = .ok (after reg names data).remaining ∧
    ∀ depth name, ∃ answer next,
      ((after reg names data).inWords data).skipMessage reg depth name = .ok (answer, next) ∧
      (after reg names data).position ≤ next.position.toNat ∧
      next.position.toNat ≤ data.length := by
  have hcalls := Cursor.skipMessages_follows small reg names (within_ofBytes data)
  have hmore := Cursor.skipMessages_follows small reg more hcalls.within
  refine ⟨?_, hcalls.within.position_le, hcalls.within.remaining_eq, hcalls.agrees,
    Cursor.toNat_position small hcalls.within, Cursor.remaining_inWords small hcalls.within,
    fun depth name => ?_⟩
  · rw [after, after, snd_skipMessages_append]
    exact hmore.forward
  · have hcall := Cursor.skipMessage_follows small reg depth name hcalls.within
    have hplace := Cursor.toNat_position small hcall.within
    refine ⟨_, _, hcall.agrees, ?_, ?_⟩
    · rw [hplace]
      exact hcall.forward
    · rw [hplace]
      exact hcall.within.position_le

end Walker

namespace Forest

/-- A tree that says that it has three marks, and a seed. -/
def stump : Bytes :=
  [1, 1, 0, 0, 0, 97, 3, 0, 0, 0, 1, 2, 1, 0, 0, 0, 120]

/-- The first call leaves the walker in the middle of the tree, the second one does not move it, and
the third one passes the seed. -/
theorem calls_of_stump : stump.length ≤ memoryLimit ∧
    Cursor.skipMessages registry ["forest/Tree", "forest/Nest", "forest/Seed"] (.ofBytes stump)
      = .ok ([.error (.wire (.inField "Marks" (.arrayLength 2 3))),
          .error (.unknownMessage "forest/Nest"), .ok 7], ⟨stump, 17⟩) ∧
    (Walker.after registry ["forest/Tree"] stump).position
      ≤ (Walker.after registry ["forest/Tree", "forest/Nest"] stump).position := by
  have hsmall : stump.length ≤ memoryLimit := by decide
  obtain ⟨-, -, -, hcalls, -⟩ := Walker.calls_stay_within registry hsmall
    ["forest/Tree", "forest/Nest", "forest/Seed"] []
  obtain ⟨hforward, -⟩ := Walker.calls_stay_within registry hsmall ["forest/Tree"] ["forest/Nest"]
  exact ⟨hsmall, hcalls, hforward⟩

end Forest

end Missive
