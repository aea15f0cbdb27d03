/-!
# Byte strings

Numbers of a fixed width travel as little-endian bytes.

* `Bytes` -- a byte string;
* `Bytes.ofNat`, `Bytes.toNat` -- a number in bytes, the lowest first, and back
  (`toNat_ofNat`, `ofNat_toNat`);
* `takeExact?`, `dropExact?` -- a prefix of a given length, if the list is long enough.
-/

namespace Missive

/-- A byte string. -/
abbrev Bytes := List UInt8

namespace Bytes

/-- The lowest `width` bytes of a number, the lowest first. -/
def ofNat : Nat → Nat → Bytes
  | 0, _ => []
  | width + 1, n => (n % 256).toUInt8 :: ofNat width (n / 256)

/-- The number that these bytes stand for, the lowest first. -/
def toNat : Bytes → Nat
  | [] => 0
  | b :: rest => b.toNat + 256 * toNat rest

@[simp]
theorem length_ofNat (width n : Nat) : (ofNat width n).length = width := by
  induction width generalizing n with
  | zero => rfl
  | succ width ih => simp [ofNat, ih]

theorem toNat_ofNat {width n : Nat} (h : n < Nat.pow 256 width) : toNat (ofNat width n) = n := by
  induction width generalizing n with
  | zero =>
    have h1 : n < 1 := h
    simp only [ofNat, toNat]
    omega
  | succ width ih =>
    have h1 : n < Nat.pow 256 width * 256 := h
    have hd : n / 256 < Nat.pow 256 width := by omega
    have hb : ((n % 256).toUInt8).toNat = n % 256 := by
      simp [Nat.toUInt8, UInt8.toNat_ofNat']
    simp only [ofNat, toNat, ih hd, hb]
    omega

theorem toNat_lt (bytes : Bytes) : toNat bytes < Nat.pow 256 bytes.length := by
  induction bytes with
  | nil => exact Nat.one_pos
  | cons b rest ih =>
    have hb := b.toNat_lt
    change b.toNat + 256 * toNat rest < Nat.pow 256 rest.length * 256
    omega

theorem ofNat_toNat (bytes : Bytes) : ofNat bytes.length (toNat bytes) = bytes := by
  induction bytes with
  | nil => rfl
  | cons b rest ih =>
    have hb := b.toNat_lt
    have hm : (b.toNat + 256 * toNat rest) % 256 = b.toNat := by omega
    have hd : (b.toNat + 256 * toNat rest) / 256 = toNat rest := by omega
    have hu : b.toNat.toUInt8 = b := by simp [Nat.toUInt8]
    simp only [List.length_cons, toNat, ofNat, hm, hd, hu, ih]

end Bytes

/-- The first `n` items and the rest, if there are that many. -/
def takeExact? {α : Type} : Nat → List α → Option (List α × List α)
  | 0, items => some ([], items)
  | _ + 1, [] => none
  | n + 1, item :: rest => (takeExact? n rest).map fun parts => (item :: parts.1, parts.2)

/-- The rest after the first `n` items, if there are that many. -/
def dropExact? {α : Type} : Nat → List α → Option (List α)
  | 0, items => some items
  | _ + 1, [] => none
  | n + 1, _ :: rest => dropExact? n rest

theorem takeExact?_eq_some_iff {α : Type} {n : Nat} {items first rest : List α} :
    takeExact? n items = some (first, rest) ↔ first.length = n ∧ items = first ++ rest := by
  induction n generalizing items first with
  | zero =>
    simp only [takeExact?, Option.some.injEq, Prod.mk.injEq, List.length_eq_zero_iff]
    constructor
    · rintro ⟨rfl, rfl⟩
      exact ⟨rfl, rfl⟩
    · rintro ⟨rfl, rfl⟩
      exact ⟨rfl, rfl⟩
  | succ n ih =>
    cases items with
    | nil =>
      simp only [takeExact?]
      constructor
      · intro h
        cases h
      · rintro ⟨hl, he⟩
        have := congrArg List.length he
        simp only [List.length_nil, List.length_append] at this
        omega
    | cons item tail =>
      simp only [takeExact?, Option.map_eq_some_iff, Prod.mk.injEq]
      constructor
      · rintro ⟨⟨a, b⟩, h, rfl, rfl⟩
        obtain ⟨hl, rfl⟩ := ih.1 h
        exact ⟨by simp [hl], rfl⟩
      · rintro ⟨hl, he⟩
        cases first with
        | nil => simp at hl
        | cons f fs =>
          simp only [List.cons_append, List.cons.injEq] at he
          obtain ⟨rfl, rfl⟩ := he
          exact ⟨(fs, rest), ih.2 ⟨by simpa using hl, rfl⟩, rfl, rfl⟩

theorem takeExact?_eq_none_iff {α : Type} {n : Nat} {items : List α} :
    takeExact? n items = none ↔ items.length < n := by
  induction n generalizing items with
  | zero => simp [takeExact?]
  | succ n ih =>
    cases items with
    | nil => simp [takeExact?]
    | cons item tail => simp [takeExact?, ih]

theorem dropExact?_eq {α : Type} (n : Nat) (items : List α) :
    dropExact? n items = (takeExact? n items).map (·.2) := by
  induction n generalizing items with
  | zero => rfl
  | succ n ih =>
    cases items with
    | nil => rfl
    | cons item tail => simp [dropExact?, takeExact?, ih, Function.comp_def]

end Missive
