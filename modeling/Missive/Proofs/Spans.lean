import Missive.Time
/-!
# Spans on the wire

A wire duration holds no more than a largest number of seconds.  The seconds of a longer span
saturate, but its nanoseconds stay as they are.  So the seconds keep the order of the spans, and the
durations do as long as they are told apart by their seconds; among spans that saturate, they come
in the order of their nanoseconds alone.

* `Elapsed.compare`, `Elapsed.compare_isLE_iff` -- the order of spans, in numbers;
* `Duration.compare_isLE_iff` -- the order of durations, in numbers;
* `Duration.toNat_sec_ofElapsed`, `Duration.toNat_nsec_ofElapsed` -- the parts of a converted span;
* `Duration.ofElapsed_order` -- which spans change places.
-/

namespace Missive

namespace Elapsed

/-- The order of spans, by whole seconds first. -/
def compare (a b : Elapsed) : Ordering :=
  (Ord.compare a.secs b.secs).then (Ord.compare a.nanos b.nanos)

theorem compare_isLE_iff {a b : Elapsed} :
    (a.compare b).isLE ↔ a.secs < b.secs ∨ a.secs = b.secs ∧ a.nanos ≤ b.nanos := by
  rw [compare, Ordering.isLE_then_iff_or, Nat.compare_eq_lt, Nat.compare_eq_eq, Nat.isLE_compare]

end Elapsed

namespace Duration

theorem compare_isLE_iff {d e : Duration} : (d.compare e).isLE ↔
    d.sec.toNat < e.sec.toNat ∨ d.sec.toNat = e.sec.toNat ∧ d.nsec.toNat ≤ e.nsec.toNat := by
  rw [compare, comparePairs, Ordering.isLE_then_iff_or, Std.compare_eq_lt,
    Std.compare_eq_iff_eq, Std.isLE_compare, UInt32.lt_iff_toNat_lt, UInt32.le_iff_toNat_le,
    UInt32.toNat_inj]

/-- The seconds saturate. -/
theorem toNat_sec_ofElapsed (e : Elapsed) : (ofElapsed e).sec.toNat = min e.secs maxSec := by
  show (min e.secs maxSec) % 2 ^ 32 = min e.secs maxSec
  have hmin : min e.secs maxSec ≤ maxSec := Nat.min_le_right _ _
  simp only [maxSec] at hmin ⊢
  omega

/-- The nanoseconds stay. -/
theorem toNat_nsec_ofElapsed (e : Elapsed) : (ofElapsed e).nsec.toNat = e.nanos := by
  show e.nanos % 2 ^ 32 = e.nanos
  have hnanos := e.nanos_lt
  simp only [nanosPerSec] at hnanos
  omega

/-- **The order of converted spans.**  Of two spans the later one has the later seconds on the wire.
It is also the later duration, unless the earlier span has as many seconds as a duration can hold,
and the later one has more seconds but fewer nanoseconds.  Both have the largest number of seconds
then, and the nanoseconds, which stay as they are, turn the order round. -/
theorem ofElapsed_order {a b : Elapsed} (h : (a.compare b).isLE) :
    (ofElapsed a).sec ≤ (ofElapsed b).sec ∧
    ((compare (ofElapsed a) (ofElapsed b)).isLE ↔
      ¬(maxSec ≤ a.secs ∧ a.secs < b.secs ∧ b.nanos < a.nanos)) ∧
    (maxSec ≤ a.secs ∧ a.secs < b.secs ∧ b.nanos < a.nanos →
      (ofElapsed a).sec.toNat = maxSec ∧ (ofElapsed b).sec.toNat = maxSec ∧
      (ofElapsed b).nsec < (ofElapsed a).nsec) := by
  rw [Elapsed.compare_isLE_iff] at h
  have hsecs : a.secs ≤ b.secs := by
    omega
  rw [UInt32.le_iff_toNat_le, UInt32.lt_iff_toNat_lt, compare_isLE_iff, toNat_sec_ofElapsed,
    toNat_sec_ofElapsed, toNat_nsec_ofElapsed, toNat_nsec_ofElapsed]
  refine ⟨?_, ?_, fun ⟨hmax, hmore, hfewer⟩ => ⟨?_, ?_, hfewer⟩⟩
  · omega
  · -- the seconds agree if the spans' do, and also if both saturate
    omega
  · exact Nat.min_eq_right hmax
  · exact Nat.min_eq_right (Nat.le_trans hmax hsecs)

/-- The last span that a duration can hold. -/
def lastHeld : Elapsed := ⟨maxSec, 999999999, by decide⟩

/-- The first one whose seconds saturate, a nanosecond later. -/
def firstSaturated : Elapsed := ⟨maxSec + 1, 0, by decide⟩

/-- A span and the last one that can be held keep their places. -/
theorem ofElapsed_lastHeld :
    (Elapsed.compare ⟨7, 500, by decide⟩ lastHeld).isLE ∧
    (compare (ofElapsed ⟨7, 500, by decide⟩) (ofElapsed lastHeld)).isLE := by
  have horder : (Elapsed.compare ⟨7, 500, by decide⟩ lastHeld).isLE := by decide
  have hboth := ofElapsed_order horder
  exact ⟨horder, hboth.2.1.2 (by decide)⟩

/-- A nanosecond later the duration is almost a second earlier. -/
theorem ofElapsed_firstSaturated :
    lastHeld.total + 1 = firstSaturated.total ∧ (lastHeld.compare firstSaturated).isLE ∧
    ofElapsed lastHeld = ⟨4294967295, 999999999⟩ ∧ ofElapsed firstSaturated = ⟨4294967295, 0⟩ ∧
    ¬(compare (ofElapsed lastHeld) (ofElapsed firstSaturated)).isLE := by
  decide

end Duration

end Missive
