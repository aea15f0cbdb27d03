/-!
# Times and durations

Points in time and time spans are both a pair of 32-bit numbers, seconds and nanoseconds, ordered
by the seconds first.  A wire duration may have more than a second's worth of nanoseconds; an
`Elapsed` span never has.

* `Time`, `Duration` -- the wire forms;
* `Elapsed`, `Elapsed.ofParts` -- normalised spans, whole seconds being carried out of the
  nanoseconds;
* `Duration.toElapsed`, `Duration.ofElapsed` -- the conversions, the second one saturating.
-/

namespace Missive

/-- A point in time: seconds and nanoseconds since the epoch. -/
structure Time where
  sec : UInt32
  nsec : UInt32
  deriving DecidableEq, Repr

/-- A time span: seconds and nanoseconds. -/
structure Duration where
  sec : UInt32
  nsec : UInt32
  deriving DecidableEq, Repr

/-- The order of two pairs by their first numbers, and by the second ones if those agree. -/
def comparePairs (a b : UInt32 × UInt32) : Ordering :=
  (compare a.1 b.1).then (compare a.2 b.2)

/-- The order of points in time. -/
def Time.compare (a b : Time) : Ordering :=
  comparePairs (a.sec, a.nsec) (b.sec, b.nsec)

/-- The order of time spans. -/
def Duration.compare (a b : Duration) : Ordering :=
  comparePairs (a.sec, a.nsec) (b.sec, b.nsec)

/-- The number of nanoseconds in a second. -/
def nanosPerSec : Nat := 1000000000

/-- A span of whole seconds and less than a second's worth of nanoseconds. -/
structure Elapsed where
  secs : Nat
  nanos : Nat
  nanos_lt : nanos < nanosPerSec
  deriving DecidableEq, Repr

namespace Elapsed

/-- A span of these seconds and any number of nanoseconds. -/
def ofParts (secs nanos : Nat) : Elapsed :=
  ⟨secs + nanos / nanosPerSec, nanos % nanosPerSec, Nat.mod_lt _ (by decide)⟩

/-- The length of a span in nanoseconds. -/
def total (e : Elapsed) : Nat :=
  e.secs * nanosPerSec + e.nanos

theorem total_ofParts (secs nanos : Nat) :
    (ofParts secs nanos).total = secs * nanosPerSec + nanos := by
  have := Nat.div_add_mod nanos nanosPerSec
  simp only [total, ofParts, Nat.add_mul]
  rw [Nat.mul_comm (nanos / nanosPerSec)]
  omega

end Elapsed

namespace Duration

/-- The largest number of seconds a wire duration can hold. -/
def maxSec : Nat := 4294967295

/-- The span of a wire duration. -/
def toElapsed (d : Duration) : Elapsed :=
  .ofParts d.sec.toNat d.nsec.toNat

/-- The wire duration of a span; seconds beyond the largest saturate, the nanoseconds stay. -/
def ofElapsed (e : Elapsed) : Duration :=
  ⟨(min e.secs maxSec).toUInt32, e.nanos.toUInt32⟩

end Duration

end Missive
