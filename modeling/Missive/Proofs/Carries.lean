import Mathlib.Data.Set.Function
import Missive.Proofs.Spans
/-!
# Seconds carried out of nanoseconds

A wire duration may say with its nanoseconds what its seconds could say.  As a span it has the same
length; back on the wire, it comes in its normalised form, as long as the seconds are not too many
for it.  Between normalised durations and the spans that can be held, the two conversions are
inverse to each other and keep the order.

* `Elapsed.ofWords?` -- spans whose seconds are counted in a word of 64 bits;
* `Duration.total`, `Duration.normalised`, `Duration.holdable` -- the length of a duration, the
  normalised durations, and the spans that a duration can hold;
* `Duration.total_ofElapsed_iff` -- nothing is lost just if the seconds can be held;
* `Duration.ofElapsed_toElapsed`, `Duration.toElapsed_ofElapsed` -- there and back;
* `Duration.compare_toElapsed` -- normalised durations are ordered as their spans;
* `Duration.conversions_normalise` -- all of it.
-/

namespace Missive

/-- Words are ordered as the numbers they stand for. -/
theorem compare_toNat (a b : UInt32) : compare a.toNat b.toNat = compare a b := by
  rcases Nat.lt_trichotomy a.toNat b.toNat with hlt | heq | hgt
  · rw [Nat.compare_eq_lt.2 hlt, Std.compare_eq_lt.2 (UInt32.lt_iff_toNat_lt.2 hlt)]
  · rw [Nat.compare_eq_eq.2 heq, Std.compare_eq_iff_eq.2 (UInt32.toNat_inj.1 heq)]
  · rw [Nat.compare_eq_gt.2 hgt, Std.compare_eq_gt.2 (UInt32.lt_iff_toNat_lt.2 hgt)]

namespace Elapsed

/-- A span of these seconds and any number of nanoseconds, if a word of 64 bits holds the seconds
together with those carried out of the nanoseconds. -/
def ofWords? (secs : UInt64) (nanos : UInt32) : Option Elapsed :=
  if secs.toNat + nanos.toNat / nanosPerSec < UInt64.size then
    some (ofParts secs.toNat nanos.toNat)
  else none

@[ext]
theorem ext {a b : Elapsed} (hsecs : a.secs = b.secs) (hnanos : a.nanos = b.nanos) : a = b := by
  obtain ⟨secs, nanos, _⟩ := a
  obtain ⟨_, _, _⟩ := b
  obtain rfl : secs = _ := hsecs
  obtain rfl : nanos = _ := hnanos
  rfl

end Elapsed

namespace Duration

/-- The length of a duration in nanoseconds. -/
def total (d : Duration) : Nat :=
  d.sec.toNat * nanosPerSec + d.nsec.toNat

/-- The durations with less than a second's worth of nanoseconds. -/
def normalised : Set Duration :=
  {d | d.nsec.toNat < nanosPerSec}

/-- The spans whose seconds a duration can hold. -/
def holdable : Set Elapsed :=
  {e | e.secs < UInt32.size}

theorem ext_toNat {d e : Duration} (hsec : d.sec.toNat = e.sec.toNat)
    (hnsec : d.nsec.toNat = e.nsec.toNat) : d = e := by
  obtain ⟨sec, nsec⟩ := d
  obtain ⟨sec', nsec'⟩ := e
  obtain rfl : sec = sec' := UInt32.toNat_inj.1 hsec
  obtain rfl : nsec = nsec' := UInt32.toNat_inj.1 hnsec
  rfl

/-- At most four seconds are carried, which cannot be too many for 64 bits. -/
theorem ofWords?_parts (d : Duration) :
    Elapsed.ofWords? d.sec.toUInt64 d.nsec = some d.toElapsed := by
  have hsec := d.sec.toNat_lt
  have hnsec := d.nsec.toNat_lt
  have hcarried : d.nsec.toNat / nanosPerSec ≤ 4 := by
    simp only [nanosPerSec]
    omega
  have hfits : d.sec.toUInt64.toNat + d.nsec.toNat / nanosPerSec < UInt64.size := by
    rw [UInt32.toNat_toUInt64, UInt64.size]
    omega
  rw [Elapsed.ofWords?, if_pos hfits, UInt32.toNat_toUInt64]
  rfl

theorem total_toElapsed (d : Duration) : d.toElapsed.total = d.total :=
  Elapsed.total_ofParts d.sec.toNat d.nsec.toNat

/-- What a span is converted to is normalised, also if its seconds saturate. -/
theorem ofElapsed_mem_normalised (e : Elapsed) : ofElapsed e ∈ normalised := by
  show (ofElapsed e).nsec.toNat < nanosPerSec
  rw [toNat_nsec_ofElapsed]
  exact e.nanos_lt

/-- A converted span has lost something just if its seconds cannot be held. -/
theorem total_ofElapsed_iff {e : Elapsed} : (ofElapsed e).total = e.total ↔ e ∈ holdable := by
  show _ ↔ e.secs < UInt32.size
  rw [total, toNat_sec_ofElapsed, toNat_nsec_ofElapsed, Elapsed.total]
  simp only [nanosPerSec, maxSec, UInt32.size]
  omega

/-- From a normalised duration nothing is carried. -/
theorem toElapsed_of_normalised {d : Duration} (h : d ∈ normalised) :
    d.toElapsed.secs = d.sec.toNat ∧ d.toElapsed.nanos = d.nsec.toNat := by
  have hnsec : d.nsec.toNat < nanosPerSec := h
  constructor
  · show d.sec.toNat + d.nsec.toNat / nanosPerSec = d.sec.toNat
    rw [Nat.div_eq_of_lt hnsec, Nat.add_zero]
  · exact Nat.mod_eq_of_lt hnsec

theorem toElapsed_mem_holdable {d : Duration} (h : d ∈ normalised) : d.toElapsed ∈ holdable := by
  show d.toElapsed.secs < UInt32.size
  rw [(toElapsed_of_normalised h).1]
  exact d.sec.toNat_lt

theorem ofElapsed_toElapsed {d : Duration} (h : d ∈ normalised) : ofElapsed d.toElapsed = d := by
  obtain ⟨hsecs, hnanos⟩ := toElapsed_of_normalised h
  have hlt := d.sec.toNat_lt
  apply ext_toNat
  · rw [toNat_sec_ofElapsed, hsecs, maxSec]
    omega
  · rw [toNat_nsec_ofElapsed, hnanos]

theorem toElapsed_ofElapsed {e : Elapsed} (h : e ∈ holdable) : (ofElapsed e).toElapsed = e := by
  have hlt : e.secs < 4294967296 := h
  obtain ⟨hsecs, hnanos⟩ := toElapsed_of_normalised (ofElapsed_mem_normalised e)
  apply Elapsed.ext
  · rw [hsecs, toNat_sec_ofElapsed, maxSec]
    omega
  · rw [hnanos, toNat_nsec_ofElapsed]

/-- A duration comes back as it was just if it is normalised, whatever becomes of its seconds. -/
theorem ofElapsed_toElapsed_iff {d : Duration} : ofElapsed d.toElapsed = d ↔ d ∈ normalised := by
  constructor
  · intro h
    rw [← h]
    exact ofElapsed_mem_normalised _
  · exact ofElapsed_toElapsed

/-- Both are ordered by their seconds first, and these are the same. -/
theorem compare_toElapsed {d d' : Duration} (h : d ∈ normalised) (h' : d' ∈ normalised) :
    d.toElapsed.compare d'.toElapsed = d.compare d' := by
  obtain ⟨hsecs, hnanos⟩ := toElapsed_of_normalised h
  obtain ⟨hsecs', hnanos'⟩ := toElapsed_of_normalised h'
  rw [Elapsed.compare, hsecs, hsecs', hnanos, hnanos', compare_toNat, compare_toNat]
  rfl

theorem compare_ofElapsed {e e' : Elapsed} (h : e ∈ holdable) (h' : e' ∈ holdable) :
    (ofElapsed e).compare (ofElapsed e') = e.compare e' := by
  rw [← compare_toElapsed (ofElapsed_mem_normalised e) (ofElapsed_mem_normalised e'),
    toElapsed_ofElapsed h, toElapsed_ofElapsed h']

theorem invOn_conversions : Set.InvOn ofElapsed toElapsed normalised holdable :=
  ⟨fun _ => ofElapsed_toElapsed, fun _ => toElapsed_ofElapsed⟩

/-- **The conversions normalise, and lose nothing where they can.**  Every duration is a span of the
same length, with seconds of 64 bits; back on the wire it is normalised, has the same length just if
the seconds can be held, and is the same duration just if it was normalised before.  Between the
normalised durations and the spans that can be held, the conversions are bijections inverse to each
other, and both keep the order. -/
theorem conversions_normalise :
    (∀ d : Duration,
      Elapsed.ofWords? d.sec.toUInt64 d.nsec = some d.toElapsed ∧
      d.toElapsed.total = d.total ∧
      ofElapsed d.toElapsed ∈ normalised ∧
      ((ofElapsed d.toElapsed).total = d.total ↔ d.toElapsed ∈ holdable) ∧
      (ofElapsed d.toElapsed = d ↔ d ∈ normalised)) ∧
    Set.InvOn ofElapsed toElapsed normalised holdable ∧
    Set.BijOn toElapsed normalised holdable ∧
    Set.BijOn ofElapsed holdable normalised ∧
    (∀ d ∈ normalised, ∀ d' ∈ normalised, d.toElapsed.compare d'.toElapsed = d.compare d') ∧
    (∀ e ∈ holdable, ∀ e' ∈ holdable, (ofElapsed e).compare (ofElapsed e') = e.compare e') := by
  have hto : Set.MapsTo toElapsed normalised holdable := fun _ => toElapsed_mem_holdable
  have hof : Set.MapsTo ofElapsed holdable normalised := fun e _ => ofElapsed_mem_normalised e
  refine ⟨fun d => ?_, invOn_conversions, invOn_conversions.bijOn hto hof,
    invOn_conversions.symm.bijOn hof hto, ?_, ?_⟩
  · have hkept : (ofElapsed d.toElapsed).total = d.total ↔ d.toElapsed ∈ holdable := by
      rw [← total_toElapsed d]
      exact total_ofElapsed_iff
    exact ⟨ofWords?_parts d, total_toElapsed d, ofElapsed_mem_normalised _, hkept,
      ofElapsed_toElapsed_iff⟩
  · intro d hd d' hd'
    exact compare_toElapsed hd hd'
  · intro e he e' he'
    exact compare_ofElapsed he he'

/-- The duration with the largest numbers: four seconds are carried, more than can be held. -/
def overflowing : Duration := ⟨4294967295, 4294967295⟩

/-- Back on the wire it is four seconds shorter.  The last span that can be held comes back as it
was, and is later than a short one on the wire too. -/
theorem conversions_of_overflowing :
    overflowing.toElapsed = ⟨4294967299, 294967295, by decide⟩ ∧
    ofElapsed overflowing.toElapsed = ⟨4294967295, 294967295⟩ ∧
    (ofElapsed overflowing.toElapsed).total ≠ overflowing.total ∧
    ⟨3, 500⟩ ∈ normalised ∧ ofElapsed lastHeld ∈ normalised ∧ lastHeld ∈ holdable ∧
    (ofElapsed lastHeld).toElapsed = lastHeld ∧
    compare ⟨3, 500⟩ (ofElapsed lastHeld) = .lt := by
  obtain ⟨hall, hinv, -, -, horder, -⟩ := conversions_normalise
  obtain ⟨-, -, -, htotal, -⟩ := hall overflowing
  have hlost : overflowing.toElapsed ∉ holdable := by
    show ¬overflowing.toElapsed.secs < UInt32.size
    decide
  have hshort : (⟨3, 500⟩ : Duration) ∈ normalised := by
    show (500 : UInt32).toNat < nanosPerSec
    decide
  have hlast : lastHeld ∈ holdable := by
    show lastHeld.secs < UInt32.size
    decide
  have hback : (ofElapsed lastHeld).toElapsed = lastHeld := hinv.2 hlast
  refine ⟨by decide, by decide, fun h => hlost (htotal.1 h), hshort, ofElapsed_mem_normalised _,
    hlast, hback, ?_⟩
  rw [← horder _ hshort _ (ofElapsed_mem_normalised _), hback]
  decide

end Duration

end Missive
