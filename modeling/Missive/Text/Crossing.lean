/-!
# Character classes by their bounds

A class of code points that is a union of many ranges is stored as the increasing list of the
points where membership changes: the first member, the first non-member after it, the next member,
and so on.  A code point belongs to the class when an odd number of these bounds lies at or
before it.

* `Crossing.odd` -- membership read off such a list;
* `Crossing.odd_eq_false_of_lt` -- nothing below the first bound is a member.
-/

namespace Missive.Text.Crossing

/-- Whether an odd number of the bounds is at most `n`; `inside` says on which side of the
bounds already passed we stand. -/
def oddFrom (inside : Bool) : List Nat → Nat → Bool
  | [], _ => inside
  | bound :: rest, n => if bound ≤ n then oddFrom (!inside) rest n else inside

/-- Membership of `n` in the class with these bounds. -/
def odd (bounds : List Nat) (n : Nat) : Bool :=
  oddFrom false bounds n

theorem odd_eq_false_of_lt {bound n : Nat} (rest : List Nat) (h : n < bound) :
    odd (bound :: rest) n = false := by
  simp [odd, oddFrom, Nat.not_le.2 h]

end Missive.Text.Crossing
