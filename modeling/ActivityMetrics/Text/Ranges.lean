/-!
# Sets of characters as ranges

The properties of the Unicode standard that the library needs are carried as lists of closed
ranges of code points, in ascending order and apart from each other.
-/

namespace ActivityMetrics.Text

/-- A set of code points as closed ranges. -/
abbrev Ranges := List (Nat × Nat)

namespace Ranges

/-- Membership of a character in the set. -/
def contains (rs : Ranges) (c : Char) : Bool :=
  rs.any fun r => r.1 ≤ c.toNat && c.toNat ≤ r.2

/-- The ranges ascend, and no two of them touch. -/
def wellFormed : Ranges → Bool
  | [] => true
  | [r] => r.1 ≤ r.2
  | r :: s :: t => r.1 ≤ r.2 && r.2 + 1 < s.1 && wellFormed (s :: t)

/-- The number of code points in well-formed ranges. -/
def size (rs : Ranges) : Nat :=
  rs.foldl (fun n r => n + (r.2 + 1 - r.1)) 0

end Ranges

end ActivityMetrics.Text
