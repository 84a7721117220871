/-!
# Sets of code points

A set of characters as the closed ranges of their code points.

* `CodePoints`, `CodePoints.holds`.
-/

namespace SearchWire

/-- Closed ranges of code points. -/
abbrev CodePoints := List (Nat × Nat)

namespace CodePoints

/-- Whether a character is in the set. -/
def holds (s : CodePoints) (c : Char) : Bool := s.any fun r => r.1 ≤ c.toNat && c.toNat ≤ r.2

end CodePoints

end SearchWire
