/-!
# Powers with integer exponents

A power of a natural number with an integer exponent, as a quotient of naturals: `base ^ e` is
`powUp base e / powDown base e`, and one of the two is one.

* `powUp`, `powDown`.
-/

namespace SearchWire

/-- The power for a positive exponent, and one for a negative one. -/
def powUp (base : Nat) (e : Int) : Nat := Nat.pow base e.toNat

/-- The power of the exponent's opposite, and one for a positive exponent. -/
def powDown (base : Nat) (e : Int) : Nat := powUp base (-e)

end SearchWire
