import SearchWire.Number.Decimal

/-!
# Shortest decimals

The fewest digits that read back to a binary number, and of those the nearest to it.

The reals that round to `m * 2 ^ q` form an interval around it, which holds its ends exactly when
`m` is even. On a grid of decimals the search tests the two neighbours of the number; the coarsest
grid with a neighbour inside the interval gives the answer.

* `Span`, `Span.holds`: the interval of reals that round to a number;
* `Tie`: which of two equally near candidates is taken;
* `shortest`.
-/

namespace SearchWire

/-- The reals that round to `m * 2 ^ q`. Both ends are in units of `2 ^ (q - 2)`. -/
structure Span where
  low : Nat
  high : Nat
  scale : Int
  /-- Whether the ends themselves round to the number. -/
  closed : Bool

/-- The span of `m * 2 ^ q`. Just above a power of two the gap below is half the gap above. -/
def Span.around (m : Nat) (q : Int) : Span :=
  let narrowBelow := m = Format.double.fractions ∧ q ≠ Format.double.leastScale
  ⟨if narrowBelow then 4 * m - 1 else 4 * m - 2, 4 * m + 2, q - 2, m % 2 == 0⟩

/-- Compare `a * 10 ^ i` with `b * 2 ^ j`. -/
def compareScaled (a : Nat) (i : Int) (b : Nat) (j : Int) : Ordering :=
  compare (a * powUp 10 i * powDown 2 j) (b * powUp 2 j * powDown 10 i)

/-- Whether a decimal lies in the span. -/
def Span.holds (s : Span) (d : Decimal) : Bool :=
  let low := compareScaled d.digits d.exponent s.low s.scale
  let high := compareScaled d.digits d.exponent s.high s.scale
  (low == .gt || (s.closed && low == .eq)) && (high == .lt || (s.closed && high == .eq))

/-- Which of two equally near decimals of the same length is taken. -/
inductive Tie where
  | up
  | even
deriving DecidableEq, Repr

/-- The largest multiple of `10 ^ g` that is not above `m * 2 ^ q`, in units of `10 ^ g`. -/
def below (m : Nat) (q g : Int) : Nat :=
  (m * powUp 2 q * powDown 10 g) / (powDown 2 q * powUp 10 g)

/-- The exponent of ten of the first digit of a positive `m * 2 ^ q`. Every binary number is above
`10 ^ -400`, so in units of that it has a whole part. -/
def leadingExponent (m : Nat) (q : Int) : Int := digitCount (below m q (-400)) - 401

/-- Choose between the neighbours `c` and `c + 1` of `m * 2 ^ q` on the grid of `10 ^ g`. -/
def nearer (tie : Tie) (m : Nat) (q g : Int) (c : Nat) : Nat :=
  match compareScaled (2 * c + 1) g (2 * m) q with
  | .gt => c
  | .lt => c + 1
  | .eq => if tie = .even ∧ c % 2 = 0 then c else c + 1

/-- The neighbour of `m * 2 ^ q` on the grid of `10 ^ g` that reads back, if there is one. -/
def onGrid (tie : Tie) (m : Nat) (q g : Int) : Option Decimal :=
  let c := below m q g
  let s := Span.around m q
  match s.holds ⟨c, g⟩, s.holds ⟨c + 1, g⟩ with
  | true, true => some ⟨nearer tie m q g c, g⟩
  | true, false => some ⟨c, g⟩
  | false, true => some ⟨c + 1, g⟩
  | false, false => none

/-- All digits of `m * 2 ^ q`. -/
def exactDecimal (m : Nat) (q : Int) : Decimal := ⟨m * powUp 2 q * powDown 5 q, min q 0⟩

/-- The fewest digits that read back to a positive `m * 2 ^ q`, and of those the nearest. Seventeen
digits are enough for every number; were they not, all digits would be given. -/
def shortest (tie : Tie) (m : Nat) (q : Int) : Decimal :=
  let k := leadingExponent m q
  let found := (List.range 17).findSome? fun n : Nat => onGrid tie m q (k - n)
  (found.getD (exactDecimal m q)).normal

end SearchWire
