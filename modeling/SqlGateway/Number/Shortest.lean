import SqlGateway.Number.Binary64
set_option autoImplicit false

/-!
# Numbers: shortest decimal digits

Every double is the nearest one to a whole interval of reals, so it can be
written with the fewest digits that still denote it.  The interval's ends belong
to it exactly when the significand is even.  `shortest` searches decimal grids
`10^g` from coarse to fine: on each it tests the value's two neighbours, and the
first grid with a neighbour inside the interval wins.  Of two the nearer is
taken, of two equally near the even one.
-/

namespace SqlGateway.Number

/-- The interval of reals that round to a positive double, and the double itself, as
numerators over one denominator. -/
structure Rounding where
  low : Nat
  value : Nat
  high : Nat
  den : Nat
  /-- The ends belong to the interval. -/
  closed : Bool

namespace Rounding

/-- The rounding interval of a positive finite double, in quarters of its last place. -/
def of (x : Binary64) : Rounding :=
  let (m, e) := x.magnitude
  let below := if m == twoTo 52 && x.exponentField > 1 then 1 else 2
  let q := e - 2
  let scale := if 0 ≤ q then twoTo q.toNat else 1
  { low := (4 * m - below) * scale
    value := 4 * m * scale
    high := (4 * m + 2) * scale
    den := if 0 ≤ q then 1 else twoTo (-q).toNat
    closed := m % 2 == 0 }

/-- Is `c · 10^g` inside the interval? -/
def holds (r : Rounding) (c : Nat) (g : Int) : Bool :=
  let up := if 0 ≤ g then tenTo g.toNat else 1
  let down := if 0 ≤ g then 1 else tenTo (-g).toNat
  let point := c * up * r.den
  if r.closed then r.low * down ≤ point && point ≤ r.high * down
  else r.low * down < point && point < r.high * down

/-- The neighbour of the value on the grid `10^g` that lies inside the interval; of two the
nearer. -/
def onGrid? (r : Rounding) (g : Int) : Option Nat :=
  let up := if 0 ≤ g then tenTo g.toNat else 1
  let down := if 0 ≤ g then 1 else tenTo (-g).toNat
  let num := r.value * down
  let den := r.den * up
  let c := num / den
  let nearest := roundQuotient num den
  if r.holds nearest g then some nearest
  else if r.holds c g then some c
  else if r.holds (c + 1) g then some (c + 1)
  else none

/-- Search the grids downwards from `10^g`. -/
def search (r : Rounding) : Nat → Int → Nat × Int
  | 0, g => (r.value * tenTo (-g).toNat / r.den, g)
  | fuel + 1, g =>
    match r.onGrid? g with
    | some c => (c, g)
    | none => r.search fuel (g - 1)

end Rounding

/-- The shortest decimal `(c, g)`, meaning `c · 10^g`, that denotes a positive finite
double.  Twenty-two grids from just above the value always hold one. -/
def shortest (x : Binary64) : Nat × Int :=
  let r := Rounding.of x
  let above := ((log2Quotient r.value r.den + 1) * 30103) / 100000 + 2
  r.search 22 above

end SqlGateway.Number
