import SqlGateway.Number.Ratio
set_option autoImplicit false

/-!
# Numbers: binary floating point

A `Binary64` is the bit pattern of a double-precision number, so two of them are
equal when every bit is.  `value?` reads a finite pattern as `±m · 2^e`;
`ofQuotient` rounds an exact quotient to the nearest double, ties to even, and
goes to infinity past the largest one.
-/

namespace SqlGateway

/-- A double-precision number, as its bits. -/
structure Binary64 where
  bits : UInt64
  deriving DecidableEq, Repr, Inhabited

namespace Binary64

open Number (twoTo)

/-- Sign bit. -/
def negative (x : Binary64) : Bool := x.bits.toNat / twoTo 63 == 1

/-- Biased exponent. -/
def exponentField (x : Binary64) : Nat := x.bits.toNat / twoTo 52 % twoTo 11

/-- Fraction bits. -/
def fraction (x : Binary64) : Nat := x.bits.toNat % twoTo 52

def isNaN (x : Binary64) : Bool := x.exponentField == 2047 && x.fraction != 0

def isInfinite (x : Binary64) : Bool := x.exponentField == 2047 && x.fraction == 0

/-- Magnitude of a finite pattern as `(m, e)` for `m · 2^e`. -/
def magnitude (x : Binary64) : Nat × Int :=
  if x.exponentField == 0 then (x.fraction, -1074)
  else (twoTo 52 + x.fraction, (x.exponentField : Int) - 1075)

/-- Pack the three fields. -/
def pack (negative : Bool) (exponentField fraction : Nat) : Binary64 :=
  ⟨UInt64.ofNat ((if negative then twoTo 63 else 0) + exponentField * twoTo 52 + fraction)⟩

/-- The quiet pattern every undefined result is written with. -/
def nan : Binary64 := pack false 2047 (twoTo 51)

def infinity (negative : Bool) : Binary64 := pack negative 2047 0

def zero (negative : Bool) : Binary64 := pack negative 0 0

/-- `m · 2^e` for a significand that already fits, or infinity. -/
def ofMagnitude (negative : Bool) (m : Nat) (e : Int) : Binary64 :=
  if m < twoTo 52 then pack negative 0 m
  else
    let (m, e) := if m == twoTo 53 then (twoTo 52, e + 1) else (m, e)
    if 972 ≤ e then infinity negative
    else pack negative (e + 1075).toNat (m - twoTo 52)

/-- The nearest double to `num / den`, a half-way quotient to the even neighbour. -/
def ofQuotient (negative : Bool) (num den : Nat) : Binary64 :=
  if num == 0 then zero negative
  else
    let (m, e) := Number.roundToBits 53 (some (-1074)) num den
    ofMagnitude negative m e

/-- The nearest double to an integer; nothing if it is past the largest double. -/
def ofInt? (n : Int) : Option Binary64 :=
  let x := ofQuotient (n < 0) n.natAbs 1
  if x.isInfinite then none else some x

/-- The nearest double to a rational number. -/
def ofRat (r : Rat) : Binary64 := ofQuotient (r.num < 0) r.num.natAbs r.den

/-- The exact value of a finite pattern. -/
def toRat? (x : Binary64) : Option Rat :=
  if x.exponentField == 2047 then none
  else
    let (m, e) := x.magnitude
    let n : Int := if x.negative then -(m : Int) else m
    some (if 0 ≤ e then ((n * (twoTo e.toNat : Int) : Int) : Rat) else mkRat n (twoTo (-e).toNat))

/-- Numerical equality: a NaN equals nothing, the two zeros equal each other. -/
def numEq (x y : Binary64) : Bool :=
  if x.isNaN || y.isNaN then false
  else x == y || (x.magnitude.1 == 0 && y.magnitude.1 == 0 &&
    !x.isInfinite && !y.isInfinite)

end Binary64

end SqlGateway
