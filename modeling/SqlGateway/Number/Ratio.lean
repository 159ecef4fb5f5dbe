set_option autoImplicit false

/-!
# Numbers: rounding a quotient

Rounding a quotient of natural numbers to the nearest whole number is the one
place where precision is lost: binary floating point, decimal places and the
clock all round here.  A quotient half-way between two numbers goes to the even
one.
-/

namespace SqlGateway.Number

/-- A power of two. -/
def twoTo (k : Nat) : Nat := Nat.pow 2 k

/-- A power of ten. -/
def tenTo (k : Nat) : Nat := Nat.pow 10 k

/-- `num / den` to the nearest whole number, a half to the even neighbour. -/
def roundQuotient (num den : Nat) : Nat :=
  let q := num / den
  let twice := 2 * (num % den)
  if twice < den then q
  else if den < twice then q + 1
  else if q % 2 == 0 then q else q + 1

theorem roundQuotient_bounds (num den : Nat) :
    num / den ≤ roundQuotient num den ∧ roundQuotient num den ≤ num / den + 1 := by
  simp only [roundQuotient]
  split
  · omega
  · split
    · omega
    · split <;> omega

theorem roundQuotient_mul (n den : Nat) (h : 0 < den) : roundQuotient (n * den) den = n := by
  simp [roundQuotient, Nat.mul_div_cancel n h, h]

/-- `⌊log₂ (num / den)⌋` up to one: the exponent is this number or one less. -/
def log2Quotient (num den : Nat) : Int := (Nat.log2 num : Int) - (Nat.log2 den : Int)

/-- A positive quotient as `m · 2^e` with `m` rounded to at most `bits` bits, and `e` at
least `lowest`. -/
def roundToBits (bits : Nat) (lowest : Option Int) (num den : Nat) : Nat × Int :=
  let lg := log2Quotient num den
  -- `2^(lg-1) < num/den < 2^(lg+1)`
  let top := if scaled num den (-lg) then lg else lg - 1
  let e := match lowest with
    | some lo => max (top - bits + 1) lo
    | none => top - bits + 1
  (if 0 ≤ e then roundQuotient num (den * twoTo e.toNat)
    else roundQuotient (num * twoTo (-e).toNat) den, e)
where
  /-- Is `num / den · 2^k` at least one? -/
  scaled (num den : Nat) (k : Int) : Bool :=
    if 0 ≤ k then den ≤ num * twoTo k.toNat else den * twoTo (-k).toNat ≤ num

end SqlGateway.Number
