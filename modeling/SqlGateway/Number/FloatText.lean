import SqlGateway.Number.Shortest
set_option autoImplicit false

/-!
# Numbers: writing a double

A double is written with its shortest digits.  The format says where positional
notation ends and how the special values are spelled.
-/

namespace SqlGateway.Number

/-- The decisions of a notation for doubles. -/
structure FloatFormat where
  /-- Positional from this position of the point on, counted from the first digit. -/
  lowestPoint : Int
  /-- Positional up to this position of the point. -/
  highestPoint : Int
  /-- Least number of digits in an exponent. -/
  exponentDigits : Nat
  nan : String
  infinity : String

/-- The notation of messages: positional between `0.0001` and `10^16`. -/
def FloatFormat.plain : FloatFormat := ⟨-3, 16, 2, "nan", "inf"⟩

/-- The notation of log lines: the special values are spelled out. -/
def FloatFormat.json : FloatFormat := ⟨-3, 16, 2, "NaN", "Infinity"⟩

/-- Decimal digits of a number. -/
def digitsOf (n : Nat) : List Char := Nat.toDigits 10 n

/-- Digits with the point after the first `point` of them; a whole number keeps `.0`. -/
def positional (digits : List Char) (point : Int) : List Char :=
  if point ≤ 0 then '0' :: '.' :: (List.replicate (-point).toNat '0' ++ digits)
  else
    let k := point.toNat
    if digits.length ≤ k then digits ++ List.replicate (k - digits.length) '0' ++ ['.', '0']
    else digits.take k ++ '.' :: digits.drop k

/-- Digits with the point after the first, and an exponent of at least `width` digits. -/
def scientific (digits : List Char) (exponent : Int) (width : Nat) : List Char :=
  let e := digitsOf exponent.natAbs
  let mantissa := match digits with
    | d :: [] => [d]
    | d :: rest => d :: '.' :: rest
    | [] => []
  mantissa ++ 'e' :: (if exponent < 0 then '-' else '+') ::
    (List.replicate (width - e.length) '0' ++ e)

/-- A double in a notation. -/
def FloatFormat.write (f : FloatFormat) (x : Binary64) : String :=
  if x.isNaN then f.nan
  else
    let sign := if x.negative then ['-'] else []
    if x.isInfinite then String.ofList sign ++ f.infinity
    else if x.magnitude.1 == 0 then String.ofList (sign ++ ['0', '.', '0'])
    else
      let (c, g) := shortest x
      let ds := digitsOf c
      let point : Int := ds.length + g
      String.ofList (sign ++
        (if f.lowestPoint ≤ point ∧ point ≤ f.highestPoint then positional ds point
          else scientific ds (point - 1) f.exponentDigits))

end SqlGateway.Number
