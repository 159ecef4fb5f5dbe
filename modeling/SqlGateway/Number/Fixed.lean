import SqlGateway.Number.Ratio
set_option autoImplicit false

/-!
# Numbers: fixed places

A rational number with a fixed count of decimal places, rounded to the nearest,
a half to the even neighbour.
-/

namespace SqlGateway.Number

/-- `r` with `places` digits after the point (at least one place). -/
def fixedPlaces (places : Nat) (r : Rat) : String :=
  let n := roundQuotient (r.num.natAbs * tenTo places) r.den
  let ds := Nat.toDigits 10 n
  let ds := List.replicate (places + 1 - ds.length) '0' ++ ds
  let k := ds.length - places
  String.ofList ((if r.num < 0 then ['-'] else []) ++ ds.take k ++ '.' :: ds.drop k)

end SqlGateway.Number
