import SqlGateway.Number.Binary64
import SqlGateway.Text.Blank
import SqlGateway.Text.Digit
set_option autoImplicit false

/-!
# Numbers: decimals

A `Decimal` keeps its sign, its digits and its exponent, so `1.5` and `1.50` are
different decimals of equal value, and zero has a sign and a scale.  Infinities
and NaNs are decimals as well; a NaN may signal and may carry a payload.

The text of a decimal is positional while the exponent is not positive and at
most five zeros would follow the point, and scientific otherwise.  Reading takes
digits of any script, ignores underscores and the blanks around the literal, and
refuses what lies outside the exponent range instead of rounding it.
-/

namespace SqlGateway

/-- A decimal number: `± coefficient · 10^exponent`, an infinity or a NaN. -/
inductive Decimal where
  | finite (negative : Bool) (coefficient : Nat) (exponent : Int)
  | infinite (negative : Bool)
  | nan (negative : Bool) (signals : Bool) (payload : Nat)
  deriving DecidableEq, Repr, Inhabited

namespace Decimal

/-! ## Limits -/

/-- Largest exponent of the first digit. -/
def highestExponent : Int := 999999999999999999

/-- Least exponent of the last digit. -/
def lowestExponent : Int := -1999999999999999997

/-- Number of decimal digits. -/
def digitCount (n : Nat) : Nat := (Nat.toDigits 10 n).length

/-- The exponents a decimal may have without being rounded. -/
def inRange (coefficient : Nat) (exponent : Int) : Bool :=
  lowestExponent ≤ exponent &&
    (if coefficient == 0 then exponent ≤ highestExponent
      else exponent + digitCount coefficient - 1 ≤ highestExponent)

/-! ## Building -/

def ofInt (n : Int) : Decimal := .finite (n < 0) n.natAbs 0

def isSignalling : Decimal → Bool
  | .nan _ s _ => s
  | _ => false

def isNaN : Decimal → Bool
  | .nan .. => true
  | _ => false

/-! ## Writing -/

/-- The sign and the word of a special value. -/
def signText (negative : Bool) : List Char := if negative then ['-'] else []

/-- An exponent with its sign. -/
def exponentText (e : Int) : List Char :=
  (if e < 0 then '-' else '+') :: Nat.toDigits 10 e.natAbs

/-- The digits of a finite decimal with the point and the exponent in place. -/
def finiteText (coefficient : Nat) (exponent : Int) : List Char :=
  let ds := Nat.toDigits 10 coefficient
  let left : Int := exponent + ds.length
  if exponent ≤ 0 ∧ -6 < left then
    if left ≤ 0 then '0' :: '.' :: (List.replicate (-left).toNat '0' ++ ds)
    else if exponent = 0 then ds
    else ds.take left.toNat ++ '.' :: ds.drop left.toNat
  else
    let mantissa := match ds with
      | d :: [] => [d]
      | d :: rest => d :: '.' :: rest
      | [] => []
    mantissa ++ 'E' :: exponentText (left - 1)

/-- The characters of a decimal. -/
def chars : Decimal → List Char
  | .finite neg c e => signText neg ++ finiteText c e
  | .infinite neg => signText neg ++ "Infinity".toList
  | .nan neg signals payload =>
    signText neg ++ (if signals then "sNaN" else "NaN").toList ++
      (if payload = 0 then [] else Nat.toDigits 10 payload)

def toText (d : Decimal) : String := String.ofList d.chars

/-! ## Reading -/

/-- One character of a literal in its ASCII form: a digit of any script becomes its
ASCII digit; an inner blank stays a blank. -/
def asciiForm? (c : Char) : Option Char :=
  if c.toNat == 0 then none
  else if c.toNat < 128 then some c
  else if Text.isBlank c then some ' '
  else (Text.decimalDigit? c).map Text.digitChar

/-- The literal without blanks around it and without underscores, in ASCII. -/
def normalForm? (s : String) : Option (List Char) :=
  ((Text.trimWhere Text.isBlank s.toList).filter (· != '_')).mapM asciiForm?

/-- Split off a sign; `true` means negative. -/
def takeSign : List Char → Bool × List Char
  | '-' :: cs => (true, cs)
  | '+' :: cs => (false, cs)
  | cs => (false, cs)

/-- The value of a run of ASCII digits. -/
def digitsValue (cs : List Char) : Nat :=
  Text.ofDigits 10 (cs.map fun c => c.toNat - 48)

/-- The leading ASCII digits and what follows them. -/
def spanDigits (cs : List Char) : List Char × List Char :=
  (cs.takeWhile Char.isDigit, cs.dropWhile Char.isDigit)

/-- The exponent part of a literal; an absent one is zero. -/
def readExponent? : List Char → Option Int
  | [] => some 0
  | c :: cs =>
    if c == 'e' || c == 'E' then
      let (neg, cs) := takeSign cs
      let (ds, rest) := spanDigits cs
      if ds.isEmpty || !rest.isEmpty then none
      else some (if neg then -(digitsValue ds : Int) else digitsValue ds)
    else none

/-- Digits, an optional fraction and an optional exponent, up to the end. -/
def readFinite? (negative : Bool) (cs : List Char) : Option Decimal :=
  let (whole, rest) := spanDigits cs
  let (frac, rest) := match rest with
    | '.' :: rest => spanDigits rest
    | rest => ([], rest)
  if whole.isEmpty && frac.isEmpty then none
  else
    (readExponent? rest).bind fun e =>
      let coefficient := digitsValue (whole ++ frac)
      let exponent := e - frac.length
      if inRange coefficient exponent then some (.finite negative coefficient exponent) else none

/-- Drop a word from the front, in any case of letters. -/
def dropWord? (word cs : List Char) : Option (List Char) :=
  if (cs.take word.length).map Char.toLower == word then some (cs.drop word.length) else none

/-- A NaN's payload up to the end. -/
def readPayload? (cs : List Char) : Option Nat :=
  if cs.all Char.isDigit then some (digitsValue cs) else none

/-- An infinity or a NaN. -/
def readSpecial? (negative : Bool) (cs : List Char) : Option Decimal :=
  if cs.map Char.toLower == "inf".toList || cs.map Char.toLower == "infinity".toList then
    some (.infinite negative)
  else match dropWord? "snan".toList cs with
    | some rest => (readPayload? rest).map (.nan negative true)
    | none =>
      match dropWord? "nan".toList cs with
      | some rest => (readPayload? rest).map (.nan negative false)
      | none => none

/-- Read a literal in its ASCII form. -/
def ofChars? (cs : List Char) : Option Decimal :=
  let (negative, cs) := takeSign cs
  match readFinite? negative cs with
  | some d => some d
  | none => readSpecial? negative cs

/-- Read a literal. -/
def ofText? (s : String) : Option Decimal := (normalForm? s).bind ofChars?

/-! ## Values -/

/-- The integer a decimal equals, if it is a finite whole number below `10^limit`;
`none` says that it is not, or that it is larger. -/
def toInt? (limit : Nat) : Decimal → Option Int
  | .finite neg c e =>
    if c == 0 then some 0
    else if 0 ≤ e then
      if (limit : Int) < e + digitCount c then none
      else
        let n := c * Number.tenTo e.toNat
        some (if neg then -(n : Int) else n)
    else
      let k := (-e).toNat
      if digitCount c ≤ k then none
      else if c % Number.tenTo k == 0 then
        let n := c / Number.tenTo k
        some (if neg then -(n : Int) else n)
      else none
  | _ => none

/-- A finite decimal without a fractional part. -/
def isWhole : Decimal → Bool
  | .finite _ c e =>
    c == 0 || 0 ≤ e || ((-e).toNat < digitCount c && c % Number.tenTo (-e).toNat == 0)
  | _ => false

/-- The nearest double; past the largest one an infinity, and none for a signalling NaN. -/
def toBinary64? : Decimal → Option Binary64
  | .finite neg c e =>
    if c == 0 then some (.zero neg)
    else
      let lead := e + digitCount c
      if 400 < lead then some (.infinity neg)
      else if lead < -400 then some (.zero neg)
      else if 0 ≤ e then some (.ofQuotient neg (c * Number.tenTo e.toNat) 1)
      else some (.ofQuotient neg c (Number.tenTo (-e).toNat))
  | .infinite neg => some (.infinity neg)
  | .nan _ signals _ => if signals then none else some .nan

/-- Drop the trailing zeros of a coefficient; the fuel is the number of its digits. -/
def stripZeros : Nat → Nat → Int → Nat × Int
  | 0, c, e => (c, e)
  | fuel + 1, c, e => if c != 0 && c % 10 == 0 then stripZeros fuel (c / 10) (e + 1) else (c, e)

/-- Numerical equality of decimals that are not NaN: sign, digits and scale up to trailing
zeros, and the two zeros equal each other. -/
def numEq : Decimal → Decimal → Bool
  | .finite n₁ c₁ e₁, .finite n₂ c₂ e₂ =>
    if c₁ == 0 || c₂ == 0 then c₁ == c₂
    else n₁ == n₂ && stripZeros (digitCount c₁) c₁ e₁ == stripZeros (digitCount c₂) c₂ e₂
  | .infinite n₁, .infinite n₂ => n₁ == n₂
  | _, _ => false

end Decimal

end SqlGateway
