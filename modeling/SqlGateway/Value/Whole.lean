import SqlGateway.Value.Refusal
import SqlGateway.Value.Shown
set_option autoImplicit false

/-!
# Values: whole numbers and truth

Where a whole number is asked for, a number loses its fraction and a text is read
as a decimal literal.  Where a condition is asked for, nothing, zero and what is
empty count as false.
-/

namespace SqlGateway

namespace Whole

/-- Decimal digits with single underscores between them; `afterDigit` says that one may
come. -/
def readDigits? (afterDigit : Bool) (value : Nat) : List Char → Option Nat
  | [] => if afterDigit then some value else none
  | '_' :: cs => if afterDigit then readDigits? false value cs else none
  | c :: cs =>
    match Text.decimalDigit? c with
    | some d => readDigits? true (value * 10 + d) cs
    | none => none

/-- Largest count of digits a literal may have. -/
def digitLimit : Nat := 4300

/-- The number that a literal denotes; blanks around it and a sign are allowed. -/
def ofLiteral (shown : String) (cs : List Char) : Except Breakdown Int :=
  let (negative, digits) := match Text.trimWhere Uuid.isNumberBlank cs with
    | '-' :: cs => (true, cs)
    | '+' :: cs => (false, cs)
    | cs => (false, cs)
  let count := (digits.filter (· != '_')).length
  match readDigits? false 0 digits with
  | none => .error (.notInteger shown)
  | some n =>
    if digitLimit < count then .error (.tooManyDigits count)
    else .ok (if negative then -(n : Int) else n)

/-- The characters of bytes; what is not ASCII is no part of a number. -/
def charsOf (bs : List UInt8) : List Char :=
  bs.map fun b => if b < 128 then Char.ofNat b.toNat else '?'

/-- A double without its fraction. -/
def ofDouble (x : Binary64) : Except Breakdown Int :=
  match x.toRat? with
  | some r => .ok (if r < 0 then r.ceil else r.floor)
  | none => .error (if x.isNaN then .notANumber "float NaN" else .infiniteInt "float infinity")

/-- A decimal without its fraction. -/
def ofDecimal (d : Decimal) : Except Breakdown Int :=
  match d with
  | .nan .. => .error (.notANumber "NaN")
  | .infinite _ => .error (.infiniteInt "Infinity")
  | .finite negative c e =>
    let count := (Decimal.digitCount c + e).toNat
    if c == 0 then .ok 0
    else if digitLimit < count then .error (.tooManyDigits count)
    else
      let n := if 0 ≤ e then c * Number.tenTo e.toNat
        else if count == 0 then 0
        else c / Number.tenTo (-e).toNat
      .ok (if negative then -(n : Int) else n)

end Whole

namespace Native

/-- An object as a whole number. -/
def toWhole (n : Native) : Except Breakdown Int :=
  match n with
  | .bool b => .ok (if b then 1 else 0)
  | .int i => .ok i
  | .float x => Whole.ofDouble x
  | .decimal d => Whole.ofDecimal d
  | .bytes _ b => Whole.ofLiteral (Text.quotedBytes b) (Whole.charsOf b)
  | .uuid u => .ok u.bits.toNat
  | n =>
    match n.asText? with
    | some s => Whole.ofLiteral (Text.quoted s) s.toList
    | none => .error (.notNumber n.longTypeName)

/-- Does an object count as true? -/
def holds : Native → Bool
  | .null => false
  | .bool b => b
  | .int i => i != 0
  | .float x => !x.numEq (.zero false)
  | .decimal (.finite _ c _) => c != 0
  | .text s => !s.isEmpty
  | .bytes _ b => !b.isEmpty
  | .list items => !items.isEmpty
  | .tuple items => !items.isEmpty
  | .dict entries => !entries.isEmpty
  | _ => true

end Native

end SqlGateway
