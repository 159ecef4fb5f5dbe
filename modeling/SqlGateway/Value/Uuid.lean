import SqlGateway.Text.Blank
import SqlGateway.Text.Digit
import SqlGateway.Text.Hex
set_option autoImplicit false

/-!
# Values: universally unique identifiers

An identifier is 128 bits.  It is written as thirty-two lower-case hexadecimal
digits in groups of 8, 4, 4, 4 and 12, and has a form of sixteen bytes, most
significant first.

Reading is lenient about the dressing: the words `urn:` and `uuid:` are dropped
wherever they stand, so are hyphens, and braces at the ends.  What is left must be
thirty-two characters that denote a hexadecimal number, which may itself have
blanks around it, a sign, a `0x` and single underscores between digits.
-/

namespace SqlGateway

/-- A universally unique identifier. -/
structure Uuid where
  bits : BitVec 128
  deriving DecidableEq, Repr

namespace Uuid

/-! ## Writing -/

/-- The thirty-two digits. -/
def digits (u : Uuid) : List Char := Text.hexDigits 32 u.bits.toNat

def chars (u : Uuid) : List Char :=
  let ds := u.digits
  ds.take 8 ++ '-' :: ((ds.drop 8).take 4 ++ '-' :: ((ds.drop 12).take 4 ++ '-' ::
    ((ds.drop 16).take 4 ++ '-' :: ds.drop 20)))

def toText (u : Uuid) : String := String.ofList u.chars

/-- The lowest `count` bytes of a number, most significant first. -/
def bytesOf : Nat → Nat → List UInt8
  | 0, _ => []
  | count + 1, n => bytesOf count (n / 256) ++ [UInt8.ofNat n]

/-- The sixteen bytes. -/
def bytes (u : Uuid) : List UInt8 := bytesOf 16 u.bits.toNat

/-! ## Reading -/

/-- Drop every occurrence of a word, from left to right; `skip` characters of the current
occurrence are still to go. -/
def dropWord (word : List Char) : Nat → List Char → List Char
  | _, [] => []
  | skip + 1, _ :: cs => dropWord word skip cs
  | 0, c :: cs =>
    if word.isPrefixOf (c :: cs) then dropWord word (word.length - 1) cs
    else c :: dropWord word 0 cs

/-- The digits without their dressing. -/
def undress (cs : List Char) : List Char :=
  let cs := dropWord "uuid:".toList 0 (dropWord "urn:".toList 0 cs)
  (Text.trimWhere (fun c => c == '{' || c == '}') cs).filter (· != '-')

/-- Digits with single underscores between them; `afterDigit` says that one may come. -/
def readHexDigits? (afterDigit : Bool) (value : Nat) : List Char → Option Nat
  | [] => if afterDigit then some value else none
  | '_' :: cs => if afterDigit then readHexDigits? false value cs else none
  | c :: cs =>
    match Text.hexValue? c with
    | some d => readHexDigits? true (value * 16 + d) cs
    | none => none

/-- Blanks around a number: all of them but the separators of ASCII. -/
def isNumberBlank (c : Char) : Bool :=
  Text.isBlank c && !(0x1c ≤ c.toNat && c.toNat ≤ 0x1f)

/-- A hexadecimal number that is not negative. -/
def readHex? (cs : List Char) : Option Nat :=
  let cs := Text.trimWhere isNumberBlank cs
  let cs := cs.map fun c => ((Text.decimalDigit? c).map Text.digitChar).getD c
  let (negative, cs) := match cs with
    | '-' :: cs => (true, cs)
    | '+' :: cs => (false, cs)
    | cs => (false, cs)
  let value := match cs with
    | '0' :: x :: '_' :: rest => if x == 'x' || x == 'X' then readHexDigits? false 0 rest
        else readHexDigits? false 0 cs
    | '0' :: x :: rest => if x == 'x' || x == 'X' then readHexDigits? false 0 rest
        else readHexDigits? false 0 cs
    | cs => readHexDigits? false 0 cs
  value.bind fun n => if negative && n != 0 then none else some n

def ofChars? (cs : List Char) : Option Uuid :=
  let ds := undress cs
  if ds.length == 32 then (readHex? ds).map fun n => ⟨BitVec.ofNat 128 n⟩ else none

def ofText? (s : String) : Option Uuid := ofChars? s.toList

/-- The number that bytes denote, most significant first. -/
def ofBytes (bs : List UInt8) : Uuid :=
  ⟨BitVec.ofNat 128 (bs.foldl (fun n b => n * 256 + b.toNat) 0)⟩

end Uuid

end SqlGateway
