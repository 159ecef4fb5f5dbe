import SqlGateway.Text.Hex
import SqlGateway.Text.Utf8
set_option autoImplicit false

/-!
# URLs: percent coding

Coding writes every byte of a text that is no letter, digit, `_`, `.`, `-` or `~`
as a percent sign and two upper-case digits.  Decoding leaves a percent sign that
is not followed by two digits alone, and reads each run of ASCII on its own, so a
character cannot be put together across one that stands for itself.
-/

namespace SqlGateway.Url

/-- Characters that need no coding anywhere. -/
def isUnreserved (c : Char) : Bool :=
  ('a' ≤ c && c ≤ 'z') || ('A' ≤ c && c ≤ 'Z') || ('0' ≤ c && c ≤ '9') ||
    c == '_' || c == '.' || c == '-' || c == '~'

/-- A byte in code. -/
def encodeByte (b : UInt8) : List Char :=
  let c := Char.ofNat b.toNat
  if isUnreserved c then [c]
  else '%' :: (Text.hexDigits 2 b.toNat).map Char.toUpper

/-- A text in code. -/
def encode (s : String) : String := String.ofList ((Text.utf8Bytes s).flatMap encodeByte)

/-- The bytes that ASCII text stands for. -/
def decodeBytes : List Char → List UInt8
  | [] => []
  | '%' :: a :: b :: rest =>
    match Text.hexValue? a, Text.hexValue? b with
    | some x, some y => .ofNat (x * 16 + y) :: decodeBytes rest
    | _, _ => 0x25 :: decodeBytes (a :: b :: rest)
  | c :: rest => .ofNat c.toNat :: decodeBytes rest

def isAscii (c : Char) : Bool := c.toNat < 128

/-- Decode a text, whose ASCII characters since the last other one are given in reverse. -/
def decodeFrom (run : List Char) : List Char → List Char
  | [] => Text.decodeLossy (decodeBytes run.reverse)
  | c :: rest =>
    if isAscii c then decodeFrom (c :: run) rest
    else Text.decodeLossy (decodeBytes run.reverse) ++ c :: decodeFrom [] rest

/-- A text out of code. -/
def decode (cs : List Char) : String := String.ofList (decodeFrom [] cs)

/-! ## Queries -/

/-- The parts of a text between separators; there is always at least one. -/
def splitAt (p : Char → Bool) : List Char → List (List Char)
  | [] => [[]]
  | c :: rest =>
    if p c then [] :: splitAt p rest
    else
      match splitAt p rest with
      | part :: more => (c :: part) :: more
      | [] => [[c]]

/-- The text before the first character that satisfies `p`, and the text after it if there is
one. -/
def cutAt (p : Char → Bool) : List Char → List Char × Option (List Char)
  | [] => ([], none)
  | c :: rest =>
    if p c then ([], some rest)
    else
      let (before, after) := cutAt p rest
      (c :: before, after)

/-- A field of a query; a plus sign is a space. -/
def decodeField (cs : List Char) : String := decode (cs.map fun c => if c == '+' then ' ' else c)

/-- The fields of a query that have a value, in order. -/
def queryFields (cs : List Char) : List (String × String) :=
  (splitAt (· == '&') cs).filterMap fun part =>
    match cutAt (· == '=') part with
    | (key, some value) =>
      if value.isEmpty then none else some (decodeField key, decodeField value)
    | _ => none

end SqlGateway.Url
