import SqlGateway.Text.Hex
import SqlGateway.Text.Printable
set_option autoImplicit false

/-!
# Text: quoted literals

Messages show a text between quotes.  The apostrophe is the quote, unless the
text holds apostrophes and no double quote.  Inside, the quote in use and the
backslash are escaped by a backslash, tab and line ends by their letters, and
what is not printable by its code in two, four or eight hexadecimal digits.
Byte strings are shown alike, with every byte beyond ASCII by its code.
-/

namespace SqlGateway.Text

/-- The quote around a list of characters. -/
def quoteFor (cs : List Char) : Char :=
  if cs.contains '\'' && !cs.contains '"' then '"' else '\''

/-- The code of a character that cannot stand as itself. -/
def codeEscape (n : Nat) : List Char :=
  if n < 0x100 then '\\' :: 'x' :: hexDigits 2 n
  else if n < 0x10000 then '\\' :: 'u' :: hexDigits 4 n
  else '\\' :: 'U' :: hexDigits 8 n

/-- One character as it stands between quotes; `plain` says what needs no code. -/
def escapeChar (plain : Char → Bool) (quote c : Char) : List Char :=
  if c == quote || c == '\\' then ['\\', c]
  else if c == '\t' then ['\\', 't']
  else if c == '\n' then ['\\', 'n']
  else if c == '\r' then ['\\', 'r']
  else if plain c then [c]
  else codeEscape c.toNat

/-- Characters between quotes. -/
def quotedChars (plain : Char → Bool) (cs : List Char) : List Char :=
  let q := quoteFor cs
  q :: (cs.flatMap (escapeChar plain q) ++ [q])

/-- A text as a quoted literal. -/
def quoted (s : String) : String := String.ofList (quotedChars isPrintable s.toList)

/-- A byte string as a quoted literal, marked by the letter `b`. -/
def quotedBytes (bs : List UInt8) : String :=
  let cs := bs.map fun b => Char.ofNat b.toNat
  String.ofList ('b' :: quotedChars (fun c => 0x20 ≤ c.toNat && c.toNat < 0x7f) cs)

end SqlGateway.Text
