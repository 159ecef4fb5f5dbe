set_option autoImplicit false

/-!
# Text: blank characters

Blank characters are the white space of Unicode together with the four
separators of the control range.  Names made of blanks only are refused
everywhere, and literals are read between the blanks around them.
-/

namespace SqlGateway.Text

/-- White space, line and paragraph separators, and the information separators. -/
def isBlank (c : Char) : Bool :=
  let n := c.toNat
  (0x09 ≤ n && n ≤ 0x0d) || (0x1c ≤ n && n ≤ 0x20) || n == 0x85 || n == 0xa0 || n == 0x1680 ||
  (0x2000 ≤ n && n ≤ 0x200a) || n == 0x2028 || n == 0x2029 || n == 0x202f || n == 0x205f ||
  n == 0x3000

/-- Nothing but blanks, or nothing at all. -/
def allBlank (s : String) : Bool := s.toList.all isBlank

/-- Drop what satisfies `p` at both ends. -/
def trimWhere (p : Char → Bool) (cs : List Char) : List Char :=
  ((cs.dropWhile p).reverse.dropWhile p).reverse

/-- The text without the blanks around it. -/
def trim (s : String) : String := String.ofList (trimWhere isBlank s.toList)

end SqlGateway.Text
