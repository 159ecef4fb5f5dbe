set_option autoImplicit false

/-!
# Texts: bytes as UTF-8

Every byte string can be read as text: what is not well-formed is replaced by
U+FFFD, one for each longest run of bytes that begins a character but does not
finish one, and one for each byte that begins none.
-/

namespace SqlGateway.Text

/-- Bytes of a text. -/
def utf8Bytes (s : String) : List UInt8 := s.toUTF8.toList

/-- What a leading byte asks for: how many bytes follow, the range of the first of them, and
the bits it contributes itself. -/
def leadOf? (b : Nat) : Option (Nat × Nat × Nat × Nat) :=
  if b < 0x80 then some (0, 0, 0, b)
  else if 0xc2 ≤ b ∧ b ≤ 0xdf then some (1, 0x80, 0xbf, b - 0xc0)
  else if b = 0xe0 then some (2, 0xa0, 0xbf, 0)
  else if b = 0xed then some (2, 0x80, 0x9f, 0xd)
  else if 0xe1 ≤ b ∧ b ≤ 0xef then some (2, 0x80, 0xbf, b - 0xe0)
  else if b = 0xf0 then some (3, 0x90, 0xbf, 0)
  else if 0xf1 ≤ b ∧ b ≤ 0xf3 then some (3, 0x80, 0xbf, b - 0xf0)
  else if b = 0xf4 then some (3, 0x80, 0x8f, 4)
  else none

/-- Read the bytes that follow a leading one; `none` when one of them is missing or out of
range, and in either case what is left after those that fit. -/
def takeContinuation (lo hi value : Nat) : Nat → List UInt8 → Option Nat × List UInt8
  | 0, bs => (some value, bs)
  | _ + 1, [] => (none, [])
  | n + 1, b :: bs =>
    if lo ≤ b.toNat ∧ b.toNat ≤ hi then
      takeContinuation 0x80 0xbf (value * 64 + (b.toNat - 0x80)) n bs
    else (none, b :: bs)

theorem takeContinuation_length (lo hi value n : Nat) (bs : List UInt8) :
    (takeContinuation lo hi value n bs).2.length ≤ bs.length := by
  induction n generalizing lo hi value bs with
  | zero => simp [takeContinuation]
  | succ n ih =>
    cases bs with
    | nil => simp [takeContinuation]
    | cons b bs =>
      simp only [takeContinuation]
      split
      · exact Nat.le_succ_of_le (ih _ _ _ _)
      · simp

/-- The text of a byte string. -/
def decodeLossy : List UInt8 → List Char
  | [] => []
  | b :: bs =>
    match leadOf? b.toNat with
    | none => '\ufffd' :: decodeLossy bs
    | some (count, lo, hi, bits) =>
      let read := takeContinuation lo hi bits count bs
      match read.1 with
      | some code => Char.ofNat code :: decodeLossy read.2
      | none => '\ufffd' :: decodeLossy read.2
termination_by bs => bs.length
decreasing_by
  · exact Nat.lt_succ_self bs.length
  all_goals exact Nat.lt_succ_of_le (takeContinuation_length lo hi bits count bs)

end SqlGateway.Text
