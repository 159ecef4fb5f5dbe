import SqlGateway.Text.Utf8
set_option autoImplicit false

/-!
# Text: bytes are read back

The bytes of a text are read as that text: each character is read from its own bytes, however
many it takes.  No byte string gives more characters than it has bytes.
-/

namespace SqlGateway.Text

/-! ## The bytes of a text -/

theorem byteArray_loop (bs : ByteArray) (i : Nat) (r : List UInt8) :
    ByteArray.toList.loop bs i r = r.reverse ++ bs.data.toList.drop i := by
  fun_induction ByteArray.toList.loop bs i r with
  | case1 i r h ih =>
    have hi : i < bs.data.toList.length := by simpa using h
    have hget : bs.get! i = bs.data.toList[i] := getElem!_pos bs.data i h
    rw [ih, hget, List.drop_eq_getElem_cons hi, List.reverse_cons, List.append_assoc,
      List.singleton_append]
  | case2 i r h =>
    have hi : bs.data.toList.length ≤ i := by simpa using h
    rw [List.drop_eq_nil_of_le hi, List.append_nil]

/-- The bytes of a text are those of its characters. -/
theorem utf8Bytes_eq (s : String) : utf8Bytes s = s.toList.flatMap String.utf8EncodeChar := by
  have hs : s.toByteArray = s.toList.utf8Encode := by
    rw [← String.toByteArray_ofList, String.ofList_toList]
  rw [utf8Bytes, String.toUTF8, hs, ByteArray.toList, byteArray_loop, List.utf8Encode]
  simp

/-- A byte that begins a character, and the bytes that finish it. -/
theorem decodeLossy_cons {b : UInt8} {bs rest : List UInt8} {count lo hi bits code : Nat}
    (hlead : leadOf? b.toNat = some (count, lo, hi, bits))
    (htail : takeContinuation lo hi bits count bs = (some code, rest)) :
    decodeLossy (b :: bs) = Char.ofNat code :: decodeLossy rest := by
  rw [decodeLossy, hlead]
  simp only [htail]

theorem takeContinuation_byte {lo hi value n x : Nat} (hx : x < 64) (hlo : lo ≤ x + 128)
    (hhi : x + 128 ≤ hi) (bs : List UInt8) :
    takeContinuation lo hi value (n + 1) (.ofNat (x + 128) :: bs) =
      takeContinuation 0x80 0xbf (value * 64 + x) n bs := by
  have hbyte : (UInt8.ofNat (x + 128)).toNat = x + 128 := by
    rw [UInt8.toNat_ofNat']
    omega
  rw [takeContinuation, hbyte, if_pos ⟨hlo, hhi⟩, Nat.add_sub_cancel]

theorem leadOf?_two {x : Nat} (hlow : 2 ≤ x) (hhigh : x < 32) :
    leadOf? (x + 192) = some (1, 0x80, 0xbf, x) := by
  unfold leadOf?
  rw [if_neg (by omega), if_pos (by omega), Nat.add_sub_cancel]

/-- Of three bytes, the second says whether the first needed to be there, and is below the
range that is kept for pairs. -/
theorem leadOf?_three {x y : Nat} (hx : x < 16) (hy : y < 64) (hlong : x = 0 → 32 ≤ y)
    (hpair : x = 13 → y < 32) :
    ∃ lo hi, leadOf? (x + 224) = some (2, lo, hi, x) ∧ lo ≤ y + 128 ∧ y + 128 ≤ hi := by
  unfold leadOf?
  rw [if_neg (by omega), if_neg (by omega)]
  by_cases hzero : x = 0
  · subst hzero
    exact ⟨0xa0, 0xbf, rfl, by omega, by omega⟩
  · rw [if_neg (by omega)]
    by_cases hthirteen : x = 13
    · subst hthirteen
      exact ⟨0x80, 0x9f, rfl, by omega, by omega⟩
    · rw [if_neg (by omega), if_pos (by omega), Nat.add_sub_cancel]
      exact ⟨0x80, 0xbf, rfl, by omega, by omega⟩

theorem leadOf?_four {x y : Nat} (hx : x < 5) (hy : y < 64) (hlong : x = 0 → 16 ≤ y)
    (hlast : x = 4 → y < 16) :
    ∃ lo hi, leadOf? (x + 240) = some (3, lo, hi, x) ∧ lo ≤ y + 128 ∧ y + 128 ≤ hi := by
  unfold leadOf?
  rw [if_neg (by omega), if_neg (by omega), if_neg (by omega), if_neg (by omega),
    if_neg (by omega)]
  by_cases hzero : x = 0
  · subst hzero
    exact ⟨0x90, 0xbf, rfl, by omega, by omega⟩
  · rw [if_neg (by omega)]
    by_cases hfour : x = 4
    · subst hfour
      exact ⟨0x80, 0x8f, rfl, by omega, by omega⟩
    · rw [if_pos (by omega), Nat.add_sub_cancel]
      exact ⟨0x80, 0xbf, rfl, by omega, by omega⟩

/-- The bytes of a character are read as that character. -/
theorem decodeLossy_utf8EncodeChar (c : Char) (bs : List UInt8) :
    decodeLossy (String.utf8EncodeChar c ++ bs) = c :: decodeLossy bs := by
  obtain ⟨n, hn⟩ : ∃ n, n = c.val.toNat := ⟨_, rfl⟩
  have hvalid : n < 0xd800 ∨ (0xdfff < n ∧ n < 0x110000) := hn ▸ c.valid
  have hchar : Char.ofNat n = c := hn ▸ Char.ofNat_toNat c
  have hsmall : ∀ m : Nat, m < 256 → (UInt8.ofNat m).toNat = m := by
    intro m hm
    rw [UInt8.toNat_ofNat']
    omega
  -- One case for each number of bytes; each byte but the first holds six bits.
  simp only [String.utf8EncodeChar, ← hn]
  split
  · next hone =>
    have hlead : leadOf? (UInt8.ofNat n).toNat = some (0, 0, 0, n) := by
      rw [hsmall n (by omega), leadOf?, if_pos (by omega)]
    rw [List.singleton_append, decodeLossy_cons hlead rfl, hchar]
  · split
    · next htwo =>
      have hlead := leadOf?_two (x := n / 64) (by omega) (by omega)
      rw [← hsmall (n / 64 + 192) (by omega)] at hlead
      have hcode : n / 64 * 64 + n % 64 = n := by omega
      rw [Nat.mod_eq_of_lt (show n / 64 < 32 by omega)]
      refine (decodeLossy_cons hlead ((takeContinuation_byte (by omega) (by omega) (by omega)
        _).trans ?_)).trans (congrArg (· :: decodeLossy bs) hchar)
      rw [takeContinuation, hcode]
      rfl
    · split
      · next hthree =>
        obtain ⟨lo, hi, hlead, hlo, hhi⟩ := leadOf?_three (x := n / 4096) (y := n / 64 % 64)
          (by omega) (by omega) (by omega) (by omega)
        rw [← hsmall (n / 4096 + 224) (by omega)] at hlead
        have hcode : (n / 4096 * 64 + n / 64 % 64) * 64 + n % 64 = n := by omega
        rw [Nat.mod_eq_of_lt (show n / 4096 < 16 by omega)]
        refine (decodeLossy_cons hlead ((takeContinuation_byte (by omega) hlo hhi _).trans
          ((takeContinuation_byte (by omega) (by omega) (by omega) _).trans ?_))).trans
          (congrArg (· :: decodeLossy bs) hchar)
        rw [takeContinuation, hcode]
        rfl
      · next hfour =>
        obtain ⟨lo, hi, hlead, hlo, hhi⟩ := leadOf?_four (x := n / 262144) (y := n / 4096 % 64)
          (by omega) (by omega) (by omega) (by omega)
        rw [← hsmall (n / 262144 + 240) (by omega)] at hlead
        have hcode : ((n / 262144 * 64 + n / 4096 % 64) * 64 + n / 64 % 64) * 64 + n % 64 = n := by
          omega
        rw [Nat.mod_eq_of_lt (show n / 262144 < 8 by omega)]
        refine (decodeLossy_cons hlead ((takeContinuation_byte (by omega) hlo hhi _).trans
          ((takeContinuation_byte (by omega) (by omega) (by omega) _).trans
            ((takeContinuation_byte (by omega) (by omega) (by omega) _).trans ?_)))).trans
          (congrArg (· :: decodeLossy bs) hchar)
        rw [takeContinuation, hcode]
        rfl

/-- The bytes of a text are read as that text. -/
theorem decodeLossy_utf8Bytes (s : String) : decodeLossy (utf8Bytes s) = s.toList := by
  rw [utf8Bytes_eq]
  induction s.toList with
  | nil => rw [List.flatMap_nil, decodeLossy]
  | cons c cs ih => rw [List.flatMap_cons, decodeLossy_utf8EncodeChar, ih]

/-- Bytes of ASCII are read one by one. -/
theorem decodeLossy_ascii {bs : List UInt8} (h : ∀ b ∈ bs, b.toNat < 128) :
    decodeLossy bs = bs.map fun b => Char.ofNat b.toNat := by
  induction bs with
  | nil => rw [decodeLossy, List.map_nil]
  | cons b bs ih =>
    have hlead : leadOf? b.toNat = some (0, 0, 0, b.toNat) := by
      rw [leadOf?, if_pos (h b List.mem_cons_self)]
    rw [decodeLossy_cons hlead rfl, ih fun x hx => h x (List.mem_cons_of_mem b hx), List.map_cons]

/-- A text has no more characters than bytes. -/
theorem length_decodeLossy_le (bs : List UInt8) : (decodeLossy bs).length ≤ bs.length := by
  fun_induction decodeLossy bs with
  | case1 => exact Nat.le_refl 0
  | case2 b bs hlead ih => exact Nat.succ_le_succ ih
  | case3 b bs count lo hi bits hlead read code hcode ih =>
    exact Nat.succ_le_succ (Nat.le_trans ih (takeContinuation_length lo hi bits count bs))
  | case4 b bs count lo hi bits hlead read hnone ih =>
    exact Nat.succ_le_succ (Nat.le_trans ih (takeContinuation_length lo hi bits count bs))

theorem decodeLossy_ne_nil {bs : List UInt8} (h : bs ≠ []) : decodeLossy bs ≠ [] := by
  fun_cases decodeLossy bs with
  | case1 => exact absurd rfl h
  | case2 b bs hlead => exact List.cons_ne_nil _ _
  | case3 b bs count lo hi bits hlead read code hcode => exact List.cons_ne_nil _ _
  | case4 b bs count lo hi bits hlead read hnone => exact List.cons_ne_nil _ _

end SqlGateway.Text
