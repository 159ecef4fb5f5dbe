import SqlGateway.Number.Binary64
set_option autoImplicit false

/-!
# Numbers: integers past the largest double

An integer has a nearest double unless it rounds past the largest one.  The largest double
is `(2^53 - 1) · 2^971`, and the integer half a unit above it, `2^1024 - 2^970`, is the first
that rounds away from it: half-way, it goes to the even side.
-/

namespace SqlGateway

open Number

namespace Number

/-- The bits of a positive whole number: its first 53, and how far they are shifted. -/
theorem roundToBits_whole {num : Nat} (hnum : 0 < num) :
    roundToBits 53 (some (-1074)) num 1 =
      (if 52 ≤ Nat.log2 num then roundQuotient num (twoTo (Nat.log2 num - 52))
        else num * twoTo (52 - Nat.log2 num), (Nat.log2 num : Int) - 52) := by
  have hone : Nat.log2 1 = 0 := by decide
  have hlog : log2Quotient num 1 = Nat.log2 num := by
    rw [log2Quotient, hone]
    omega
  have hscaled : roundToBits.scaled num 1 (-(Nat.log2 num : Int)) = true := by
    unfold roundToBits.scaled
    split
    · exact decide_eq_true (Nat.mul_pos hnum (Nat.two_pow_pos _))
    · rw [Int.neg_neg, Int.toNat_natCast, Nat.one_mul]
      exact decide_eq_true (Nat.log2_self_le (Nat.ne_of_gt hnum))
  have hshift : max ((Nat.log2 num : Int) - (53 : Nat) + 1) (-1074) = (Nat.log2 num : Int) - 52 := by
    omega
  simp only [roundToBits, hlog, hscaled, if_true, hshift]
  by_cases hlarge : 52 ≤ Nat.log2 num
  · have hnat : ((Nat.log2 num : Int) - 52).toNat = Nat.log2 num - 52 := by omega
    rw [if_pos hlarge, if_pos (by omega), hnat, Nat.one_mul]
  · have hnat : (-((Nat.log2 num : Int) - 52)).toNat = 52 - Nat.log2 num := by omega
    have hexact := roundQuotient_mul (num * twoTo (52 - Nat.log2 num)) 1 (by decide)
    rw [Nat.mul_one] at hexact
    rw [if_neg hlarge, if_neg (by omega), hnat, hexact]

/-- The first 53 bits of a positive whole number are that many. -/
theorem roundToBits_whole_bounds {num : Nat} (hnum : 0 < num) :
    twoTo 52 ≤ (roundToBits 53 (some (-1074)) num 1).1 ∧
      (roundToBits 53 (some (-1074)) num 1).1 ≤ twoTo 53 := by
  have hlow : 2 ^ Nat.log2 num ≤ num := Nat.log2_self_le (Nat.ne_of_gt hnum)
  have hhigh : num < 2 ^ (Nat.log2 num + 1) := Nat.lt_log2_self
  rw [roundToBits_whole hnum]
  by_cases hlarge : 52 ≤ Nat.log2 num
  · have hunit : 0 < 2 ^ (Nat.log2 num - 52) := Nat.two_pow_pos _
    have hfloor : 2 ^ 52 * 2 ^ (Nat.log2 num - 52) = 2 ^ Nat.log2 num := by
      rw [← Nat.pow_add, Nat.add_sub_cancel' hlarge]
    have hceil : 2 ^ 53 * 2 ^ (Nat.log2 num - 52) = 2 ^ (Nat.log2 num + 1) := by
      rw [← Nat.pow_add]
      congr 1
      omega
    have hquotient : 2 ^ 52 ≤ num / 2 ^ (Nat.log2 num - 52) :=
      (Nat.le_div_iff_mul_le hunit).2 (by omega)
    have hbelow : num / 2 ^ (Nat.log2 num - 52) < 2 ^ 53 :=
      (Nat.div_lt_iff_lt_mul hunit).2 (by omega)
    have hbounds := roundQuotient_bounds num (2 ^ (Nat.log2 num - 52))
    simp only [if_pos hlarge, twoTo, Nat.pow_eq]
    omega
  · have hexp : Nat.log2 num + (52 - Nat.log2 num) = 52 := by omega
    have hexp' : Nat.log2 num + 1 + (52 - Nat.log2 num) = 53 := by omega
    have hfloor := Nat.mul_le_mul_right (2 ^ (52 - Nat.log2 num)) hlow
    have hceil := Nat.mul_le_mul_right (2 ^ (52 - Nat.log2 num)) (Nat.le_of_lt hhigh)
    rw [← Nat.pow_add, hexp] at hfloor
    rw [← Nat.pow_add, hexp'] at hceil
    simp only [if_neg hlarge, twoTo, Nat.pow_eq]
    exact ⟨hfloor, hceil⟩

/-- Below the even number after an odd one, a quotient rounds up to it from half-way on. -/
theorem roundQuotient_eq_succ_iff {num half odd : Nat} (hhalf : 0 < half) (hodd : odd % 2 = 1)
    (hnum : num < (odd + 1) * (2 * half)) :
    roundQuotient num (2 * half) = odd + 1 ↔ odd * (2 * half) + half ≤ num := by
  have hsplit := Nat.div_add_mod num (2 * half)
  have hrest : num % (2 * half) < 2 * half := Nat.mod_lt num (by omega)
  have hquotient : num / (2 * half) ≤ odd :=
    Nat.lt_succ_iff.1 ((Nat.div_lt_iff_lt_mul (by omega)).2 hnum)
  have hbounds := roundQuotient_bounds num (2 * half)
  rcases Nat.lt_or_eq_of_le hquotient with hless | hequal
  · have hmul := Nat.mul_le_mul_left (2 * half) (Nat.succ_le_of_lt hless)
    rw [Nat.mul_succ, Nat.mul_comm (2 * half) odd] at hmul
    refine iff_of_false (by omega) (by omega)
  · rw [hequal, Nat.mul_comm (2 * half) odd] at hsplit
    unfold roundQuotient
    rw [hequal]
    constructor
    · intro hround
      by_cases hdown : 2 * (num % (2 * half)) < 2 * half
      · simp only [if_pos hdown] at hround
        omega
      · omega
    · intro hhigh
      have hup : ¬ 2 * (num % (2 * half)) < 2 * half := by omega
      have heven : (odd % 2 == 0) = false := by
        rw [hodd]
        rfl
      simp only [if_neg hup, heven, Bool.false_eq_true, if_false, ite_self]

end Number

namespace Binary64

/-- The first integer that is past the largest double once it is rounded. -/
def firstTooLarge : Nat := twoTo 1024 - twoTo 970

section

variable (negative : Bool) {e f : Nat}

theorem exponentField_pack (he : e < 2048) (hf : f < twoTo 52) :
    (pack negative e f).exponentField = e := by
  have hf : f < 4503599627370496 := hf
  cases negative <;>
    simp only [exponentField, pack, UInt64.toNat_ofNat', twoTo, Nat.pow_eq, Bool.false_eq_true,
      if_false, if_true] <;> omega

theorem isInfinite_pack (he : e < 2047) (hf : f < twoTo 52) :
    (pack negative e f).isInfinite = false := by
  rw [isInfinite, exponentField_pack negative (Nat.lt_succ_of_lt he) hf,
    beq_eq_false_iff_ne.2 (Nat.ne_of_lt he), Bool.false_and]

theorem isInfinite_infinity : (infinity negative).isInfinite = true := by
  cases negative <;> decide

/-- A significand of 53 bits is past the largest double from a shift of 972 on, or of 971 once
it rounds up. -/
theorem isInfinite_ofMagnitude {m : Nat} {e : Int} (hm : m ≤ twoTo 53) (he : -1074 ≤ e) :
    (ofMagnitude negative m e).isInfinite = true ↔
      twoTo 52 ≤ m ∧ (972 ≤ e ∨ (e = 971 ∧ m = twoTo 53)) := by
  have htwice : twoTo 53 = 2 * twoTo 52 := rfl
  unfold ofMagnitude
  by_cases hsmall : m < twoTo 52
  · rw [if_pos hsmall, isInfinite_pack negative (by decide) hsmall]
    exact iff_of_false Bool.noConfusion fun h => Nat.not_le_of_lt hsmall h.1
  · rw [if_neg hsmall]
    by_cases hcarry : m = twoTo 53
    · simp only [beq_iff_eq.2 hcarry, if_true]
      by_cases hlarge : 972 ≤ e + 1
      · rw [if_pos hlarge, isInfinite_infinity]
        exact iff_of_true rfl ⟨by omega, by omega⟩
      · rw [if_neg hlarge, Nat.sub_self,
          isInfinite_pack negative (by omega) (Nat.two_pow_pos 52)]
        exact iff_of_false Bool.noConfusion (by omega)
    · have hnocarry : (m == twoTo 53) = false := beq_eq_false_iff_ne.2 hcarry
      simp only [hnocarry, Bool.false_eq_true, if_false]
      by_cases hlarge : 972 ≤ e
      · rw [if_pos hlarge, isInfinite_infinity]
        exact iff_of_true rfl ⟨by omega, .inl hlarge⟩
      · rw [if_neg hlarge, isInfinite_pack negative (by omega) (by omega)]
        exact iff_of_false Bool.noConfusion (by omega)

end

/-- The nearest double to a positive whole number is an infinity from that integer on. -/
theorem isInfinite_ofQuotient (negative : Bool) {num : Nat} (hnum : 0 < num) :
    (ofQuotient negative num 1).isInfinite = true ↔ firstTooLarge ≤ num := by
  have hreach : ∀ k, k ≤ Nat.log2 num → twoTo k ≤ num := fun _ h =>
    Nat.le_trans (Nat.pow_le_pow_right Nat.two_pos h) (Nat.log2_self_le (Nat.ne_of_gt hnum))
  have hstay : ∀ k, Nat.log2 num < k → num < twoTo k := fun _ h =>
    Nat.lt_of_lt_of_le Nat.lt_log2_self (Nat.pow_le_pow_right Nat.two_pos h)
  have hbounds := roundToBits_whole_bounds hnum
  have hpositive : (num == 0) = false := beq_eq_false_iff_ne.2 (Nat.ne_of_gt hnum)
  rw [roundToBits_whole hnum] at hbounds
  simp only [ofQuotient, hpositive, Bool.false_eq_true, if_false, roundToBits_whole hnum]
  rw [isInfinite_ofMagnitude negative hbounds.2 (by omega)]
  have hpowers : ∀ k, 0 < twoTo k := fun k => Nat.two_pow_pos k
  have hunit := hpowers 970
  have hshift : twoTo 971 = 2 * twoTo 970 := by decide +kernel
  have hfirst : twoTo 1023 = 2 ^ 53 * twoTo 970 := by decide +kernel
  have hnext : twoTo 1024 = 2 ^ 54 * twoTo 970 := by decide +kernel
  have hbound : firstTooLarge = 2 ^ 54 * twoTo 970 - twoTo 970 := by rw [firstTooLarge, hnext]
  rw [hbound]
  -- three ranges: below the last binade, in it, and past every shift
  rcases Nat.lt_trichotomy (Nat.log2 num) 1023 with hbelow | hequal | habove
  · have hsmall := hstay 1023 hbelow
    rw [hfirst] at hsmall
    generalize twoTo 970 = unit at hunit hsmall
    exact iff_of_false (by omega) (by omega)
  · have hcap := hstay 1024 (by omega)
    have hplaces : Nat.log2 num - 52 = 971 := by omega
    have hinside : 52 ≤ Nat.log2 num := by omega
    rw [hnext] at hcap
    simp only [if_pos hinside, hplaces, hshift] at hbounds ⊢
    generalize twoTo 970 = unit at hunit hcap hbounds
    have hbelow : num < (2 ^ 53 - 1 + 1) * (2 * unit) := by omega
    have hround := roundQuotient_eq_succ_iff hunit (by decide) hbelow
    have hhalf : 2 ^ 54 * unit - unit ≤ num ↔ (2 ^ 53 - 1) * (2 * unit) + unit ≤ num := by omega
    have htwo : twoTo 53 = 2 ^ 53 - 1 + 1 := by decide
    rw [hhalf, ← hround, ← htwo]
    exact ⟨fun h => (h.2.resolve_left (by omega)).2, fun h => ⟨hbounds.1, .inr ⟨by omega, h⟩⟩⟩
  · have hlarge := hreach 1024 habove
    rw [hnext] at hlarge
    generalize twoTo 970 = unit at hlarge
    exact iff_of_true ⟨hbounds.1, .inl (by omega)⟩ (by omega)

/-- An integer has no nearest double from that integer on, whatever its sign. -/
theorem ofInt?_eq_none_iff (n : Int) : ofInt? n = none ↔ firstTooLarge ≤ n.natAbs := by
  have hnone : ofInt? n = none ↔ (ofQuotient (n < 0) n.natAbs 1).isInfinite = true := by
    simp only [ofInt?]
    split
    · next h => exact iff_of_true rfl h
    · next h => exact iff_of_false (fun hsome => by cases hsome) h
  rw [hnone]
  rcases Nat.eq_zero_or_pos n.natAbs with hzero | hpositive
  · have hfinite : (ofQuotient (n < 0) 0 1).isInfinite = false :=
      isInfinite_pack _ (by decide) (by decide)
    rw [hzero, hfinite]
    exact iff_of_false Bool.noConfusion (by decide +kernel)
  · exact isInfinite_ofQuotient _ hpositive

end Binary64

end SqlGateway
