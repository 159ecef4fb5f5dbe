import Mathlib.Algebra.Group.Nat.Defs
import Mathlib.Data.List.Induction
import SqlGateway.Number.Decimal
set_option autoImplicit false

/-!
# Text: digits in their places

A number is written in a fixed count of places, or with as many decimal digits as it has.
Either way each place is worth the base times the next one, so the digits give the number
back: all of it, or what is left of it after so many places.
-/

namespace SqlGateway.Text

/-! ## A fixed count of places -/

/-- The values of the lowest `width` places of a number, most significant first. -/
def places (base : Nat) : Nat → Nat → List Nat
  | 0, _ => []
  | width + 1, n => places base width (n / base) ++ [n % base]

theorem length_places (base width n : Nat) : (places base width n).length = width := by
  induction width generalizing n with
  | zero => rfl
  | succ width ih => simp [places, ih]

theorem lt_of_mem_places {base : Nat} (hbase : 0 < base) (width n : Nat) :
    ∀ d ∈ places base width n, d < base := by
  induction width generalizing n with
  | zero => simp [places]
  | succ width ih =>
    intro d hd
    rcases List.mem_append.1 hd with hd | hd
    · exact ih _ d hd
    · rw [List.mem_singleton.1 hd]
      exact Nat.mod_lt n hbase

theorem ofDigits_concat (base : Nat) (ds : List Nat) (d : Nat) :
    ofDigits base (ds ++ [d]) = ofDigits base ds * base + d := by
  simp [ofDigits]

/-- The places of a number denote what is left of it after so many places. -/
theorem ofDigits_places (base width n : Nat) :
    ofDigits base (places base width n) = n % base ^ width := by
  induction width generalizing n with
  | zero => simp [places, ofDigits, Nat.mod_one]
  | succ width ih =>
    rw [places, ofDigits_concat, ih, Nat.pow_succ', Nat.mod_mul, Nat.mul_comm base, Nat.add_comm]

theorem ofDigits_places_of_lt {base width n : Nat} (h : n < base ^ width) :
    ofDigits base (places base width n) = n := by
  rw [ofDigits_places, Nat.mod_eq_of_lt h]

/-- A number of so many places has the places that it was put together from. -/
theorem places_ofDigits {base : Nat} {ds : List Nat} (h : ∀ d ∈ ds, d < base) :
    places base ds.length (ofDigits base ds) = ds := by
  induction ds using List.reverseRecOn with
  | nil => rfl
  | append_singleton ds d ih =>
    have hds := ih fun x hx => h x (List.mem_append_left [d] hx)
    have hd := h d (List.mem_append_right ds List.mem_cons_self)
    rw [ofDigits_concat, List.length_append, List.length_singleton, places,
      Nat.mul_add_mod_self_right, Nat.mod_eq_of_lt hd, Nat.mul_comm, Nat.mul_add_div (by omega),
      Nat.div_eq_of_lt hd, Nat.add_zero, hds]

/-! ## Decimal digits -/

/-- The ten digits of ASCII are numbered from zero. -/
theorem isDigit_iff (c : Char) : c.isDigit = true ↔ 48 ≤ c.toNat ∧ c.toNat ≤ 57 := by
  simp [Char.isDigit, UInt32.le_iff_toNat_le]

theorem decimalDigit?_of_isDigit {c : Char} (h : c.isDigit = true) :
    decimalDigit? c = some (c.toNat - 48) := by
  obtain ⟨hlow, hhigh⟩ := (isDigit_iff c).1 h
  have hfirst : (decide (0x30 ≤ c.toNat) && decide (c.toNat < 0x30 + 10)) = true := by
    simp only [Bool.and_eq_true, decide_eq_true_eq]
    omega
  simp only [decimalDigit?, decimalZeros, List.find?_cons, hfirst, Option.map_some]

theorem isBlank_of_isDigit {c : Char} (h : c.isDigit = true) : isBlank c = false := by
  obtain ⟨hlow, hhigh⟩ := (isDigit_iff c).1 h
  simp only [isBlank, Bool.or_eq_false_iff, Bool.and_eq_false_iff, decide_eq_false_iff_not,
    beq_eq_false_iff_ne]
  omega

theorem isDigit_of_mem_toDigits {n : Nat} {c : Char} (h : c ∈ Nat.toDigits 10 n) :
    c.isDigit = true :=
  Nat.isDigit_of_mem_toDigits (by decide) (by decide) h

/-- The decimal digits of a number denote it. -/
theorem digitsValue_toDigits (n : Nat) : Decimal.digitsValue (Nat.toDigits 10 n) = n := by
  have hvalue : ∀ (cs : List Char) (m : Nat),
      (cs.map fun c => c.toNat - 48).foldl (fun n d => n * 10 + d) m =
        Nat.ofDigitChars 10 cs m := by
    intro cs m
    rw [List.foldl_map, Nat.ofDigitChars]
    simp only [Nat.mul_comm 10]
    rfl
  rw [Decimal.digitsValue, ofDigits, hvalue, Nat.ofDigitChars_ten_toDigits]

/-! ## What stays when a text is trimmed -/

theorem dropWhile_eq_self {p : Char → Bool} {cs : List Char} (h : ∀ c ∈ cs, p c = false) :
    cs.dropWhile p = cs := by
  cases cs with
  | nil => rfl
  | cons c cs => rw [List.dropWhile_cons_of_neg (by simp [h c List.mem_cons_self])]

/-- A text without the characters that are dropped stays as it is. -/
theorem trimWhere_eq_self {p : Char → Bool} {cs : List Char} (h : ∀ c ∈ cs, p c = false) :
    trimWhere p cs = cs := by
  rw [trimWhere, dropWhile_eq_self h,
    dropWhile_eq_self fun c hc => h c (List.mem_reverse.1 hc), List.reverse_reverse]

end SqlGateway.Text
