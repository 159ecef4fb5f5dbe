import SqlGateway.Text.Case
set_option autoImplicit false

/-!
# Text: lower case

A text in lower case stays as it is when it is lowered again: what one run of letters is
moved to is held by no other run.  A character that no letter is lowered to, and that is no
such letter itself, stands in the lowered text exactly if it stood in the text.
-/

namespace SqlGateway.Text

/-- What holds of every character of a list, by going through the list and not through all the
characters that there are. -/
theorem forall_of_all {P : Char → Prop} [DecidablePred P] {cs : List Char}
    (h : (cs.all fun c => decide (P c)) = true) : ∀ c ∈ cs, P c :=
  fun c hc => of_decide_eq_true (List.all_eq_true.1 h c hc)

/-! ## Runs -/

/-- Is a code point one of a run? -/
def inRun (n : Nat) (r : Nat × Nat × Nat × Int) : Bool :=
  r.1 ≤ n && n ≤ r.2.1 && (n - r.1) % r.2.2.1 == 0

/-- The code point that a run moves its first one to. -/
def lowest (r : Nat × Nat × Nat × Int) : Nat := (r.1 + r.2.2.2).toNat

/-- The code point that a run moves its last one to. -/
def highest (r : Nat × Nat × Nat × Int) : Nat := (r.2.1 + r.2.2.2).toNat

/-- Do the code points from `low` to `high` lie outside of a run?  They do on either side of it,
and where run and code points both go by twos, out of step. -/
def misses (low high : Nat) (byTwos : Bool) (r : Nat × Nat × Nat × Int) : Bool :=
  high < r.1 || r.2.1 < low || (r.2.2.1 == 2 && byTwos && (low + r.1) % 2 == 1)

/-- What a run moves is behind the capitals of ASCII, is a character, is not the dotted capital
that has a rule of its own, and is in no run. -/
def settles (r : Nat × Nat × Nat × Int) : Bool :=
  r.1 ≤ r.2.1 && 0x5a < lowest r && 0 < r.1 + r.2.2.2 &&
    (highest r < 0xd800 || (0xdfff < lowest r && highest r < 0x110000)) &&
    (highest r < 0x130 || 0x130 < lowest r) &&
    lowerRuns.all (misses (lowest r) (highest r) (r.2.2.1 == 2 || r.1 == r.2.1))

theorem lowerRuns_settle : ∀ r ∈ lowerRuns, settles r = true := by decide +kernel

/-- A code point in a run is moved with it, any other one stays. -/
theorem shiftByRun_cases (runs : List (Nat × Nat × Nat × Int)) (n : Nat) :
    (∃ r ∈ runs, inRun n r = true ∧ shiftByRun runs n = (n + r.2.2.2).toNat) ∨
      ((∀ r ∈ runs, inRun n r = false) ∧ shiftByRun runs n = n) := by
  unfold shiftByRun
  split
  · next r hr => exact .inl ⟨r, List.mem_of_find?_eq_some hr, List.find?_some hr, rfl⟩
  · next hnone =>
    refine .inr ⟨fun r hr => Bool.eq_false_iff.2 ?_, rfl⟩
    exact List.find?_eq_none.1 hnone r hr

/-- What a run moves a code point to. -/
theorem settled_of_inRun {n : Nat} {r : Nat × Nat × Nat × Int} (hr : r ∈ lowerRuns)
    (hn : inRun n r = true) :
    ∃ m, (n + r.2.2.2).toNat = m ∧ (Char.ofNat m).toNat = m ∧ lowest r ≤ m ∧ m ≤ highest r ∧
      0x5a < m ∧ m ≠ 0x130 ∧ ∀ q ∈ lowerRuns, inRun m q = false := by
  obtain ⟨first, last, step, shift⟩ := r
  have hsettles := lowerRuns_settle _ hr
  simp only [settles, inRun, Bool.and_eq_true, Bool.or_eq_true, decide_eq_true_eq, beq_iff_eq,
    List.all_eq_true] at hsettles hn
  simp only [lowest, highest] at hsettles ⊢
  obtain ⟨⟨⟨⟨⟨-, hcapital⟩, hpositive⟩, hvalid⟩, hdotted⟩, hmisses⟩ := hsettles
  obtain ⟨⟨hfirst, hlast⟩, hstep⟩ := hn
  refine ⟨(n + shift).toNat, rfl, ?_, by omega, by omega, by omega, by omega, ?_⟩
  · rw [Char.ofNat, dif_pos (by unfold Nat.isValidChar; omega)]
    rfl
  · -- A code point is between those that the ends of the run are moved to, and in step with them.
    intro q hq
    obtain ⟨first', last', step', shift'⟩ := q
    have hq := hmisses _ hq
    simp only [misses, Bool.or_eq_true, Bool.and_eq_true, decide_eq_true_eq, beq_iff_eq] at hq
    simp only [inRun, Bool.and_eq_false_iff, decide_eq_false_iff_not, beq_eq_false_iff_ne]
    rcases hq with (hbehind | hbefore) | ⟨⟨htwos, htwos'⟩, hodd⟩
    · omega
    · omega
    · subst htwos
      rcases htwos' with rfl | rfl <;> omega

/-! ## One character -/

theorem toNat_toLower (c : Char) :
    c.toLower.toNat = if 65 ≤ c.toNat ∧ c.toNat ≤ 90 then c.toNat + 32 else c.toNat := by
  have hfirst : 'A'.val.toNat = 65 := rfl
  have hlast : 'Z'.val.toNat = 90 := rfl
  have hcode : c.val.toNat = c.toNat := rfl
  unfold Char.toLower
  simp only [ge_iff_le, UInt32.le_iff_toNat_le, hfirst, hlast, hcode]
  split
  · next h =>
    have hsum : (c.val + ('a'.val - 'A'.val)).toNat = (c.toNat + 32) % 2 ^ 32 :=
      UInt32.toNat_add _ _
    exact hsum.trans (Nat.mod_eq_of_lt (by omega))
  · rfl

/-- No run holds a character of ASCII. -/
theorem inRun_ascii {n : Nat} (h : n < 0x80) : ∀ r ∈ lowerRuns, inRun n r = false := by
  intro r hr
  have hbehind : ∀ r ∈ lowerRuns, 0x80 ≤ r.1 := by decide +kernel
  have hfirst := hbehind r hr
  simp only [inRun, Bool.and_eq_false_iff, decide_eq_false_iff_not]
  omega

/-- A letter is lowered by the rule of ASCII or by a run, and nothing else is. -/
theorem lowerChar_cases (c : Char) :
    (c.toNat < 0x80 ∧ lowerChar c = c.toLower) ∨
      (∃ r ∈ lowerRuns, inRun c.toNat r = true ∧
        lowest r ≤ (lowerChar c).toNat ∧ (lowerChar c).toNat ≤ highest r ∧
          0x5a < (lowerChar c).toNat ∧ (lowerChar c).toNat ≠ 0x130 ∧
            ∀ q ∈ lowerRuns, inRun (lowerChar c).toNat q = false) ∨
      (0x80 ≤ c.toNat ∧ (∀ r ∈ lowerRuns, inRun c.toNat r = false) ∧ lowerChar c = c) := by
  by_cases hascii : c.toNat < 0x80
  · exact .inl ⟨hascii, if_pos hascii⟩
  · have heq : lowerChar c = Char.ofNat (shiftByRun lowerRuns c.toNat) := if_neg hascii
    rcases shiftByRun_cases lowerRuns c.toNat with ⟨r, hr, hin, hshift⟩ | ⟨hnone, hstays⟩
    · obtain ⟨m, hm, hchar, hsettled⟩ := settled_of_inRun hr hin
      rw [hm] at hshift
      rw [hshift] at heq
      rw [heq, hchar]
      exact .inr (.inl ⟨r, hr, hin, hsettled⟩)
    · rw [hstays, Char.ofNat_toNat] at heq
      exact .inr (.inr ⟨by omega, hnone, heq⟩)

/-- Letters whose lower case goes by a rule of its own: the dotted capital and the capital
sigma. -/
def hasOwnRule (c : Char) : Bool := c.toNat == 0x130 || c.toNat == 0x3a3

/-- What these rules write. -/
def ownLetters : List Char := ['i', Char.ofNat 0x307, Char.ofNat 0x3c2, Char.ofNat 0x3c3]

theorem hasOwnRule_eq_false (c : Char) :
    hasOwnRule c = false ↔ c.toNat ≠ 0x130 ∧ c.toNat ≠ 0x3a3 := by
  rw [hasOwnRule, Bool.or_eq_false_iff, beq_eq_false_iff_ne, beq_eq_false_iff_ne]

/-- A character that is lower case already. -/
def Lowered (c : Char) : Prop := lowerChar c = c ∧ hasOwnRule c = false

instance (c : Char) : Decidable (Lowered c) := inferInstanceAs (Decidable (_ ∧ _))

theorem lowered_ownLetters : ∀ c ∈ ownLetters, Lowered c := forall_of_all (by decide +kernel)

theorem lowered_of_inRun {c : Char} (hcapital : ¬(65 ≤ c.toNat ∧ c.toNat ≤ 90))
    (hdotted : c.toNat ≠ 0x130) (hruns : ∀ r ∈ lowerRuns, inRun c.toNat r = false) :
    Lowered c := by
  refine ⟨?_, (hasOwnRule_eq_false c).2 ⟨hdotted, ?_⟩⟩
  · rcases lowerChar_cases c with ⟨-, hlower⟩ | ⟨r, hr, hin, -⟩ | ⟨-, -, hstays⟩
    · rw [hlower, ← Char.toNat_inj, toNat_toLower, if_neg hcapital]
    · rw [hruns r hr] at hin
      cases hin
    · exact hstays
  · -- The capital sigma is in a run too, though its own rule comes first.
    intro hsigma
    have hheld : ∃ r ∈ lowerRuns, inRun 0x3a3 r = true := by decide +kernel
    obtain ⟨r, hr, hin⟩ := hheld
    rw [← hsigma, hruns r hr] at hin
    cases hin

/-- One lowering is enough. -/
theorem lowered_lowerChar {c : Char} (hrule : hasOwnRule c = false) : Lowered (lowerChar c) := by
  have hdotted := ((hasOwnRule_eq_false c).1 hrule).1
  rcases lowerChar_cases c with ⟨hascii, hlower⟩ | ⟨r, -, -, -, -, hcapital, hdotted', hruns⟩ |
    ⟨hbehind, hruns, hstays⟩
  · have hcode := toNat_toLower c
    rw [hlower]
    refine lowered_of_inRun ?_ ?_ (inRun_ascii ?_) <;> (split at hcode <;> omega)
  · exact lowered_of_inRun (by omega) hdotted' hruns
  · rw [hstays]
    exact lowered_of_inRun (by omega) hdotted hruns

/-- A character that is no letter of either case. -/
def Caseless (c : Char) : Prop :=
  ¬(65 ≤ c.toNat ∧ c.toNat ≤ 90) ∧ ¬(97 ≤ c.toNat ∧ c.toNat ≤ 122) ∧ hasOwnRule c = false ∧
    c ∉ ownLetters ∧ ∀ r ∈ lowerRuns, (c.toNat < r.1 ∨ r.2.1 < c.toNat) ∧
      (c.toNat < lowest r ∨ highest r < c.toNat)

instance (c : Char) : Decidable (Caseless c) := inferInstanceAs (Decidable (_ ∧ _ ∧ _ ∧ _ ∧ _))

/-- Nothing but a caseless character itself is lowered to it. -/
theorem Caseless.lowerChar_eq_iff {c x : Char} (hc : Caseless c) : lowerChar x = c ↔ x = c := by
  obtain ⟨hcapital, hsmall, hrule, -, hruns⟩ := hc
  constructor
  · rintro rfl
    rcases lowerChar_cases x with ⟨-, hlower⟩ | ⟨r, hr, -, hlowest, hhighest, -⟩ | ⟨-, -, hstays⟩
    · have hcode := toNat_toLower x
      rw [← hlower] at hcode
      rw [← Char.toNat_inj]
      split at hcode <;> omega
    · have hout := (hruns r hr).2
      omega
    · exact hstays.symm
  · rintro rfl
    refine (lowered_of_inRun hcapital ((hasOwnRule_eq_false x).1 hrule).1 ?_).1
    intro r hr
    have hout := (hruns r hr).1
    simp only [inRun, Bool.and_eq_false_iff, decide_eq_false_iff_not]
    omega

/-! ## Texts -/

/-- What one character of a text becomes. -/
theorem toLowerFrom_cons (before : List Char) (x : Char) (cs : List Char) :
    ∃ head, toLowerFrom before (x :: cs) = head ++ toLowerFrom (x :: before) cs ∧
      (hasOwnRule x = true ∧ (∀ c ∈ head, c ∈ ownLetters) ∨
        hasOwnRule x = false ∧ head = [lowerChar x]) := by
  have hi : ∀ c ∈ ['i', Char.ofNat 0x307], c ∈ ownLetters := forall_of_all (by decide)
  have hfinal : ∀ c ∈ [Char.ofNat 0x3c2], c ∈ ownLetters := forall_of_all (by decide)
  have hsmall : ∀ c ∈ [Char.ofNat 0x3c3], c ∈ ownLetters := forall_of_all (by decide)
  refine ⟨_, rfl, ?_⟩
  by_cases hdotted : x.toNat = 0x130
  · rw [hasOwnRule, hdotted]
    exact .inl ⟨rfl, hi⟩
  · by_cases hsigma : x.toNat = 0x3a3
    · rw [hasOwnRule, hsigma]
      refine .inl ⟨rfl, ?_⟩
      cases wordGoesOn before && !wordGoesOn cs with
      | true => exact hfinal
      | false => exact hsmall
    · exact .inr ⟨(hasOwnRule_eq_false x).2 ⟨hdotted, hsigma⟩, by simp [hdotted, hsigma]⟩

theorem toLowerFrom_eq {cs : List Char} (h : ∀ c ∈ cs, Lowered c) (before : List Char) :
    toLowerFrom before cs = cs := by
  induction cs generalizing before with
  | nil => rfl
  | cons c cs ih =>
    obtain ⟨hstays, hrule⟩ := h c List.mem_cons_self
    obtain ⟨head, heq, ⟨hown, -⟩ | ⟨-, rfl⟩⟩ := toLowerFrom_cons before c cs
    · rw [hrule] at hown
      cases hown
    · rw [heq, hstays, ih fun x hx => h x (List.mem_cons_of_mem c hx), List.singleton_append]

/-- What a lowered text consists of. -/
theorem lowered_of_mem {cs before : List Char} {c : Char} (h : c ∈ toLowerFrom before cs) :
    Lowered c := by
  induction cs generalizing before with
  | nil => cases h
  | cons x cs ih =>
    obtain ⟨head, heq, hhead⟩ := toLowerFrom_cons before x cs
    rw [heq, List.mem_append] at h
    rcases h with h | h
    · rcases hhead with ⟨-, hletters⟩ | ⟨hrule, rfl⟩
      · exact lowered_ownLetters c (hletters c h)
      · rw [List.mem_singleton.1 h]
        exact lowered_lowerChar hrule
    · exact ih h

/-- Lower case stays as it is. -/
theorem toLower_toLower (s : String) : toLower (toLower s) = toLower s := by
  have hlowered : ∀ c ∈ toLowerFrom [] s.toList, Lowered c := fun c hc => lowered_of_mem hc
  rw [toLower, toLower, String.toList_ofList, toLowerFrom_eq hlowered]

theorem Caseless.mem_toLowerFrom_iff {c : Char} (hc : Caseless c) (cs before : List Char) :
    c ∈ toLowerFrom before cs ↔ c ∈ cs := by
  induction cs generalizing before with
  | nil => exact Iff.rfl
  | cons x cs ih =>
    obtain ⟨-, -, hrule, hletter, -⟩ := id hc
    obtain ⟨head, heq, ⟨hown, hletters⟩ | ⟨-, rfl⟩⟩ := toLowerFrom_cons before x cs
    · have hne : c ≠ x := by
        rintro rfl
        rw [hrule] at hown
        cases hown
      rw [heq, List.mem_append, ih, List.mem_cons]
      exact or_congr_left (iff_of_false (fun h => hletter (hletters c h)) hne)
    · have hhead : c = lowerChar x ↔ c = x := eq_comm.trans (hc.lowerChar_eq_iff.trans eq_comm)
      rw [heq, List.singleton_append, List.mem_cons, List.mem_cons, ih, hhead]

/-- Caseless characters come through lowering, and no others of them come to it. -/
theorem Caseless.mem_toLower_iff {c : Char} (hc : Caseless c) (s : String) :
    c ∈ (toLower s).toList ↔ c ∈ s.toList := by
  rw [toLower, String.toList_ofList]
  exact hc.mem_toLowerFrom_iff s.toList []

end SqlGateway.Text
