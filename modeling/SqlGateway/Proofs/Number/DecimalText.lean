import SqlGateway.Proofs.Text.Places
set_option autoImplicit false

/-!
# Numbers: the text of a decimal

The text of a decimal says everything about it: the sign, the digits and the exponent of a
finite one, the kind and the payload of a NaN.  So reading what was written gives the same
decimal back, and the only decimals that are not read are those beyond the exponents that a
decimal may have.

However the point and the exponent are placed, a finite decimal is written in the same
`Parts`, and the reader takes them off one after the other.
-/

namespace SqlGateway.Decimal

open Text

/-- The exponents are those that a decimal may have; the special values have none. -/
def Bounded : Decimal → Prop
  | .finite _ c e => inRange c e = true
  | _ => True

instance (d : Decimal) : Decidable d.Bounded :=
  match d with
  | .finite _ c e => inferInstanceAs (Decidable (inRange c e = true))
  | .infinite _ => inferInstanceAs (Decidable True)
  | .nan .. => inferInstanceAs (Decidable True)

/-! ## Signs, digits and exponents -/

/-- A text on which digits end. -/
def EndsDigits (rest : List Char) : Prop := ∀ c ∈ rest.head?, c.isDigit = false

theorem spanDigits_append {ds rest : List Char} (hds : ∀ c ∈ ds, c.isDigit = true)
    (hrest : EndsDigits rest) : spanDigits (ds ++ rest) = (ds, rest) := by
  induction ds with
  | nil =>
    cases rest with
    | nil => rfl
    | cons c rest =>
      have hc : ¬ c.isDigit = true := by simp [hrest c rfl]
      simp only [List.nil_append, spanDigits, List.takeWhile_cons_of_neg hc,
        List.dropWhile_cons_of_neg hc]
  | cons d ds ih =>
    have hd := hds d List.mem_cons_self
    have htail := ih fun c hc => hds c (List.mem_cons_of_mem d hc)
    simp only [spanDigits, Prod.mk.injEq] at htail ⊢
    rw [List.cons_append, List.takeWhile_cons_of_pos hd, List.dropWhile_cons_of_pos hd, htail.1,
      htail.2]
    exact ⟨rfl, rfl⟩

theorem spanDigits_toDigits (n : Nat) :
    spanDigits (Nat.toDigits 10 n) = (Nat.toDigits 10 n, []) := by
  have h := @spanDigits_append _ [] (fun _ => isDigit_of_mem_toDigits (n := n)) nofun
  rwa [List.append_nil] at h

/-- A digit is no sign. -/
theorem ne_sign_of_isDigit {c : Char} (h : c.isDigit = true) : c ≠ '-' ∧ c ≠ '+' := by
  constructor <;> (rintro rfl; revert h; decide)

theorem takeSign_signText (neg : Bool) {cs : List Char} (h : ∀ c ∈ cs.head?, c ≠ '-' ∧ c ≠ '+') :
    takeSign (signText neg ++ cs) = (neg, cs) := by
  cases neg with
  | true => rfl
  | false =>
    cases cs with
    | nil => rfl
    | cons c cs =>
      obtain ⟨hminus, hplus⟩ := h c rfl
      simp [signText, takeSign, hminus, hplus]

theorem readExponent?_exponentText (e : Int) :
    readExponent? ('E' :: exponentText e) = some e := by
  have hsigned : takeSign (exponentText e) = (decide (e < 0), Nat.toDigits 10 e.natAbs) := by
    by_cases he : e < 0 <;> simp [exponentText, takeSign, he]
  have hempty : (Nat.toDigits 10 e.natAbs).isEmpty = false :=
    List.isEmpty_eq_false_iff.2 Nat.toDigits_ne_nil
  simp only [readExponent?, hsigned, spanDigits_toDigits, hempty, digitsValue_toDigits,
    List.isEmpty_nil]
  by_cases he : e < 0
  · rw [decide_eq_true he]
    exact congrArg some (by simp only [if_true]; omega)
  · rw [decide_eq_false he]
    exact congrArg some (by simp only [Bool.false_eq_true, if_false]; omega)

theorem digitsValue_zeros (n : Nat) (ds : List Char) :
    digitsValue (List.replicate n '0' ++ ds) = digitsValue ds := by
  induction n with
  | zero => rfl
  | succ n ih =>
    rw [← ih, List.replicate_succ, List.cons_append]
    simp [digitsValue, ofDigits]

/-! ## The parts of a finite decimal -/

/-- Digits before the point and after it, whether there is a point, and the exponent. -/
structure Parts where
  whole : List Char
  frac : List Char
  pointed : Bool
  exponent : Option Int

namespace Parts

/-- The exponent with its mark, when there is one. -/
def tail (p : Parts) : List Char :=
  match p.exponent with
  | some e => 'E' :: exponentText e
  | none => []

def chars (p : Parts) : List Char :=
  p.whole ++ ((if p.pointed then '.' :: p.frac else p.frac) ++ p.tail)

/-- The parts denote `c · 10^e` with these digits and this exponent. -/
structure Denotes (p : Parts) (c : Nat) (e : Int) : Prop where
  whole : ∀ x ∈ p.whole, x.isDigit = true
  frac : ∀ x ∈ p.frac, x.isDigit = true
  some_whole : p.whole ≠ []
  no_frac : p.pointed = false → p.frac = []
  value : digitsValue (p.whole ++ p.frac) = c
  exponent : p.exponent.getD 0 - p.frac.length = e

variable {p : Parts} {c : Nat} {e : Int}

theorem endsDigits_tail (p : Parts) : EndsDigits p.tail := by
  unfold tail
  split
  · rintro c ⟨⟩
    rfl
  · nofun

theorem readExponent?_tail (p : Parts) : readExponent? p.tail = some (p.exponent.getD 0) := by
  unfold tail
  split
  · next e he => rw [readExponent?_exponentText, he, Option.getD_some]
  · next he => rw [he]; rfl

/-- The reader takes the parts off one after the other. -/
theorem Denotes.readFinite? (h : p.Denotes c e) (neg : Bool) (hrange : inRange c e = true) :
    readFinite? neg p.chars = some (.finite neg c e) := by
  have hexponent := p.readExponent?_tail
  have hfrac := spanDigits_append h.frac p.endsDigits_tail
  obtain ⟨whole, frac, pointed, exponent⟩ := p
  obtain ⟨hwhole, -, hsome, hnone, hvalue, he⟩ := h
  cases pointed with
  | true =>
    have hdot : EndsDigits ('.' :: (frac ++ tail ⟨whole, frac, true, exponent⟩)) := by
      rintro c ⟨⟩
      rfl
    simp only [Parts.chars, if_true, List.cons_append]
    simp [Decimal.readFinite?, spanDigits_append hwhole hdot, hfrac, hsome, hexponent, hvalue, he,
      hrange]
  | false =>
    obtain rfl := hnone rfl
    have hspan := spanDigits_append hwhole (endsDigits_tail ⟨whole, [], false, exponent⟩)
    simp only [List.append_nil, List.length_nil, Int.ofNat_zero, Int.sub_zero] at hvalue he
    subst he
    cases exponent <;>
      simp_all [Parts.chars, Parts.tail, Decimal.readFinite?]

end Parts

/-- A finite decimal is written in parts that denote it. -/
theorem finiteText_parts (c : Nat) (e : Int) :
    ∃ p : Parts, finiteText c e = p.chars ∧ p.Denotes c e := by
  -- `ds` are the digits; the point stands after the first `left` of them.
  obtain ⟨ds, hds⟩ : ∃ ds, ds = Nat.toDigits 10 c := ⟨_, rfl⟩
  obtain ⟨left, hleft⟩ : ∃ left : Int, left = e + ds.length := ⟨_, rfl⟩
  have hdigits : ∀ x ∈ ds, x.isDigit = true := fun x hx =>
    isDigit_of_mem_toDigits (hds ▸ hx)
  have hvalue : digitsValue ds = c := by rw [hds, digitsValue_toDigits]
  have hne : ds ≠ [] := by rw [hds]; exact Nat.toDigits_ne_nil
  have hpositive : 0 < ds.length := List.length_pos_iff.2 hne
  simp only [finiteText, ← hds, ← hleft]
  split
  · next hplain =>
    split
    · next hzeros =>
      -- Zeros stand between the point and the digits.
      refine ⟨⟨['0'], List.replicate (-left).toNat '0' ++ ds, true, none⟩, ?_, ?_⟩
      · simp [Parts.chars, Parts.tail]
      · refine ⟨by simp, ?_, by simp, nofun, ?_, ?_⟩
        · intro x hx
          rcases List.mem_append.1 hx with hx | hx
          · rw [(List.mem_replicate.1 hx).2]
            rfl
          · exact hdigits x hx
        · rw [← hvalue, ← digitsValue_zeros ((-left).toNat + 1) ds, List.replicate_succ]
          rfl
        · simp only [Option.getD_none, List.length_append, List.length_replicate]
          omega
    · split
      · next hzero =>
        refine ⟨⟨ds, [], false, none⟩, ?_, ?_⟩
        · simp [Parts.chars, Parts.tail]
        · exact ⟨hdigits, by simp, hne, fun _ => rfl, by simpa using hvalue, by simp [hzero]⟩
      · -- The point stands between two digits.
        refine ⟨⟨ds.take left.toNat, ds.drop left.toNat, true, none⟩, ?_, ?_⟩
        · simp [Parts.chars, Parts.tail]
        · refine ⟨fun x hx => hdigits x (List.mem_of_mem_take hx),
            fun x hx => hdigits x (List.mem_of_mem_drop hx), ?_, nofun, ?_, ?_⟩
          · rw [Ne, List.take_eq_nil_iff, not_or]
            exact ⟨by omega, hne⟩
          · simpa using hvalue
          · simp only [Option.getD_none, List.length_drop]
            omega
  · -- The point stands after the first digit, and an exponent follows.
    clear hds
    cases ds with
    | nil => exact absurd rfl hne
    | cons d rest =>
      refine ⟨⟨[d], rest, !rest.isEmpty, some (left - 1)⟩, ?_, ?_⟩
      · cases rest <;> simp [Parts.chars, Parts.tail]
      · refine ⟨by simpa using hdigits d List.mem_cons_self,
          fun x hx => hdigits x (List.mem_cons_of_mem d hx), by simp, by simp, hvalue, ?_⟩
        rw [List.length_cons] at hleft
        simp only [Option.getD_some]
        omega

/-- The digits of a finite decimal are read back with their point and exponent. -/
theorem readFinite?_finiteText (neg : Bool) {c : Nat} {e : Int} (h : inRange c e = true) :
    readFinite? neg (finiteText c e) = some (.finite neg c e) := by
  obtain ⟨p, htext, hdenotes⟩ := finiteText_parts c e
  rw [htext]
  exact hdenotes.readFinite? neg h

theorem head_finiteText (c : Nat) (e : Int) :
    ∀ x ∈ (finiteText c e).head?, x ≠ '-' ∧ x ≠ '+' := by
  obtain ⟨p, htext, hdenotes⟩ := finiteText_parts c e
  obtain ⟨w, ws, hwhole⟩ := List.exists_cons_of_ne_nil hdenotes.some_whole
  rw [htext, Parts.chars, hwhole]
  rintro x ⟨⟩
  exact ne_sign_of_isDigit (hdenotes.whole w (hwhole ▸ List.mem_cons_self))

/-! ## Special values -/

/-- A text without digits and a point at its front is no number. -/
theorem readFinite?_eq_none (neg : Bool) {x : Char} (cs : List Char) (hdigit : x.isDigit = false)
    (hpoint : x ≠ '.') : readFinite? neg (x :: cs) = none := by
  have hspan : spanDigits (x :: cs) = ([], x :: cs) := by simp [spanDigits, hdigit]
  simp [readFinite?, hspan, hpoint]

/-- The digits of a payload; no payload is zero. -/
theorem readPayload?_digits (payload : Nat) :
    readPayload? (if payload = 0 then [] else Nat.toDigits 10 payload) = some payload := by
  split
  · next h => rw [h]; rfl
  · have hall : (Nat.toDigits 10 payload).all Char.isDigit = true :=
      List.all_eq_true.2 fun _ => isDigit_of_mem_toDigits
    rw [readPayload?, if_pos hall, digitsValue_toDigits]

theorem readSpecial?_nan (neg signals : Bool) (payload : Nat) :
    readSpecial? neg ((if signals then "sNaN" else "NaN").toList ++
      (if payload = 0 then [] else Nat.toDigits 10 payload)) = some (.nan neg signals payload) := by
  have hpayload := readPayload?_digits payload
  generalize (if payload = 0 then [] else Nat.toDigits 10 payload) = ds at hpayload ⊢
  have hs : Char.toLower 's' = 's' := by decide
  have ha : Char.toLower 'a' = 'a' := by decide
  have hn : Char.toLower 'N' = 'n' := by decide
  cases signals <;> simp [readSpecial?, dropWord?, hpayload, hs, ha, hn]

/-! ## Reading back -/

/-- Characters that a literal keeps as they are. -/
def Keeps (c : Char) : Prop := c ≠ '_' ∧ isBlank c = false ∧ asciiForm? c = some c

instance (c : Char) : Decidable (Keeps c) := inferInstanceAs (Decidable (_ ∧ _))

theorem keeps_of_isDigit {c : Char} (h : c.isDigit = true) : Keeps c := by
  refine ⟨?_, isBlank_of_isDigit h, ?_⟩
  · rintro rfl
    revert h
    decide
  · obtain ⟨hlow, hhigh⟩ := (isDigit_iff c).1 h
    have hzero : (c.toNat == 0) = false := by simp; omega
    have hascii : c.toNat < 128 := by omega
    simp [asciiForm?, hzero, hascii]

theorem normalForm?_of_keeps {cs : List Char} (h : ∀ c ∈ cs, Keeps c) :
    normalForm? (String.ofList cs) = some cs := by
  have hfilter : cs.filter (· != '_') = cs :=
    List.filter_eq_self.2 fun c hc => by simp [(h c hc).1]
  rw [normalForm?, String.toList_ofList, trimWhere_eq_self fun c hc => (h c hc).2.1, hfilter]
  clear hfilter
  induction cs with
  | nil => rfl
  | cons c cs ih =>
    have htail := ih fun x hx => h x (List.mem_cons_of_mem c hx)
    rw [List.mapM_cons, (h c List.mem_cons_self).2.2, htail]
    rfl

theorem keeps_of_all {cs : List Char} (h : cs.all (fun c => decide (Keeps c)) = true) :
    ∀ c ∈ cs, Keeps c :=
  fun c hc => of_decide_eq_true (List.all_eq_true.1 h c hc)

theorem keeps_digits (n : Nat) : ∀ c ∈ Nat.toDigits 10 n, Keeps c :=
  fun _ hc => keeps_of_isDigit (isDigit_of_mem_toDigits hc)

theorem keeps_exponentText (e : Int) : ∀ c ∈ exponentText e, Keeps c := by
  intro c hc
  rcases List.mem_cons.1 hc with rfl | hc
  · split <;> decide
  · exact keeps_digits _ c hc

theorem keeps_finiteText (c : Nat) (e : Int) : ∀ x ∈ finiteText c e, Keeps x := by
  obtain ⟨p, htext, hdenotes⟩ := finiteText_parts c e
  have hfrac : ∀ x ∈ p.frac, Keeps x := fun x hx => keeps_of_isDigit (hdenotes.frac x hx)
  have htail : ∀ x ∈ p.tail, Keeps x := by
    unfold Parts.tail
    split
    · intro x hx
      rcases List.mem_cons.1 hx with rfl | hx
      · decide
      · exact keeps_exponentText _ x hx
    · nofun
  rw [htext, Parts.chars]
  intro x hx
  rcases List.mem_append.1 hx with hx | hx
  · exact keeps_of_isDigit (hdenotes.whole x hx)
  · rcases List.mem_append.1 hx with hx | hx
    · split at hx
      · rcases List.mem_cons.1 hx with rfl | hx
        · decide
        · exact hfrac x hx
      · exact hfrac x hx
    · exact htail x hx

theorem keeps_chars (d : Decimal) : ∀ c ∈ d.chars, Keeps c := by
  have hsign : ∀ neg, ∀ c ∈ signText neg, Keeps c := by
    intro neg
    cases neg <;> exact keeps_of_all (by decide)
  have hword : ∀ signals : Bool, ∀ c ∈ (if signals then "sNaN" else "NaN").toList, Keeps c := by
    intro signals
    cases signals <;> exact keeps_of_all (by decide)
  intro c hc
  cases d with
  | finite neg coefficient e =>
    rcases List.mem_append.1 hc with hc | hc
    · exact hsign neg c hc
    · exact keeps_finiteText coefficient e c hc
  | infinite neg => cases neg <;> exact keeps_of_all (by decide) c hc
  | nan neg signals payload =>
    rcases List.mem_append.1 hc with hc | hc
    · rcases List.mem_append.1 hc with hc | hc
      · exact hsign neg c hc
      · exact hword signals c hc
    · split at hc
      · exact absurd hc List.not_mem_nil
      · exact keeps_digits payload c hc

theorem ofChars?_chars {d : Decimal} (h : d.Bounded) : ofChars? d.chars = some d := by
  cases d with
  | finite neg c e =>
    have hsign := takeSign_signText neg (head_finiteText c e)
    simp only [ofChars?, chars, hsign, readFinite?_finiteText neg h]
  | infinite neg => cases neg <;> decide
  | nan neg signals payload =>
    have hspecial := readSpecial?_nan neg signals payload
    have hnone : readFinite? neg ((if signals then "sNaN" else "NaN").toList ++
        (if payload = 0 then [] else Nat.toDigits 10 payload)) = none := by
      cases signals <;> exact readFinite?_eq_none neg _ (by decide) (by decide)
    have hsign := @takeSign_signText neg ((if signals then "sNaN" else "NaN").toList ++
        (if payload = 0 then [] else Nat.toDigits 10 payload)) (by
      cases signals <;> (rintro c ⟨⟩; decide))
    simp only [ofChars?, chars, List.append_assoc, hsign, hnone, hspecial]

/-- A decimal is read back from its text. -/
theorem ofText?_toText {d : Decimal} (h : d.Bounded) : ofText? d.toText = some d := by
  rw [ofText?, toText, normalForm?_of_keeps d.keeps_chars, Option.bind_some, ofChars?_chars h]

/-! ## Nothing beyond the exponents is read -/

theorem bounded_of_readFinite? {neg : Bool} {cs : List Char} {d : Decimal}
    (h : readFinite? neg cs = some d) : d.Bounded := by
  simp only [readFinite?, Option.ite_none_left_eq_some, Option.bind_eq_some_iff,
    Option.ite_none_right_eq_some, Option.some.injEq] at h
  obtain ⟨-, e, -, hrange, rfl⟩ := h
  exact hrange

theorem bounded_of_readSpecial? {neg : Bool} {cs : List Char} {d : Decimal}
    (h : readSpecial? neg cs = some d) : d.Bounded := by
  unfold readSpecial? at h
  split at h
  · cases h
    trivial
  · split at h
    · obtain ⟨payload, -, rfl⟩ := Option.map_eq_some_iff.1 h
      trivial
    · split at h
      · obtain ⟨payload, -, rfl⟩ := Option.map_eq_some_iff.1 h
        trivial
      · cases h

/-- Every decimal that a literal denotes has an exponent that a decimal may have. -/
theorem bounded_of_ofText? {s : String} {d : Decimal} (h : ofText? s = some d) : d.Bounded := by
  obtain ⟨cs, -, hread⟩ := Option.bind_eq_some_iff.1 h
  unfold ofChars? at hread
  dsimp only at hread
  split at hread
  · next d' hfinite =>
    cases hread
    exact bounded_of_readFinite? hfinite
  · exact bounded_of_readSpecial? hread

end SqlGateway.Decimal
