import Mathlib.Algebra.Field.Rat
import Mathlib.Data.List.Induction
import Mathlib.Data.List.TakeWhile
import Mathlib.Data.Nat.Cast.Field
import Mathlib.Tactic.FieldSimp
import Mathlib.Tactic.Ring
import SqlGateway.Proofs.Number.DecimalText
set_option autoImplicit false

/-!
# Numbers: what a literal denotes

A decimal is a rational number, an infinity or a NaN.  A literal denotes one as well, by its
grammar alone: a sign, digits with a point among them, an exponent; or the word for an
infinity; or the word for a NaN and its payload.

The reader of decimals is exact.  A literal that it reads denotes what the decimal is, and
nothing else: no digit is dropped, and nothing is rounded.
-/

namespace SqlGateway

open Text

/-- A number, with the two infinities and the NaNs. -/
inductive Quantity where
  | rational (r : ℚ)
  | infinite (negative : Bool)
  | nan (negative signals : Bool) (payload : Nat)

namespace Quantity

/-- The factor that a sign stands for. -/
def sign (negative : Bool) : ℚ := if negative then -1 else 1

/-- A whole number. -/
def whole (n : Int) : Quantity := .rational n

end Quantity

/-- The number that a decimal is. -/
def Decimal.quantity : Decimal → Quantity
  | .finite negative c e => .rational (Quantity.sign negative * c * 10 ^ e)
  | .infinite negative => .infinite negative
  | .nan negative signals payload => .nan negative signals payload

/-! ## The grammar of literals -/

/-- A sign, or none. -/
inductive SignOf : List Char → Bool → Prop
  | none : SignOf [] false
  | plus : SignOf ['+'] false
  | minus : SignOf ['-'] true

/-- Digits and the number they denote: with one more digit it is ten times as much, and the
digit. -/
inductive DigitsOf : List Char → Nat → Prop
  | nil : DigitsOf [] 0
  | snoc {ds : List Char} {n : Nat} {d : Char} (h : DigitsOf ds n) (hd : d.isDigit = true) :
    DigitsOf (ds ++ [d]) (10 * n + (d.toNat - '0'.toNat))

/-- A point with the digits after it, or neither. -/
inductive FractionOf : List Char → List Char → Prop
  | none : FractionOf [] []
  | point (ds : List Char) : FractionOf ('.' :: ds) ds

/-- An exponent with its mark, or none. -/
inductive ExponentOf : List Char → Int → Prop
  | none : ExponentOf [] 0
  | mark {c : Char} {sign ds : List Char} {negative : Bool} {n : Nat} (hc : c = 'e' ∨ c = 'E')
    (hsign : SignOf sign negative) (hds : DigitsOf ds n) (hsome : ds ≠ []) :
    ExponentOf (c :: (sign ++ ds)) (if negative then -(n : Int) else n)

/-- A literal in ASCII, without blanks and underscores, and what it denotes. -/
inductive Numeral : List Char → Quantity → Prop
  | finite {sign whole point frac mark : List Char} {negative : Bool} {w f : Nat} {e : Int}
    (hsign : SignOf sign negative) (hwhole : DigitsOf whole w) (hpoint : FractionOf point frac)
    (hfrac : DigitsOf frac f) (hsome : whole ≠ [] ∨ frac ≠ []) (hmark : ExponentOf mark e) :
    Numeral (sign ++ (whole ++ (point ++ mark)))
      (.rational (Quantity.sign negative * (w + f / 10 ^ frac.length) * 10 ^ e))
  | infinite {sign word : List Char} {negative : Bool} (hsign : SignOf sign negative)
    (hword : word.map Char.toLower = "inf".toList ∨ word.map Char.toLower = "infinity".toList) :
    Numeral (sign ++ word) (.infinite negative)
  | nan {sign word ds : List Char} {negative signals : Bool} {payload : Nat}
    (hsign : SignOf sign negative)
    (hword : word.map Char.toLower = (if signals then "snan" else "nan").toList)
    (hds : DigitsOf ds payload) :
    Numeral (sign ++ (word ++ ds)) (.nan negative signals payload)

/-! ## Digits -/

theorem digitsValue_concat (ds : List Char) (d : Char) :
    Decimal.digitsValue (ds ++ [d]) = 10 * Decimal.digitsValue ds + (d.toNat - 48) := by
  rw [Decimal.digitsValue, List.map_append, List.map_cons, List.map_nil, ofDigits_concat,
    Nat.mul_comm]
  rfl

/-- Digits denote their value, and nothing else. -/
theorem digitsOf_iff (ds : List Char) (n : Nat) :
    DigitsOf ds n ↔ (∀ d ∈ ds, d.isDigit = true) ∧ n = Decimal.digitsValue ds := by
  constructor
  · intro h
    induction h with
    | nil => exact ⟨nofun, rfl⟩
    | snoc h hd ih =>
      obtain ⟨hall, rfl⟩ := ih
      refine ⟨fun x hx => ?_, (digitsValue_concat _ _).symm⟩
      rcases List.mem_append.1 hx with hx | hx
      · exact hall x hx
      · rw [List.mem_singleton.1 hx]
        exact hd
  · rintro ⟨hall, rfl⟩
    induction ds using List.reverseRecOn with
    | nil => exact .nil
    | append_singleton ds d ih =>
      rw [digitsValue_concat]
      exact .snoc (ih fun x hx => hall x (List.mem_append_left [d] hx))
        (hall d (List.mem_append_right ds List.mem_cons_self))

/-- The digits before the point are worth as much more as there are digits after it. -/
theorem digitsValue_append (whole frac : List Char) :
    Decimal.digitsValue (whole ++ frac) =
      Decimal.digitsValue whole * 10 ^ frac.length + Decimal.digitsValue frac := by
  induction frac using List.reverseRecOn with
  | nil => simp [Decimal.digitsValue, ofDigits]
  | append_singleton frac d ih =>
    rw [← List.append_assoc, digitsValue_concat, digitsValue_concat, ih, List.length_append,
      List.length_singleton, pow_succ]
    ring

theorem spanDigits_eq {cs ds rest : List Char} (h : Decimal.spanDigits cs = (ds, rest)) :
    cs = ds ++ rest ∧ ∀ d ∈ ds, d.isDigit = true := by
  obtain ⟨rfl, rfl⟩ := Prod.mk.inj h
  exact ⟨(List.takeWhile_append_dropWhile).symm, fun d hd => List.mem_takeWhile_imp hd⟩

/-! ## The reader denotes what it reads -/

namespace Decimal

theorem takeSign_eq {cs rest : List Char} {negative : Bool} (h : takeSign cs = (negative, rest)) :
    ∃ sign, SignOf sign negative ∧ cs = sign ++ rest := by
  unfold takeSign at h
  split at h
  · cases h
    exact ⟨['-'], .minus, rfl⟩
  · cases h
    exact ⟨['+'], .plus, rfl⟩
  · cases h
    exact ⟨[], .none, rfl⟩

theorem readExponent?_eq_some {cs : List Char} {e : Int} (h : readExponent? cs = some e) :
    ExponentOf cs e := by
  cases cs with
  | nil =>
    cases h
    exact .none
  | cons c cs =>
    rcases hsign : takeSign cs with ⟨negative, rest⟩
    rcases hspan : spanDigits rest with ⟨ds, after⟩
    simp only [readExponent?, hsign, hspan] at h
    split at h
    · next hc =>
      split at h
      · cases h
      · next hsome =>
        obtain ⟨sign, hsignOf, rfl⟩ := takeSign_eq hsign
        obtain ⟨rfl, hall⟩ := spanDigits_eq hspan
        simp only [Bool.or_eq_true, not_or, Bool.not_eq_true', List.isEmpty_iff,
          Bool.not_eq_false] at hsome
        obtain ⟨hds, rfl⟩ := hsome
        cases h
        have hmark : c = 'e' ∨ c = 'E' := by simpa using hc
        rw [List.append_nil]
        exact .mark hmark hsignOf ((digitsOf_iff _ _).2 ⟨hall, rfl⟩) hds
    · cases h

/-- The digits after a point, if there is one, and what follows. -/
def spanFraction : List Char → List Char × List Char
  | '.' :: rest => spanDigits rest
  | rest => ([], rest)

theorem spanFraction_eq {cs frac mark : List Char} (h : spanFraction cs = (frac, mark)) :
    ∃ point, cs = point ++ mark ∧ FractionOf point frac ∧ ∀ d ∈ frac, d.isDigit = true := by
  unfold spanFraction at h
  split at h
  · obtain ⟨rfl, hall⟩ := spanDigits_eq h
    exact ⟨'.' :: frac, rfl, .point frac, hall⟩
  · cases h
    exact ⟨[], rfl, .none, nofun⟩

/-- The parts that the reader takes off, by name. -/
theorem readFinite?_parts {cs whole rest frac mark : List Char} (negative : Bool)
    (hwhole : spanDigits cs = (whole, rest)) (hfrac : spanFraction rest = (frac, mark)) :
    readFinite? negative cs =
      if whole.isEmpty && frac.isEmpty then none
      else (readExponent? mark).bind fun e =>
        if inRange (digitsValue (whole ++ frac)) (e - frac.length) then
          some (.finite negative (digitsValue (whole ++ frac)) (e - frac.length))
        else none := by
  have hnamed : readFinite? negative cs =
      if (spanDigits cs).1.isEmpty && (spanFraction (spanDigits cs).2).1.isEmpty then none
      else (readExponent? (spanFraction (spanDigits cs).2).2).bind fun e =>
        let digits := (spanDigits cs).1 ++ (spanFraction (spanDigits cs).2).1
        let exponent := e - (spanFraction (spanDigits cs).2).1.length
        if inRange (digitsValue digits) exponent then
          some (.finite negative (digitsValue digits) exponent)
        else none := rfl
  rw [hnamed, hwhole]
  simp only [hfrac]

/-- Digits around a point and an exponent are one coefficient and one exponent. -/
theorem quantity_parts (negative : Bool) (whole frac : List Char) (e : Int) :
    (Decimal.finite negative (digitsValue (whole ++ frac)) (e - frac.length)).quantity =
      .rational (Quantity.sign negative *
        (digitsValue whole + digitsValue frac / 10 ^ frac.length) * 10 ^ e) := by
  have hten : (10 : ℚ) ≠ 0 := by norm_num
  rw [quantity, digitsValue_append, zpow_sub₀ hten, zpow_natCast]
  push_cast
  field_simp

theorem readFinite?_eq_some {negative : Bool} {sign cs : List Char} {d : Decimal}
    (hsign : SignOf sign negative) (h : readFinite? negative cs = some d) :
    Numeral (sign ++ cs) d.quantity := by
  rcases hwhole : spanDigits cs with ⟨whole, rest⟩
  rcases hfrac : spanFraction rest with ⟨frac, mark⟩
  rw [readFinite?_parts negative hwhole hfrac] at h
  obtain ⟨rfl, hwholeDigits⟩ := spanDigits_eq hwhole
  obtain ⟨point, rfl, hpoint, hfracDigits⟩ := spanFraction_eq hfrac
  split at h
  · cases h
  · next hsome =>
    obtain ⟨e, hmark, h⟩ := Option.bind_eq_some_iff.1 h
    split at h
    · cases h
      rw [quantity_parts]
      refine .finite hsign ((digitsOf_iff _ _).2 ⟨hwholeDigits, rfl⟩) hpoint
        ((digitsOf_iff _ _).2 ⟨hfracDigits, rfl⟩) ?_ (readExponent?_eq_some hmark)
      simpa only [Bool.and_eq_true, List.isEmpty_iff, not_and_or] using hsome
    · cases h

theorem readPayload?_eq_some {cs : List Char} {n : Nat} (h : readPayload? cs = some n) :
    DigitsOf cs n := by
  unfold readPayload? at h
  split at h
  · next hall =>
    cases h
    exact (digitsOf_iff _ _).2 ⟨List.all_eq_true.1 hall, rfl⟩
  · cases h

theorem dropWord?_eq_some {word cs rest : List Char} (h : dropWord? word cs = some rest) :
    ∃ front, front.map Char.toLower = word ∧ cs = front ++ rest := by
  unfold dropWord? at h
  split at h
  · next hword =>
    cases h
    exact ⟨cs.take word.length, beq_iff_eq.1 hword, (List.take_append_drop _ _).symm⟩
  · cases h

theorem readSpecial?_eq_some {negative : Bool} {sign cs : List Char} {d : Decimal}
    (hsign : SignOf sign negative) (h : readSpecial? negative cs = some d) :
    Numeral (sign ++ cs) d.quantity := by
  unfold readSpecial? at h
  split at h
  · next hword =>
    cases h
    exact .infinite hsign (by simpa using hword)
  · split at h
    · next rest hdrop =>
      obtain ⟨front, hfront, rfl⟩ := dropWord?_eq_some hdrop
      obtain ⟨n, hpayload, rfl⟩ := Option.map_eq_some_iff.1 h
      have hword : front.map Char.toLower = (if true then "snan" else "nan").toList := hfront
      exact .nan hsign hword (readPayload?_eq_some hpayload)
    · split at h
      · next rest hdrop =>
        obtain ⟨front, hfront, rfl⟩ := dropWord?_eq_some hdrop
        obtain ⟨n, hpayload, rfl⟩ := Option.map_eq_some_iff.1 h
        have hword : front.map Char.toLower = (if false then "snan" else "nan").toList := hfront
        exact .nan hsign hword (readPayload?_eq_some hpayload)
      · cases h

/-- A literal that is read denotes the decimal. -/
theorem numeral_of_ofChars? {cs : List Char} {d : Decimal} (h : ofChars? cs = some d) :
    Numeral cs d.quantity := by
  rcases hsign : takeSign cs with ⟨negative, rest⟩
  obtain ⟨sign, hsignOf, rfl⟩ := takeSign_eq hsign
  simp only [ofChars?, hsign] at h
  split at h
  · next d' hfinite =>
    cases h
    exact readFinite?_eq_some hsignOf hfinite
  · exact readSpecial?_eq_some hsignOf h

/-! ## A literal denotes nothing else -/

theorem takeSign_signOf {sign body : List Char} {negative : Bool} (hsign : SignOf sign negative)
    (hbody : ∀ c ∈ body.head?, c ≠ '-' ∧ c ≠ '+') : takeSign (sign ++ body) = (negative, body) := by
  cases hsign with
  | plus => rfl
  | minus => rfl
  | none => exact takeSign_signText false hbody

/-- A run of digits does not begin with a sign. -/
theorem head_ne_sign {ds : List Char} (hds : ∀ d ∈ ds, d.isDigit = true) :
    ∀ c ∈ ds.head?, c ≠ '-' ∧ c ≠ '+' :=
  fun _ hc => ne_sign_of_isDigit (hds _ (List.mem_of_head? hc))

theorem readExponent?_exponentOf {mark : List Char} {e : Int} (h : ExponentOf mark e) :
    readExponent? mark = some e := by
  cases h with
  | none => rfl
  | @mark c sign ds negative n hc hsign hds hsome =>
    obtain ⟨hall, rfl⟩ := (digitsOf_iff ds n).1 hds
    have hhead := head_ne_sign hall
    have hspan : spanDigits (ds ++ []) = (ds, []) := spanDigits_append hall nofun
    rw [List.append_nil] at hspan
    have hmark : (c == 'e' || c == 'E') = true := by simpa using hc
    have hds : ds.isEmpty = false := List.isEmpty_eq_false_iff.2 hsome
    simp only [readExponent?, hmark, if_true, takeSign_signOf hsign hhead, hspan, hds,
      List.isEmpty_nil, Bool.not_true, Bool.or_self, Bool.false_eq_true, if_false]

/-- Neither digits nor a point can be taken from an exponent. -/
theorem head_exponentOf {mark : List Char} {e : Int} (h : ExponentOf mark e) :
    ∀ c ∈ mark.head?, c.isDigit = false ∧ c ≠ '.' := by
  cases h with
  | none => nofun
  | mark hc =>
    rintro x ⟨⟩
    rcases hc with rfl | rfl <;> decide

theorem spanFraction_fractionOf {point frac mark : List Char} {e : Int}
    (hpoint : FractionOf point frac) (hfrac : ∀ d ∈ frac, d.isDigit = true)
    (hmark : ExponentOf mark e) : spanFraction (point ++ mark) = (frac, mark) := by
  have hhead := head_exponentOf hmark
  cases hpoint with
  | point => exact spanDigits_append hfrac fun c hc => (hhead c hc).1
  | none =>
    cases mark with
    | nil => rfl
    | cons c mark =>
      have hc := (hhead c rfl).2
      rw [List.nil_append, spanFraction]
      rintro rest ⟨⟩
      exact hc rfl

theorem toLower_of_isDigit {c : Char} (h : c.isDigit = true) : c.toLower = c := by
  obtain ⟨-, hhigh⟩ := (isDigit_iff c).1 h
  unfold Char.toLower
  rw [dif_neg]
  rintro ⟨hcapital, -⟩
  have hfirst : 65 ≤ c.toNat := UInt32.le_iff_toNat_le.1 hcapital
  omega

/-! ### Special values -/

theorem toList_inf : "inf".toList = ['i', 'n', 'f'] := by decide

theorem toList_infinity : "infinity".toList = ['i', 'n', 'f', 'i', 'n', 'i', 't', 'y'] := by decide

theorem toList_snan : "snan".toList = ['s', 'n', 'a', 'n'] := by decide

theorem toList_nan : "nan".toList = ['n', 'a', 'n'] := by decide

/-- The special values begin with a letter. -/
theorem readSpecial?_eq_none {cs : List Char} (negative : Bool)
    (h : ∀ c ∈ cs.head?, c.isDigit = true ∨ c = '.') : readSpecial? negative cs = none := by
  cases cs with
  | nil => simp [readSpecial?, dropWord?, toList_inf, toList_infinity, toList_snan, toList_nan]
  | cons c cs =>
    have hlower : c.toLower ≠ 'i' ∧ c.toLower ≠ 's' ∧ c.toLower ≠ 'n' := by
      rcases h c rfl with hdigit | rfl
      · rw [toLower_of_isDigit hdigit]
        refine ⟨?_, ?_, ?_⟩ <;> (rintro rfl; cases hdigit)
      · decide
    simp [readSpecial?, dropWord?, toList_inf, toList_infinity, toList_snan, toList_nan, hlower]

/-- A letter of a special value is no part of a finite one. -/
theorem head_of_letter {c letter : Char} (hc : c.toLower = letter)
    (hletter : letter ∈ ['i', 'n', 's']) :
    (c.isDigit = false ∧ c ≠ '.') ∧ c ≠ '-' ∧ c ≠ '+' := by
  have hdigit : letter.isDigit = false := by
    simp only [List.mem_cons, List.not_mem_nil, or_false] at hletter
    rcases hletter with rfl | rfl | rfl <;> rfl
  have hother : ∀ x : Char, x.toLower ∉ ['i', 'n', 's'] → c ≠ x := by
    rintro x hx rfl
    exact hx (hc ▸ hletter)
  refine ⟨⟨?_, hother '.' (by decide)⟩, hother '-' (by decide), hother '+' (by decide)⟩
  refine Bool.eq_false_iff.2 fun h => ?_
  rw [toLower_of_isDigit h] at hc
  rw [hc, hdigit] at h
  cases h

/-- The parts of a finite literal are read as one decimal, unless it is out of range. -/
theorem readFinite?_finite {whole point frac mark : List Char} {w f : Nat} {e : Int}
    (negative : Bool) (hwhole : DigitsOf whole w) (hpoint : FractionOf point frac)
    (hfrac : DigitsOf frac f) (hsome : whole ≠ [] ∨ frac ≠ []) (hmark : ExponentOf mark e) :
    readFinite? negative (whole ++ (point ++ mark)) =
      if inRange (digitsValue (whole ++ frac)) (e - frac.length) then
        some (.finite negative (digitsValue (whole ++ frac)) (e - frac.length))
      else none := by
  have hends : EndsDigits (point ++ mark) := by
    cases hpoint with
    | none => exact fun c hc => (head_exponentOf hmark c hc).1
    | point ds =>
      rintro c ⟨⟩
      rfl
  have hsplit := spanDigits_append ((digitsOf_iff _ _).1 hwhole).1 hends
  have hfraction := spanFraction_fractionOf hpoint ((digitsOf_iff _ _).1 hfrac).1 hmark
  have hnonempty : (whole.isEmpty && frac.isEmpty) = false := by
    rcases hsome with h | h <;> simp [h]
  rw [readFinite?_parts negative hsplit hfraction, hnonempty, readExponent?_exponentOf hmark]
  rfl

/-- A finite literal begins with a digit or with the point. -/
theorem head_finite {whole point frac mark : List Char} {w : Nat} (hwhole : DigitsOf whole w)
    (hpoint : FractionOf point frac) (hsome : whole ≠ [] ∨ frac ≠ []) :
    ∀ c ∈ (whole ++ (point ++ mark)).head?, c.isDigit = true ∨ c = '.' := by
  cases whole with
  | cons d whole =>
    rintro c ⟨⟩
    exact .inl (((digitsOf_iff _ _).1 hwhole).1 d List.mem_cons_self)
  | nil =>
    cases hpoint with
    | none => exact absurd rfl (hsome.resolve_left (absurd rfl))
    | point ds =>
      rintro c ⟨⟩
      exact .inr rfl

theorem head_infinite {word : List Char}
    (hword : word.map Char.toLower = "inf".toList ∨ word.map Char.toLower = "infinity".toList) :
    ∃ c rest, word = c :: rest ∧ c.toLower = 'i' := by
  rw [toList_inf, toList_infinity] at hword
  rcases hword with hword | hword
  · obtain ⟨c, rest, hword, hc, -⟩ := List.map_eq_cons_iff.1 hword
    exact ⟨c, rest, hword, hc⟩
  · obtain ⟨c, rest, hword, hc, -⟩ := List.map_eq_cons_iff.1 hword
    exact ⟨c, rest, hword, hc⟩

theorem head_nan {word : List Char} {signals : Bool}
    (hword : word.map Char.toLower = (if signals then "snan" else "nan").toList) :
    ∃ c rest letter, word = c :: rest ∧ c.toLower = letter ∧ letter ∈ ['i', 'n', 's'] := by
  cases signals with
  | true =>
    rw [if_pos rfl, toList_snan] at hword
    obtain ⟨c, rest, hword, hc, -⟩ := List.map_eq_cons_iff.1 hword
    exact ⟨c, rest, 's', hword, hc, by simp⟩
  | false =>
    rw [if_neg Bool.noConfusion, toList_nan] at hword
    obtain ⟨c, rest, hword, hc, -⟩ := List.map_eq_cons_iff.1 hword
    exact ⟨c, rest, 'n', hword, hc, by simp⟩

theorem readSpecial?_infinite {word : List Char} (negative : Bool)
    (hword : word.map Char.toLower = "inf".toList ∨ word.map Char.toLower = "infinity".toList) :
    readSpecial? negative word = some (.infinite negative) := by
  have hmatch : (word.map Char.toLower == "inf".toList ||
      word.map Char.toLower == "infinity".toList) = true := by simpa using hword
  rw [readSpecial?, if_pos hmatch]

theorem readSpecial?_payload {word ds : List Char} {signals : Bool} {payload : Nat}
    (negative : Bool) (hword : word.map Char.toLower = (if signals then "snan" else "nan").toList)
    (hds : DigitsOf ds payload) :
    readSpecial? negative (word ++ ds) = some (.nan negative signals payload) := by
  obtain ⟨hall, rfl⟩ := (digitsOf_iff _ _).1 hds
  have hpayload : readPayload? ds = some (digitsValue ds) := if_pos (List.all_eq_true.2 hall)
  cases signals with
  | true =>
    simp only [if_true, toList_snan, List.map_eq_cons_iff, List.map_eq_nil_iff] at hword
    obtain ⟨a, -, rfl, ha, b, -, rfl, hb, c, -, rfl, hc, d, -, rfl, hd, rfl⟩ := hword
    simp [readSpecial?, dropWord?, toList_inf, toList_infinity, toList_snan, ha, hb, hc, hd,
      hpayload]
  | false =>
    simp only [Bool.false_eq_true, if_false, toList_nan, List.map_eq_cons_iff, List.map_eq_nil_iff]
      at hword
    obtain ⟨a, -, rfl, ha, b, -, rfl, hb, c, -, rfl, hc, rfl⟩ := hword
    simp [readSpecial?, dropWord?, toList_inf, toList_infinity, toList_snan, toList_nan, ha, hb, hc,
      hpayload]

/-- After a sign, a letter begins a special value. -/
theorem ofChars?_letter {sign rest : List Char} {c letter : Char} {negative : Bool}
    (hsign : SignOf sign negative) (hc : c.toLower = letter) (hletter : letter ∈ ['i', 'n', 's']) :
    ofChars? (sign ++ c :: rest) = readSpecial? negative (c :: rest) := by
  obtain ⟨⟨hdigit, hpoint⟩, hbody⟩ := head_of_letter hc hletter
  have hhead : ∀ x ∈ (c :: rest).head?, x ≠ '-' ∧ x ≠ '+' := by
    rintro x ⟨⟩
    exact hbody
  simp only [ofChars?, takeSign_signOf hsign hhead, readFinite?_eq_none negative rest hdigit hpoint]

/-- A literal that is read denotes nothing but the decimal. -/
theorem numeral_unique {cs : List Char} {d : Decimal} {q : Quantity} (h : ofChars? cs = some d)
    (hq : Numeral cs q) : q = d.quantity := by
  cases hq with
  | @finite sign whole point frac mark negative w f e hsign hwhole hpoint hfrac hsome hmark =>
    have hhead : ∀ c ∈ (whole ++ (point ++ mark)).head?, c.isDigit = true ∨ c = '.' :=
      head_finite hwhole hpoint hsome
    have hbody : ∀ c ∈ (whole ++ (point ++ mark)).head?, c ≠ '-' ∧ c ≠ '+' := by
      intro c hc
      rcases hhead c hc with hdigit | rfl
      · exact ne_sign_of_isDigit hdigit
      · decide
    obtain ⟨-, rfl⟩ := (digitsOf_iff _ _).1 hwhole
    obtain ⟨-, rfl⟩ := (digitsOf_iff _ _).1 hfrac
    simp only [ofChars?, takeSign_signOf hsign hbody,
      readFinite?_finite negative hwhole hpoint hfrac hsome hmark] at h
    split at h
    · next d' hread =>
      split at hread
      · cases hread
        cases h
        exact (quantity_parts negative whole frac e).symm
      · cases hread
    · rw [readSpecial?_eq_none negative hhead] at h
      cases h
  | @infinite sign word negative hsign hword =>
    have hread := readSpecial?_infinite negative hword
    obtain ⟨c, rest, rfl, hc⟩ := head_infinite hword
    rw [ofChars?_letter hsign hc (by simp), hread] at h
    cases h
    rfl
  | @nan sign word ds negative signals payload hsign hword hds =>
    have hread := readSpecial?_payload negative hword hds
    obtain ⟨c, rest, letter, rfl, hc, hletter⟩ := head_nan hword
    rw [List.cons_append, ofChars?_letter hsign hc hletter] at h
    rw [List.cons_append, h] at hread
    cases hread
    rfl

/-! ## Whole numbers -/

theorem quantity_ofInt (i : Int) : (ofInt i).quantity = .whole i := by
  rw [ofInt, quantity, Quantity.whole, zpow_zero, mul_one]
  congr 1
  have habs : (i.natAbs : ℚ) = ((i.natAbs : Int) : ℚ) := by rw [Int.cast_natCast]
  unfold Quantity.sign
  rw [habs]
  by_cases hi : i < 0
  · have hneg : (i.natAbs : Int) = -i := by omega
    rw [decide_eq_true hi, if_pos rfl, hneg]
    push_cast
    ring
  · have hpos : (i.natAbs : Int) = i := by omega
    rw [decide_eq_false hi, if_neg Bool.noConfusion, hpos, one_mul]

/-- A decimal that is taken for an integer is that integer. -/
theorem quantity_of_toInt? {limit : Nat} {d : Decimal} {i : Int} (h : d.toInt? limit = some i) :
    d.quantity = .whole i := by
  have hsigned : ∀ (negative : Bool) (n : Nat) (r : ℚ), (n : ℚ) = r →
      Quantity.rational (Quantity.sign negative * r) =
        .whole (if negative then -(n : Int) else n) := by
    rintro negative n r rfl
    unfold Quantity.sign Quantity.whole
    cases negative <;> simp
  cases d with
  | infinite => cases h
  | nan => cases h
  | finite negative c e =>
    have htenTo : ∀ k, Number.tenTo k = 10 ^ k := fun _ => rfl
    simp only [toInt?] at h
    rw [quantity, mul_assoc]
    split at h
    · next hzero =>
      cases h
      rw [beq_iff_eq.1 hzero, Nat.cast_zero, zero_mul, mul_zero]
      rfl
    · split at h
      · next hpositive =>
        split at h
        · cases h
        · cases h
          refine hsigned negative (c * Number.tenTo e.toNat) _ ?_
          obtain ⟨k, rfl⟩ := Int.eq_ofNat_of_zero_le hpositive
          rw [Int.toNat_natCast, zpow_natCast, htenTo]
          push_cast
          rfl
      · next hnegative =>
        split at h
        · cases h
        · split at h
          · next hdivides =>
            cases h
            obtain ⟨k, hk⟩ : ∃ k : Nat, k = (-e).toNat := ⟨_, rfl⟩
            have he : e = -(k : Int) := by omega
            have hten : ((10 ^ k : Nat) : ℚ) ≠ 0 :=
              Nat.cast_ne_zero.2 (pow_ne_zero k (by decide))
            have hdvd : 10 ^ k ∣ c := by
              rw [← htenTo, hk]
              exact Nat.dvd_of_mod_eq_zero (beq_iff_eq.1 hdivides)
            refine hsigned negative (c / Number.tenTo (-e).toNat) _ ?_
            rw [← hk, htenTo, Nat.cast_div hdvd hten, he, zpow_neg, zpow_natCast, Nat.cast_pow,
              div_eq_mul_inv]
            rfl
          · cases h

/-! ## Texts -/

/-- What a text denotes: blanks around it and underscores do not count, and a digit of any
script is that digit. -/
def TextDenotes (s : String) (q : Quantity) : Prop := ∃ cs, normalForm? s = some cs ∧ Numeral cs q

/-- A text that is read denotes the decimal and nothing else. -/
theorem textDenotes_iff {s : String} {d : Decimal} (h : ofText? s = some d) (q : Quantity) :
    TextDenotes s q ↔ q = d.quantity := by
  obtain ⟨cs, hcs, hread⟩ := Option.bind_eq_some_iff.1 h
  constructor
  · rintro ⟨cs', hcs', hq⟩
    rw [hcs] at hcs'
    cases hcs'
    exact numeral_unique hread hq
  · rintro rfl
    exact ⟨cs, hcs, numeral_of_ofChars? hread⟩

/-- A decimal digit of any script is read as the digit of ASCII. -/
theorem asciiForm?_of_decimalDigit? {c : Char} {d : Nat} (h : decimalDigit? c = some d) :
    d < 10 ∧ isBlank c = false ∧ c ≠ '_' ∧ asciiForm? c = some (digitChar d) := by
  have hform := h
  obtain ⟨z, hz, rfl⟩ := Option.map_eq_some_iff.1 h
  have hrun := List.find?_some hz
  simp only [Bool.and_eq_true, decide_eq_true_eq] at hrun
  -- the runs of digits lie between the blanks
  have hapart : ∀ z ∈ decimalZeros, z = 0x30 ∨
      (0x660 ≤ z ∧ (z + 10 ≤ 0x1680 ∨ 0x1681 ≤ z) ∧ (z + 10 ≤ 0x2000 ∨ 0x3001 ≤ z)) := by decide
  have hplace := hapart z (List.mem_of_find?_eq_some hz)
  have hblank : isBlank c = false := by
    simp only [isBlank, Bool.or_eq_false_iff, Bool.and_eq_false_iff, decide_eq_false_iff_not,
      beq_eq_false_iff_ne]
    omega
  refine ⟨by omega, hblank, ?_, ?_⟩
  · rintro rfl
    have hcode : '_'.toNat = 95 := rfl
    omega
  · have hzero : (c.toNat == 0) = false := beq_eq_false_iff_ne.2 (by omega)
    rw [asciiForm?, hzero, hblank, hform]
    simp only [Bool.false_eq_true, if_false, Option.map_some]
    split
    · have hcode : '0'.toNat + (c.toNat - z) = c.toNat := by
        have : '0'.toNat = 48 := rfl
        omega
      rw [digitChar, hcode, Char.ofNat_toNat]
    · rfl

theorem mapM_asciiForm? {cs : List Char} {ds : List Nat}
    (h : cs.mapM decimalDigit? = some ds) :
    ds.length = cs.length ∧ cs.mapM asciiForm? = some (ds.map digitChar) ∧ (∀ d ∈ ds, d < 10) ∧
      ∀ c ∈ cs, isBlank c = false ∧ c ≠ '_' := by
  induction cs generalizing ds with
  | nil =>
    cases h
    exact ⟨rfl, rfl, nofun, nofun⟩
  | cons c cs ih =>
    rw [List.mapM_cons] at h
    obtain ⟨d, hd, h⟩ := Option.bind_eq_some_iff.1 h
    obtain ⟨ds', hds, h⟩ := Option.bind_eq_some_iff.1 h
    cases h
    obtain ⟨hlt, hblank, hunderscore, hform⟩ := asciiForm?_of_decimalDigit? hd
    obtain ⟨hlength, hforms, hall, hplain⟩ := ih hds
    refine ⟨congrArg (· + 1) hlength, ?_, List.forall_mem_cons.2 ⟨hlt, hall⟩,
      List.forall_mem_cons.2 ⟨⟨hblank, hunderscore⟩, hplain⟩⟩
    rw [List.mapM_cons, hform, hforms]
    rfl

/-- The digits of ASCII as a literal. -/
theorem digitsOf_digitChars {ds : List Nat} (h : ∀ d ∈ ds, d < 10) :
    DigitsOf (ds.map digitChar) (ofDigits 10 ds) := by
  have hcode : ∀ d < 10, (digitChar d).isDigit = true ∧ (digitChar d).toNat - 48 = d := by decide
  refine (digitsOf_iff _ _).2 ⟨fun c hc => ?_, ?_⟩
  · obtain ⟨d, hd, rfl⟩ := List.mem_map.1 hc
    exact (hcode d (h d hd)).1
  · rw [digitsValue, List.map_map]
    congr 1
    exact ((List.map_congr_left fun d hd => (hcode d (h d hd)).2).trans (List.map_id ds)).symm

theorem ofDigits_lt {ds : List Nat} (h : ∀ d ∈ ds, d < 10) : ofDigits 10 ds < 10 ^ ds.length := by
  induction ds using List.reverseRecOn with
  | nil => exact Nat.one_pos
  | append_singleton ds d ih =>
    have hds := ih fun x hx => h x (List.mem_append_left [d] hx)
    have hd := h d (List.mem_append_right ds List.mem_cons_self)
    rw [ofDigits_concat, List.length_append, List.length_singleton, Nat.pow_succ]
    omega

/-- A text of digits is read as the whole number it denotes. -/
theorem ofText?_digits {s : String} {ds : List Nat} (h : s.toList.mapM decimalDigit? = some ds)
    (hsome : s.toList ≠ []) (hfew : s.toList.length ≤ 4300) :
    ofText? s = some (.finite false (ofDigits 10 ds) 0) := by
  obtain ⟨hlength, hforms, hall, hplain⟩ := mapM_asciiForm? h
  have hfilter : s.toList.filter (· != '_') = s.toList :=
    List.filter_eq_self.2 fun c hc => by simp [(hplain c hc).2]
  have hnormal : normalForm? s = some (ds.map digitChar) := by
    rw [normalForm?, trimWhere_eq_self fun c hc => (hplain c hc).1, hfilter, hforms]
  have hwhole := digitsOf_digitChars hall
  obtain ⟨hdigits, hvalue⟩ := (digitsOf_iff _ _).1 hwhole
  have hchars : ds.map digitChar ≠ [] := fun hnil => by
    rw [List.map_eq_nil_iff.1 hnil] at hlength
    exact hsome (List.length_eq_zero_iff.1 hlength.symm)
  have hpositive : 0 < ds.length := List.length_pos_iff.2 fun hnil => hchars (by rw [hnil]; rfl)
  have hcount : digitCount (ofDigits 10 ds) ≤ ds.length :=
    (Nat.length_toDigits_le_iff (by decide) hpositive).2 (ofDigits_lt hall)
  have hrange : inRange (ofDigits 10 ds) 0 = true := by
    have hlow : (lowestExponent ≤ 0) = True := by decide
    simp only [inRange, hlow, decide_true, Bool.true_and, highestExponent]
    split <;> (apply decide_eq_true; omega)
  have hsign : takeSign (ds.map digitChar) = (false, ds.map digitChar) :=
    takeSign_signOf .none (head_ne_sign hdigits)
  have hread := readFinite?_finite false hwhole .none .nil (.inl hchars) .none
  simp only [List.append_nil, List.length_nil, ← hvalue, Int.ofNat_zero, Int.sub_zero] at hread
  rw [ofText?, hnormal, Option.bind_some, ofChars?, hsign]
  simp only [hread, hrange, if_true]

end Decimal

end SqlGateway
