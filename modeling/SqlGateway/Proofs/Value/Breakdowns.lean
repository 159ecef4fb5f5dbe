import SqlGateway.Failure
import SqlGateway.Proofs.Number.LargestDouble
import SqlGateway.Proofs.Value.RoundTrip
set_option autoImplicit false

/-!
# Values: conversions that break down

A conversion that gives no value is expected to end in a conversion error.  Most do, but the
primitives that a conversion leans on fail in ways of their own that nothing catches: a
whole number is asked of an infinity, a NaN signals, a digit has no place value, an integer
is past the largest double, or is too long to be read from a text or shown in a message.

These are all of them.  For reading a cell and for building a value there is a list of the
inputs that end in a foreign failure, with its kind; every other input gives a value or a
conversion error.  Memory and stack are taken to suffice for any input.
-/

namespace SqlGateway

/-- The gateway's own error of a conversion. -/
def Failure.isConversion : Failure → Bool
  | .fault (.conversion ..) _ _ _ => true
  | _ => false

/-- The kind of failure that a breakdown surfaces as. -/
def Breakdown.foreignKind : Breakdown → ForeignKind
  | .intTooLarge | .infiniteInt _ => .overflow
  | .notNumber _ => .type
  | .signalling => .invalidOperation
  | .notANumber _ | .signallingDouble | .notInteger _ | .tooManyDigits _ | .noLiteral
  | .noKind _ => .value

theorem Breakdown.toFailure_eq (b : Breakdown) :
    ∃ text, b.toFailure = .primitive b.foreignKind text := by
  cases b <;> exact ⟨_, rfl⟩

theorem Refusal.isConversion_toFailure {r : Refusal} (h : r.hasMessage = true) :
    r.toFailure.isConversion = true := by
  rw [toFailure, if_pos h]
  rfl

/-- The kind of foreign failure that a fault surfaces as; a conversion error is none. -/
def ConversionFault.escape? : ConversionFault → Option ForeignKind
  | .refused r => if r.hasMessage then none else some .value
  | .broke b => some b.foreignKind

/-- The kind of foreign failure that a conversion ends in, if it does. -/
def Value.escape? (o : Except ConversionFault Value) : Option ForeignKind :=
  match o with
  | .ok _ => none
  | .error e => e.escape?

theorem ConversionFault.isConversion_of_escape? {e : ConversionFault} (h : e.escape? = none) :
    e.toFailure.isConversion = true := by
  cases e with
  | broke b => cases h
  | refused r =>
    cases hmessage : r.hasMessage with
    | true => exact Refusal.isConversion_toFailure hmessage
    | false =>
      rw [escape?, hmessage] at h
      cases h

theorem ConversionFault.toFailure_of_escape? {e : ConversionFault} {x : ForeignKind}
    (h : e.escape? = some x) : ∃ text, e.toFailure = .primitive x text := by
  cases e with
  | broke b =>
    cases h
    exact b.toFailure_eq
  | refused r =>
    cases hmessage : r.hasMessage with
    | true =>
      rw [escape?, hmessage] at h
      cases h
    | false =>
      rw [escape?, hmessage] at h
      cases h
      obtain ⟨text, htext⟩ := Breakdown.noLiteral.toFailure_eq
      refine ⟨text, ?_⟩
      rw [toFailure, Refusal.toFailure, hmessage]
      exact htext

/-- A conversion that fails ends in a conversion error, or in one of the foreign failures that
`escapes` names, and it does end in those. -/
structure Value.EndsIn (o : Except Failure Value) (escapes : ForeignKind → Prop) : Prop where
  failure : ∀ f, o = .error f →
    f.isConversion = true ∨ ∃ x text, escapes x ∧ f = .primitive x text
  escape : ∀ x, escapes x → ∃ text, o = .error (.primitive x text)

theorem Value.endsIn_of_escape? {o : Except ConversionFault Value} {escapes : ForeignKind → Prop}
    (h : ∀ x, Value.escape? o = some x ↔ escapes x) :
    Value.EndsIn (o.mapError ConversionFault.toFailure) escapes := by
  cases o with
  | ok v =>
    refine ⟨fun f hf => (by cases hf), fun x hx => ?_⟩
    have hnone := (h x).2 hx
    cases hnone
  | error e =>
    constructor
    · intro f hf
      cases hf
      cases hescape : e.escape? with
      | none => exact .inl (ConversionFault.isConversion_of_escape? hescape)
      | some x =>
        obtain ⟨text, htext⟩ := ConversionFault.toFailure_of_escape? hescape
        exact .inr ⟨x, text, (h x).1 hescape, htext⟩
    · intro x hx
      obtain ⟨text, htext⟩ := ConversionFault.toFailure_of_escape? ((h x).2 hx)
      exact ⟨text, congrArg Except.error htext⟩

/-! ## Reading -/

namespace Codec

/-- A text of digits that is no integer: a digit has no place value, or there are too many. -/
def IsOddDigits (n : Native) : Prop :=
  ∃ s, n.asText? = some s ∧ s.isEmpty = false ∧ s.toList.all Text.isDigit = true ∧
    ((∃ ch ∈ s.toList, Text.decimalDigit? ch = none) ∨ maxIntegerDigits < s.toList.length)

/-- The cells that end in a foreign failure, by declared kind. -/
inductive Escapes : Native → Option ValueKind → ForeignKind → Prop
  | infinity {negative : Bool} {k : ValueKind} (hk : k = .int64 ∨ k = .uint64) :
    Escapes (.decimal (.infinite negative)) (some k) .overflow
  | signalling {negative : Bool} {payload : Nat} {k : ValueKind} (hk : k = .int64 ∨ k = .uint64) :
    Escapes (.decimal (.nan negative true payload)) (some k) .invalidOperation
  | signallingDouble {negative : Bool} {payload : Nat} :
    Escapes (.decimal (.nan negative true payload)) (some .float64) .value
  | digits {n : Native} (hn : IsOddDigits n) : Escapes n (some .uint64) .value
  | largeInteger {i : Int} (hi : Binary64.firstTooLarge ≤ i.natAbs) :
    Escapes (.int i) (some .float64) .overflow
  | longInteger {i : Int} (hi : Number.tenTo maxIntegerDigits ≤ i.natAbs) :
    Escapes (.int i) none .value

end Codec

/-! ## Building -/

/-- The objects that end in a foreign failure, by the kind they are built as: an integer that
is read as a double or as no kind may be too large, and an object that is not of the kind may
be too long to be shown. -/
inductive Value.Escapes : Native → Option ValueKind → ForeignKind → Prop
  | largeInteger {i : Int} (hi : Binary64.firstTooLarge ≤ i.natAbs) :
    Escapes (.int i) (some .float64) .overflow
  | longInteger {i : Int} (hi : Number.tenTo Codec.maxIntegerDigits ≤ i.natAbs) :
    Escapes (.int i) none .value
  | noLiteral {n : Native} {k : ValueKind} (hn : n.hasLiteral = false)
      (hk : ∀ i, n = .int i → k ≠ .float64 ∧ k ≠ .decimal) :
    Escapes n (some k) .value

namespace Value

theorem hasLiteral_int_iff (i : Int) :
    (Native.int i).hasLiteral = true ↔ i.natAbs < Number.tenTo Codec.maxIntegerDigits := by
  rw [Native.hasLiteral, decide_eq_true_iff]

/-- A payload has a literal. -/
theorem hasLiteral_of_make {k : ValueKind} {n : Native} {v : Value} (h : make k n = .ok v) :
    n.hasLiteral = true := by
  have hwords : 2 ^ 64 ≤ Number.tenTo Codec.maxIntegerDigits := by decide +kernel
  cases n with
  | int i =>
    rw [hasLiteral_int_iff]
    refine Nat.lt_of_lt_of_le ?_ hwords
    cases k <;> simp only [make, Native.asText?, reduceCtorEq] at h
    · split at h
      · next hi =>
        have hbounds := (Codec.inInt64_iff i).1 hi
        omega
      · cases h
    · split at h
      · next hi =>
        have hbounds := (Codec.inUInt64_iff i).1 hi
        omega
      · cases h
  | list items => cases k <;> cases h
  | tuple items => cases k <;> cases h
  | dict entries => cases k <;> cases h
  | _ => rfl

/-- An object that is no payload is refused as just that. -/
theorem make_eq_error {k : ValueKind} {n : Native} {r : Refusal} (h : make k n = .error r) :
    r = .notPayload n k := by
  unfold make at h
  split at h <;> grind

theorem escape?_make (k : ValueKind) (n : Native) :
    escape? ((make k n).mapError .refused) = if n.hasLiteral then none else some .value := by
  cases h : make k n with
  | ok v =>
    rw [hasLiteral_of_make h]
    rfl
  | error r =>
    obtain rfl := make_eq_error h
    rfl

/-- But for integers as doubles and as decimals, building fails as checking does. -/
theorem escape?_ofKind {k : ValueKind} {n : Native}
    (hk : ∀ i, n = .int i → k ≠ .float64 ∧ k ≠ .decimal) :
    escape? (ofKind k n) = if n.hasLiteral then none else some .value := by
  have hdirect := escape?_make k n
  have htext : ∀ s, n.asText? = some s → n.hasLiteral = true := by
    intro s hs
    cases n with
    | text | kind | direction => rfl
    | _ => cases hs
  unfold ofKind
  dsimp only
  split
  · next i => exact absurd rfl (hk i rfl).1
  · next i => exact absurd rfl (hk i rfl).2
  · split
    · next s hs =>
      rw [htext s hs]
      split <;> rfl
    · exact hdirect
  · rfl
  · split
    · next s hs =>
      rw [htext s hs]
      split <;> rfl
    · exact hdirect
  · exact hdirect

/-- An integer outside the 64-bit range is refused, if it can be shown. -/
theorem escape?_of_int (i : Int) :
    escape? ((of (.int i)).mapError .refused) =
      if (Native.int i).hasLiteral then none else some .value := by
  have hword : ∀ k v, make k (.int i) = .ok v → (Native.int i).hasLiteral = true :=
    fun _ _ => hasLiteral_of_make
  by_cases hsigned : inInt64 i = true
  · rw [hword .int64 (.int64 (.ofInt i)) (if_pos hsigned), of, if_pos hsigned]
    rfl
  · by_cases hunsigned : inUInt64 i = true
    · rw [hword .uint64 (.uint64 (.ofNat i.toNat)) (if_pos hunsigned), of, if_neg hsigned,
        if_pos hunsigned]
      rfl
    · rw [of, if_neg hsigned, if_neg hunsigned]
      rfl

/-- An integer that is too long is the only object of no kind that ends in a foreign failure. -/
theorem escape?_of (n : Native) (x : ForeignKind) :
    escape? ((of n).mapError .refused) = some x ↔ Escapes n none x := by
  cases n with
  | int i =>
    rw [escape?_of_int]
    by_cases hshown : (Native.int i).hasLiteral = true
    · rw [if_pos hshown]
      refine iff_of_false (fun h => (by cases h)) fun h => ?_
      cases h with
      | longInteger hi => exact Nat.not_lt_of_le hi ((hasLiteral_int_iff i).1 hshown)
    · have hi := Nat.le_of_not_lt fun h => hshown ((hasLiteral_int_iff i).2 h)
      rw [if_neg hshown]
      constructor
      · intro h
        cases h
        exact .longInteger hi
      · intro h
        cases h
        rfl
  | _ => exact iff_of_false (fun h => (by cases h)) fun h => (by cases h)

/-- An integer past the largest double has no double. -/
theorem escape?_ofKind_double (i : Int) (x : ForeignKind) :
    escape? (ofKind .float64 (.int i)) = some x ↔ Escapes (.int i) (some .float64) x := by
  cases hdouble : Binary64.ofInt? i with
  | some y =>
    simp only [ofKind, hdouble]
    refine iff_of_false (fun h => (by cases h)) fun h => ?_
    cases h with
    | largeInteger hi =>
      rw [(Binary64.ofInt?_eq_none_iff i).2 hi] at hdouble
      cases hdouble
    | noLiteral hn hk => exact (hk i rfl).1 rfl
  | none =>
    simp only [ofKind, hdouble]
    constructor
    · intro h
      cases h
      exact .largeInteger ((Binary64.ofInt?_eq_none_iff i).1 hdouble)
    · intro h
      cases h with
      | largeInteger hi => rfl
      | noLiteral hn hk => exact absurd rfl (hk i rfl).1

/-- What ends in a foreign failure when a value is built as a kind. -/
theorem escape?_ofKind_iff (k : ValueKind) (n : Native) (x : ForeignKind) :
    escape? (ofKind k n) = some x ↔ Escapes n (some k) x := by
  by_cases hplain : ∀ i, n = .int i → k ≠ .float64 ∧ k ≠ .decimal
  · rw [escape?_ofKind hplain]
    cases hshown : n.hasLiteral with
    | true =>
      refine iff_of_false (fun h => (by cases h)) fun h => ?_
      cases h with
      | largeInteger hi => exact (hplain _ rfl).1 rfl
      | noLiteral hn hk =>
        rw [hshown] at hn
        cases hn
    | false =>
      constructor
      · intro h
        cases h
        exact .noLiteral hshown hplain
      · intro h
        cases h with
        | largeInteger hi => exact absurd rfl (hplain _ rfl).1
        | noLiteral hn hk => rfl
  · obtain ⟨i, hplain⟩ := Classical.not_forall.1 hplain
    obtain ⟨rfl, hkind⟩ := Classical.not_imp.1 hplain
    by_cases hdouble : k = .float64
    · rw [hdouble]
      exact escape?_ofKind_double i x
    · obtain rfl : k = .decimal := Classical.byContradiction fun hdecimal => hkind ⟨hdouble, hdecimal⟩
      refine iff_of_false (fun h => (by cases h)) fun h => ?_
      cases h with
      | noLiteral hn hk => exact (hk i rfl).2 rfl

/-- What ends in a foreign failure when a value is built. -/
theorem escape?_coerce (n : Native) (kind : Option ValueKind) (x : ForeignKind) :
    escape? (coerce n kind) = some x ↔ Escapes n kind x := by
  have hnone : ∀ {n : Native}, n.hasLiteral = true → (∀ i, n ≠ .int i) →
      ∀ k, ¬ Escapes n (some k) x := by
    intro n hshown hint k h
    cases h with
    | largeInteger hi => exact hint _ rfl
    | noLiteral hn hk =>
      rw [hshown] at hn
      cases hn
  cases kind with
  | none => exact escape?_of n x
  | some k =>
    cases n with
    | null => exact iff_of_false (fun h => (by cases h)) (hnone rfl (fun i hi => (by cases hi)) k)
    | value v => exact iff_of_false (fun h => (by cases h)) (hnone rfl (fun i hi => (by cases hi)) k)
    | _ => exact escape?_ofKind_iff k _ x

end Value

namespace Codec

variable (c : Codec)

/-- The kind of foreign failure that a primitive ends in, if it does. -/
def broken? {α : Type} (o : Except Breakdown α) : Option ForeignKind :=
  match o with
  | .ok _ => none
  | .error b => some b.foreignKind

/-- A whole number is asked in vain of an infinity and of a NaN that signals. -/
theorem broken?_wholeNumber {n : Native} {k : ValueKind} (hk : k = .int64 ∨ k = .uint64)
    (hdigits : ¬ (k = .uint64 ∧ IsOddDigits n)) (x : ForeignKind) :
    broken? (wholeNumber n) = some x ↔ Escapes n (some k) x := by
  have hother : ∀ {n : Native}, (∀ d, n ≠ .decimal d) → ¬ (k = .uint64 ∧ IsOddDigits n) →
      ¬ Escapes n (some k) x := by
    intro n hn hdigits h
    cases h with
    | infinity | signalling | signallingDouble => exact hn _ rfl
    | digits hodd => exact hdigits ⟨rfl, hodd⟩
    | largeInteger hi => rcases hk with hk | hk <;> cases hk
  cases n with
  | decimal d =>
    cases d with
    | finite negative m e =>
      have hok : broken? (wholeNumber (.decimal (.finite negative m e))) = none := by
        simp only [wholeNumber, Decimal.isSignalling, Bool.false_eq_true, if_false]
        split <;> rfl
      rw [hok]
      refine iff_of_false (fun h => (by cases h)) fun h => ?_
      cases h with
      | digits hodd => exact hdigits ⟨rfl, hodd⟩
    | infinite negative =>
      constructor
      · intro h
        cases h
        exact .infinity hk
      · intro h
        cases h with
        | infinity => rfl
        | digits hodd => exact absurd ⟨rfl, hodd⟩ hdigits
    | nan negative signals payload =>
      cases signals with
      | true =>
        constructor
        · intro h
          cases h
          exact .signalling hk
        · intro h
          cases h with
          | signalling => rfl
          | signallingDouble => rcases hk with hk | hk <;> cases hk
          | digits hodd => exact absurd ⟨rfl, hodd⟩ hdigits
      | false =>
        refine iff_of_false (fun h => (by cases h)) fun h => ?_
        cases h with
        | digits hodd => exact hdigits ⟨rfl, hodd⟩
  | _ => exact iff_of_false (fun h => (by cases h)) (hother (fun d hd => (by cases hd)) hdigits)

/-- The texts of digits that are no integer. -/
theorem broken?_integerOfDigits (s : String) (x : ForeignKind) :
    broken? (integerOfDigits s) = some x ↔
      ((∃ ch ∈ s.toList, Text.decimalDigit? ch = none) ∨ maxIntegerDigits < s.toList.length) ∧
        x = .value := by
  have hdigits : ∀ cs : List Char, cs.mapM Text.decimalDigit? = none ↔
      ∃ ch ∈ cs, Text.decimalDigit? ch = none := by
    intro cs
    induction cs with
    | nil => simp
    | cons ch cs ih =>
      rw [List.mapM_cons]
      cases hch : Text.decimalDigit? ch with
      | none => exact iff_of_true rfl ⟨ch, List.mem_cons_self, hch⟩
      | some d =>
        simp only [List.mem_cons, or_and_right, exists_or, exists_eq_left, hch, reduceCtorEq,
          false_or, ← ih]
        cases cs.mapM Text.decimalDigit? <;> simp
  rw [← hdigits]
  simp only [integerOfDigits]
  cases s.toList.mapM Text.decimalDigit? with
  | none => simp [broken?, Breakdown.foreignKind, eq_comm]
  | some ds =>
    by_cases hmany : maxIntegerDigits < s.toList.length
    · simp [broken?, Breakdown.foreignKind, hmany, eq_comm]
    · simp [broken?, hmany]

/-! ### By kind -/

theorem escape?_decodeInt64 (n : Native) (x : ForeignKind) :
    Value.escape? (decodeInt64 c n) = some x ↔ Escapes n (some .int64) x := by
  have hwhole : Value.escape? (decodeInt64 c n) = broken? (wholeNumber n) := by
    unfold decodeInt64
    cases wholeNumber n with
    | error b => rfl
    | ok m =>
      cases m with
      | int i =>
        dsimp only
        split <;> rfl
      | _ => rfl
  rw [hwhole]
  exact broken?_wholeNumber (.inl rfl) (fun h => (by cases h.1)) x

theorem escape?_decodeUInt64 (n : Native) (x : ForeignKind) :
    Value.escape? (decodeUInt64 c n) = some x ↔ Escapes n (some .uint64) x := by
  by_cases hdigits : ∃ s, n.asText? = some s ∧ (!s.isEmpty && s.toList.all Text.isDigit) = true
  · obtain ⟨s, hs, hall⟩ := hdigits
    have hread : Value.escape? (decodeUInt64 c n) = broken? (integerOfDigits s) := by
      simp only [decodeUInt64, hs, hall, if_true]
      cases integerOfDigits s with
      | error b => rfl
      | ok i =>
        simp only [Except.map]
        split <;> rfl
    obtain ⟨hsome, hall⟩ := Bool.and_eq_true_iff.1 hall
    rw [hread, broken?_integerOfDigits]
    constructor
    · rintro ⟨hodd, rfl⟩
      exact .digits ⟨s, hs, by simpa using hsome, hall, hodd⟩
    · intro h
      cases h with
      | digits hodd =>
        obtain ⟨s', hs', -, -, hodd⟩ := hodd
        rw [hs] at hs'
        cases hs'
        exact ⟨hodd, rfl⟩
      | _ => cases hs
  · have hplain : ¬ (ValueKind.uint64 = .uint64 ∧ IsOddDigits n) := by
      rintro ⟨-, s, hs, hsome, hall, -⟩
      exact hdigits ⟨s, hs, by rw [hsome, hall]; rfl⟩
    have hwhole : Value.escape? (decodeUInt64 c n) = broken? (wholeNumber n) := by
      cases hs : n.asText? with
      | none =>
        simp only [decodeUInt64, hs]
        cases wholeNumber n with
        | error b => rfl
        | ok m =>
          cases m with
          | int i =>
            dsimp only
            split <;> rfl
          | _ => rfl
      | some s =>
        have hall : (!s.isEmpty && s.toList.all Text.isDigit) = false :=
          Bool.eq_false_iff.2 fun hall => hdigits ⟨s, hs, hall⟩
        simp only [decodeUInt64, hs, hall, Bool.false_eq_true, if_false]
        cases n with
        | text | kind | direction => rfl
        | _ => cases hs
    rw [hwhole]
    exact broken?_wholeNumber (.inr rfl) hplain x

/-- A NaN that signals is the only decimal without a nearest double. -/
theorem toBinary64?_eq_none_iff (d : Decimal) :
    d.toBinary64? = none ↔ ∃ negative payload, d = .nan negative true payload := by
  cases d with
  | finite negative m e =>
    refine iff_of_false (fun h => ?_) (by simp)
    simp only [Decimal.toBinary64?] at h
    repeat' split at h
    all_goals cases h
  | infinite negative => simp [Decimal.toBinary64?]
  | nan negative signals payload => cases signals <;> simp [Decimal.toBinary64?]

theorem escape?_decodeFloat64 (n : Native) (x : ForeignKind) :
    Value.escape? (decodeFloat64 c n) = some x ↔ Escapes n (some .float64) x := by
  cases n with
  | decimal d =>
    cases hdouble : d.toBinary64? with
    | none =>
      obtain ⟨negative, payload, rfl⟩ := (toBinary64?_eq_none_iff d).1 hdouble
      constructor
      · intro h
        cases h
        exact .signallingDouble
      · intro h
        cases h with
        | signallingDouble => rfl
        | signalling hk => rcases hk with hk | hk <;> cases hk
    | some y =>
      simp only [decodeFloat64, hdouble]
      refine iff_of_false (fun h => (by cases h)) fun h => ?_
      cases h with
      | infinity hk | signalling hk => rcases hk with hk | hk <;> cases hk
      | signallingDouble => cases hdouble
  | int i =>
    refine (Value.escape?_ofKind_double i x).trans ⟨fun h => ?_, fun h => ?_⟩
    · cases h with
      | largeInteger hi => exact .largeInteger hi
      | noLiteral hn hk => exact absurd rfl (hk i rfl).1
    · cases h with
      | largeInteger hi => exact .largeInteger hi
  | _ => exact iff_of_false (fun h => (by cases h)) fun h => (by cases h)

/-- A decimal literal that is refused can be shown. -/
theorem escape?_decimalText (s : String) : Value.escape? (Value.ofKind .decimal (.text s)) = none :=
  Value.escape?_ofKind fun i hi => (by cases hi)

/-- The other kinds end in a conversion error if they fail. -/
theorem escape?_decodeAs (k : ValueKind) (n : Native) (x : ForeignKind) :
    Value.escape? (decodeAs c k n) = some x ↔ Escapes n (some k) x := by
  have hnone : ∀ {o : Except ConversionFault Value} {k : ValueKind}, Value.escape? o = none →
      (k ≠ .int64 ∧ k ≠ .uint64 ∧ k ≠ .float64) →
      (Value.escape? o = some x ↔ Escapes n (some k) x) := by
    rintro o k ho ⟨hsigned, hunsigned, hdouble⟩
    rw [ho]
    refine iff_of_false (fun h => (by cases h)) fun h => ?_
    cases h with
    | infinity hk | signalling hk => exact hk.elim hsigned hunsigned
    | signallingDouble | largeInteger => exact hdouble rfl
    | digits => exact hunsigned rfl
  cases k with
  | int64 => exact escape?_decodeInt64 c n x
  | uint64 => exact escape?_decodeUInt64 c n x
  | float64 => exact escape?_decodeFloat64 c n x
  | null => exact hnone rfl (by decide)
  | bool =>
    refine hnone ?_ (by decide)
    cases n with
    | int i =>
      simp only [decodeAs, decodeBool]
      repeat' split
      all_goals rfl
    | _ => rfl
  | decimal =>
    refine hnone ?_ (by decide)
    cases n with
    | text s => exact escape?_decimalText s
    | kind k => exact escape?_decimalText k.name
    | direction d => exact escape?_decimalText d.keyword
    | float y => exact escape?_decimalText _
    | _ => rfl
  | text =>
    refine hnone ?_ (by decide)
    cases n with
    | bytes holder b =>
      simp only [decodeAs, decodeText]
      repeat' split
      all_goals rfl
    | _ => rfl
  | bytes =>
    refine hnone ?_ (by decide)
    cases n <;> rfl
  | timestamp =>
    refine hnone ?_ (by decide)
    simp only [decodeAs, decodeTimestamp]
    repeat' split
    all_goals rfl
  | uuid =>
    refine hnone ?_ (by decide)
    simp only [decodeAs, decodeUuid]
    repeat' split
    all_goals rfl

/-- Without a kind, reading fails as building does. -/
theorem escape?_infer (n : Native) (x : ForeignKind) :
    Value.escape? (infer c n) = some x ↔ Escapes n none x := by
  have hsame : Value.escape? (infer c n) = Value.escape? ((Value.of n).mapError .refused) := by
    unfold infer
    cases Value.of n <;> rfl
  rw [hsame, Value.escape?_of]
  constructor
  · intro h
    cases h with
    | longInteger hi => exact .longInteger hi
  · intro h
    cases h with
    | longInteger hi => exact .longInteger hi

/-- What ends in a foreign failure when a cell is read. -/
theorem escape?_decode (n : Native) (kind : Option ValueKind) (x : ForeignKind) :
    Value.escape? (decode c n kind) = some x ↔ Escapes n kind x := by
  by_cases hnull : n = .null
  · rw [hnull]
    refine iff_of_false (fun h => (by cases h)) fun h => ?_
    cases h with
    | digits hodd =>
      obtain ⟨s, hs, -⟩ := hodd
      cases hs
  · cases kind with
    | none => rw [decode, escape?_infer]; exact hnull
    | some k => rw [decode, escape?_decodeAs]; exact hnull

end Codec

/-- Reading a cell and building a value give a value or a conversion error, but for the inputs
listed, which end in the foreign failure named there. -/
theorem conversions_surface (c : Codec) (n : Native) (kind : Option ValueKind) :
    Value.EndsIn ((c.decode n kind).mapError ConversionFault.toFailure) (Codec.Escapes n kind) ∧
      Value.EndsIn ((Value.of n).mapError Refusal.toFailure) (Value.Escapes n none) ∧
      Value.EndsIn ((Value.coerce n kind).mapError ConversionFault.toFailure)
        (Value.Escapes n kind) := by
  have hof : (Value.of n).mapError Refusal.toFailure =
      ((Value.of n).mapError .refused).mapError ConversionFault.toFailure := by
    cases Value.of n <;> rfl
  refine ⟨Value.endsIn_of_escape? (c.escape?_decode n kind), ?_,
    Value.endsIn_of_escape? (Value.escape?_coerce n kind)⟩
  rw [hof]
  exact Value.endsIn_of_escape? (Value.escape?_of n)

/-- A decimal infinity read as a signed word is no value and no conversion error. -/
theorem decode_infinity_overflows :
    (Codec.sqlite.decode (.decimal (.infinite false)) (some .int64)).mapError
        ConversionFault.toFailure =
      .error (.primitive .overflow "cannot convert Infinity to integer") ∧
    (Failure.primitive .overflow "cannot convert Infinity to integer").isConversion = false :=
  ⟨rfl, rfl⟩

end SqlGateway
