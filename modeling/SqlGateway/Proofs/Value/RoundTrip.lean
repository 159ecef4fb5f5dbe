import SqlGateway.Failure
import SqlGateway.Proofs.Number.DecimalText
import SqlGateway.Proofs.Time.IsoText
import SqlGateway.Proofs.Value.UuidText
set_option autoImplicit false

/-!
# Values: round trips

A value is written for a driver and read back as its own kind.  Every codec gives the value
back, payload and all, with two limits.  MySQL stores no offset, so it refuses a time that
has one.  SQLite stores times as text, and a text with an offset of less than a second is
read as universal time, so such a time comes back without its offset.

A payload that is handed to the driver as it is comes back by the readers alone; the other
forms (flags as integers, words as text or decimals, decimals, times and identifiers as text,
identifiers as bytes) have one lemma each.
-/

namespace SqlGateway

/-- The payload is one that exists: the exponents of a decimal are bounded. -/
def Value.Bounded : Value → Prop
  | .decimal d => d.Bounded
  | _ => True

/-- The value is a time at less than a second from universal time, but not in it. -/
def Value.HasSplitSecondOffset (v : Value) : Prop :=
  ∃ t o, v = .timestamp t ∧ t.offset = some o ∧ o.micros ≠ 0 ∧ o.micros.natAbs < 1000000

/-- The objects that SQLite's driver binds: nothing, doubles, texts, byte strings and signed
words. -/
def Native.FitsSqlite : Native → Prop
  | .null | .float _ | .text _ | .bytes .plain _ => True
  | .int i => inInt64 i = true
  | _ => False

namespace Codec

/-- What is left of a value after it was written and read back. -/
def kept (c : Codec) : Value → Value
  | .timestamp t => .timestamp (if c = .sqlite then t.asRead else t)
  | v => v

theorem kept_eq_self_iff (c : Codec) (v : Value) :
    c.kept v = v ↔ ¬ (c = .sqlite ∧ v.HasSplitSecondOffset) := by
  cases v with
  | timestamp t =>
    by_cases hc : c = .sqlite
    · simp only [kept, hc, if_true, Value.timestamp.injEq, Time.DateTime.asRead_eq_self_iff,
        Value.HasSplitSecondOffset, true_and]
      constructor
      · rintro h ⟨t', o, rfl, ho, hzero, hsmall⟩
        have := h o ho
        omega
      · intro h o ho
        rcases Nat.lt_or_ge o.micros.natAbs 1000000 with hsmall | hlarge
        · by_cases hzero : o.micros = 0
          · exact .inl hzero
          · exact absurd ⟨t, o, rfl, ho, hzero, hsmall⟩ h
        · exact .inr hlarge
    · simp [kept, hc]
  | _ => simp [kept, Value.HasSplitSecondOffset]

/-! ## Words -/

theorem inInt64_iff (i : Int) :
    inInt64 i = true ↔ -9223372036854775808 ≤ i ∧ i < 9223372036854775808 := by
  have htwo : (Number.twoTo 63 : Int) = 9223372036854775808 := rfl
  simp only [inInt64, htwo, Bool.and_eq_true, decide_eq_true_eq]

theorem inUInt64_iff (i : Int) : inUInt64 i = true ↔ 0 ≤ i ∧ i < 18446744073709551616 := by
  have htwo : (Number.twoTo 64 : Int) = 18446744073709551616 := rfl
  simp only [inUInt64, htwo, Bool.and_eq_true, decide_eq_true_eq]

theorem inInt64_toInt (n : Int64) : inInt64 n.toInt = true :=
  (inInt64_iff _).2 ⟨n.le_toInt, n.toInt_lt⟩

theorem inUInt64_toNat (n : UInt64) : inUInt64 n.toNat = true := by
  have h := n.toNat_lt
  rw [inUInt64_iff]
  omega

variable (c : Codec)

/-- An integer that is a word is read as the word. -/
theorem decodeUInt64_int (n : UInt64) : decodeUInt64 c (.int n.toNat) = .ok (.uint64 n) := by
  simp [decodeUInt64, Native.asText?, wholeNumber, inUInt64_toNat]

/-- The digits of a word are few enough for an integer, and denote it. -/
theorem integerOfDigits_word (n : UInt64) : integerOfDigits (toString n.toNat) = .ok n.toNat := by
  have hdigits : (Nat.toDigits 10 n.toNat).mapM Text.decimalDigit? =
      some ((Nat.toDigits 10 n.toNat).map fun c => c.toNat - 48) := by
    have hall : ∀ c ∈ Nat.toDigits 10 n.toNat, c.isDigit = true :=
      fun _ => Text.isDigit_of_mem_toDigits
    generalize Nat.toDigits 10 n.toNat = cs at hall
    induction cs with
    | nil => rfl
    | cons x cs ih =>
      have htail := ih fun y hy => hall y (List.mem_cons_of_mem x hy)
      rw [List.mapM_cons, Text.decimalDigit?_of_isDigit (hall x List.mem_cons_self), htail]
      rfl
  have hlength : (Nat.toDigits 10 n.toNat).length ≤ 20 :=
    (Nat.length_toDigits_le_iff (by decide) (by decide)).2
      (Nat.lt_trans n.toNat_lt (by decide))
  have hfew : ¬ maxIntegerDigits < (Nat.toDigits 10 n.toNat).length := by
    simp only [maxIntegerDigits]
    omega
  have hvalue := Text.digitsValue_toDigits n.toNat
  rw [Decimal.digitsValue] at hvalue
  have htext : (toString n.toNat).toList = Nat.toDigits 10 n.toNat := Nat.toList_repr
  simp only [integerOfDigits, htext, hdigits, if_neg hfew, hvalue]

theorem decodeUInt64_text (n : UInt64) :
    decodeUInt64 c (.text (toString n.toNat)) = .ok (.uint64 n) := by
  have htext : (toString n.toNat).toList = Nat.toDigits 10 n.toNat := Nat.toList_repr
  have hempty : (toString n.toNat).isEmpty = false := by
    simp [Nat.toString_eq_repr, Nat.repr_ne_empty]
  have hall : (toString n.toNat).toList.all Text.isDigit = true := by
    rw [htext, List.all_eq_true]
    intro x hx
    rw [Text.isDigit, Text.decimalDigit?_of_isDigit (Text.isDigit_of_mem_toDigits hx)]
    rfl
  have hword := inUInt64_toNat n
  simp only [decodeUInt64, Native.asText?, hempty, hall, Bool.not_false, Bool.and_self, if_true,
    integerOfDigits_word, Except.map, hword, Int.toNat_natCast, UInt64.ofNat_toNat]

/-- A word as a decimal is whole and has few digits. -/
theorem decodeUInt64_decimal (n : UInt64) :
    decodeUInt64 c (.decimal (.ofInt n.toNat)) = .ok (.uint64 n) := by
  have hcount : Decimal.digitCount n.toNat ≤ 20 :=
    (Nat.length_toDigits_le_iff (by decide) (by decide)).2
      (Nat.lt_trans n.toNat_lt (by decide))
  have hnegative : ¬ (n.toNat : Int) < 0 := by omega
  have hint : (Decimal.finite (decide ((n.toNat : Int) < 0)) (n.toNat : Int).natAbs 0).toInt?
      wordDigits = some (n.toNat : Int) := by
    have hfew : ¬ (wordDigits : Int) < 0 + (Decimal.digitCount n.toNat : Int) := by
      simp only [wordDigits]
      omega
    simp only [Decimal.toInt?, Int.natAbs_natCast, hfew, if_false, hnegative, decide_false,
      Bool.false_eq_true, Int.le_refl, if_true]
    by_cases hzero : n.toNat = 0 <;> simp [hzero, Number.tenTo]
  simp only [decodeUInt64, Native.asText?, wholeNumber, Decimal.ofInt, Decimal.isSignalling,
    Decimal.isWhole, hint]
  simp [inUInt64_toNat]

/-! ## Texts and bytes -/

theorem decodeDecimal_text {d : Decimal} (h : d.Bounded) :
    decodeDecimal c (.text d.toText) = .ok (.decimal d) := by
  simp [decodeDecimal, Native.asText?, Value.ofKind, Decimal.ofText?_toText h]

theorem decodeTimestamp_text (t : Time.DateTime) :
    decodeTimestamp c (.text t.toText) = .ok (.timestamp t.asRead) := by
  simp [decodeTimestamp, Native.asText?, Time.DateTime.ofText?_toText]

theorem decodeUuid_text (u : Uuid) : decodeUuid c (.text u.toText) = .ok (.uuid u) := by
  simp [decodeUuid, Native.asText?, Uuid.ofText?_toText]

theorem decodeUuid_bytes (u : Uuid) : decodeUuid c (.bytes .plain u.bytes) = .ok (.uuid u) := by
  simp [decodeUuid, Uuid.length_bytes, Uuid.ofBytes_bytes]

theorem decodeBool_int (b : Bool) :
    decodeBool c (.int (if b then 1 else 0)) = .ok (.bool b) := by
  cases b <;> simp [decodeBool]

/-! ## Payloads as they are -/

/-- The payload itself is read as the value. -/
theorem decode_ofValue (v : Value) : decode c (.ofValue v) (some v.kind) = .ok v := by
  cases v with
  | int64 n =>
    simp [decode, decodeAs, decodeInt64, Native.ofValue, Value.kind, wholeNumber, inInt64_toInt]
  | uint64 n => exact decodeUInt64_int c n
  | text s => simp [decode, decodeAs, decodeText, Native.ofValue, Value.kind, Native.asText?]
  | _ => rfl

/-! ## Writing -/

/-- MySQL refuses a time with an offset, and nothing else is refused. -/
theorem encode_eq_error_iff (v : Value) (r : Refusal) :
    c.encode v = .error r ↔
      c = .mysql ∧ (∃ t o, v = .timestamp t ∧ t.offset = some o) ∧ r = .offsetTimestamp := by
  cases v with
  | timestamp t =>
    cases c with
    | mysql =>
      obtain ⟨date, clock, offset⟩ := t
      cases offset <;> simp [encode, eq_comm]
    | _ => simp [encode]
  | _ => cases c <;> simp [encode]

/-- What SQLite is given fits its driver. -/
theorem fitsSqlite_of_encode {v : Value} {n : Native} (h : Codec.sqlite.encode v = .ok n) :
    n.FitsSqlite := by
  cases v with
  | bool b => cases h; cases b <;> rfl
  | int64 n => cases h; exact inInt64_toInt n
  | uint64 n =>
    simp only [encode, Except.ok.injEq] at h
    subst h
    split
    · next hsmall =>
      have htwo : Number.twoTo 63 = 9223372036854775808 := rfl
      rw [Native.FitsSqlite, inInt64_iff]
      omega
    · trivial
  | _ => cases h; trivial

/-- What was written is read back as what the codec keeps of the value. -/
theorem decode_encode {v : Value} (hv : v.Bounded) {n : Native} (h : c.encode v = .ok n) :
    c.decode n (some v.kind) = .ok (c.kept v) := by
  have hpayload := decode_ofValue c v
  cases v with
  | bool b =>
    cases c with
    | sqlite | mysql => cases h; exact decodeBool_int _ b
    | generic | postgresql => cases h; exact hpayload
  | uint64 m =>
    cases c with
    | sqlite =>
      simp only [encode, Except.ok.injEq] at h
      subst h
      split
      · exact hpayload
      · exact decodeUInt64_text .sqlite m
    | postgresql => cases h; exact decodeUInt64_decimal .postgresql m
    | generic | mysql => cases h; exact hpayload
  | decimal d =>
    cases c with
    | sqlite => cases h; exact decodeDecimal_text .sqlite hv
    | generic | mysql | postgresql => cases h; exact hpayload
  | timestamp t =>
    cases c with
    | sqlite => cases h; exact decodeTimestamp_text .sqlite t
    | mysql =>
      simp only [encode] at h
      split at h
      · cases h
      · cases h; exact hpayload
    | generic | postgresql => cases h; exact hpayload
  | uuid u =>
    cases c with
    | sqlite => cases h; exact decodeUuid_text .sqlite u
    | mysql => cases h; exact decodeUuid_bytes .mysql u
    | generic | postgresql => cases h; exact hpayload
  | null | int64 _ | float64 _ | text _ | bytes _ => cases c <;> (cases h; exact hpayload)

/-! ## Round trips -/

/-- Writing fails for MySQL and a time with an offset only, with a conversion fault; whatever
is written is read back as a value of the same kind with the same payload, unless SQLite was
given an offset of less than a second, which is read as none; and SQLite is given only what
its driver binds. -/
theorem roundTrip_lossless (c : Codec) {v : Value} (hv : v.Bounded) :
    (∀ r, c.encode v = .error r ↔
      c = .mysql ∧ (∃ t o, v = .timestamp t ∧ t.offset = some o) ∧ r = .offsetTimestamp) ∧
    Refusal.offsetTimestamp.toFailure =
      .make (.conversion (some "timestamp") (some "datetime"))
        "MySQL DATETIME cannot store a timezone offset; convert to naive UTC first" ∧
    ∀ n, c.encode v = .ok n →
      (c.decode n (some v.kind) = .ok v ↔ ¬ (c = .sqlite ∧ v.HasSplitSecondOffset)) ∧
      (∃ w, c.decode n (some v.kind) = .ok w ∧ w.kind = v.kind) ∧
      (c = .sqlite → n.FitsSqlite) := by
  refine ⟨encode_eq_error_iff c v, rfl, fun n hn => ?_⟩
  have hread := decode_encode c hv hn
  refine ⟨?_, ⟨c.kept v, hread, ?_⟩, ?_⟩
  · rw [hread, Except.ok.injEq]
    exact kept_eq_self_iff c v
  · cases v <;> rfl
  · rintro rfl
    exact fitsSqlite_of_encode hn

/-- A negative decimal in exponent form, with a zero at its end, goes through a text. -/
theorem roundTrip_lossless_scaled :
    (Value.decimal (.finite true 150 (-9))).Bounded ∧
    Codec.sqlite.encode (.decimal (.finite true 150 (-9))) = .ok (.text "-1.50E-7") ∧
    Codec.sqlite.decode (.text "-1.50E-7") (some .decimal) =
      .ok (.decimal (.finite true 150 (-9))) := by
  have hbounded : (Value.decimal (.finite true 150 (-9))).Bounded := by
    change (Decimal.finite true 150 (-9)).Bounded
    decide
  have hencode : Codec.sqlite.encode (.decimal (.finite true 150 (-9))) =
      .ok (.text "-1.50E-7") := by
    have htext : (Decimal.finite true 150 (-9)).toText = "-1.50E-7" := by decide
    rw [encode, htext]
  refine ⟨hbounded, hencode, ?_⟩
  refine ((roundTrip_lossless .sqlite hbounded).2.2 _ hencode).1.2 ?_
  rintro ⟨-, t, o, h, -⟩
  cases h

/-- Midnight at a microsecond from universal time. -/
def splitSecond : Time.DateTime :=
  ⟨⟨2024, 1, 1, by decide⟩, .midnight, some ⟨1, by decide⟩⟩

/-- The text of a time at a microsecond from universal time is read as universal time. -/
theorem decode_encode_splitSecond :
    Codec.sqlite.encode (.timestamp splitSecond) =
      .ok (.text "2024-01-01T00:00:00+00:00:00.000001") ∧
    Codec.sqlite.decode (.text "2024-01-01T00:00:00+00:00:00.000001") (some .timestamp) =
      .ok (.timestamp { splitSecond with offset := some .utc }) ∧
    Value.timestamp { splitSecond with offset := some .utc } ≠ .timestamp splitSecond := by
  have htext : splitSecond.toText = "2024-01-01T00:00:00+00:00:00.000001" := by decide
  refine ⟨?_, ?_, by decide⟩
  · rw [encode, htext]
  · rw [← htext]
    exact decodeTimestamp_text .sqlite splitSecond

end Codec

end SqlGateway
