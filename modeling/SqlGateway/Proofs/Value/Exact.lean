import SqlGateway.Proofs.Number.Numeral
import SqlGateway.Proofs.Value.RoundTrip
set_option autoImplicit false

/-!
# Values: reading is exact

A cell that a driver returned is read as the declared kind or not at all, and only nothing
is read as Null.  What is read is what was there: a flag, an integer, a decimal or a literal
gives a value that is the same number, with no digit dropped and nothing wrapped, and a flag
is never taken for a number; bytes give a text with those bytes in UTF-8, an identifier with
those bytes, or themselves.

Doubles are left out.  A decimal read from one is the literal that a double is shown as, and
a double read from an integer or a decimal is the nearest one.
-/

namespace SqlGateway

/-- The number that a value is; texts, times and doubles are none. -/
def Value.quantity? : Value → Option Quantity
  | .bool b => some (.whole (if b then 1 else 0))
  | .int64 n => some (.whole n.toInt)
  | .uint64 n => some (.whole n.toNat)
  | .decimal d => some d.quantity
  | _ => none

namespace Native

/-- A number that an object denotes: a flag is zero or one, a text is a literal. -/
inductive Denotes : Native → Quantity → Prop
  | bool (b : Bool) : Denotes (.bool b) (.whole (if b then 1 else 0))
  | int (i : Int) : Denotes (.int i) (.whole i)
  | decimal (d : Decimal) : Denotes (.decimal d) d.quantity
  | text {n : Native} {s : String} {q : Quantity} (hs : n.asText? = some s)
      (hq : Decimal.TextDenotes s q) : Denotes n q

/-- The object denotes a number, and no other one. -/
def Is (n : Native) (q : Quantity) : Prop := ∀ q', n.Denotes q' ↔ q' = q

/-- An object that is no text denotes one number at most. -/
theorem Denotes.is {n : Native} {q : Quantity} (h : n.Denotes q) (hn : n.asText? = none) :
    n.Is q := by
  refine fun q' => ⟨fun h' => ?_, fun heq => heq ▸ h⟩
  cases h with
  | bool b =>
    cases h' with
    | bool => rfl
    | text hs => cases hs
  | int i =>
    cases h' with
    | int => rfl
    | text hs => cases hs
  | decimal d =>
    cases h' with
    | decimal => rfl
    | text hs => cases hs
  | text hs =>
    rw [hn] at hs
    cases hs

/-- A text that is read as a decimal denotes that decimal. -/
theorem is_text {n : Native} {s : String} {d : Decimal} (hs : n.asText? = some s)
    (hd : Decimal.ofText? s = some d) : n.Is d.quantity := by
  refine fun q => ⟨fun h => ?_, fun h => .text hs ((Decimal.textDenotes_iff hd q).2 h)⟩
  cases h with
  | text hs' hq =>
    rw [hs] at hs'
    cases hs'
    exact (Decimal.textDenotes_iff hd q).1 hq
  | _ => cases hs

end Native

/-- What was read from an object as a kind is what was there. -/
structure Value.ReadFrom (v : Value) (n : Native) (k : ValueKind) : Prop where
  /-- Nothing is read as Null, and nothing else is. -/
  null_iff : v = .null ↔ n = .null
  kind_eq : n ≠ .null → v.kind = k
  /-- The payload passes the check of its kind. -/
  valid : Value.make v.kind (.ofValue v) = .ok v
  /-- A payload of the kind is read as itself. -/
  payload : ∀ w : Value, w.kind = k → n = .ofValue w → v = w
  /-- A flag is read as a flag only. -/
  flag : ∀ b, n = .bool b → k = .bool
  number : k ∈ [ValueKind.bool, .int64, .uint64, .decimal] → n ≠ .null → (∀ x, n ≠ .float x) →
    ∃ q, v.quantity? = some q ∧ n.Is q
  text : k = .text → ∀ holder b, n = .bytes holder b →
    ∃ s, v = .text s ∧ s.toUTF8.data.toList = b
  bytes : k = .bytes → ∀ holder b, n = .bytes holder b → v = .bytes b
  uuid : k = .uuid → ∀ holder b, n = .bytes holder b → ∃ u, v = .uuid u ∧ u.bytes = b

/-- A value is valid for its kind. -/
theorem Value.make_ofValue (v : Value) : make v.kind (.ofValue v) = .ok v := by
  cases v with
  | int64 n =>
    have hword := Codec.inInt64_toInt n
    simp [make, kind, Native.ofValue, hword]
  | uint64 n =>
    have hword := Codec.inUInt64_toNat n
    simp [make, kind, Native.ofValue, hword]
  | _ => rfl

/-- What passes the check of a kind is of the kind. -/
theorem Value.kind_of_make {k : ValueKind} {n : Native} {v : Value} (h : make k n = .ok v) :
    v.kind = k := by
  unfold make at h
  split at h <;> grind [kind]

/-- What is converted to a kind is of the kind. -/
theorem Value.kind_of_ofKind {k : ValueKind} {n : Native} {v : Value} (h : ofKind k n = .ok v) :
    v.kind = k := by
  have hdirect : (make k n).mapError ConversionFault.refused = .ok v → v.kind = k := by
    intro hmake
    cases hmade : make k n with
    | error r =>
      rw [hmade] at hmake
      cases hmake
    | ok w =>
      rw [hmade] at hmake
      cases hmake
      exact kind_of_make hmade
  unfold ofKind at h
  dsimp only at h
  split at h <;> grind [kind]

namespace Codec

variable (c : Codec)

/-! ## Numbers -/

theorem toInt_ofInt_of_inInt64 {i : Int} (h : inInt64 i = true) : (Int64.ofInt i).toInt = i := by
  obtain ⟨hlow, hhigh⟩ := (inInt64_iff i).1 h
  exact Int64.toInt_ofInt_of_le hlow hhigh

theorem toNat_ofNat_of_inUInt64 {i : Int} (h : inUInt64 i = true) :
    ((UInt64.ofNat i.toNat).toNat : Int) = i := by
  obtain ⟨hlow, hhigh⟩ := (inUInt64_iff i).1 h
  rw [UInt64.toNat_ofNat_of_lt' (Int.toNat_lt_of_ne_zero (by decide) |>.2 hhigh)]
  exact Int.toNat_of_nonneg hlow

/-- A whole number that is a word is the number that was given: a decimal past every word
stands for one past every word. -/
theorem is_of_wholeNumber {n : Native} {i : Int} (h : wholeNumber n = .ok (.int i))
    (hi : i < 18446744073709551616) : n.Is (.whole i) := by
  cases n with
  | decimal d =>
    simp only [wholeNumber] at h
    split at h
    · cases h
    · split at h
      · cases h
      · split at h
        · cases hint : d.toInt? wordDigits with
          | some j =>
            rw [hint] at h
            cases h
            have hsame : d.quantity = .whole j := Decimal.quantity_of_toInt? hint
            exact hsame ▸ (Native.Denotes.decimal d).is rfl
          | none =>
            rw [hint] at h
            cases h
            exact absurd hi (by decide)
        · cases h
  | int j =>
    cases h
    exact (Native.Denotes.int i).is rfl
  | _ => cases h

/-- Digits that are read as an integer denote it. -/
theorem is_of_integerOfDigits {n : Native} {s : String} {i : Int} (hs : n.asText? = some s)
    (hsome : s.isEmpty = false) (h : integerOfDigits s = .ok i) : n.Is (.whole i) := by
  simp only [integerOfDigits] at h
  split at h
  · cases h
  · next ds hds =>
    split at h
    · cases h
    · next hfew =>
      cases h
      have hchars : s.toList ≠ [] := by
        intro hnil
        rw [String.toList_eq_nil_iff] at hnil
        rw [hnil] at hsome
        cases hsome
      have hread := Decimal.ofText?_digits hds hchars (Nat.le_of_not_lt hfew)
      have hwhole := Decimal.quantity_ofInt (Text.ofDigits 10 ds)
      have hnegative : ¬ (Text.ofDigits 10 ds : Int) < 0 := by omega
      rw [Decimal.ofInt, decide_eq_false hnegative, Int.natAbs_natCast] at hwhole
      rw [← hwhole]
      exact Native.is_text hs hread

theorem decodeBool_exact {n : Native} {v : Value} (h : decodeBool c n = .ok v) :
    ∃ b, v = .bool b ∧ n.Is (.whole (if b then 1 else 0)) := by
  unfold decodeBool at h
  split at h
  · next b =>
    cases h
    exact ⟨b, rfl, (Native.Denotes.bool b).is rfl⟩
  · split at h
    · next hzero =>
      cases h
      subst hzero
      exact ⟨false, rfl, (Native.Denotes.int 0).is rfl⟩
    · split at h
      · next hone =>
        cases h
        subst hone
        exact ⟨true, rfl, (Native.Denotes.int 1).is rfl⟩
      · cases h
  · cases h

theorem decodeInt64_exact {n : Native} {v : Value} (h : decodeInt64 c n = .ok v) :
    ∃ m, v = .int64 m ∧ n.Is (.whole m.toInt) := by
  unfold decodeInt64 at h
  split at h
  · cases h
  · next i hwhole =>
    split at h
    · next hi =>
      cases h
      refine ⟨_, rfl, ?_⟩
      rw [toInt_ofInt_of_inInt64 hi]
      have hbounds := (inInt64_iff i).1 hi
      exact is_of_wholeNumber hwhole (by omega)
    · cases h
  · cases h

theorem decodeUInt64_exact {n : Native} {v : Value} (h : decodeUInt64 c n = .ok v) :
    ∃ m, v = .uint64 m ∧ n.Is (.whole m.toNat) := by
  simp only [decodeUInt64] at h
  split at h
  · cases h
  · next i hread =>
    split at h
    · next hi =>
      cases h
      refine ⟨_, rfl, ?_⟩
      rw [toNat_ofNat_of_inUInt64 hi]
      split at hread
      · next s hdigits =>
        split at hdigits
        · next s' hs =>
          split at hdigits
          · next hall =>
            cases hdigits
            have hsome : s.isEmpty = false := by simpa using (Bool.and_eq_true_iff.1 hall).1
            cases hinteger : integerOfDigits s with
            | error b =>
              rw [hinteger] at hread
              cases hread
            | ok j =>
              rw [hinteger] at hread
              cases hread
              exact is_of_integerOfDigits hs hsome hinteger
          · cases hdigits
        · cases hdigits
      · have hbounds := (inUInt64_iff i).1 hi
        exact is_of_wholeNumber hread hbounds.2
    · cases h
  · cases h

theorem decodeDecimal_exact {n : Native} {v : Value} (h : decodeDecimal c n = .ok v)
    (hdouble : ∀ x, n ≠ .float x) : ∃ d, v = .decimal d ∧ n.Is d.quantity := by
  have htext : ∀ s, n.asText? = some s → Value.ofKind .decimal (.text s) = .ok v →
      ∃ d, v = .decimal d ∧ n.Is d.quantity := by
    intro s hs h
    simp only [Value.ofKind, Native.asText?] at h
    split at h
    · next d hd =>
      cases h
      exact ⟨d, rfl, Native.is_text hs hd⟩
    · cases h
  unfold decodeDecimal at h
  split at h
  · next d =>
    cases h
    exact ⟨d, rfl, (Native.Denotes.decimal d).is rfl⟩
  · next i =>
    cases h
    refine ⟨_, rfl, ?_⟩
    rw [Decimal.quantity_ofInt]
    exact (Native.Denotes.int i).is rfl
  · next x => exact absurd rfl (hdouble x)
  · split at h
    · next s hs => exact htext s hs h
    · cases h

/-! ## Bytes -/

theorem decodeText_bytes {holder : ByteHolder} {b : List UInt8} {v : Value}
    (h : decodeText c (.bytes holder b) = .ok v) : ∃ s, v = .text s ∧ s.toUTF8.data.toList = b := by
  unfold decodeText at h
  split at h
  · cases h
  · next heq =>
    cases heq
    split at h
    · next s hs =>
      cases h
      refine ⟨s, rfl, ?_⟩
      unfold String.fromUTF8? at hs
      split at hs
      · cases hs
        rfl
      · cases hs
    · cases h
  · split at h
    · next hs => cases hs
    · cases h

theorem decodeUuid_ofBytes {holder : ByteHolder} {b : List UInt8} {v : Value}
    (h : decodeUuid c (.bytes holder b) = .ok v) : ∃ u, v = .uuid u ∧ u.bytes = b := by
  unfold decodeUuid at h
  split at h
  · next heq => cases heq
  · cases h
  · next heq =>
    cases heq
    split at h
    · next hlength =>
      cases h
      exact ⟨_, rfl, Uuid.bytes_ofBytes hlength⟩
    · cases h
  · next hbytes => exact absurd rfl (hbytes _ _)

/-! ## Every kind -/

/-- What is read as a kind is of the kind. -/
theorem kind_of_decodeAs {k : ValueKind} {n : Native} {v : Value} (h : decodeAs c k n = .ok v) :
    v.kind = k := by
  cases k with
  | null => cases h
  | bool =>
    obtain ⟨b, rfl, -⟩ := decodeBool_exact c h
    rfl
  | int64 =>
    obtain ⟨m, rfl, -⟩ := decodeInt64_exact c h
    rfl
  | uint64 =>
    obtain ⟨m, rfl, -⟩ := decodeUInt64_exact c h
    rfl
  | float64 =>
    simp only [decodeAs, decodeFloat64] at h
    split at h
    · cases h
      rfl
    · split at h <;> cases h
      rfl
    · exact Value.kind_of_ofKind h
    · cases h
  | decimal =>
    simp only [decodeAs, decodeDecimal] at h
    split at h
    · cases h
      rfl
    · cases h
      rfl
    · exact Value.kind_of_ofKind h
    · split at h
      · exact Value.kind_of_ofKind h
      · cases h
  | text =>
    simp only [decodeAs, decodeText] at h
    split at h
    · cases h
    · split at h <;> cases h
      rfl
    · split at h <;> cases h
      rfl
  | bytes =>
    simp only [decodeAs, decodeBytes] at h
    split at h <;> cases h
    rfl
  | timestamp =>
    simp only [decodeAs, decodeTimestamp] at h
    split at h
    · cases h
      rfl
    · split at h <;> cases h
      rfl
  | uuid =>
    simp only [decodeAs, decodeUuid] at h
    split at h
    · cases h
      rfl
    · cases h
    · split at h <;> cases h
      rfl
    · split at h <;> cases h
      rfl

/-- What is read as a flag, a word or a decimal is the number that was there. -/
theorem decodeAs_number {k : ValueKind} {n : Native} {v : Value} (h : decodeAs c k n = .ok v)
    (hk : k ∈ [ValueKind.bool, .int64, .uint64, .decimal]) (hdouble : ∀ x, n ≠ .float x) :
    ∃ q, v.quantity? = some q ∧ n.Is q := by
  simp only [List.mem_cons, List.not_mem_nil, or_false] at hk
  rcases hk with rfl | rfl | rfl | rfl
  · obtain ⟨b, rfl, his⟩ := decodeBool_exact c h
    exact ⟨_, rfl, his⟩
  · obtain ⟨m, rfl, his⟩ := decodeInt64_exact c h
    exact ⟨_, rfl, his⟩
  · obtain ⟨m, rfl, his⟩ := decodeUInt64_exact c h
    exact ⟨_, rfl, his⟩
  · obtain ⟨d, rfl, his⟩ := decodeDecimal_exact c h hdouble
    exact ⟨_, rfl, his⟩

/-- A flag is read as a flag only. -/
theorem kind_of_decodeAs_bool {k : ValueKind} {b : Bool} {v : Value}
    (h : decodeAs c k (.bool b) = .ok v) : k = .bool := by
  cases k with
  | bool => rfl
  | _ => cases h

/-- A value read from a cell is of the declared kind and exactly what the cell was. -/
theorem decode_exact {n : Native} {k : ValueKind} {v : Value} (h : c.decode n (some k) = .ok v) :
    v.ReadFrom n k := by
  by_cases hnull : n = .null
  · subst hnull
    cases h
    exact {
      null_iff := iff_of_true rfl rfl
      kind_eq := fun hn => absurd rfl hn
      valid := Value.make_ofValue .null
      payload := by
        rintro w - hw
        cases w with
        | null => rfl
        | _ => cases hw
      flag := nofun
      number := fun _ hn => absurd rfl hn
      text := nofun
      bytes := nofun
      uuid := nofun }
  · have hread : decodeAs c k n = .ok v := by
      rw [decode] at h
      · exact h
      · exact hnull
    have hkind := kind_of_decodeAs c hread
    have hk : k ≠ .null := by
      rintro rfl
      cases hread
    exact {
      null_iff := iff_of_false (fun hv => hk (hkind ▸ hv ▸ rfl)) hnull
      kind_eq := fun _ => hkind
      valid := v.make_ofValue
      payload := by
        rintro w rfl rfl
        rw [decode_ofValue] at h
        cases h
        rfl
      flag := by
        rintro b rfl
        exact kind_of_decodeAs_bool c hread
      number := fun hnumber _ hdouble => decodeAs_number c hread hnumber hdouble
      text := by
        rintro rfl holder b rfl
        exact decodeText_bytes c hread
      bytes := by
        rintro rfl holder b rfl
        cases hread
        rfl
      uuid := by
        rintro rfl holder b rfl
        exact decodeUuid_ofBytes c hread }

/-- Digits of two scripts are the number they denote. -/
theorem decode_exact_digits :
    ∃ v, Codec.sqlite.decode (.text "१2") (some .uint64) = .ok v ∧
      v.ReadFrom (.text "१2") .uint64 := by
  have hall : (!"१2".isEmpty && "१2".toList.all Text.isDigit) = true := by decide +kernel
  have hdigits : "१2".toList.mapM Text.decimalDigit? = some [1, 2] := by decide +kernel
  have hfew : ¬ maxIntegerDigits < "१2".toList.length := by decide
  have hinteger : integerOfDigits "१2" = .ok 12 := by
    simp only [integerOfDigits, hdigits, if_neg hfew]
    rfl
  have hword : inUInt64 12 = true := by decide
  have hread : Codec.sqlite.decode (.text "१2") (some .uint64) = .ok (.uint64 12) := by
    simp only [decode, decodeAs, decodeUInt64, Native.asText?, hall, if_true, hinteger,
      Except.map, hword]
    rfl
  exact ⟨_, hread, decode_exact .sqlite hread⟩

end Codec

end SqlGateway
