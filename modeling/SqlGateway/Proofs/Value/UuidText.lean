import SqlGateway.Proofs.Text.Places
import SqlGateway.Value.Uuid
set_option autoImplicit false

/-!
# Values: the two forms of an identifier

An identifier is read back from its text and from its bytes.  The reader of texts drops
words, braces and hyphens and allows blanks, a sign and a base before the digits; a written
identifier has none of them but the hyphens, so nothing else is taken from it.
-/

namespace SqlGateway.Uuid

open Text

/-! ## Digits -/

theorem hexDigits_eq_places (width n : Nat) :
    hexDigits width n = (places 16 width n).map hexDigit := by
  induction width generalizing n with
  | zero => rfl
  | succ width ih => simp [hexDigits, places, ih]

/-- A lower-case hexadecimal digit is read as its value, and no reader takes it for anything
but a digit. -/
structure IsHex (c : Char) (d : Nat) : Prop where
  value : hexValue? c = some d
  plain : ((decimalDigit? c).map digitChar).getD c = c
  blank : isNumberBlank c = false
  mark : c ∉ ['u', 'x', 'X', '_', '-', '+', '{', '}']

theorem isHex_hexDigit : ∀ d < 16, IsHex (hexDigit d) d := by
  have hvalue : ∀ d < 16, hexValue? (hexDigit d) = some d := by decide
  have hplain : ∀ d < 16,
      ((decimalDigit? (hexDigit d)).map digitChar).getD (hexDigit d) = hexDigit d := by
    decide +kernel
  have hblank : ∀ d < 16, isNumberBlank (hexDigit d) = false := by decide
  have hmark : ∀ d < 16, hexDigit d ∉ ['u', 'x', 'X', '_', '-', '+', '{', '}'] := by decide
  exact fun d hd => ⟨hvalue d hd, hplain d hd, hblank d hd, hmark d hd⟩

theorem isHex_of_mem_digits {u : Uuid} {c : Char} (h : c ∈ u.digits) : ∃ d, IsHex c d := by
  rw [digits, hexDigits_eq_places] at h
  obtain ⟨d, hd, rfl⟩ := List.mem_map.1 h
  exact ⟨d, isHex_hexDigit d (lt_of_mem_places (by decide) _ _ d hd)⟩

/-- After a digit, digits are read to the end. -/
theorem readHexDigits?_map {ds : List Nat} (h : ∀ d ∈ ds, d < 16) (value : Nat) :
    readHexDigits? true value (ds.map hexDigit) =
      some (ds.foldl (fun n d => n * 16 + d) value) := by
  induction ds generalizing value with
  | nil => rfl
  | cons d ds ih =>
    have hd := isHex_hexDigit d (h d List.mem_cons_self)
    have hunderscore : hexDigit d ≠ '_' := fun heq => hd.mark (by simp [heq])
    have htail := ih (fun x hx => h x (List.mem_cons_of_mem d hx)) (value * 16 + d)
    simp only [List.map_cons, List.foldl_cons, readHexDigits?, hd.value]
    exact htail

theorem readHexDigits?_digits (u : Uuid) :
    readHexDigits? false 0 u.digits = some u.bits.toNat := by
  have hlt := lt_of_mem_places (by decide : 0 < 16) 32 u.bits.toNat
  have hbits : u.bits.toNat < 16 ^ 32 := u.bits.isLt
  have hvalue := ofDigits_places_of_lt hbits
  have hlength := length_places 16 32 u.bits.toNat
  rw [digits, hexDigits_eq_places]
  generalize places 16 32 u.bits.toNat = ds at hlt hvalue hlength
  cases ds with
  | nil => cases hlength
  | cons d ds =>
    have hd := isHex_hexDigit d (hlt d List.mem_cons_self)
    have hunderscore : hexDigit d ≠ '_' := fun heq => hd.mark (by simp [heq])
    rw [← hvalue, List.map_cons]
    simp only [readHexDigits?, hd.value]
    exact readHexDigits?_map (fun x hx => hlt x (List.mem_cons_of_mem d hx)) _

/-! ## The text -/

/-- A word is not found where its first character does not occur. -/
theorem dropWord_eq_self {first : Char} {word cs : List Char} (h : first ∉ cs) :
    dropWord (first :: word) 0 cs = cs := by
  induction cs with
  | nil => rfl
  | cons c cs ih =>
    obtain ⟨hne, htail⟩ := not_or.1 (mt List.mem_cons.2 h)
    have hfirst : (first == c) = false := beq_eq_false_iff_ne.2 hne
    simp only [dropWord, List.isPrefixOf, hfirst, Bool.false_and, Bool.false_eq_true, if_false,
      ih htail]

/-- A written identifier has digits and hyphens only. -/
theorem mem_chars {u : Uuid} {c : Char} (h : c ∈ u.chars) : c ∈ u.digits ∨ c = '-' := by
  simp only [chars, List.mem_append, List.mem_cons] at h
  rcases h with h | h | h | h | h | h | h | h | h
  · exact .inl (List.mem_of_mem_take h)
  · exact .inr h
  · exact .inl (List.mem_of_mem_drop (List.mem_of_mem_take h))
  · exact .inr h
  · exact .inl (List.mem_of_mem_drop (List.mem_of_mem_take h))
  · exact .inr h
  · exact .inl (List.mem_of_mem_drop (List.mem_of_mem_take h))
  · exact .inr h
  · exact .inl (List.mem_of_mem_drop h)

theorem ne_of_mem_chars {u : Uuid} {c : Char} (h : c ∈ u.chars) :
    c ≠ 'u' ∧ c ≠ '{' ∧ c ≠ '}' := by
  rcases mem_chars h with h | rfl
  · obtain ⟨d, hd⟩ := isHex_of_mem_digits h
    have hmark := hd.mark
    simp only [List.mem_cons, not_or] at hmark
    exact ⟨hmark.1, hmark.2.2.2.2.2.2.1, hmark.2.2.2.2.2.2.2.1⟩
  · decide

/-- Without the hyphens the groups are the digits. -/
theorem filter_chars (u : Uuid) : u.chars.filter (· != '-') = u.digits := by
  have hkeep : ∀ cs : List Char, (∀ c ∈ cs, c ∈ u.digits) → cs.filter (· != '-') = cs := by
    intro cs hcs
    refine List.filter_eq_self.2 fun c hc => ?_
    obtain ⟨d, hd⟩ := isHex_of_mem_digits (hcs c hc)
    have hne : c ≠ '-' := by
      rintro rfl
      exact hd.mark (by decide)
    simp [hne]
  have hgroup : ∀ i n, ((u.digits.drop i).take n).filter (· != '-') = (u.digits.drop i).take n :=
    fun i n => hkeep _ fun _ hc => List.mem_of_mem_drop (List.mem_of_mem_take hc)
  have hjoin : ∀ i n, (u.digits.drop i).take n ++ u.digits.drop (i + n) = u.digits.drop i := by
    intro i n
    rw [← List.drop_drop, List.take_append_drop]
  have hlast : (u.digits.drop 20).filter (· != '-') = u.digits.drop 20 :=
    hkeep _ fun _ hc => List.mem_of_mem_drop hc
  have hhyphen : ∀ cs : List Char, ('-' :: cs).filter (· != '-') = cs.filter (· != '-') :=
    fun cs => List.filter_cons_of_neg (by decide)
  have hfirst := hgroup 0 8
  rw [List.drop_zero] at hfirst
  simp only [chars, List.filter_append, hhyphen, hfirst, hgroup, hlast]
  rw [hjoin 16 4, hjoin 12 4, hjoin 8 4, List.take_append_drop]

theorem undress_chars (u : Uuid) : undress u.chars = u.digits := by
  have hu : 'u' ∉ u.chars := fun h => (ne_of_mem_chars h).1 rfl
  have hbraces : ∀ c ∈ u.chars, (c == '{' || c == '}') = false := by
    intro c hc
    obtain ⟨-, hopen, hclose⟩ := ne_of_mem_chars hc
    simp [hopen, hclose]
  have hurn : dropWord "urn:".toList 0 u.chars = u.chars := dropWord_eq_self hu
  have huuid : dropWord "uuid:".toList 0 u.chars = u.chars := dropWord_eq_self hu
  simp only [undress, hurn, huuid, trimWhere_eq_self hbraces, filter_chars]

theorem readHex?_digits (u : Uuid) : readHex? u.digits = some u.bits.toNat := by
  have hhex : ∀ c ∈ u.digits, ∃ d, IsHex c d := fun _ => isHex_of_mem_digits
  have htrim : trimWhere isNumberBlank u.digits = u.digits :=
    trimWhere_eq_self fun c hc => (hhex c hc).elim fun _ h => h.blank
  have hplain : u.digits.map (fun c => ((decimalDigit? c).map digitChar).getD c) = u.digits :=
    (List.map_congr_left fun c hc => (hhex c hc).elim fun _ h => h.plain).trans (List.map_id _)
  have hread := readHexDigits?_digits u
  simp only [readHex?, htrim, hplain]
  generalize u.digits = cs at hhex hread
  have hmark : ∀ c ∈ cs, c ≠ '-' ∧ c ≠ '+' ∧ c ≠ 'x' ∧ c ≠ 'X' := by
    intro c hc
    obtain ⟨d, hd⟩ := hhex c hc
    have hnot := hd.mark
    simp only [List.mem_cons, not_or] at hnot
    exact ⟨hnot.2.2.2.2.1, hnot.2.2.2.2.2.1, hnot.2.1, hnot.2.2.1⟩
  cases cs with
  | nil => cases hread
  | cons c cs =>
    obtain ⟨hminus, hplus, -⟩ := hmark c List.mem_cons_self
    simp only [List.cons.injEq, hminus, hplus, false_and, imp_self, implies_true,
      Bool.or_eq_true, beq_iff_eq, Bool.false_and, Bool.false_eq_true, if_false,
      Option.bind_fun_some]
    split
    · next x rest heq =>
      obtain ⟨-, -, hx, hX⟩ := hmark x (by simp [heq])
      rw [if_neg (not_or.2 ⟨hx, hX⟩), hread]
    · next x rest _ heq =>
      obtain ⟨-, -, hx, hX⟩ := hmark x (by simp [heq])
      rw [if_neg (not_or.2 ⟨hx, hX⟩), hread]
    · exact hread

/-- An identifier is read back from its text. -/
theorem ofText?_toText (u : Uuid) : ofText? u.toText = some u := by
  have hlength : u.digits.length = 32 := length_hexDigits _ _
  simp only [ofText?, toText, String.toList_ofList, ofChars?, undress_chars, hlength,
    beq_self_eq_true, if_true, readHex?_digits, Option.map_some, BitVec.ofNat_toNat,
    BitVec.setWidth_eq]

/-! ## The bytes -/

theorem bytesOf_eq_places (count n : Nat) :
    bytesOf count n = (places 256 count n).map UInt8.ofNat := by
  induction count generalizing n with
  | zero => rfl
  | succ count ih =>
    have hbyte : UInt8.ofNat (n % 256) = UInt8.ofNat n := by
      apply UInt8.toNat_inj.1
      simp
    simp [bytesOf, places, ih, hbyte]

theorem length_bytes (u : Uuid) : u.bytes.length = 16 := by
  rw [bytes, bytesOf_eq_places, List.length_map, length_places]

/-- An identifier is read back from its bytes. -/
theorem ofBytes_bytes (u : Uuid) : ofBytes u.bytes = u := by
  have hlt := lt_of_mem_places (by decide : 0 < 256) 16 u.bits.toNat
  have hbits : u.bits.toNat < 256 ^ 16 := u.bits.isLt
  have hfold : ∀ (ds : List Nat), (∀ d ∈ ds, d < 256) → ∀ v,
      (ds.map UInt8.ofNat).foldl (fun n b => n * 256 + b.toNat) v =
        ds.foldl (fun n d => n * 256 + d) v := by
    intro ds
    induction ds with
    | nil => intro _ v; rfl
    | cons d ds ih =>
      intro h v
      have hd : (UInt8.ofNat d).toNat = d := by
        rw [UInt8.toNat_ofNat', Nat.mod_eq_of_lt (h d List.mem_cons_self)]
      rw [List.map_cons, List.foldl_cons, List.foldl_cons, hd]
      exact ih (fun x hx => h x (List.mem_cons_of_mem d hx)) _
  have hvalue := ofDigits_places_of_lt hbits
  rw [ofDigits] at hvalue
  rw [ofBytes, bytes, bytesOf_eq_places, hfold _ hlt, hvalue]
  simp

/-- Sixteen bytes are the bytes of the identifier read from them. -/
theorem bytes_ofBytes {bs : List UInt8} (h : bs.length = 16) : (ofBytes bs).bytes = bs := by
  have hlt : ∀ d ∈ bs.map UInt8.toNat, d < 256 := by
    intro d hd
    obtain ⟨b, -, rfl⟩ := List.mem_map.1 hd
    exact b.toNat_lt
  have hlength : (bs.map UInt8.toNat).length = 16 := by rw [List.length_map, h]
  have hplaces := places_ofDigits hlt
  rw [hlength] at hplaces
  have hbits : (ofBytes bs).bits.toNat = ofDigits 256 (bs.map UInt8.toNat) % 256 ^ 16 := by
    rw [ofBytes, BitVec.toNat_ofNat, ofDigits, List.foldl_map]
    rfl
  have hbound := ofDigits_places 256 16 (ofDigits 256 (bs.map UInt8.toNat))
  rw [hplaces] at hbound
  rw [bytes, bytesOf_eq_places, hbits, ← hbound, hplaces, List.map_map]
  exact (List.map_congr_left fun b _ => UInt8.ofNat_toNat).trans (List.map_id bs)

end SqlGateway.Uuid
