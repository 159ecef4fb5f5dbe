import SqlGateway.Proofs.Text.Utf8
import SqlGateway.Url.Percent
set_option autoImplicit false

/-!
# URLs: percent code is read back

A text in code consists of characters that mean nothing else in a URL, and reading it gives
the text back, whatever it holds.  Reading a text that was never put in code does not make it
longer, and leaves it alone exactly when no escape stands in it.
-/

namespace SqlGateway.Url

/-! ## A text in code -/

/-- What a text in code consists of. -/
def isCode (c : Char) : Bool := isUnreserved c || c == '%'

theorem isUnreserved_iff (c : Char) : isUnreserved c = true ↔
    (97 ≤ c.toNat ∧ c.toNat ≤ 122) ∨ (65 ≤ c.toNat ∧ c.toNat ≤ 90) ∨
      (48 ≤ c.toNat ∧ c.toNat ≤ 57) ∨ c.toNat = 95 ∨ c.toNat = 46 ∨ c.toNat = 45 ∨
        c.toNat = 126 := by
  have heq : ∀ d : Char, c = d ↔ c.toNat = d.toNat := fun d => Char.toNat_inj.symm
  have hle : ∀ d e : Char, d ≤ e ↔ d.toNat ≤ e.toNat := fun d e => UInt32.le_iff_toNat_le
  simp only [isUnreserved, Bool.or_eq_true, Bool.and_eq_true, decide_eq_true_eq, beq_iff_eq,
    hle, heq, or_assoc]
  exact Iff.rfl

theorem isCode_iff (c : Char) : isCode c = true ↔ isUnreserved c = true ∨ c.toNat = 37 := by
  rw [isCode, Bool.or_eq_true, beq_iff_eq, ← Char.toNat_inj]
  exact Iff.rfl

theorem isAscii_of_isCode {c : Char} (h : isCode c = true) : isAscii c = true := by
  rw [isCode_iff, isUnreserved_iff] at h
  rw [isAscii, decide_eq_true_eq]
  omega

theorem ne_of_isCode {c d : Char} (hc : isCode c = true) (hd : isCode d = false) : c ≠ d := by
  rintro rfl
  rw [hc] at hd
  cases hd

/-- An upper-case digit is unreserved and has the value of the lower-case one. -/
theorem upperDigit (d : Nat) (h : d < 16) : isCode (Text.hexDigit d).toUpper = true ∧
    Text.hexValue? (Text.hexDigit d).toUpper = some d := by
  revert d
  decide

/-- A byte that is not unreserved is written as two digits. -/
theorem encodeByte_escape {b : UInt8} (h : isUnreserved (Char.ofNat b.toNat) = false) :
    encodeByte b = ['%', (Text.hexDigit (b.toNat / 16 % 16)).toUpper,
      (Text.hexDigit (b.toNat % 16)).toUpper] := by
  simp [encodeByte, h, Text.hexDigits]

theorem isCode_of_mem_encodeByte {b : UInt8} {c : Char} (h : c ∈ encodeByte b) :
    isCode c = true := by
  cases hb : isUnreserved (Char.ofNat b.toNat) with
  | true =>
    rw [encodeByte, if_pos hb, List.mem_singleton] at h
    rw [h, isCode, hb, Bool.true_or]
  | false =>
    rw [encodeByte_escape hb] at h
    simp only [List.mem_cons, List.not_mem_nil, or_false] at h
    rcases h with rfl | rfl | rfl
    · rfl
    · exact (upperDigit _ (Nat.mod_lt _ (by decide))).1
    · exact (upperDigit _ (Nat.mod_lt _ (by decide))).1

theorem isCode_of_mem_encode {s : String} {c : Char} (h : c ∈ (encode s).toList) :
    isCode c = true := by
  rw [encode, String.toList_ofList, List.mem_flatMap] at h
  obtain ⟨b, -, hb⟩ := h
  exact isCode_of_mem_encodeByte hb

/-! ## Reading -/

theorem decodeBytes_of_ne {c : Char} (h : c ≠ '%') (cs : List Char) :
    decodeBytes (c :: cs) = .ofNat c.toNat :: decodeBytes cs := by
  rw [decodeBytes]
  rintro a b rest rfl
  exact absurd rfl h

/-- A byte in code is read as that byte. -/
theorem decodeBytes_encodeByte (b : UInt8) (cs : List Char) :
    decodeBytes (encodeByte b ++ cs) = b :: decodeBytes cs := by
  have hb : b.toNat < 256 := b.toNat_lt
  cases hfree : isUnreserved (Char.ofNat b.toNat) with
  | true =>
    have hcode : (Char.ofNat b.toNat).toNat = b.toNat := by
      rw [Char.ofNat, dif_pos (.inl (by omega))]
      rfl
    have hne : Char.ofNat b.toNat ≠ '%' := by
      rintro h
      rw [h] at hfree
      cases hfree
    rw [encodeByte, if_pos hfree, List.singleton_append, decodeBytes_of_ne hne, hcode,
      UInt8.ofNat_toNat]
  | false =>
    rw [encodeByte_escape hfree]
    simp only [List.cons_append, List.nil_append, decodeBytes,
      (upperDigit _ (Nat.mod_lt _ (by decide : 0 < 16))).2]
    rw [Nat.mod_eq_of_lt (by omega : b.toNat / 16 < 16), Nat.div_add_mod', UInt8.ofNat_toNat]

theorem decodeBytes_encode (s : String) : decodeBytes (encode s).toList = Text.utf8Bytes s := by
  rw [encode, String.toList_ofList]
  induction Text.utf8Bytes s with
  | nil => rfl
  | cons b bs ih => rw [List.flatMap_cons, decodeBytes_encodeByte, ih]

/-- Text of ASCII is one run. -/
theorem decodeFrom_ascii {cs : List Char} (h : ∀ c ∈ cs, isAscii c = true) (run : List Char) :
    decodeFrom run cs = Text.decodeLossy (decodeBytes (run.reverse ++ cs)) := by
  induction cs generalizing run with
  | nil => rw [decodeFrom, List.append_nil]
  | cons c cs ih =>
    rw [decodeFrom, if_pos (h c List.mem_cons_self), ih fun x hx => h x (List.mem_cons_of_mem c hx),
      List.reverse_cons, List.append_assoc, List.singleton_append]

theorem decode_nil : decode [] = "" := by
  rw [decode, decodeFrom, List.reverse_nil, decodeBytes, Text.decodeLossy, String.ofList_nil]

/-- What is put in code is read back. -/
theorem decode_encode (s : String) : decode (encode s).toList = s := by
  rw [decode, decodeFrom_ascii (fun c hc => isAscii_of_isCode (isCode_of_mem_encode hc)),
    List.reverse_nil, List.nil_append, decodeBytes_encode, Text.decodeLossy_utf8Bytes,
    String.ofList_toList]

/-- The code of a text that is not empty is not empty. -/
theorem encode_ne_nil {s : String} (h : s ≠ "") : (encode s).toList ≠ [] := by
  intro hnil
  have hback := decode_encode s
  rw [hnil, decode_nil] at hback
  exact h hback.symm

/-! ## Reading what was never written -/

/-- Do two digits come first? -/
def startsWithDigits : List Char → Bool
  | a :: b :: _ => (Text.hexValue? a).isSome && (Text.hexValue? b).isSome
  | _ => false

/-- Does an escape stand in a text? -/
def holdsEscape : List Char → Bool
  | [] => false
  | c :: rest => c == '%' && startsWithDigits rest || holdsEscape rest

theorem startsWithDigits_append {c : Char} (h : Text.hexValue? c = none) (cs rest : List Char) :
    startsWithDigits (cs ++ c :: rest) = startsWithDigits cs := by
  match cs with
  | [] => cases rest <;> simp [startsWithDigits, h]
  | [a] => simp [startsWithDigits, h]
  | a :: b :: more => rfl

/-- A character that belongs to no escape keeps what stands before it from what follows. -/
theorem holdsEscape_append {c : Char} (hne : c ≠ '%') (hdigit : Text.hexValue? c = none)
    (cs rest : List Char) :
    holdsEscape (cs ++ c :: rest) = (holdsEscape cs || holdsEscape rest) := by
  induction cs with
  | nil => simp [holdsEscape, hne]
  | cons x cs ih =>
    rw [List.cons_append, holdsEscape, holdsEscape, startsWithDigits_append hdigit, ih,
      Bool.or_assoc]

/-! ### The bytes of one run -/

/-- A character that begins no escape stands for itself. -/
theorem decodeBytes_cons {c : Char} {cs : List Char}
    (h : (c == '%' && startsWithDigits cs) = false) :
    decodeBytes (c :: cs) = .ofNat c.toNat :: decodeBytes cs := by
  by_cases hc : c = '%'
  · subst hc
    match cs with
    | [] => rfl
    | [a] => rfl
    | a :: b :: rest =>
      simp only [beq_self_eq_true, Bool.true_and, startsWithDigits] at h
      rw [decodeBytes]
      split
      · next hx hy =>
        rw [hx, hy] at h
        cases h
      · rfl
  · exact decodeBytes_of_ne hc cs

theorem length_decodeBytes_le (cs : List Char) : (decodeBytes cs).length ≤ cs.length := by
  fun_induction decodeBytes cs with
  | case1 => exact Nat.le_refl 0
  | case2 a b rest x hx y hy ih =>
    simp only [List.length_cons]
    omega
  | case3 a b rest h ih => exact Nat.succ_le_succ ih
  | case4 c rest h ih => exact Nat.succ_le_succ ih

theorem decodeBytes_ne_nil {cs : List Char} (h : cs ≠ []) : decodeBytes cs ≠ [] := by
  fun_cases decodeBytes cs with
  | case1 => exact absurd rfl h
  | case2 a b rest x hx y hy => exact List.cons_ne_nil _ _
  | case3 a b rest hdigits => exact List.cons_ne_nil _ _
  | case4 c rest hc => exact List.cons_ne_nil _ _

/-- An escape of three characters is one byte. -/
theorem decodeBytes_escape {cs : List Char} (h : startsWithDigits cs = true) :
    ∃ b a c rest, cs = a :: c :: rest ∧ decodeBytes ('%' :: cs) = b :: decodeBytes rest := by
  match cs with
  | a :: c :: rest =>
    rw [startsWithDigits, Bool.and_eq_true, Option.isSome_iff_exists, Option.isSome_iff_exists] at h
    obtain ⟨⟨x, hx⟩, y, hy⟩ := h
    refine ⟨.ofNat (x * 16 + y), a, c, rest, rfl, ?_⟩
    rw [decodeBytes, hx, hy]

theorem length_decodeBytes_lt {cs : List Char} (h : holdsEscape cs = true) :
    (decodeBytes cs).length < cs.length := by
  induction cs with
  | nil => cases h
  | cons c cs ih =>
    rw [holdsEscape, Bool.or_eq_true] at h
    cases hstarts : (c == '%' && startsWithDigits cs) with
    | true =>
      rw [Bool.and_eq_true, beq_iff_eq] at hstarts
      obtain ⟨rfl, hdigits⟩ := hstarts
      obtain ⟨b, x, y, rest, rfl, hbytes⟩ := decodeBytes_escape hdigits
      have hrest := length_decodeBytes_le rest
      rw [hbytes]
      simp only [List.length_cons]
      omega
    | false =>
      rw [hstarts] at h
      rw [decodeBytes_cons hstarts]
      exact Nat.succ_lt_succ (ih (h.resolve_left Bool.false_ne_true))

theorem decodeBytes_eq {cs : List Char} (h : holdsEscape cs = false) :
    decodeBytes cs = cs.map fun c => .ofNat c.toNat := by
  induction cs with
  | nil => rfl
  | cons c cs ih =>
    rw [holdsEscape, Bool.or_eq_false_iff] at h
    rw [decodeBytes_cons h.1, ih h.2, List.map_cons]

/-- ASCII without an escape stands for itself. -/
theorem decodeLossy_decodeBytes {cs : List Char} (hascii : ∀ c ∈ cs, isAscii c = true)
    (h : holdsEscape cs = false) : Text.decodeLossy (decodeBytes cs) = cs := by
  have hbyte : ∀ c ∈ cs, (UInt8.ofNat c.toNat).toNat = c.toNat ∧ c.toNat < 128 := by
    intro c hc
    have hsmall := hascii c hc
    rw [isAscii, decide_eq_true_eq] at hsmall
    rw [UInt8.toNat_ofNat']
    omega
  have hsmall : ∀ b ∈ cs.map fun c => UInt8.ofNat c.toNat, b.toNat < 128 := by
    intro b hb
    obtain ⟨c, hc, rfl⟩ := List.mem_map.1 hb
    rw [(hbyte c hc).1]
    exact (hbyte c hc).2
  rw [decodeBytes_eq h, Text.decodeLossy_ascii hsmall, List.map_map]
  refine (List.map_congr_left fun c hc => ?_).trans (List.map_id cs)
  rw [Function.comp_apply, (hbyte c hc).1, Char.ofNat_toNat, id]

/-! ### The whole text -/

/-- A character that is not ASCII belongs to no escape. -/
theorem hexValue?_of_not_isAscii {c : Char} (h : isAscii c = false) :
    c ≠ '%' ∧ Text.hexValue? c = none := by
  rw [isAscii, decide_eq_false_iff_not] at h
  refine ⟨?_, ?_⟩
  · rintro rfl
    exact h (by decide)
  · simp only [Text.hexValue?]
    rw [if_neg (by omega), if_neg (by omega), if_neg (by omega)]

theorem length_decodeFrom_le (run cs : List Char) :
    (decodeFrom run cs).length ≤ run.length + cs.length := by
  have hrun : ∀ run : List Char,
      (Text.decodeLossy (decodeBytes run.reverse)).length ≤ run.length := by
    intro run
    have hbytes := length_decodeBytes_le run.reverse
    rw [List.length_reverse] at hbytes
    exact Nat.le_trans (Text.length_decodeLossy_le _) hbytes
  induction cs generalizing run with
  | nil => exact hrun run
  | cons c cs ih =>
    rw [decodeFrom]
    split
    · have hlonger := ih (c :: run)
      simp only [List.length_cons] at hlonger ⊢
      omega
    · have htail := ih []
      have hhead := hrun run
      simp only [List.length_append, List.length_cons, List.length_nil] at htail ⊢
      omega

theorem length_decodeFrom_lt (run cs : List Char) (h : holdsEscape (run.reverse ++ cs) = true) :
    (decodeFrom run cs).length < run.length + cs.length := by
  have hrun : ∀ run : List Char, holdsEscape run.reverse = true →
      (Text.decodeLossy (decodeBytes run.reverse)).length < run.length := by
    intro run hescape
    have hbytes := length_decodeBytes_lt hescape
    rw [List.length_reverse] at hbytes
    exact Nat.lt_of_le_of_lt (Text.length_decodeLossy_le _) hbytes
  induction cs generalizing run with
  | nil =>
    rw [List.append_nil] at h
    exact hrun run h
  | cons c cs ih =>
    rw [decodeFrom]
    -- The run goes on, or it ends at a character that belongs to no escape.
    split
    · have hlonger := ih (c :: run) (by simpa using h)
      simp only [List.length_cons] at hlonger ⊢
      omega
    · next hascii =>
      obtain ⟨hne, hdigit⟩ := hexValue?_of_not_isAscii (Bool.eq_false_iff.2 hascii)
      rw [holdsEscape_append hne hdigit, Bool.or_eq_true] at h
      have hle := length_decodeFrom_le [] cs
      have hlerun := length_decodeFrom_le run []
      simp only [decodeFrom, List.length_append, List.length_cons, List.length_nil] at hle hlerun ⊢
      rcases h with h | h
      · have hlt := hrun run h
        omega
      · have hlt := ih [] h
        simp only [List.length_nil] at hlt
        omega

theorem decodeFrom_eq (run cs : List Char) (hascii : ∀ c ∈ run, isAscii c = true)
    (h : holdsEscape (run.reverse ++ cs) = false) : decodeFrom run cs = run.reverse ++ cs := by
  induction cs generalizing run with
  | nil =>
    rw [List.append_nil] at h ⊢
    exact decodeLossy_decodeBytes (fun c hc => hascii c (List.mem_reverse.1 hc)) h
  | cons c cs ih =>
    rw [decodeFrom]
    split
    · next hc =>
      have hrun : ∀ x ∈ c :: run, isAscii x = true := List.forall_mem_cons.2 ⟨hc, hascii⟩
      rw [ih (c :: run) hrun (by simpa using h)]
      simp
    · next hc =>
      obtain ⟨hne, hdigit⟩ := hexValue?_of_not_isAscii (Bool.eq_false_iff.2 hc)
      rw [holdsEscape_append hne hdigit, Bool.or_eq_false_iff] at h
      rw [ih [] nofun h.2,
        decodeLossy_decodeBytes (fun x hx => hascii x (List.mem_reverse.1 hx)) h.1]
      rfl

/-- Reading does not make a text longer. -/
theorem length_decode_le (cs : List Char) : (decode cs).toList.length ≤ cs.length := by
  have hle := length_decodeFrom_le [] cs
  rw [List.length_nil, Nat.zero_add] at hle
  rwa [decode, String.toList_ofList]

/-- Reading leaves exactly those texts as they are in which no escape stands. -/
theorem decode_eq_self_iff (cs : List Char) :
    (decode cs).toList = cs ↔ holdsEscape cs = false := by
  rw [decode, String.toList_ofList]
  constructor
  · intro h
    refine Bool.eq_false_iff.2 fun hescape => ?_
    have hlt := length_decodeFrom_lt [] cs hescape
    rw [h, List.length_nil, Nat.zero_add] at hlt
    exact Nat.lt_irrefl _ hlt
  · intro h
    exact decodeFrom_eq [] cs nofun h

theorem decodeFrom_ne_nil (run cs : List Char) (h : run.reverse ++ cs ≠ []) :
    decodeFrom run cs ≠ [] := by
  have hrun : ∀ run : List Char, run.reverse ≠ [] →
      Text.decodeLossy (decodeBytes run.reverse) ≠ [] :=
    fun run hne => Text.decodeLossy_ne_nil (decodeBytes_ne_nil hne)
  induction cs generalizing run with
  | nil =>
    rw [List.append_nil] at h
    exact hrun run h
  | cons c cs ih =>
    rw [decodeFrom]
    split
    · exact ih (c :: run) (by simp)
    · exact List.append_ne_nil_of_right_ne_nil _ (List.cons_ne_nil _ _)

/-- Reading leaves something of whatever is there. -/
theorem decode_ne_empty {cs : List Char} (h : cs ≠ []) : decode cs ≠ "" := by
  intro hempty
  have hnil := congrArg String.toList hempty
  rw [decode, String.toList_ofList] at hnil
  exact decodeFrom_ne_nil [] cs h hnil

end SqlGateway.Url
