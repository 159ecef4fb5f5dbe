import SqlGateway.Proofs.Text.Places
import SqlGateway.Time.Iso8601
set_option autoImplicit false

/-!
# Time: the text of a time

A time is read back from its ISO 8601 text with the same date, the same clock down to the
microsecond and the same offset, with one exception: an offset of less than a second either
way is written in full, but reading takes an offset without hours, minutes and seconds for
universal time.  `asRead` is what is left of a time then; for every other time it is the
time itself.
-/

namespace SqlGateway.Time

open Text

/-- The offset that the text of an offset is read as. -/
def Offset.asRead (o : Offset) : Offset := if o.micros.natAbs < 1000000 then Offset.utc else o

/-- The time that the text of a time is read as. -/
def DateTime.asRead (t : DateTime) : DateTime := { t with offset := t.offset.map Offset.asRead }

/-- Only an offset between nothing and a second is lost. -/
theorem Offset.asRead_eq_self_iff (o : Offset) :
    o.asRead = o ↔ o.micros = 0 ∨ 1000000 ≤ o.micros.natAbs := by
  unfold asRead
  split
  · next h =>
    constructor
    · intro hutc
      exact .inl (congrArg Offset.micros hutc).symm
    · rintro (hzero | hlarge)
      · obtain ⟨micros, valid⟩ := o
        obtain rfl : micros = 0 := hzero
        rfl
      · omega
  · next h => exact ⟨fun _ => .inr (by omega), fun _ => rfl⟩

theorem DateTime.asRead_eq_self_iff (t : DateTime) :
    t.asRead = t ↔ ∀ o, t.offset = some o → o.micros = 0 ∨ 1000000 ≤ o.micros.natAbs := by
  obtain ⟨date, clock, offset⟩ := t
  cases offset with
  | none => simp [asRead]
  | some o => simp [asRead, Offset.asRead_eq_self_iff]

/-! ## Numbers of a fixed width -/

theorem asciiDigit?_digitChar : ∀ d < 10, asciiDigit? (digitChar d) = some d := by decide

theorem digitChar_isDigit : ∀ d < 10, (digitChar d).isDigit = true := by decide

theorem padded_eq_places (width n : Nat) : padded width n = (places 10 width n).map digitChar := by
  induction width generalizing n with
  | zero => rfl
  | succ width ih => simp [padded, places, ih]

theorem length_padded (width n : Nat) : (padded width n).length = width := by
  rw [padded_eq_places, List.length_map, length_places]

theorem isDigit_of_mem_padded {width n : Nat} {c : Char} (h : c ∈ padded width n) :
    c.isDigit = true := by
  rw [padded_eq_places] at h
  obtain ⟨d, hd, rfl⟩ := List.mem_map.1 h
  exact digitChar_isDigit d (lt_of_mem_places (by decide) _ _ d hd)

theorem takeDigits?_map {ds : List Nat} (h : ∀ d ∈ ds, d < 10) (rest : List Char) :
    takeDigits? ds.length (ds.map digitChar ++ rest) = some (ds, rest) := by
  induction ds with
  | nil => rfl
  | cons d ds ih =>
    have htail := ih fun x hx => h x (List.mem_cons_of_mem d hx)
    simp only [List.map_cons, List.cons_append, List.length_cons, takeDigits?,
      asciiDigit?_digitChar d (h d List.mem_cons_self), htail, Option.map_some]

/-- A number is read back from its places, and the rest is left. -/
theorem takeNumber?_padded {width n : Nat} (h : n < 10 ^ width) (rest : List Char) :
    takeNumber? width (padded width n ++ rest) = some (n, rest) := by
  have hdigits := takeDigits?_map (lt_of_mem_places (by decide : 0 < 10) width n) rest
  rw [length_places, ← padded_eq_places] at hdigits
  rw [takeNumber?, hdigits, Option.map_some, ofDigits_places_of_lt h]

theorem takeNumber?_padded_end {width n : Nat} (h : n < 10 ^ width) :
    takeNumber? width (padded width n) = some (n, []) := by
  simpa using takeNumber?_padded h []

/-! ## Dates -/

theorem daysInMonth_le (year month : Nat) : daysInMonth year month ≤ 31 := by
  unfold daysInMonth
  repeat' split
  all_goals omega

theorem head_padded_ne {width n : Nat} {rest : List Char} (x : Char) (hx : x.isDigit = false) :
    ((padded (width + 1) n ++ rest).head? == some x) = false := by
  obtain ⟨c, cs, hcs⟩ := List.exists_cons_of_length_eq_add_one (length_padded (width + 1) n)
  have hc : c.isDigit = true :=
    @isDigit_of_mem_padded (width + 1) n c (hcs ▸ List.mem_cons_self)
  rw [hcs, List.cons_append, List.head?_cons, Option.some_beq_some, beq_eq_false_iff_ne]
  rintro rfl
  rw [hc] at hx
  cases hx

theorem readDate?_chars (d : Date) (rest : List Char) (len : Nat) :
    readDate? (d.chars ++ rest) len = some d := by
  obtain ⟨year, month, day, valid⟩ := d
  have hvalid := valid
  obtain ⟨-, hyear, -, hmonth, -, hday⟩ := hvalid
  have hdays := daysInMonth_le year month
  have hnoWeek := @head_padded_ne 1 month
    ('-' :: (padded 2 day ++ rest)) 'W' (by decide)
  simp only [readDate?, Date.chars, List.append_assoc, List.cons_append, Option.bind_eq_bind]
  rw [takeNumber?_padded (by omega), Option.bind_some]
  simp only [List.head?_cons, beq_self_eq_true, if_true, List.drop_one, List.tail_cons, hnoWeek,
    Bool.false_eq_true, if_false]
  rw [takeNumber?_padded (by omega), Option.bind_some]
  simp only [takeHyphen?, if_true, Option.bind_some]
  rw [takeNumber?_padded (by omega), Option.bind_some]
  simp only [Date.mk?, dif_pos valid]

/-- A date in calendar form is ten characters long, and the text shows it. -/
theorem length_dateChars (d : Date) : d.chars.length = 10 := by
  simp [Date.chars, length_padded]

theorem dateLength?_chars (d : Date) (rest : List Char) :
    dateLength? (d.chars ++ rest) = some 10 := by
  have hlength := length_dateChars d
  have hmark : (d.chars ++ rest)[4]? = some '-' := by
    simp [Date.chars, padded]
  have hnoWeek : ((d.chars ++ rest)[5]? == some 'W') = false := by
    have hdigit := digitChar_isDigit (d.month / 10 % 10) (Nat.mod_lt _ (by decide))
    rw [beq_eq_false_iff_ne]
    simp only [Date.chars, padded]
    intro h
    have : digitChar (d.month / 10 % 10) = 'W' := by simpa using h
    rw [this] at hdigit
    revert hdigit
    decide
  have hshort : ¬ (d.chars ++ rest).length < 7 := by
    rw [List.length_append]
    omega
  have hseven : ((d.chars ++ rest).length == 7) = false := by
    rw [List.length_append, beq_eq_false_iff_ne]
    omega
  simp only [dateLength?, if_neg hshort, hseven, hmark, hnoWeek, beq_self_eq_true, if_true,
    Bool.false_eq_true, if_false]

/-! ## Clocks -/

theorem readFraction?_padded {micro : Nat} (h : micro < 1000000) :
    readFraction? (padded 6 micro) = some (micro, true) := by
  have hwidth : min (padded 6 micro).length 6 = 6 := by rw [length_padded]; rfl
  rw [readFraction?, hwidth, takeNumber?_padded_end (by omega)]
  simp [Number.tenTo]

/-- Two digits and a colon: the next pair follows. -/
theorem readPairs?_colon {colons : Bool} {todo v : Nat} (c : ClockDigits) {rest : List Char}
    (hv : v < 100) (hcolons : todo = 2 ∨ colons = true) (hrest : rest ≠ []) :
    readPairs? colons (todo + 1) c (padded 2 v ++ ':' :: rest) =
      readPairs? true todo (c.setAt (2 - todo) v) rest := by
  obtain ⟨x, xs, rfl⟩ := List.exists_cons_of_ne_nil hrest
  rw [readPairs?, takeNumber?_padded (by omega)]
  rcases hcolons with rfl | rfl <;> simp

/-- Two digits at the end. -/
theorem readPairs?_end (colons : Bool) {todo v : Nat} (c : ClockDigits) (hv : v < 100) :
    readPairs? colons (todo + 1) c (padded 2 v) = some (c.setAt (2 - todo) v) := by
  rw [readPairs?, takeNumber?_padded_end (by omega)]

/-- Two digits and a fraction at the end. -/
theorem readPairs?_fraction (colons : Bool) {todo v micro : Nat} (c : ClockDigits) (hv : v < 100)
    (hmicro : micro < 1000000) :
    readPairs? colons (todo + 1) c (padded 2 v ++ '.' :: padded 6 micro) =
      some { c.setAt (2 - todo) v with micro, exact := true } := by
  obtain ⟨x, xs, hxs⟩ := List.exists_cons_of_length_eq_add_one (length_padded 6 micro)
  have hfraction := readFraction?_padded hmicro
  rw [hxs] at hfraction ⊢
  rw [readPairs?, takeNumber?_padded (by omega)]
  simp [ClockDigits.withFraction?, hfraction]

/-- Hours, minutes, seconds and a fraction are read back. -/
theorem readPairs?_clock {hour minute second micro : Nat} (h : IsTime hour minute second micro) :
    readPairs? true 3 {} (padded 2 hour ++ ':' :: (padded 2 minute ++ ':' ::
      (padded 2 second ++ fractionChars micro))) = some { hour, minute, second, micro } := by
  obtain ⟨hhour, hminute, hsecond, hmicro⟩ := h
  rw [readPairs?_colon _ (by omega) (.inl rfl) (by simp [padded]),
    readPairs?_colon _ (by omega) (.inr rfl) (by simp [padded])]
  unfold fractionChars
  split
  · next hzero =>
    rw [List.append_nil, readPairs?_end true _ (by omega), hzero]
    rfl
  · rw [readPairs?_fraction true _ (by omega) hmicro]
    rfl

theorem readPairs?_minutes {hour minute : Nat} (hhour : hour < 24) (hminute : minute < 60) :
    readPairs? true 3 {} (padded 2 hour ++ ':' :: padded 2 minute) =
      some { hour, minute } := by
  rw [readPairs?_colon _ (by omega) (.inl rfl) (by simp [padded]),
    readPairs?_end true _ (by omega)]
  rfl

/-! ## Offsets -/

/-- The numbers of an offset, as they are written. -/
theorem readPairs?_offset (o : Offset) :
    readPairs? true 3 {} (o.chars.drop 1) = some
      { hour := o.micros.natAbs / 1000000 / 3600
        minute := o.micros.natAbs / 1000000 / 60 % 60
        second := o.micros.natAbs / 1000000 % 60
        micro := o.micros.natAbs % 1000000 } := by
  have hvalid := o.valid
  unfold microsPerDay at hvalid
  simp only [Offset.chars, List.drop_one, List.tail_cons]
  split
  · next h =>
    rw [List.append_nil, readPairs?_minutes (by omega) (by omega), h.1, h.2]
  · exact readPairs?_clock ⟨by omega, by omega, by omega, by omega⟩

theorem offsetOf?_digits (o : Offset) :
    offsetOf? (decide (o.micros < 0))
      { hour := o.micros.natAbs / 1000000 / 3600
        minute := o.micros.natAbs / 1000000 / 60 % 60
        second := o.micros.natAbs / 1000000 % 60
        micro := o.micros.natAbs % 1000000 } = some o.asRead := by
  have hseconds : o.micros.natAbs / 1000000 / 3600 * 3600 +
      o.micros.natAbs / 1000000 / 60 % 60 * 60 + o.micros.natAbs / 1000000 % 60 =
      o.micros.natAbs / 1000000 := by omega
  have htotal : o.micros.natAbs / 1000000 * 1000000 + o.micros.natAbs % 1000000 =
      o.micros.natAbs := Nat.div_add_mod' _ _
  have hsigned : (if decide (o.micros < 0) then -(o.micros.natAbs : Int)
      else (o.micros.natAbs : Int)) = o.micros := by
    by_cases h : o.micros < 0 <;> simp only [h, decide_true, decide_false, if_true,
      Bool.false_eq_true, if_false] <;> omega
  simp only [offsetOf?, hseconds, htotal, hsigned, Offset.asRead, beq_iff_eq]
  by_cases hsmall : o.micros.natAbs < 1000000
  · rw [if_pos hsmall, if_pos (by omega)]
  · rw [if_neg hsmall, if_neg (by omega), Offset.mk?, dif_pos o.valid]

/-! ## Clock and offset -/

/-- A character that begins an offset. -/
def isMark (c : Char) : Bool := c == '+' || c == '-' || c == 'Z'

theorem isMark_of_isDigit {c : Char} (h : c.isDigit = true) : isMark c = false := by
  simp only [isMark, Bool.or_eq_false_iff, beq_eq_false_iff_ne]
  refine ⟨⟨?_, ?_⟩, ?_⟩ <;> (rintro rfl; revert h; decide)

theorem isMark_padded (width n : Nat) : ∀ c ∈ padded width n, isMark c = false :=
  fun _ hc => isMark_of_isDigit (isDigit_of_mem_padded hc)

theorem isMark_clockChars (c : Clock) : ∀ x ∈ c.chars, isMark x = false := by
  have hfraction : ∀ x ∈ fractionChars c.micro, isMark x = false := by
    unfold fractionChars
    split
    · nofun
    · intro x hx
      rcases List.mem_cons.1 hx with rfl | hx
      · decide
      · exact isMark_padded _ _ x hx
  intro x hx
  simp only [Clock.chars, List.mem_append, List.mem_cons] at hx
  rcases hx with hx | rfl | hx | rfl | hx | hx
  · exact isMark_padded _ _ x hx
  · decide
  · exact isMark_padded _ _ x hx
  · decide
  · exact isMark_padded _ _ x hx
  · exact hfraction x hx

/-- What stands before the first mark, and what stands from there on. -/
theorem split_at_mark {front rest : List Char} (hfront : ∀ c ∈ front, isMark c = false)
    (hrest : ∀ c ∈ rest.head?, isMark c = true) :
    (front ++ rest).takeWhile (fun c => !isMark c) = front ∧
      (front ++ rest).dropWhile (fun c => !isMark c) = rest := by
  have hall : ∀ c ∈ front, (!isMark c) = true := fun c hc => by simp [hfront c hc]
  rw [List.takeWhile_append_of_pos hall, List.dropWhile_append_of_pos hall]
  cases rest with
  | nil => simp
  | cons c rest => simp [hrest c rfl]

theorem readClock?_chars (clock : Clock) (offset : Option Offset) :
    readClock? (clock.chars ++ offset.elim [] Offset.chars) =
      some (clock, offset.map Offset.asRead) := by
  have hclock : readPairs? true 3 {} clock.chars =
      some ⟨clock.hour, clock.minute, clock.second, clock.micro, true⟩ :=
    readPairs?_clock clock.valid
  have hmk : Clock.mk? clock.hour clock.minute clock.second clock.micro = some clock :=
    dif_pos clock.valid
  cases offset with
  | none =>
    obtain ⟨hfront, hrest⟩ := @split_at_mark _ [] (isMark_clockChars clock) nofun
    unfold isMark at hfront hrest
    simp only [Option.elim_none, readClock?, hfront, hrest, hclock, hmk, Option.bind_eq_bind, Option.bind_some,
      if_true, Option.map_none]
  | some o =>
    obtain ⟨sign, tail, hchars⟩ : ∃ sign tail, o.chars = sign :: tail := ⟨_, _, rfl⟩
    have hsign : sign = if o.micros < 0 then '-' else '+' := (List.cons.inj hchars).1.symm
    have hdigits := readPairs?_offset o
    rw [hchars, List.drop_one, List.tail_cons] at hdigits
    have hoffset := offsetOf?_digits o
    obtain ⟨hfront, hrest⟩ := @split_at_mark _ (sign :: tail) (isMark_clockChars clock) (by
      rintro c ⟨⟩
      rw [hsign]
      split <;> decide)
    unfold isMark at hfront hrest
    simp only [Option.elim_some, hchars, readClock?, hfront, hrest, hclock, hmk, Option.bind_eq_bind,
      Option.bind_some, Option.map_some]
    by_cases hnegative : o.micros < 0
    · simp only [hnegative, if_true, decide_true] at hsign hoffset
      subst hsign
      simp [hdigits, hoffset]
    · simp only [hnegative, if_false, decide_false] at hsign hoffset
      subst hsign
      simp [hdigits, hoffset]

/-! ## Times -/

/-- A time is read back from its text, but for an offset of less than a second. -/
theorem DateTime.ofText?_toText (t : DateTime) : DateTime.ofText? t.toText = some t.asRead := by
  have hdrop : t.chars.drop 10 = 'T' :: (t.clock.chars ++ t.offset.elim [] Offset.chars) := by
    rw [DateTime.chars, ← length_dateChars t.date, List.drop_left]
    cases t.offset <;> rfl
  have hlength : dateLength? t.chars = some 10 := dateLength?_chars t.date _
  have hdate : readDate? t.chars 10 = some t.date := readDate?_chars t.date _ 10
  simp only [DateTime.ofText?, DateTime.toText, String.toList_ofList, DateTime.ofChars?, hlength,
    hdate, hdrop, Option.bind_eq_bind, Option.bind_some]
  rw [readClock?_chars t.clock t.offset]
  rfl

end SqlGateway.Time
