import SqlGateway.Proofs.Dialect.Fragments
set_option autoImplicit false

/-!
# Dialects: the scanner and the text it reads

Placeholders are counted by a scanner that skips quoted text.  Here it also tells at which
places it finds them.  A text *passes* from one state of the scanner to another when the
scanner goes over it without finding anything.  Plain text passes; quoted names pass, because
each quote in a name is doubled; pieces of a hand-written fragment hold no marker outside
quotes; and where percent signs are doubled, each pair passes.
-/

namespace SqlGateway

/-! ## Places -/

/-- The character with which a placeholder of the style begins. -/
def ParamStyle.opening : ParamStyle → Char
  | .qmark => '?'
  | .format => '%'

namespace Query

/-- The places of question marks outside quoted text; the first character is at place `i`. -/
def qmarkPlaces (q : QuoteState) (i : Nat) : List Char → List Nat
  | [] => []
  | c :: rest =>
    (if q.isNone && c == '?' then [i] else []) ++ qmarkPlaces (q.step c) (i + 1) rest

/-- The places of format placeholders outside quoted text. -/
def formatPlaces (q : QuoteState) (i : Nat) : List Char → List Nat
  | [] => []
  | c :: rest =>
    if q.isNone && c == '%' then
      match rest with
      | [] => []
      | d :: rest => (if d == 's' then [i] else []) ++ formatPlaces none (i + 2) rest
    else formatPlaces (q.step c) (i + 1) rest

/-- The places of the placeholders of a style. -/
def placesFrom : ParamStyle → QuoteState → Nat → List Char → List Nat
  | .qmark => qmarkPlaces
  | .format => formatPlaces

/-- The places of the placeholders that are counted in rendered SQL. -/
def placeholderPlaces (sql : String) (style : ParamStyle) : List Nat :=
  placesFrom style none 0 sql.toList

theorem formatPlaces_skip {q : QuoteState} {c : Char} (h : (q.isNone && c == '%') = false)
    (i : Nat) (rest : List Char) :
    formatPlaces q i (c :: rest) = formatPlaces (q.step c) (i + 1) rest := by
  rw [formatPlaces.eq_def]
  simp only [h, Bool.false_eq_true, if_false]

theorem formatPlaces_percent (i : Nat) (c : Char) (rest : List Char) :
    formatPlaces none i ('%' :: c :: rest) =
      (if c == 's' then [i] else []) ++ formatPlaces none (i + 2) rest := by
  simp [formatPlaces]

theorem length_qmarkPlaces (q : QuoteState) (i : Nat) (cs : List Char) :
    (qmarkPlaces q i cs).length = countQmark q cs := by
  induction cs generalizing q i with
  | nil => rfl
  | cons c cs ih =>
    rw [qmarkPlaces, countQmark, List.length_append, ih]
    split <;> rfl

theorem length_formatPlaces (q : QuoteState) (i : Nat) (cs : List Char) :
    (formatPlaces q i cs).length = countFormat q cs := by
  fun_induction countFormat q cs generalizing i with
  | case1 => rfl
  | case2 q c h => simp [formatPlaces, h]
  | case3 q c h d rest ih =>
    obtain ⟨hnone, hc⟩ := Bool.and_eq_true_iff.1 h
    obtain rfl := Option.isNone_iff_eq_none.1 hnone
    obtain rfl := beq_iff_eq.1 hc
    rw [formatPlaces_percent, List.length_append, ih]
    split <;> rfl
  | case4 q c rest h ih => rw [formatPlaces_skip (Bool.eq_false_iff.2 h), ih]

/-- As many places are found as placeholders are counted. -/
theorem length_placeholderPlaces (sql : String) (style : ParamStyle) :
    (placeholderPlaces sql style).length = countPlaceholders sql style := by
  cases style with
  | qmark => exact length_qmarkPlaces none 0 sql.toList
  | format => exact length_formatPlaces none 0 sql.toList

/-! ## States -/

/-- A scanner inside quoted text knows a quote that opened it. -/
def QuoteState.Valid (q : QuoteState) : Prop := ∀ o ∈ q, isQuote o = true

theorem QuoteState.valid_none : QuoteState.Valid none := fun _ h => nomatch h

theorem QuoteState.Valid.step {q : QuoteState} (h : q.Valid) (c : Char) : (q.step c).Valid := by
  intro o ho
  cases q with
  | some quote =>
    simp only [QuoteState.step] at ho
    split at ho
    · cases ho
    · cases ho; exact h o rfl
  | none =>
    simp only [QuoteState.step] at ho
    split at ho
    · next hc => cases ho; exact hc
    · cases ho

theorem QuoteState.after_cons (q : QuoteState) (c : Char) (cs : List Char) :
    q.after (c :: cs) = (q.step c).after cs := rfl

theorem QuoteState.after_append (q : QuoteState) (cs ds : List Char) :
    q.after (cs ++ ds) = (q.after cs).after ds := List.foldl_append

/-! ## Silent texts -/

/-- No placeholder begins in the text. -/
def isSilent (style : ParamStyle) (q : QuoteState) : List Char → Bool
  | [] => true
  | c :: rest => !(q.isNone && c == style.opening) && isSilent style (q.step c) rest

theorem isSilent_append (style : ParamStyle) (q : QuoteState) (cs ds : List Char) :
    isSilent style q (cs ++ ds) = (isSilent style q cs && isSilent style (q.after cs) ds) := by
  induction cs generalizing q with
  | nil => rfl
  | cons c cs ih =>
    rw [List.cons_append, isSilent, ih, isSilent, Bool.and_assoc, QuoteState.after_cons]

theorem isSilent_of_not_mem {style : ParamStyle} (q : QuoteState) {cs : List Char}
    (h : style.opening ∉ cs) : isSilent style q cs = true := by
  induction cs generalizing q with
  | nil => rfl
  | cons c cs ih =>
    have hc : c ≠ style.opening := fun hc => h (hc ▸ List.mem_cons_self)
    simp [isSilent, hc, ih (q.step c) fun hcs => h (List.mem_cons_of_mem c hcs)]

theorem isSilent_isPlainText {style : ParamStyle} {cs : List Char}
    (h : cs.all Fragment.isPlainChar = true) :
    isSilent style none cs = true ∧ QuoteState.after none cs = none := by
  induction cs with
  | nil => exact ⟨rfl, rfl⟩
  | cons c cs ih =>
    rw [List.all_cons, Bool.and_eq_true] at h
    obtain ⟨hc, hcs⟩ := h
    have hquote : isQuote c = false := by
      simp only [Fragment.isPlainChar, Bool.and_eq_true, Bool.not_eq_true'] at hc
      exact hc.1.1
    have hopening : (c == style.opening) = false := by
      simp only [Fragment.isPlainChar, Bool.and_eq_true, bne_iff_ne] at hc
      cases style with
      | qmark => exact beq_eq_false_iff_ne.2 hc.1.2
      | format => exact beq_eq_false_iff_ne.2 hc.2
    have hstep : QuoteState.step none c = none := by
      simp [QuoteState.step, hquote]
    rw [isSilent, QuoteState.after_cons, hstep, hopening]
    exact ⟨by simpa using (ih hcs).1, (ih hcs).2⟩

/-- The scanner goes over the text from one state to another without finding a placeholder. -/
def Passes (style : ParamStyle) (q q' : QuoteState) (cs : List Char) : Prop :=
  ∀ i rest, placesFrom style q i (cs ++ rest) = placesFrom style q' (i + cs.length) rest

namespace Passes

variable {style : ParamStyle} {q q' q'' : QuoteState} {cs ds : List Char}

theorem append (h : Passes style q q' cs) (k : Passes style q' q'' ds) :
    Passes style q q'' (cs ++ ds) := by
  intro i rest
  rw [List.append_assoc, h, k, List.length_append, Nat.add_assoc]

theorem of_isSilent (h : isSilent style q cs = true) : Passes style q (q.after cs) cs := by
  intro i rest
  induction cs generalizing q i with
  | nil => rfl
  | cons c cs ih =>
    rw [isSilent, Bool.and_eq_true, Bool.not_eq_true'] at h
    have hrest := ih h.2 (i + 1)
    rw [List.cons_append, QuoteState.after_cons, List.length_cons]
    have hlength : i + (cs.length + 1) = i + 1 + cs.length := by omega
    rw [hlength, ← hrest]
    cases style with
    | qmark =>
      have hc : (q.isNone && c == '?') = false := h.1
      simp only [placesFrom, qmarkPlaces, hc, Bool.false_eq_true, if_false, List.nil_append]
    | format =>
      exact formatPlaces_skip h.1 i (cs ++ rest)

/-- A doubled percent sign is skipped as a pair outside quotes, and one by one inside. -/
theorem doublePercent (hq : q.Valid) (cs : List Char) :
    Passes .format q (q.after cs) (Dialect.doublePercent cs) := by
  intro i rest
  induction cs generalizing q i with
  | nil => rfl
  | cons c cs ih =>
    have hrest := ih (hq.step c)
    rw [QuoteState.after_cons]
    by_cases hc : c = '%'
    · subst hc
      have hstep : q.step '%' = q := by
        cases q with
        | none => rfl
        | some o =>
          have ho : o ≠ '%' := fun ho => by
            have := hq o rfl
            rw [ho] at this
            exact absurd this (by decide)
          simp [QuoteState.step, Ne.symm ho]
      rw [hstep] at hrest ⊢
      simp only [Dialect.doublePercent, beq_self_eq_true, if_true, List.cons_append,
        List.length_cons]
      have hlength : i + ((Dialect.doublePercent cs).length + 1 + 1) =
          i + 2 + (Dialect.doublePercent cs).length := by omega
      rw [hlength, ← hrest (i + 2)]
      cases q with
      | none => exact formatPlaces_percent i '%' (Dialect.doublePercent cs ++ rest)
      | some o =>
        simp only [placesFrom]
        rw [formatPlaces_skip rfl, hstep, formatPlaces_skip rfl, hstep]
    · have hpercent : (c == '%') = false := beq_eq_false_iff_ne.2 hc
      simp only [Dialect.doublePercent, hpercent, Bool.false_eq_true, if_false, List.cons_append,
        List.length_cons]
      have hlength : i + ((Dialect.doublePercent cs).length + 1) =
          i + 1 + (Dialect.doublePercent cs).length := by omega
      rw [hlength, ← hrest (i + 1)]
      exact formatPlaces_skip (by rw [hpercent, Bool.and_false]) i _

end Passes

/-! ## Pieces of a fragment -/

/-- Pieces of a text that is scanned from one state to another: no marker is left in them, and
each but the last ends outside quotes, where a marker was. -/
def PiecesFrom (q e : QuoteState) (piece : List Char) : List (List Char) → Prop
  | [] => isSilent .qmark q piece = true ∧ q.after piece = e
  | next :: more =>
    isSilent .qmark q piece = true ∧ q.after piece = none ∧ PiecesFrom none e next more

theorem splitMarkersFrom_piecesFrom (q : QuoteState) (cs : List Char) :
    PiecesFrom q (q.after cs) (splitMarkersFrom q cs).1 (splitMarkersFrom q cs).2 := by
  induction cs generalizing q with
  | nil => exact ⟨rfl, rfl⟩
  | cons c cs ih =>
    have hrest := ih (q.step c)
    rw [QuoteState.after_cons]
    simp only [splitMarkersFrom]
    by_cases hmarker : (q.isNone && c == '?') = true
    · obtain ⟨hnone, hc⟩ := Bool.and_eq_true_iff.1 hmarker
      obtain rfl := Option.isNone_iff_eq_none.1 hnone
      obtain rfl := beq_iff_eq.1 hc
      simp only [Option.isNone_none, beq_self_eq_true, Bool.and_self, if_true]
      exact ⟨rfl, rfl, hrest⟩
    · rw [if_neg hmarker]
      have hsilent : ∀ {piece : List Char}, isSilent .qmark (q.step c) piece = true →
          isSilent .qmark q (c :: piece) = true := by
        intro piece h
        rw [isSilent, h, Bool.and_true, Bool.not_eq_true']
        exact Bool.eq_false_iff.2 hmarker
      generalize (splitMarkersFrom (q.step c) cs).2 = more at hrest ⊢
      cases more with
      | nil => exact ⟨hsilent hrest.1, hrest.2⟩
      | cons next more => exact ⟨hsilent hrest.1, hrest.2.1, hrest.2.2⟩

/-- In a fragment that ends outside quotes, so does each of its pieces. -/
theorem PiecesFrom.unquoted {q : QuoteState} {piece : List Char} {more : List (List Char)}
    (h : PiecesFrom q none piece more) :
    (isSilent .qmark q piece = true ∧ q.after piece = none) ∧
      ∀ p ∈ more, isSilent .qmark none p = true ∧ QuoteState.after none p = none := by
  induction more generalizing q piece with
  | nil => exact ⟨h, by simp⟩
  | cons next more ih =>
    obtain ⟨hnext, hmore⟩ := ih h.2.2
    refine ⟨⟨h.1, h.2.1⟩, fun p hp => ?_⟩
    rcases List.mem_cons.1 hp with rfl | hp
    · exact hnext
    · exact hmore p hp

/-- The pieces of a text with the marker between them. -/
def rejoin (piece : List Char) : List (List Char) → List Char
  | [] => piece
  | next :: more => piece ++ '?' :: rejoin next more

theorem rejoin_splitMarkersFrom (q : QuoteState) (cs : List Char) :
    rejoin (splitMarkersFrom q cs).1 (splitMarkersFrom q cs).2 = cs := by
  induction cs generalizing q with
  | nil => rfl
  | cons c cs ih =>
    have hrest := ih (q.step c)
    simp only [splitMarkersFrom]
    split
    · next hmarker =>
      obtain rfl := beq_iff_eq.1 (Bool.and_eq_true_iff.1 hmarker).2
      exact congrArg ('?' :: ·) hrest
    · generalize (splitMarkersFrom (q.step c) cs).2 = more at hrest ⊢
      cases more <;> exact congrArg (c :: ·) hrest

/-- There are as many markers as the scanner of question marks finds. -/
theorem length_splitMarkersFrom (q : QuoteState) (cs : List Char) :
    (splitMarkersFrom q cs).2.length = countQmark q cs := by
  induction cs generalizing q with
  | nil => rfl
  | cons c cs ih =>
    rw [splitMarkersFrom, countQmark, ← ih]
    dsimp only
    split
    · rw [List.length_cons, Nat.add_comm]
    · rw [Nat.zero_add]

/-- The pieces of a text, with what is known of them. -/
theorem exists_pieces (text : String) :
    ∃ piece more, splitMarkers text = (piece :: more).map String.ofList ∧
      rejoin piece more = text.toList ∧
      PiecesFrom none (QuoteState.after none text.toList) piece more :=
  ⟨_, _, rfl, rejoin_splitMarkersFrom none text.toList,
    splitMarkersFrom_piecesFrom none text.toList⟩

theorem mem_splitMarkers {fragment p : String} :
    p ∈ splitMarkers fragment ↔ p.toList = (splitMarkersFrom none fragment.toList).1 ∨
      p.toList ∈ (splitMarkersFrom none fragment.toList).2 := by
  simp only [splitMarkers, List.mem_map, List.mem_cons]
  constructor
  · rintro ⟨cs, rfl | hcs, rfl⟩
    · exact .inl String.toList_ofList
    · exact .inr (by rwa [String.toList_ofList])
  · rintro (h | h)
    · exact ⟨p.toList, .inl h, String.ofList_toList⟩
    · exact ⟨p.toList, .inr h, String.ofList_toList⟩

theorem splitMarkers_unquoted {fragment p : String}
    (hends : endsUnquoted fragment.toList = true) (hp : p ∈ splitMarkers fragment) :
    isSilent .qmark none p.toList = true ∧ QuoteState.after none p.toList = none := by
  have hpieces := splitMarkersFrom_piecesFrom none fragment.toList
  rw [Option.isNone_iff_eq_none.1 hends] at hpieces
  obtain ⟨hfirst, hmore⟩ := hpieces.unquoted
  rcases mem_splitMarkers.1 hp with h | h
  · rw [h]; exact hfirst
  · exact hmore _ h

/-- Pieces hold no other characters than their fragment. -/
theorem mem_of_mem_splitMarkersFrom {q : QuoteState} {cs p : List Char}
    (hp : p = (splitMarkersFrom q cs).1 ∨ p ∈ (splitMarkersFrom q cs).2) : p ⊆ cs := by
  induction cs generalizing q p with
  | nil => simp_all [splitMarkersFrom]
  | cons c cs ih =>
    simp only [splitMarkersFrom] at hp
    split at hp
    · rcases hp with rfl | hp
      · exact List.nil_subset _
      · exact List.subset_cons_of_subset c (@ih (q.step c) _ (List.mem_cons.1 hp))
    · rcases hp with rfl | hp
      · exact List.cons_subset_cons c (ih (.inl rfl))
      · exact List.subset_cons_of_subset c (ih (.inr hp))

end Query

/-! ## Text of a dialect -/

open Query

/-- What the scanner relies on: names are quoted by one quote character, and where percent
signs are doubled, placeholders begin with one. -/
structure Dialect.Scannable (d : Dialect) : Prop where
  quote : ∃ c, isQuote c = true ∧ d.quote.toList = [c]
  escape : d.escapePercent = true → d.style = .format
  limit : ∀ t ∈ d.unboundedLimit, Fragment.isPlainText t = true

namespace Dialect

theorem scannable_generic : generic.Scannable :=
  ⟨⟨'"', by decide, by decide⟩, by decide, by decide⟩

theorem scannable_sqlite : sqlite.Scannable :=
  ⟨⟨'"', by decide, by decide⟩, by decide, by decide⟩

theorem scannable_mysql : mysql.Scannable :=
  ⟨⟨'\x60', by decide, by decide⟩, by decide, by decide⟩

theorem scannable_postgresql : postgresql.Scannable :=
  ⟨⟨'"', by decide, by decide⟩, by decide, by decide⟩

variable {d : Dialect}

theorem passes_verbatim (hd : d.Scannable) {q : QuoteState} (hq : q.Valid) {cs : List Char}
    (h : d.escapePercent = false → isSilent d.style q cs = true) :
    Passes d.style q (q.after cs) (d.verbatim cs) := by
  unfold verbatim
  cases hescape : d.escapePercent with
  | true =>
    rw [hd.escape hescape]
    exact .doublePercent hq cs
  | false => exact .of_isSilent (h hescape)

/-! ## Names -/

theorem doubleQuote_singleton (q : Char) (cs : List Char) :
    doubleQuote [q] cs = cs.flatMap fun c => if c = q then [q, q] else [c] := by
  induction cs with
  | nil =>
    rw [doubleQuote]
    · rfl
    · intro h
      cases h
  | cons c cs ih =>
    rw [doubleQuote, List.flatMap_cons, ← ih]
    split
    · next rest hdrop =>
      simp only [dropPattern?] at hdrop
      split at hdrop
      · next hc => cases hdrop; rw [if_pos (beq_iff_eq.1 hc).symm]; rfl
      · cases hdrop
    · next hdrop =>
      have hc : ¬ c = q := by
        rintro rfl
        simp [dropPattern?] at hdrop
      rw [if_neg hc]
      rfl

/-- Quoted text of a name stays quoted up to its end: a quote in it closes and opens again. -/
theorem isSilent_doubleQuote {style : ParamStyle} {q : Char} (hq : isQuote q = true)
    (cs : List Char) :
    isSilent style (some q) (doubleQuote [q] cs) = true ∧
      QuoteState.after (some q) (doubleQuote [q] cs) = some q := by
  have hopening : (q == style.opening) = false := by
    refine beq_eq_false_iff_ne.2 fun h => ?_
    rw [h] at hq
    cases style <;> exact absurd hq (by decide)
  rw [doubleQuote_singleton]
  induction cs with
  | nil => exact ⟨rfl, rfl⟩
  | cons c cs ih =>
    rw [List.flatMap_cons]
    by_cases hc : c = q
    · rw [if_pos hc]
      simpa [isSilent, QuoteState.after_cons, QuoteState.step, hq, hopening] using ih
    · rw [if_neg hc]
      simpa [isSilent, QuoteState.after_cons, QuoteState.step, hc] using ih

theorem isSilent_quotedPart {style : ParamStyle} (hd : d.Scannable) (part : List Char) :
    isSilent style none (d.quotedPart part) = true ∧
      QuoteState.after none (d.quotedPart part) = none := by
  obtain ⟨q, hq, hquote⟩ := hd.quote
  have hopening : (q == style.opening) = false := by
    refine beq_eq_false_iff_ne.2 fun h => ?_
    rw [h] at hq
    cases style <;> exact absurd hq (by decide)
  obtain ⟨hsilent, hafter⟩ := @isSilent_doubleQuote style q hq part
  simp only [quotedPart, hquote, List.cons_append, List.nil_append]
  simp [isSilent, isSilent_append, QuoteState.after_cons, QuoteState.after_append,
    QuoteState.step, hq, hopening, hsilent, hafter]
  rfl

theorem isPlainChar_of_isWordChar {c : Char}
    (h : (isAsciiLetter c || c.isDigit || c == '_') = true) : Fragment.isPlainChar c = true := by
  have hne : ∀ x : Char, (isAsciiLetter x || x.isDigit || x == '_') = false → c ≠ x := by
    rintro x hx rfl
    rw [h] at hx
    cases hx
  simp only [Fragment.isPlainChar, isQuote, Bool.and_eq_true, Bool.not_eq_true',
    Bool.or_eq_false_iff, beq_eq_false_iff_ne, bne_iff_ne]
  exact ⟨⟨⟨⟨hne _ (by decide), hne _ (by decide)⟩, hne _ (by decide)⟩, hne _ (by decide)⟩,
    hne _ (by decide)⟩

theorem isPlainChar_of_isWord {part : List Char} (h : isWord part = true) :
    part.all Fragment.isPlainChar = true := by
  cases part with
  | nil => rfl
  | cons c rest =>
    obtain ⟨hc, hrest⟩ := Bool.and_eq_true_iff.1 h
    refine List.all_eq_true.2 fun x hx => ?_
    rcases List.mem_cons.1 hx with rfl | hx
    · refine isPlainChar_of_isWordChar ?_
      rcases Bool.or_eq_true_iff.1 hc with hc | hc <;> simp [hc]
    · exact isPlainChar_of_isWordChar (List.all_eq_true.1 hrest x hx)

/-- A part that needs no quotes is plain text. -/
theorem isPlainChar_of_standsBare {part : List Char} (h : d.standsBare part = true) :
    part.all Fragment.isPlainChar = true := by
  rcases Bool.or_eq_true_iff.1 h with hstar | hplain
  · rw [beq_iff_eq.1 hstar]
    decide
  · rcases Bool.or_eq_true_iff.1 (Bool.and_eq_true_iff.1 hplain).1 with hword | hline
    · exact isPlainChar_of_isWord hword
    · obtain ⟨hlast, hword⟩ := Bool.and_eq_true_iff.1 hline
      obtain ⟨front, rfl⟩ := List.getLast?_eq_some_iff.1 (beq_iff_eq.1 hlast)
      rw [List.dropLast_concat] at hword
      rw [List.all_append, isPlainChar_of_isWord hword]
      rfl

/-- The scanner passes over plain text outside quotes. -/
theorem passes_plain {style : ParamStyle} {cs : List Char}
    (h : cs.all Fragment.isPlainChar = true) : Passes style none none cs := by
  obtain ⟨hsilent, hafter⟩ := @isSilent_isPlainText style cs h
  have hpasses := Passes.of_isSilent hsilent
  rwa [hafter] at hpasses

theorem passes_writePart (hd : d.Scannable) (part : List Char) :
    Passes d.style none none (d.writePart part) := by
  unfold writePart
  split
  · next hbare => exact passes_plain (isPlainChar_of_standsBare hbare)
  · obtain ⟨hsilent, hafter⟩ := @isSilent_quotedPart d d.style hd part
    have hpasses := passes_verbatim hd QuoteState.valid_none fun _ => hsilent
    rwa [hafter] at hpasses

theorem passes_quoteName (hd : d.Scannable) (name : String) :
    Passes d.style none none (d.quoteName name).toList := by
  rw [quoteName, String.toList_ofList]
  generalize nameParts name.toList = parts
  induction parts with
  | nil => exact fun _ _ => rfl
  | cons part rest ih =>
    have hpart := passes_writePart hd part
    have hdot : Passes d.style none none ['.'] := passes_plain rfl
    cases rest with
    | nil => exact hpart
    | cons part' rest => exact hpart.append (hdot.append ih)

end Dialect

/-! ## Fragments -/

namespace Fragment

/-- The values of fragments, each with the place at which its placeholder is written; the
first character is at place `i`. -/
def placed (d : Dialect) (i : Nat) : List Fragment → List (Nat × Value)
  | [] => []
  | f :: fs => (f.value?.map fun v => (i, v)).toList ++ placed d (i + (f.text d).length) fs

theorem map_snd_placed (d : Dialect) (i : Nat) (fs : List Fragment) :
    (placed d i fs).map Prod.snd = binds fs := by
  induction fs generalizing i with
  | nil => rfl
  | cons f fs ih =>
    rw [placed, List.map_append, ih]
    cases f <;> rfl

/-- From outside quotes, the scanner finds the placeholder of the fragment's value and nothing
else, and ends outside quotes. -/
def Neutral (d : Dialect) (f : Fragment) : Prop :=
  ∀ i rest, placesFrom d.style none i ((f.text d).toList ++ rest) =
    (if f.value?.isSome then [i] else []) ++
      placesFrom d.style none (i + (f.text d).length) rest

variable {d : Dialect}

theorem toList_text_written (d : Dialect) (p : String) :
    ((Fragment.written p).text d).toList = d.verbatim p.toList := by
  rw [text, String.toList_ofList]

theorem neutral_of_passes {f : Fragment} (hvalue : f.value? = none)
    (h : Passes d.style none none (f.text d).toList) : f.Neutral d := by
  intro i rest
  rw [h i rest, hvalue, String.length_toList]
  rfl

/-- Emitted from outside quotes, a placeholder is found. -/
theorem neutral_bind (v : Value) : (Fragment.bind v).Neutral d := by
  intro i rest
  cases hstyle : d.style with
  | qmark =>
    simp only [text, value?, hstyle, ParamStyle.placeholder, placesFrom]
    rfl
  | format =>
    simp only [text, value?, hstyle, ParamStyle.placeholder, placesFrom]
    exact formatPlaces_percent i 's' rest

/-- Fragments that come from hand-written texts are neutral when the texts are: they end
outside quotes and hold nothing that the scanner of a dialect takes for a placeholder. -/
theorem From.neutral (hd : d.Scannable) {texts : List String}
    (hends : ∀ t ∈ texts, endsUnquoted t.toList = true)
    (hsilent : d.escapePercent = false → d.style = .format → ∀ t ∈ texts, '%' ∉ t.toList)
    {f : Fragment} (h : f.From texts) : f.Neutral d := by
  cases f with
  | words s => exact neutral_of_passes rfl (Dialect.passes_plain h)
  | name n => exact neutral_of_passes rfl (Dialect.passes_quoteName hd n)
  | bind v => exact neutral_bind v
  | written p =>
    obtain ⟨t, ht, hp⟩ := h
    obtain ⟨hmarkers, hafter⟩ := splitMarkers_unquoted (hends t ht) hp
    have hpiece : d.escapePercent = false → isSilent d.style none p.toList = true := by
      intro hescape
      cases hstyle : d.style with
      | qmark => exact hmarkers
      | format =>
        refine isSilent_of_not_mem none fun hmem => hsilent hescape hstyle t ht ?_
        exact mem_of_mem_splitMarkersFrom (mem_splitMarkers.1 hp) hmem
    have hpasses := Dialect.passes_verbatim hd QuoteState.valid_none hpiece
    rw [hafter] at hpasses
    refine neutral_of_passes rfl ?_
    rwa [toList_text_written]

/-- The text of fragments, by characters. -/
theorem toList_sql (d : Dialect) (fs : List Fragment) :
    (sql d fs).toList = fs.flatMap fun f => (f.text d).toList :=
  String.toList_ofList

theorem toList_sql_cons (d : Dialect) (f : Fragment) (fs : List Fragment) :
    (sql d (f :: fs)).toList = (f.text d).toList ++ (sql d fs).toList := by
  rw [toList_sql, toList_sql, List.flatMap_cons]

/-- After a neutral fragment, the scanner goes on as from the start. -/
theorem placesFrom_cons {f : Fragment} {fs : List Fragment} {i : Nat} (h : f.Neutral d)
    (hrest : placesFrom d.style none (i + (f.text d).length) (sql d fs).toList =
      (placed d (i + (f.text d).length) fs).map Prod.fst) :
    placesFrom d.style none i (sql d (f :: fs)).toList =
      (placed d i (f :: fs)).map Prod.fst := by
  rw [toList_sql_cons, h, hrest, placed, List.map_append]
  cases f.value? <;> rfl

/-- In the text of neutral fragments, exactly the emitted placeholders are found. -/
theorem placesFrom_sql {fs : List Fragment} (h : ∀ f ∈ fs, f.Neutral d) (i : Nat) :
    placesFrom d.style none i (sql d fs).toList = (placed d i fs).map Prod.fst := by
  induction fs generalizing i with
  | nil => cases d.style <;> rfl
  | cons f fs ih =>
    exact placesFrom_cons (h f List.mem_cons_self)
      (ih (fun g hg => h g (List.mem_cons_of_mem f hg)) _)

end Fragment

end SqlGateway
