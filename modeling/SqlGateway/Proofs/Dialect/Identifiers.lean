import SqlGateway.Proofs.Dialect.Grammar
import SqlGateway.Proofs.Dialect.Percent
set_option autoImplicit false

/-!
# Dialects: what a written name denotes

A name is written part by part: a word that is not reserved stands bare, any other part stands
between quotes.  The engine reads the text back once the driver is done with it, and takes a
bare word as a part only if it is not reserved.

What comes back is the parts of the name, with one exception.  A word with a line break after
it stands bare as well, and the engine takes the line break for a blank, so that the part
loses it, or is a reserved word.  Names without such a part are told apart by their text.
-/

namespace SqlGateway

open Query

/-! ## Blanks -/

namespace Lexeme

/-- The blanks of SQL beside the space. -/
def isWhite (c : Char) : Bool := ['\t', '\n', '\x0b', '\x0c', '\r'].contains c

/-- Between quotes every character is part of the name. -/
def isEnclosed : Lexeme → Bool
  | .quoted _ | .percentSeen _ => true
  | _ => false

/-- A character as it is read: outside quotes all blanks are alike. -/
def blanked (l : Lexeme) (c : Char) : Char :=
  if !l.isEnclosed && isWhite c then ' ' else c

/-- Many characters more of a text that may hold any blank. -/
def scanText (d : Dialect) : Lexeme → List Char → Option (List Token × Lexeme)
  | l, [] => some ([], l)
  | l, c :: cs =>
    (step d l (l.blanked c)).bind fun (ts, m) => (scanText d m cs).map fun (us, n) => (ts ++ us, n)

theorem scanText_append {d : Dialect} {l m n : Lexeme} {cs ds : List Char} {ts us : List Token}
    (h : scanText d l cs = some (ts, m)) (k : scanText d m ds = some (us, n)) :
    scanText d l (cs ++ ds) = some (ts ++ us, n) := by
  induction cs generalizing l ts with
  | nil => cases h; exact k
  | cons c cs ih =>
    rw [scanText] at h
    obtain ⟨⟨first, l'⟩, hread, h⟩ := Option.bind_eq_some_iff.1 h
    obtain ⟨⟨rest, m'⟩, hscan, h⟩ := Option.map_eq_some_iff.1 h
    cases h
    rw [List.cons_append, scanText, hread, Option.bind_some]
    dsimp only
    rw [ih hscan, Option.map_some, List.append_assoc]

/-- A blank other than the space is no sign of condition text. -/
theorem white_apart {c : Char} (hc : isWhite c = true) :
    isWordChar c = false ∧ isSymbolChar c = false ∧ isQuote c = false ∧
      ∀ x ∈ [' ', '(', ')', ',', '.', '*', '?', '%', 's'], (c == x) = false := by
  have hmem : c ∈ ['\t', '\n', '\x0b', '\x0c', '\r'] := List.contains_iff_mem.1 hc
  simp only [List.mem_cons, List.not_mem_nil, or_false] at hmem
  have hother : c ∉ [' ', '(', ')', ',', '.', '*', '?', '%', 's'] := by
    rcases hmem with rfl | rfl | rfl | rfl | rfl <;> decide
  refine ⟨?_, ?_, ?_, fun x hx => beq_eq_false_iff_ne.2 ?_⟩
  · rcases hmem with rfl | rfl | rfl | rfl | rfl <;> rfl
  · rcases hmem with rfl | rfl | rfl | rfl | rfl <;> rfl
  · rcases hmem with rfl | rfl | rfl | rfl | rfl <;> rfl
  · rintro rfl
    exact hother hx

/-- No token begins with a blank other than the space. -/
theorem begin_white {d : Dialect} (hd : d.Scannable) {c : Char} (hc : isWhite c = true) :
    begin d c = none := by
  obtain ⟨hword, hsymbol, hquote, hother⟩ := white_apart hc
  simp only [List.forall_mem_cons] at hother
  obtain ⟨hspace, hopen, hclose, hcomma, hdot, hstar, hmark, hpercent, -⟩ := hother
  have hopening : (c == d.style.opening) = false := by
    cases d.style with
    | qmark => exact hmark
    | format => exact hpercent
  simp only [begin, hspace, hopen, hclose, hcomma, hdot, hstar, hword, hsymbol,
    quote_ne hd hquote, hopening, Bool.false_eq_true, if_false]

/-- Outside quotes the reader of condition text takes no other blank than the space. -/
theorem step_white {d : Dialect} (hd : d.Scannable) {l : Lexeme} {c : Char}
    (hl : l.isEnclosed = false) (hc : isWhite c = true) : step d l c = none := by
  obtain ⟨hword, hsymbol, hquote, hother⟩ := white_apart hc
  have hnext : ∀ l : Lexeme, next d l c = none := by
    intro l
    rw [next, begin_white hd hc]
    cases l.finish <;> rfl
  cases l with
  | idle => exact begin_white hd hc
  | word cs => rw [step, hword]; exact hnext (.word cs)
  | symbol cs => rw [step, hsymbol]; exact hnext (.symbol cs)
  | quoteSeen cs => rw [step, quote_ne hd hquote]; exact hnext (.quoteSeen cs)
  | placeholder => rw [step, hother 's' (by simp)]; rfl
  | quoted cs => cases hl
  | percentSeen cs => cases hl

/-- Text that can be read without knowing of other blanks is read the same way. -/
theorem scanText_of_scan {d : Dialect} (hd : d.Scannable) {l m : Lexeme} {cs : List Char}
    {ts : List Token} (h : scan d l (Glyph.signs cs) = some (ts, m)) :
    scanText d l cs = some (ts, m) := by
  induction cs generalizing l ts with
  | nil => exact h
  | cons c cs ih =>
    rw [Glyph.signs, List.map_cons, scan] at h
    obtain ⟨⟨first, l'⟩, hread, h⟩ := Option.bind_eq_some_iff.1 h
    obtain ⟨⟨rest, m'⟩, hscan, h⟩ := Option.map_eq_some_iff.1 h
    have hsame : l.blanked c = c := by
      unfold blanked
      split
      · next hblank =>
        obtain ⟨hl, hc⟩ := Bool.and_eq_true_iff.1 hblank
        have hnone : step d l c = none := step_white hd (by simpa using hl) hc
        rw [read, hnone] at hread
        cases hread
      · rfl
    cases h
    rw [scanText, hsame]
    rw [read] at hread
    rw [hread, Option.bind_some]
    dsimp only
    rw [ih hscan, Option.map_some]

/-- Any blank ends what comes before it. -/
theorem scanText_white {d : Dialect} (hd : d.Scannable) {l : Lexeme} {c : Char}
    {fin : List Token} (hl : l.finish = some fin) (hc : isWhite c = true) :
    scanText d l [c] = some (fin, .idle) := by
  have hopen : l.isEnclosed = false := by
    cases l with
    | quoted cs => cases hl
    | percentSeen cs => cases hl
    | _ => rfl
  have hblank : l.blanked c = ' ' := by
    rw [blanked, hopen, hc]
    rfl
  have hspace : step d l ' ' = some (fin ++ [], .idle) :=
    step_separator hd (by decide) (by decide) (by decide) rfl hl
  rw [scanText, hblank, hspace, List.append_nil]
  simp only [Option.bind_some, scanText, Option.map_some, List.append_nil]

end Lexeme

/-- The tokens of a text that may hold any blank. -/
def textTokens (d : Dialect) (cs : List Char) : Option (List Token) :=
  (Lexeme.scanText d .idle cs).bind fun (ts, l) => l.finish.map (ts ++ ·)

/-- From between tokens, the reader goes over the text and can end after it. -/
def Spoken (d : Dialect) (cs : List Char) (ts : List Token) : Prop :=
  ∃ us l fin, Lexeme.scanText d .idle cs = some (us, l) ∧ l.finish = some fin ∧ us ++ fin = ts

section

variable {d : Dialect} {cs ds : List Char} {ts us : List Token}

theorem Spoken.textTokens_eq (h : Spoken d cs ts) : textTokens d cs = some ts := by
  obtain ⟨us, l, fin, hscan, hfin, rfl⟩ := h
  rw [textTokens, hscan, Option.bind_some]
  dsimp only
  rw [hfin, Option.map_some]

theorem Phrase.spoken (hd : d.Scannable) (h : Phrase d (Glyph.signs cs) ts) : Spoken d cs ts := by
  obtain ⟨us, l, fin, hscan, hfin, hts⟩ := h
  exact ⟨us, l, fin, Lexeme.scanText_of_scan hd hscan, hfin, hts⟩

/-- A dot ends what comes before it. -/
theorem Spoken.dot (hd : d.Scannable) (h : Spoken d cs ts) (k : Spoken d ds us) :
    Spoken d (cs ++ '.' :: ds) (ts ++ .dot :: us) := by
  obtain ⟨ts', l, fin, hscan, hfin, rfl⟩ := h
  obtain ⟨us', l', fin', hscan', hfin', rfl⟩ := k
  have hdot := Lexeme.scanText_of_scan hd (joint_dot hd l fin hfin)
  have hall := Lexeme.scanText_append (Lexeme.scanText_append hscan hdot) hscan'
  refine ⟨ts' ++ (fin ++ [.dot]) ++ us', l', fin', ?_, hfin', ?_⟩
  · rw [List.append_assoc] at hall
    exact hall
  · simp only [List.append_assoc, List.cons_append, List.nil_append]

end

/-! ## Identifiers -/

/-- What a part of an identifier denotes: every column, or what has the name. -/
inductive Denoted where
  | all
  | named (cs : List Char)
  deriving DecidableEq, Repr

/-- The part of a name that is meant. -/
def Denoted.ofPart (part : List Char) : Denoted := if part = ['*'] then .all else .named part

theorem Denoted.ofPart_injective {part part' : List Char}
    (h : Denoted.ofPart part = Denoted.ofPart part') : part = part' := by
  unfold Denoted.ofPart at h
  split at h <;> split at h
  · next h₁ h₂ => rw [h₁, h₂]
  · cases h
  · cases h
  · exact Denoted.named.inj h

/-- What a token denotes as a part of an identifier: a bare word must not be reserved. -/
def Token.denoted? (d : Dialect) : Token → Option Denoted
  | .quoted cs => some (.named cs)
  | .word cs =>
    if cs = ['*'] then some .all
    else if Dialect.isWord cs && !d.isReserved cs then some (.named cs) else none
  | _ => none

/-- What tokens denote: parts with dots between them. -/
def Token.identifier? (d : Dialect) : List Token → Option (List Denoted)
  | [t] => (t.denoted? d).map fun a => [a]
  | t :: .dot :: rest =>
    (t.denoted? d).bind fun a => (Token.identifier? d rest).map fun more => a :: more
  | _ => none

theorem Token.identifier?_intersperse (d : Dialect) {ts : List Token} (hts : ts ≠ []) :
    Token.identifier? d (ts.intersperse .dot) = ts.mapM (Token.denoted? d) := by
  have hcons : ∀ (t : Token) (more : List Token), (t :: more).mapM (Token.denoted? d) =
      (t.denoted? d).bind fun a => (more.mapM (Token.denoted? d)).map fun as => a :: as := by
    intro t more
    rw [List.mapM_cons]
    cases t.denoted? d with
    | none => rfl
    | some a => cases more.mapM (Token.denoted? d) <;> rfl
  induction ts with
  | nil => exact absurd rfl hts
  | cons t rest ih =>
    cases rest with
    | nil =>
      rw [List.intersperse_singleton, identifier?, hcons, List.mapM_nil]
      cases t.denoted? d <;> rfl
    | cons t' rest =>
      rw [List.intersperse_cons_cons, identifier?, ih (List.cons_ne_nil t' rest), hcons t]

namespace Dialect

/-- The text that reaches the engine: where percent signs are doubled, the driver formats it. -/
def received (d : Dialect) (cs : List Char) : Option (List Char) :=
  if d.escapePercent then percentFormat cs [] else some cs

/-- What a text denotes for the engine. -/
def identifier? (d : Dialect) (text : String) : Option (List Denoted) :=
  (d.received text.toList).bind fun cs => (textTokens d.unescaped cs).bind (Token.identifier? d)

/-- The engines whose dialects write names. -/
def engines : List Dialect := [.sqlite, .mysql, .postgresql]

/-- A word with one line break after it. -/
def isBrokenWord (part : List Char) : Bool := part.getLast? == some '\n' && isWord part.dropLast

/-- A part between quotes: the quote is doubled, and so is a percent sign where the driver
formats. -/
def enclosed (d : Dialect) (part : List Char) : List Char :=
  d.quote.toList ++
    part.flatMap (fun c =>
      if d.quote.toList = [c] ∨ (d.escapePercent = true ∧ c = '%') then [c, c] else [c]) ++
    d.quote.toList

/-- What a part of a name denotes once it is written: a broken word has lost its line break. -/
def denoted? (d : Dialect) (part : List Char) : Option Denoted :=
  if isBrokenWord part then
    if d.isReserved part.dropLast then none else some (.named part.dropLast)
  else some (.ofPart part)

section

variable {d : Dialect}

theorem scannable_of_mem_engines (hd : d ∈ engines) : d.Scannable := by
  simp only [engines, List.mem_cons, List.not_mem_nil, or_false] at hd
  rcases hd with rfl | rfl | rfl
  · exact scannable_sqlite
  · exact scannable_mysql
  · exact scannable_postgresql

theorem scannable_unescaped (hd : d.Scannable) : d.unescaped.Scannable :=
  ⟨hd.quote, Bool.noConfusion, hd.limit⟩

/-- No reserved word holds a line break. -/
theorem isReserved_of_line (hd : d ∈ engines) {part : List Char} (hline : '\n' ∈ part) :
    d.isReserved part = false := by
  have hcommon : ∀ w ∈ commonReserved, '\n' ∉ w.toList := by decide
  have hengine : ∀ d ∈ engines, ∀ w ∈ d.reserved, '\n' ∉ w.toList := by decide
  have hupper : '\n' ∈ (String.ofList (part.map Char.toUpper)).toList := by
    rw [String.toList_ofList]
    exact List.mem_map.2 ⟨'\n', hline, by decide⟩
  refine Bool.eq_false_iff.2 fun hreserved => ?_
  rcases Bool.or_eq_true_iff.1 hreserved with h | h
  · exact hcommon _ (List.contains_iff_mem.1 h) hupper
  · exact hengine d hd _ (List.contains_iff_mem.1 h) hupper

theorem isWord_of_line {part : List Char} (hline : '\n' ∈ part) : isWord part = false := by
  refine Bool.eq_false_iff.2 fun hword => ?_
  have hchar := isWordChar_of_isWord hword '\n' hline
  revert hchar
  decide

/-- A broken word is its word with the line break. -/
theorem isBrokenWord_iff {part : List Char} :
    isBrokenWord part = true ↔ ∃ word, isWord word = true ∧ part = word ++ ['\n'] := by
  constructor
  · intro h
    obtain ⟨hlast, hword⟩ := Bool.and_eq_true_iff.1 h
    exact ⟨part.dropLast, hword, (List.dropLast_append_getLast? '\n' (beq_iff_eq.1 hlast)).symm⟩
  · rintro ⟨word, hword, rfl⟩
    simp [isBrokenWord, hword]

theorem standsBare_iff (hd : d ∈ engines) {part : List Char} :
    d.standsBare part = true ↔
      part = ['*'] ∨ isBrokenWord part = true ∨ (isWord part = true ∧ d.isReserved part = false) := by
  unfold standsBare
  rw [Bool.or_eq_true, beq_iff_eq]
  refine or_congr_right ?_
  rw [Bool.and_eq_true, Bool.not_eq_true']
  constructor
  · rintro ⟨hplain, hreserved⟩
    rcases Bool.or_eq_true_iff.1 hplain with hword | hbroken
    · exact .inr ⟨hword, hreserved⟩
    · exact .inl hbroken
  · rintro (hbroken | ⟨hword, hreserved⟩)
    · obtain ⟨word, -, hpart⟩ := isBrokenWord_iff.1 hbroken
      have hline : '\n' ∈ part := by simp [hpart]
      exact ⟨Bool.or_eq_true_iff.2 (.inr hbroken), isReserved_of_line hd hline⟩
    · exact ⟨Bool.or_eq_true_iff.2 (.inl hword), hreserved⟩

/-! ### Writing -/

theorem doublePercent_eq (cs : List Char) :
    doublePercent cs = cs.flatMap fun c => if c = '%' then [c, c] else [c] := by
  induction cs with
  | nil => rfl
  | cons c cs ih =>
    rw [doublePercent, ih, List.flatMap_cons]
    by_cases hc : c = '%'
    · rw [if_pos (beq_iff_eq.2 hc), if_pos hc, hc]
      rfl
    · rw [if_neg (by simpa using hc), if_neg hc]
      rfl

/-- Doubling the quote and then the percent signs doubles each once. -/
theorem verbatim_quotedPart (hd : d.Scannable) (part : List Char) :
    d.verbatim (d.quotedPart part) = d.enclosed part := by
  obtain ⟨q, hq, hdq⟩ := hd.quote
  have hpercent : q ≠ '%' := fun h => absurd (h ▸ hq) (by decide)
  have hverbatim : ∀ c, d.verbatim [c] =
      if d.escapePercent = true ∧ c = '%' then [c, c] else [c] := by
    intro c
    unfold verbatim
    split
    · next hescape => simp [doublePercent_eq, hescape]
    · next hescape => simp [hescape]
  have hquote : d.verbatim [q] = [q] := by rw [hverbatim, if_neg fun h => hpercent h.2]
  have hinner : d.verbatim (doubleQuote [q] part) = part.flatMap fun c =>
      if [q] = [c] ∨ (d.escapePercent = true ∧ c = '%') then [c, c] else [c] := by
    rw [doubleQuote_singleton]
    induction part with
    | nil => unfold verbatim; split <;> rfl
    | cons c part ih =>
      rw [List.flatMap_cons, verbatim_append, ih, List.flatMap_cons]
      congr 1
      by_cases hc : c = q
      · have htwice : d.verbatim [q, q] = [q, q] := by
          rw [← List.singleton_append, verbatim_append, hquote]
        rw [if_pos hc, htwice, if_pos (.inl (by rw [hc])), hc]
      · have hother : [q] ≠ [c] := fun h => hc (List.cons.inj h).1.symm
        rw [if_neg hc, hverbatim]
        simp only [hother, false_or]
  rw [quotedPart, enclosed, hdq, verbatim_append, verbatim_append, hquote, hinner]

/-- A part is written bare or between quotes. -/
theorem writePart_eq (hd : d ∈ engines) (part : List Char) :
    d.writePart part =
      if part = ['*'] ∨ isBrokenWord part = true ∨
          (isWord part = true ∧ d.isReserved part = false)
      then part else d.enclosed part := by
  unfold writePart
  by_cases hbare : d.standsBare part = true
  · rw [if_pos hbare, if_pos ((standsBare_iff hd).1 hbare)]
  · rw [if_neg hbare, if_neg fun h => hbare ((standsBare_iff hd).2 h),
      verbatim_quotedPart (scannable_of_mem_engines hd)]

/-! ### Reading -/

/-- The token that a part of a name is read as. -/
def spokenPart (d : Dialect) (part : List Char) : Token :=
  if isBrokenWord part then .word part.dropLast else d.partToken part

theorem not_isBrokenWord {part : List Char} (h : isWord part = true) :
    isBrokenWord part = false := by
  refine Bool.eq_false_iff.2 fun hbroken => ?_
  obtain ⟨word, -, hpart⟩ := isBrokenWord_iff.1 hbroken
  have hmem : '\n' ∈ part := by simp [hpart]
  have hline := isWord_of_line hmem
  rw [h] at hline
  cases hline

/-- A part of a name is read as one token. -/
theorem spoken_part (hd : d.Scannable) {part : List Char}
    (hbroken : isBrokenWord part = true → d.standsBare part = true) :
    Spoken d (d.writePart part) [d.spokenPart part] := by
  unfold spokenPart partToken writePart
  by_cases hbare : d.standsBare part = true
  · rw [if_pos hbare, if_pos hbare]
    rcases Bool.or_eq_true_iff.1 hbare with hstar | hplain
    · rw [beq_iff_eq.1 hstar]
      exact Phrase.spoken hd (Lead.phrase rfl)
    · rcases Bool.or_eq_true_iff.1 (Bool.and_eq_true_iff.1 hplain).1 with hword | hbreak
      · rw [not_isBrokenWord hword]
        exact (phrase_word hword).spoken hd
      · obtain ⟨word, hword, hpart⟩ := isBrokenWord_iff.1 hbreak
        have hbreak : isBrokenWord part = true := hbreak
        rw [if_pos hbreak, hpart, List.dropLast_concat]
        obtain ⟨us, l, fin, hscan, hfin, hts⟩ := (phrase_word hword).spoken hd
        have hline := Lexeme.scanText_white hd hfin (c := '\n') (by decide)
        exact ⟨us ++ fin, .idle, [], Lexeme.scanText_append hscan hline, rfl,
          (List.append_nil (us ++ fin)).trans hts⟩
  · have hwhole : isBrokenWord part = false := Bool.eq_false_iff.2 fun h => hbare (hbroken h)
    rw [if_neg hbare, if_neg hbare, hwhole]
    exact (phrase_quoted hd part).spoken hd

/-- A name is read as its parts with dots between them. -/
theorem spoken_name (hd : d.Scannable) {parts : List (List Char)} (hsome : parts ≠ [])
    (hbroken : ∀ part ∈ parts, isBrokenWord part = true → d.standsBare part = true) :
    Spoken d (dotted (parts.map d.writePart)) ((parts.map d.spokenPart).intersperse .dot) := by
  induction parts with
  | nil => exact absurd rfl hsome
  | cons part rest ih =>
    have hpart := spoken_part hd (hbroken part List.mem_cons_self)
    cases rest with
    | nil => exact hpart
    | cons part' rest =>
      have hrest := ih (List.cons_ne_nil part' rest)
        fun p hp => hbroken p (List.mem_cons_of_mem part hp)
      exact hpart.dot hd hrest

/-- A part denotes what its token denotes. -/
theorem denoted?_spokenPart (part : List Char) :
    (d.spokenPart part).denoted? d = d.denoted? part := by
  unfold spokenPart denoted?
  by_cases hbroken : isBrokenWord part = true
  · obtain ⟨word, hword, hpart⟩ := isBrokenWord_iff.1 hbroken
    have hstar : word ≠ ['*'] := by
      rintro rfl
      cases hword
    rw [if_pos hbroken, if_pos hbroken, hpart, List.dropLast_concat, Token.denoted?,
      if_neg hstar, hword, Bool.true_and]
    cases d.isReserved word <;> rfl
  · rw [if_neg hbroken, if_neg hbroken]
    unfold partToken Denoted.ofPart
    by_cases hstar : part = ['*']
    · rw [hstar]
      rfl
    · rw [if_neg hstar]
      by_cases hbare : d.standsBare part = true
      · obtain ⟨hplain, hreserved⟩ := Bool.and_eq_true_iff.1
          ((Bool.or_eq_true_iff.1 hbare).resolve_left fun h => hstar (beq_iff_eq.1 h))
        have hword : isWord part = true :=
          (Bool.or_eq_true_iff.1 hplain).resolve_right hbroken
        rw [if_pos hbare, Token.denoted?, if_neg hstar, hword, hreserved]
        rfl
      · rw [if_neg hbare]
        rfl

/-- The engine receives the name as it is written without doubling percent signs. -/
theorem received_quoteName (name : String) :
    d.received (d.quoteName name).toList = some (d.unescaped.quoteName name).toList := by
  unfold received
  cases hescape : d.escapePercent with
  | true =>
    have hrestored := restores_quoteName hescape name [] []
    rw [List.append_nil, percentFormat, Option.map_some, List.append_nil] at hrestored
    rw [if_pos rfl, hrestored]
  | false =>
    have hsame : d.unescaped.writePart = d.writePart := by
      funext part
      unfold writePart verbatim
      rw [hescape]
      rfl
    rw [quoteName, quoteName, hsame]
    rfl

/-- The engine reads each part of a written name for what it denotes. -/
theorem identifier?_quoteName (hd : d ∈ engines) (name : String) :
    d.identifier? (d.quoteName name) = (nameParts name.toList).mapM d.denoted? := by
  have hscan := scannable_unescaped (scannable_of_mem_engines hd)
  have hbroken : ∀ part ∈ nameParts name.toList, isBrokenWord part = true →
      d.unescaped.standsBare part = true :=
    fun part _ h => (standsBare_iff hd).2 (.inr (.inl h))
  have hspoken := spoken_name hscan (nameParts_ne_nil name.toList) hbroken
  have hparts : (nameParts name.toList).map d.unescaped.spokenPart ≠ [] :=
    fun h => nameParts_ne_nil name.toList (List.map_eq_nil_iff.1 h)
  have hdenoted : (Token.denoted? d ∘ d.unescaped.spokenPart) = d.denoted? := by
    funext part
    exact denoted?_spokenPart part
  rw [identifier?, received_quoteName, Option.bind_some, quoteName, String.toList_ofList,
    hspoken.textTokens_eq, Option.bind_some, Token.identifier?_intersperse d hparts,
    List.mapM_map, hdenoted]

/-- A part denotes itself unless it is a broken word. -/
theorem denoted?_eq_ofPart_iff (part : List Char) :
    d.denoted? part = some (.ofPart part) ↔ isBrokenWord part = false := by
  unfold denoted?
  by_cases hbroken : isBrokenWord part = true
  · obtain ⟨word, hword, hpart⟩ := isBrokenWord_iff.1 hbroken
    have hstar : part ≠ ['*'] := by
      rintro rfl
      cases hbroken
    rw [if_pos hbroken, hbroken]
    refine iff_of_false (fun h => ?_) Bool.noConfusion
    split at h
    · cases h
    · rw [Denoted.ofPart, if_neg hstar] at h
      have hlength := congrArg List.length (Denoted.named.inj (Option.some.inj h))
      rw [hpart, List.dropLast_concat] at hlength
      simp at hlength
  · rw [if_neg hbroken]
    exact iff_of_true rfl (Bool.eq_false_iff.2 hbroken)

theorem mapM_denoted?_iff (parts : List (List Char)) :
    parts.mapM d.denoted? = some (parts.map .ofPart) ↔
      ∀ part ∈ parts, isBrokenWord part = false := by
  induction parts with
  | nil => simp
  | cons part rest ih =>
    rw [List.forall_mem_cons, ← ih, ← denoted?_eq_ofPart_iff (d := d), List.mapM_cons,
      List.map_cons]
    cases d.denoted? part with
    | none => simp
    | some a => cases rest.mapM d.denoted? <;> simp

end

/-- What the text of a name promises. -/
structure Identifies (d : Dialect) (name : String) : Prop where
  /-- A part stands bare if it is a star, a word that is not reserved, or a broken word; any
  other part is enclosed. -/
  written : (d.quoteName name).toList = dotted ((nameParts name.toList).map fun part =>
    if part = ['*'] ∨ isBrokenWord part = true ∨ (isWord part = true ∧ d.isReserved part = false)
    then part else d.enclosed part)
  /-- The engine reads the parts, but for the line breaks of broken words. -/
  read : d.identifier? (d.quoteName name) = (nameParts name.toList).mapM d.denoted?
  /-- It reads exactly the parts of the name if none is a broken word, and only then. -/
  exact_iff : d.identifier? (d.quoteName name) = some ((nameParts name.toList).map .ofPart) ↔
    ∀ part ∈ nameParts name.toList, isBrokenWord part = false
  /-- Two names without a broken word that denote the same identifier are the same. -/
  apart : ∀ other : String, (∀ part ∈ nameParts name.toList, isBrokenWord part = false) →
    (∀ part ∈ nameParts other.toList, isBrokenWord part = false) →
    d.identifier? (d.quoteName name) = d.identifier? (d.quoteName other) → name = other

/-- On every engine the text of a name identifies it, up to the line breaks of broken words. -/
theorem quoteName_identifies {d : Dialect} (hd : d ∈ engines) (name : String) :
    d.Identifies name := by
  have hexact : ∀ name : String,
      d.identifier? (d.quoteName name) = some ((nameParts name.toList).map .ofPart) ↔
        ∀ part ∈ nameParts name.toList, isBrokenWord part = false := by
    intro name
    rw [identifier?_quoteName hd]
    exact mapM_denoted?_iff (nameParts name.toList)
  refine ⟨?_, identifier?_quoteName hd name, hexact name, ?_⟩
  · rw [quoteName, String.toList_ofList]
    congr 2
    funext part
    exact writePart_eq hd part
  · intro other hname hother hsame
    rw [(hexact name).2 hname, (hexact other).2 hother] at hsame
    have hparts : nameParts name.toList = nameParts other.toList :=
      List.map_injective_iff.2 (fun _ _ => Denoted.ofPart_injective) (Option.some.inj hsame)
    have hchars : name.toList = other.toList := by
      rw [← dotted_nameParts name.toList, hparts, dotted_nameParts]
    exact String.toList_inj.1 hchars

theorem quoteName_identifies_reserved :
    postgresql ∈ engines ∧ postgresql.quoteName "order.50%" = "\"order\".\"50%%\"" ∧
      postgresql.Identifies "order.50%" :=
  ⟨by simp [engines], by decide +kernel,
    quoteName_identifies (by simp [engines]) "order.50%"⟩

/-- A word with a line break after it stands bare, and denotes what the word denotes. -/
theorem quoteName_broken :
    isColumnName "id\n" = true ∧ isWord "id\n".toList = false ∧
      sqlite.quoteName "id\n" = "id\n" ∧
      sqlite.identifier? (sqlite.quoteName "id\n") ≠ some [.named "id\n".toList] ∧
      sqlite.identifier? (sqlite.quoteName "id\n") =
        sqlite.identifier? (sqlite.quoteName "id") := by
  decide

end Dialect

end SqlGateway
