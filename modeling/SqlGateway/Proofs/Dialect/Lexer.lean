import SqlGateway.Proofs.Dialect.Scanner
import SqlGateway.Proofs.Query.Names
set_option autoImplicit false

/-!
# Dialects: the words of a condition

Condition text is read character by character into tokens, with each piece of a hand-written
fragment as one opaque sign.  Words, symbols and quoted names end where something else begins;
inside quotes a doubled quote is one quote, and a doubled percent sign one percent sign where
the dialect doubles them.

A list of signs is a *phrase* when the reader starts on it between tokens and can end after
it, and a *joint* when it may follow a phrase and leaves the reader between tokens again.
Names and values are phrases; connectives and brackets are joints.
-/

namespace SqlGateway

/-- A sign of rendered text: a character, or a piece of a hand-written fragment. -/
inductive Glyph where
  | sign (c : Char)
  | written (text : String)
  deriving Repr

/-- The signs of a text. -/
def Glyph.signs (cs : List Char) : List Glyph := cs.map .sign

/-- A sign as text of a dialect. -/
def Glyph.chars (d : Dialect) : Glyph → List Char
  | .sign c => [c]
  | .written s => d.verbatim s.toList

namespace Fragment

/-- The signs of a fragment. -/
def glyphs (d : Dialect) : Fragment → List Glyph
  | .written s => [.written s]
  | f => Glyph.signs (f.text d).toList

/-- The signs of fragments. -/
def glyphsOf (d : Dialect) (fs : List Fragment) : List Glyph := fs.flatMap (glyphs d)

/-- The signs of fragments are their text. -/
theorem chars_glyphsOf (d : Dialect) (fs : List Fragment) :
    (glyphsOf d fs).flatMap (Glyph.chars d) = (sql d fs).toList := by
  have hsigns : ∀ cs : List Char, (Glyph.signs cs).flatMap (Glyph.chars d) = cs := by
    intro cs
    induction cs with
    | nil => rfl
    | cons c cs ih => exact congrArg (c :: ·) ih
  rw [toList_sql, glyphsOf, List.flatMap_assoc]
  congr 1
  funext f
  cases f with
  | written p =>
    rw [toList_text_written, glyphs, List.flatMap_cons, List.flatMap_nil, List.append_nil]
    rfl
  | words _ | name _ | bind _ => exact hsigns _

end Fragment

/-! ## Tokens -/

/-- A token of condition text. -/
inductive Token where
  | opening
  | closing
  | comma
  | dot
  | word (cs : List Char)
  /-- A part of a name in quotes. -/
  | quoted (cs : List Char)
  /-- A run of comparison signs. -/
  | symbol (cs : List Char)
  | placeholder
  /-- A value in the place of a placeholder. -/
  | value (v : Value)
  /-- A piece of a hand-written fragment. -/
  | written (text : String)

/-- What has been read of a token. -/
inductive Lexeme where
  | idle
  | word (cs : List Char)
  | symbol (cs : List Char)
  | quoted (cs : List Char)
  /-- After a quote inside quotes, which ends them unless it is doubled. -/
  | quoteSeen (cs : List Char)
  /-- After a percent sign inside quotes, which must be doubled. -/
  | percentSeen (cs : List Char)
  /-- After the percent sign of a placeholder. -/
  | placeholder

namespace Lexeme

/-- Letters, digits and underscores of ASCII. -/
def isWordChar (c : Char) : Bool := Dialect.isAsciiLetter c || c.isDigit || c == '_'

/-- The signs of comparison. -/
def isSymbolChar (c : Char) : Bool := c == '=' || c == '<' || c == '>'

/-- The token that can end here; there is none between tokens. -/
def finish : Lexeme → Option (List Token)
  | .idle => some []
  | .word cs => some [.word cs]
  | .symbol cs => some [.symbol cs]
  | .quoteSeen cs => some [.quoted cs]
  | .quoted _ | .percentSeen _ | .placeholder => none

/-- The first character of a token. -/
def begin (d : Dialect) (c : Char) : Option (List Token × Lexeme) :=
  if c == ' ' then some ([], .idle)
  else if c == '(' then some ([.opening], .idle)
  else if c == ')' then some ([.closing], .idle)
  else if c == ',' then some ([.comma], .idle)
  else if c == '.' then some ([.dot], .idle)
  else if c == '*' then some ([.word ['*']], .idle)
  else if isWordChar c then some ([], .word [c])
  else if isSymbolChar c then some ([], .symbol [c])
  else if d.quote.toList == [c] then some ([], .quoted [])
  else if c == d.style.opening then
    match d.style with
    | .qmark => some ([.placeholder], .idle)
    | .format => some ([], .placeholder)
  else none

/-- A token ends and another one begins. -/
def next (d : Dialect) (l : Lexeme) (c : Char) : Option (List Token × Lexeme) :=
  l.finish.bind fun ts => (begin d c).map fun (us, l) => (ts ++ us, l)

/-- One character more: the tokens that it ends, and what has been read of the next one. -/
def step (d : Dialect) : Lexeme → Char → Option (List Token × Lexeme)
  | .idle, c => begin d c
  | .word cs, c => if isWordChar c then some ([], .word (cs ++ [c])) else next d (.word cs) c
  | .symbol cs, c =>
    if isSymbolChar c then some ([], .symbol (cs ++ [c])) else next d (.symbol cs) c
  | .quoted cs, c =>
    if d.quote.toList == [c] then some ([], .quoteSeen cs)
    else if d.escapePercent && c == '%' then some ([], .percentSeen cs)
    else some ([], .quoted (cs ++ [c]))
  | .quoteSeen cs, c =>
    if d.quote.toList == [c] then some ([], .quoted (cs ++ [c])) else next d (.quoteSeen cs) c
  | .percentSeen cs, c => if c == '%' then some ([], .quoted (cs ++ [c])) else none
  | .placeholder, c => if c == 's' then some ([.placeholder], .idle) else none

/-- One sign more. -/
def read (d : Dialect) (l : Lexeme) : Glyph → Option (List Token × Lexeme)
  | .sign c => step d l c
  | .written s => l.finish.map fun ts => (ts ++ [.written s], .idle)

/-- Many signs more. -/
def scan (d : Dialect) : Lexeme → List Glyph → Option (List Token × Lexeme)
  | l, [] => some ([], l)
  | l, g :: gs =>
    (read d l g).bind fun (ts, m) => (scan d m gs).map fun (us, n) => (ts ++ us, n)

theorem scan_append {d : Dialect} {l m n : Lexeme} {gs hs : List Glyph} {ts us : List Token}
    (h : scan d l gs = some (ts, m)) (k : scan d m hs = some (us, n)) :
    scan d l (gs ++ hs) = some (ts ++ us, n) := by
  induction gs generalizing l ts with
  | nil => cases h; exact k
  | cons g gs ih =>
    rw [scan] at h
    obtain ⟨⟨first, l'⟩, hread, h⟩ := Option.bind_eq_some_iff.1 h
    obtain ⟨⟨rest, m'⟩, hscan, h⟩ := Option.map_eq_some_iff.1 h
    cases h
    rw [List.cons_append, scan, hread, Option.bind_some]
    dsimp only
    rw [ih hscan, Option.map_some, List.append_assoc]

theorem quote_ne {d : Dialect} (hd : d.Scannable) {c : Char} (h : Query.isQuote c = false) :
    (d.quote.toList == [c]) = false := by
  obtain ⟨q, hq, hdq⟩ := hd.quote
  rw [hdq]
  refine beq_eq_false_iff_ne.2 fun heq => ?_
  rw [(List.cons.inj heq).1, h] at hq
  cases hq

/-- A character that ends the token before it is read as the first one of the next. -/
theorem step_separator {d : Dialect} (hd : d.Scannable) {c : Char} {us : List Token}
    (hword : isWordChar c = false) (hsymbol : isSymbolChar c = false)
    (hquote : Query.isQuote c = false) (hbegin : begin d c = some (us, .idle)) {l : Lexeme}
    {ts : List Token} (hl : l.finish = some ts) : step d l c = some (ts ++ us, .idle) := by
  have hnext : next d l c = some (ts ++ us, .idle) := by
    rw [next, hl, hbegin]
    rfl
  have hne := quote_ne hd hquote
  cases l with
  | idle => cases hl; exact hbegin
  | word cs => rw [step, hword]; exact hnext
  | symbol cs => rw [step, hsymbol]; exact hnext
  | quoteSeen cs => rw [step, hne]; exact hnext
  | quoted cs => cases hl
  | percentSeen cs => cases hl
  | placeholder => cases hl

end Lexeme

/-- The tokens of condition text. -/
def tokensOf (d : Dialect) (gs : List Glyph) : Option (List Token) :=
  (Lexeme.scan d .idle gs).bind fun (ts, l) => l.finish.map (ts ++ ·)

/-! ## Phrases and joints -/

/-- From between tokens, the reader goes over the signs and can end after them. -/
def Phrase (d : Dialect) (gs : List Glyph) (ts : List Token) : Prop :=
  ∃ us l fin, Lexeme.scan d .idle gs = some (us, l) ∧ l.finish = some fin ∧ us ++ fin = ts

/-- From between tokens, the reader goes over the signs and is between tokens again. -/
def Lead (d : Dialect) (gs : List Glyph) (ts : List Token) : Prop :=
  Lexeme.scan d .idle gs = some (ts, .idle)

/-- The signs may follow a phrase, and the reader is between tokens after them. -/
def Joint (d : Dialect) (gs : List Glyph) (ts : List Token) : Prop :=
  ∀ l fin, l.finish = some fin → Lexeme.scan d l gs = some (fin ++ ts, .idle)

section

variable {d : Dialect} {gs hs : List Glyph} {ts us : List Token}

theorem Phrase.tokensOf_eq (h : Phrase d gs ts) : tokensOf d gs = some ts := by
  obtain ⟨us, l, fin, hscan, hfin, rfl⟩ := h
  rw [tokensOf, hscan, Option.bind_some]
  dsimp only
  rw [hfin, Option.map_some]

theorem Lead.phrase (h : Lead d gs ts) : Phrase d gs ts :=
  ⟨ts, .idle, [], h, rfl, List.append_nil ts⟩

theorem Lead.append (h : Lead d gs ts) (k : Phrase d hs us) : Phrase d (gs ++ hs) (ts ++ us) := by
  obtain ⟨vs, l, fin, hscan, hfin, rfl⟩ := k
  exact ⟨ts ++ vs, l, fin, Lexeme.scan_append h hscan, hfin, List.append_assoc ts vs fin⟩

theorem Phrase.append_joint (h : Phrase d gs ts) (k : Joint d hs us) :
    Lead d (gs ++ hs) (ts ++ us) := by
  obtain ⟨vs, l, fin, hscan, hfin, rfl⟩ := h
  rw [List.append_assoc]
  exact Lexeme.scan_append hscan (k l fin hfin)

theorem Joint.append (h : Joint d gs ts) (k : Lead d hs us) : Joint d (gs ++ hs) (ts ++ us) := by
  intro l fin hfin
  rw [← List.append_assoc]
  exact Lexeme.scan_append (h l fin hfin) k

/-- A character that separates tokens is a joint. -/
theorem joint_separator (hd : d.Scannable) {c : Char} (hword : Lexeme.isWordChar c = false)
    (hsymbol : Lexeme.isSymbolChar c = false) (hquote : Query.isQuote c = false)
    (hbegin : Lexeme.begin d c = some (ts, .idle)) : Joint d (Glyph.signs [c]) ts := by
  intro l fin hfin
  have hstep := Lexeme.step_separator hd hword hsymbol hquote hbegin hfin
  simp only [Glyph.signs, List.map_cons, List.map_nil, Lexeme.scan, Lexeme.read, hstep,
    Option.bind_some, Option.map_some, List.append_nil]

theorem joint_space (hd : d.Scannable) : Joint d (Glyph.signs [' ']) [] :=
  joint_separator hd (by decide) (by decide) (by decide) rfl

theorem joint_closing (hd : d.Scannable) : Joint d (Glyph.signs [')']) [.closing] :=
  joint_separator hd (by decide) (by decide) (by decide) rfl

theorem joint_comma (hd : d.Scannable) : Joint d (Glyph.signs [',']) [.comma] :=
  joint_separator hd (by decide) (by decide) (by decide) rfl

theorem joint_dot (hd : d.Scannable) : Joint d (Glyph.signs ['.']) [.dot] :=
  joint_separator hd (by decide) (by decide) (by decide) rfl

/-! ## Words of the dialect -/

/-- After a space, words are read from between tokens. -/
theorem Joint.of_space (hd : d.Scannable) {cs : List Char} (h : Lead d (Glyph.signs cs) ts) :
    Joint d (Glyph.signs (' ' :: cs)) ts :=
  (joint_space hd).append h

/-- The tokens of a comparison operator. -/
def Comparison.tokens : Comparison → List Token
  | .like => [.word ['L', 'I', 'K', 'E']]
  | .notLike => [.word ['N', 'O', 'T'], .word ['L', 'I', 'K', 'E']]
  | .ilike => [.word ['I', 'L', 'I', 'K', 'E']]
  | op => [.symbol op.symbol.toList]

theorem joint_comparison (hd : d.Scannable) (op : Comparison) :
    Joint d (Glyph.signs (" " ++ op.symbol ++ " ").toList) op.tokens := by
  cases op <;> exact Joint.of_space hd rfl

/-! ## Values and hand-written pieces -/

/-- The placeholder of the dialect is one token. -/
theorem lead_bind (hd : d.Scannable) (v : Value) :
    Lead d (Fragment.glyphs d (.bind v)) [.placeholder] := by
  have hqmark : (d.quote.toList == ['?']) = false := Lexeme.quote_ne hd (by decide)
  have hpercent : (d.quote.toList == ['%']) = false := Lexeme.quote_ne hd (by decide)
  have hwords : Lexeme.isWordChar '?' = false ∧ Lexeme.isWordChar '%' = false ∧
      Lexeme.isSymbolChar '?' = false ∧ Lexeme.isSymbolChar '%' = false := by decide
  cases hstyle : d.style with
  | qmark =>
    have hbegin : Lexeme.begin d '?' = some ([.placeholder], .idle) := by
      simp [Lexeme.begin, hqmark, hwords, hstyle, ParamStyle.opening]
    simp [Lead, Fragment.glyphs, Fragment.text, Glyph.signs, hstyle, ParamStyle.placeholder,
      Lexeme.scan, Lexeme.read, Lexeme.step, hbegin]
  | format =>
    have hbegin : Lexeme.begin d '%' = some ([], .placeholder) := by
      simp [Lexeme.begin, hpercent, hwords, hstyle, ParamStyle.opening]
    simp [Lead, Fragment.glyphs, Fragment.text, Glyph.signs, hstyle, ParamStyle.placeholder,
      Lexeme.scan, Lexeme.read, Lexeme.step, hbegin]

theorem lead_written (p : String) : Lead d (Fragment.glyphs d (.written p)) [.written p] := rfl

/-! ## Names -/

/-- A part of a name as a token. -/
def Dialect.partToken (d : Dialect) (part : List Char) : Token :=
  if d.standsBare part then .word part else .quoted part

/-- Parts of a name as tokens. -/
def Dialect.partTokens (d : Dialect) : List (List Char) → List Token
  | [] => []
  | [part] => [d.partToken part]
  | part :: rest => d.partToken part :: .dot :: d.partTokens rest

/-- A name as tokens. -/
def Dialect.nameTokens (d : Dialect) (name : String) : List Token :=
  d.partTokens (Query.nameParts name.toList)

/-- In a word, word characters are collected. -/
theorem scan_word {cs ds : List Char} (h : ∀ c ∈ ds, Lexeme.isWordChar c = true) :
    Lexeme.scan d (.word cs) (Glyph.signs ds) = some ([], .word (cs ++ ds)) := by
  induction ds generalizing cs with
  | nil => rw [List.append_nil]; rfl
  | cons c ds ih =>
    have hrest := @ih (cs ++ [c]) fun x hx => h x (List.mem_cons_of_mem c hx)
    rw [List.append_assoc, List.singleton_append] at hrest
    have hc := h c List.mem_cons_self
    simp only [Glyph.signs, List.map_cons, Lexeme.scan, Lexeme.read, Lexeme.step, hc, if_true,
      Option.bind_some]
    simp only [Glyph.signs] at hrest
    rw [hrest]
    rfl

theorem isWordChar_of_isWord {part : List Char} (h : Dialect.isWord part = true) :
    ∀ c ∈ part, Lexeme.isWordChar c = true := by
  cases part with
  | nil => simp
  | cons c rest =>
    obtain ⟨hc, hrest⟩ := Bool.and_eq_true_iff.1 h
    intro x hx
    rcases List.mem_cons.1 hx with rfl | hx
    · rcases Bool.or_eq_true_iff.1 hc with hc | hc <;> simp [Lexeme.isWordChar, hc]
    · exact List.all_eq_true.1 hrest x hx

/-- A word character begins a word. -/
theorem begin_wordChar {c : Char} (h : Lexeme.isWordChar c = true) :
    Lexeme.begin d c = some ([], .word [c]) := by
  have hne : ∀ x : Char, Lexeme.isWordChar x = false → (c == x) = false := by
    intro x hx
    refine beq_eq_false_iff_ne.2 fun heq => ?_
    rw [heq, hx] at h
    cases h
  simp only [Lexeme.begin, hne ' ' (by decide), hne '(' (by decide), hne ')' (by decide),
    hne ',' (by decide), hne '.' (by decide), hne '*' (by decide), h, Bool.false_eq_true,
    if_false, if_true]

theorem phrase_word {part : List Char} (h : Dialect.isWord part = true) :
    Phrase d (Glyph.signs part) [.word part] := by
  have hall := isWordChar_of_isWord h
  cases part with
  | nil => cases h
  | cons c rest =>
    refine ⟨[], .word (c :: rest), [.word (c :: rest)], ?_, rfl, rfl⟩
    have hscan := @scan_word d [c] rest fun x hx => hall x (List.mem_cons_of_mem c hx)
    have hbegin := @begin_wordChar d c (hall c List.mem_cons_self)
    simp only [Glyph.signs] at hscan
    simp only [Glyph.signs, List.map_cons, Lexeme.scan, Lexeme.read, Lexeme.step, hbegin,
      Option.bind_some]
    rw [hscan]
    rfl

theorem verbatim_append (cs ds : List Char) :
    d.verbatim (cs ++ ds) = d.verbatim cs ++ d.verbatim ds := by
  unfold Dialect.verbatim
  split
  · induction cs with
    | nil => rfl
    | cons c cs ih =>
      rw [List.cons_append, Dialect.doublePercent, Dialect.doublePercent, ih]
      split <;> rfl
  · rfl

/-- Inside quotes, each character of a name is read from the way it is written. -/
theorem scan_quotedChar {q : Char} (hq : Query.isQuote q = true) (hdq : d.quote.toList = [q])
    (cs : List Char) (c : Char) :
    Lexeme.scan d (.quoted cs) (Glyph.signs (d.verbatim (if c = q then [q, q] else [c]))) =
      some ([], .quoted (cs ++ [c])) := by
  have hpercent : q ≠ '%' := fun h => absurd (h ▸ hq) (by decide)
  by_cases hc : c = q
  · subst hc
    have hverbatim : d.verbatim [c, c] = [c, c] := by
      simp [Dialect.verbatim, Dialect.doublePercent, hpercent]
    rw [if_pos rfl, hverbatim]
    simp [Glyph.signs, Lexeme.scan, Lexeme.read, Lexeme.step, hdq]
  · rw [if_neg hc]
    by_cases hescape : (d.escapePercent && c == '%') = true
    · obtain ⟨hdoubled, hsign⟩ := Bool.and_eq_true_iff.1 hescape
      obtain rfl := beq_iff_eq.1 hsign
      have hverbatim : d.verbatim ['%'] = ['%', '%'] := by
        rw [Dialect.verbatim, if_pos hdoubled]
        rfl
      rw [hverbatim]
      simp [Glyph.signs, Lexeme.scan, Lexeme.read, Lexeme.step, hdq, hdoubled, hpercent]
    · have hverbatim : d.verbatim [c] = [c] := by
        unfold Dialect.verbatim
        split
        · next h =>
          rw [h, Bool.true_and] at hescape
          simp [Dialect.doublePercent, hescape]
        · rfl
      rw [hverbatim]
      simp [Glyph.signs, Lexeme.scan, Lexeme.read, Lexeme.step, hdq, hescape, Ne.symm hc]

theorem scan_quotedText {q : Char} (hq : Query.isQuote q = true) (hdq : d.quote.toList = [q])
    (cs part : List Char) :
    Lexeme.scan d (.quoted cs) (Glyph.signs (d.verbatim (Dialect.doubleQuote [q] part))) =
      some ([], .quoted (cs ++ part)) := by
  rw [Dialect.doubleQuote_singleton]
  induction part generalizing cs with
  | nil =>
    have hnil : d.verbatim [] = [] := by
      unfold Dialect.verbatim
      split <;> rfl
    rw [List.flatMap_nil, hnil, List.append_nil]
    rfl
  | cons c part ih =>
    rw [List.flatMap_cons, verbatim_append, Glyph.signs, List.map_append]
    have hrest := Lexeme.scan_append (scan_quotedChar hq hdq cs c) (ih (cs ++ [c]))
    rw [List.append_assoc] at hrest
    exact hrest

/-- The quote of the dialect begins a quoted name. -/
theorem begin_quote {q : Char} (hq : Query.isQuote q = true) (hdq : d.quote.toList = [q]) :
    Lexeme.begin d q = some ([], .quoted []) := by
  have hne : ∀ x : Char, Query.isQuote x = false → (q == x) = false := by
    intro x hx
    refine beq_eq_false_iff_ne.2 fun heq => ?_
    rw [heq, hx] at hq
    cases hq
  have hword : Lexeme.isWordChar q = false := by
    refine Bool.eq_false_iff.2 fun h => ?_
    have hplain := Dialect.isPlainChar_of_isWordChar h
    simp [Fragment.isPlainChar, hq] at hplain
  have hsymbol : Lexeme.isSymbolChar q = false := by
    simp only [Lexeme.isSymbolChar, hne '=' (by decide), hne '<' (by decide),
      hne '>' (by decide), Bool.or_false]
  simp only [Lexeme.begin, hne ' ' (by decide), hne '(' (by decide), hne ')' (by decide),
    hne ',' (by decide), hne '.' (by decide), hne '*' (by decide), hword, hsymbol, hdq,
    beq_self_eq_true, Bool.false_eq_true, if_false, if_true]

theorem phrase_quoted (hd : d.Scannable) (part : List Char) :
    Phrase d (Glyph.signs (d.verbatim (d.quotedPart part))) [.quoted part] := by
  obtain ⟨q, hq, hdq⟩ := hd.quote
  have hverbatim : d.verbatim [q] = [q] := by
    have hpercent : q ≠ '%' := fun h => absurd (h ▸ hq) (by decide)
    simp [Dialect.verbatim, Dialect.doublePercent, hpercent]
  have hopened : Lexeme.scan d .idle (Glyph.signs [q]) = some ([], .quoted []) := by
    simp [Glyph.signs, Lexeme.scan, Lexeme.read, Lexeme.step, begin_quote hq hdq]
  have hclosed : Lexeme.scan d (.quoted part) (Glyph.signs [q]) = some ([], .quoteSeen part) := by
    simp [Glyph.signs, Lexeme.scan, Lexeme.read, Lexeme.step, hdq]
  refine ⟨[], .quoteSeen part, [.quoted part], ?_, rfl, rfl⟩
  rw [Dialect.quotedPart, hdq, verbatim_append, verbatim_append, hverbatim, Glyph.signs,
    List.map_append, List.map_append]
  exact Lexeme.scan_append
    (Lexeme.scan_append hopened (scan_quotedText hq hdq [] part)) hclosed

/-- A plain part without a line break is a word. -/
theorem isWord_of_isPlain {part : List Char} (h : Dialect.isPlain part = true)
    (hline : '\n' ∉ part) : Dialect.isWord part = true := by
  rcases Bool.or_eq_true_iff.1 h with hword | hbreak
  · exact hword
  · have hlast := beq_iff_eq.1 (Bool.and_eq_true_iff.1 hbreak).1
    exact absurd (List.mem_of_getLast? hlast) hline

/-- A part of a name is read as one token. -/
theorem phrase_part (hd : d.Scannable) {part : List Char} (hline : '\n' ∉ part) :
    Phrase d (Glyph.signs (d.writePart part)) [d.partToken part] := by
  unfold Dialect.writePart Dialect.partToken
  by_cases hbare : d.standsBare part = true
  · rw [if_pos hbare, if_pos hbare]
    rcases Bool.or_eq_true_iff.1 hbare with hstar | hplain
    · rw [beq_iff_eq.1 hstar]
      exact Lead.phrase rfl
    · exact phrase_word (isWord_of_isPlain (Bool.and_eq_true_iff.1 hplain).1 hline)
  · rw [if_neg hbare, if_neg hbare]
    exact phrase_quoted hd part

/-- A name is read as its parts with dots between them. -/
theorem phrase_name (hd : d.Scannable) {name : String} (hline : '\n' ∉ name.toList) :
    Phrase d (Fragment.glyphs d (.name name)) (d.nameTokens name) := by
  have hparts : ∀ part ∈ Query.nameParts name.toList, '\n' ∉ part :=
    fun part hpart hmem => hline (Query.mem_of_mem_nameParts hpart hmem)
  have hsome := Query.nameParts_ne_nil name.toList
  rw [Fragment.glyphs, Fragment.text, Dialect.quoteName, String.toList_ofList,
    Dialect.nameTokens]
  · generalize Query.nameParts name.toList = parts at hparts hsome
    induction parts with
    | nil => exact absurd rfl hsome
    | cons part rest ih =>
      have hpart := phrase_part hd (hparts part List.mem_cons_self)
      cases rest with
      | nil => exact hpart
      | cons part' rest =>
        have hrest := ih (fun p hp => hparts p (List.mem_cons_of_mem part hp))
          (List.cons_ne_nil part' rest)
        have hall := (hpart.append_joint (joint_dot hd)).append hrest
        simpa [Glyph.signs, Dialect.dotted, Dialect.partTokens] using hall
  · intro p h
    cases h

end

end SqlGateway
