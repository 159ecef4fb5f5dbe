import Mathlib.Algebra.GroupWithZero.Nat
import SqlGateway.Proofs.Dialect.Grammar
import SqlGateway.Proofs.Dialect.Placeholders
set_option autoImplicit false

/-!
# Dialects: percent signs that are not doubled

The driver of MySQL replaces each `%s` of a text, quoted or not, and leaves every other
percent sign alone; so rendering doubles none.  The scanner that counts placeholders, however,
skips quoted text, and lets a percent sign take the next character along, whatever it is.
The driver finds one token for each value and one for each that a name holds.  The scanner
finds one placeholder for each value, but not where a percent sign of a hand-written fragment
stands right before the marker.
-/

namespace SqlGateway

open Query Fragment

namespace Query

/-- How many format placeholders stand in a text, quoted or not. -/
def formatTokens : List Char → Nat
  | [] => 0
  | c :: rest => (if c = '%' ∧ rest.head? = some 's' then 1 else 0) + formatTokens rest

/-- The characters that percent signs outside quoted text take along, read in pairs. -/
def takenAlong (q : QuoteState) : List Char → List Char
  | [] => []
  | c :: rest =>
    if q.isNone && c == '%' then
      match rest with
      | [] => []
      | d :: rest => d :: takenAlong none rest
    else takenAlong (q.step c) rest

/-- A fragment as it is sent to a driver: each marker has become a format placeholder. -/
def marked (q : QuoteState) : List Char → List Char
  | [] => []
  | c :: rest =>
    (if q.isNone && c == '?' then ['%', 's'] else [c]) ++ marked (q.step c) rest

/-! ## Tokens -/

/-- The text may stand after a hand-written fragment: it is empty, or begins with a blank, a comma
or a closing bracket. -/
def Separate (cs : List Char) : Prop := ∀ c ∈ cs.head?, c = ' ' ∨ c = ',' ∨ c = ')'

theorem Separate.nil : Separate [] := nofun

theorem Separate.append {cs ds : List Char} (h : Separate cs) (hsome : cs ≠ []) :
    Separate (cs ++ ds) := by
  cases cs with
  | nil => exact absurd rfl hsome
  | cons c cs => exact h

theorem Separate.head_ne {cs : List Char} (h : Separate cs) {c : Char}
    (hc : c ≠ ' ' ∧ c ≠ ',' ∧ c ≠ ')') : cs.head? ≠ some c := by
  intro hhead
  rcases h c hhead with rfl | rfl | rfl
  · exact hc.1 rfl
  · exact hc.2.1 rfl
  · exact hc.2.2 rfl

/-- A text of which no placeholder can be completed by the next one. -/
theorem formatTokens_append {cs rest : List Char}
    (h : cs.getLast? ≠ some '%' ∨ rest.head? ≠ some 's') :
    formatTokens (cs ++ rest) = formatTokens cs + formatTokens rest := by
  induction cs with
  | nil => simp [formatTokens]
  | cons c cs ih =>
    cases cs with
    | nil =>
      have hnone : ¬ (c = '%' ∧ rest.head? = some 's') := by
        rintro ⟨rfl, hs⟩
        rcases h with h | h
        · exact h rfl
        · exact h hs
      simp [formatTokens, hnone]
    | cons c' cs =>
      have hrest := ih (by simpa using h)
      have hfirst : ∀ more, formatTokens (c :: c' :: more) =
          (if c = '%' ∧ some c' = some 's' then 1 else 0) + formatTokens (c' :: more) :=
        fun more => rfl
      rw [List.cons_append] at hrest
      rw [List.cons_append, List.cons_append, hfirst, hfirst, hrest, Nat.add_assoc]

theorem formatTokens_eq_zero {cs : List Char} (h : '%' ∉ cs) : formatTokens cs = 0 := by
  induction cs with
  | nil => rfl
  | cons c cs ih =>
    have hc : c ≠ '%' := fun hc => h (hc ▸ List.mem_cons_self)
    simp [formatTokens, hc, ih fun hcs => h (List.mem_cons_of_mem c hcs)]

/-- A text without percent signs holds no placeholder, whatever follows. -/
theorem formatTokens_of_not_mem {cs : List Char} (h : '%' ∉ cs) (rest : List Char) :
    formatTokens (cs ++ rest) = formatTokens rest := by
  have hlast : cs.getLast? ≠ some '%' := fun hlast => h (List.mem_of_getLast? hlast)
  rw [formatTokens_append (.inl hlast), formatTokens_eq_zero h, Nat.zero_add]

/-- With the markers of a fragment replaced there are as many placeholders more. -/
theorem formatTokens_marked (q : QuoteState) (cs : List Char) {rest : List Char}
    (hrest : Separate rest) :
    formatTokens (marked q cs ++ rest) = countQmark q cs + formatTokens cs + formatTokens rest := by
  have hs : rest.head? ≠ some 's' := hrest.head_ne (by decide)
  induction cs generalizing q with
  | nil => simp [marked, countQmark, formatTokens]
  | cons c cs ih =>
    rw [marked, countQmark, formatTokens]
    by_cases hmarker : (q.isNone && c == '?') = true
    · obtain rfl : c = '?' := beq_iff_eq.1 (Bool.and_eq_true_iff.1 hmarker).2
      simp only [hmarker, if_true, List.cons_append, List.nil_append, formatTokens, ih]
      simp
      omega
    · have hhead : (marked (q.step c) cs ++ rest).head? = some 's' ↔ cs.head? = some 's' := by
        cases cs with
        | nil => simp [marked, hs]
        | cons c' cs => 
          simp only [marked]
          split
          next hc' =>
            obtain rfl : c' = '?' := beq_iff_eq.1 (Bool.and_eq_true_iff.1 hc').2
            simp
          next => simp
      simp only [hmarker, Bool.false_eq_true, if_false, List.cons_append, List.nil_append,
        formatTokens, ih, hhead]
      omega

/-! ## The scanner -/

theorem countFormat_skip {q : QuoteState} {c : Char} (h : (q.isNone && c == '%') = false)
    (rest : List Char) : countFormat q (c :: rest) = countFormat (q.step c) rest := by
  rw [countFormat.eq_def]
  simp only [h, Bool.false_eq_true, if_false]

theorem countFormat_percent (c : Char) (rest : List Char) :
    countFormat none ('%' :: c :: rest) = (if c = 's' then 1 else 0) + countFormat none rest := by
  simp [countFormat]

/-- A percent sign at the end of a fragment takes nothing along that is missed. -/
theorem countFormat_percent_separate {rest : List Char} (h : Separate rest) :
    countFormat none ('%' :: rest) = countFormat none rest := by
  cases rest with
  | nil => rfl
  | cons c rest =>
    have hskip : countFormat none (c :: rest) = countFormat none rest := by
      rcases h c rfl with rfl | rfl | rfl <;> exact countFormat_skip rfl rest
    have hs : c ≠ 's' := fun hs => h.head_ne (by decide) (congrArg some hs)
    rw [countFormat_percent, hskip, if_neg hs, Nat.zero_add]

/-- Where the scanner passes over a text, it counts as from its end. -/
theorem countFormat_of_passes {cs : List Char} (h : Passes .format none none cs)
    (rest : List Char) : countFormat none (cs ++ rest) = countFormat none rest := by
  have hplaces := congrArg List.length (h 0 rest)
  simpa only [placesFrom, length_formatPlaces] using hplaces

/-- Of the markers of a fragment the scanner finds those that no percent sign takes along, if none
takes a quote along.  By recursion as the characters are taken. -/
theorem countFormat_marked {q : QuoteState} {cs rest : List Char} (hrest : Separate rest)
    (hends : q.after cs = none) (hown : formatTokens cs = 0)
    (hsteady : ∀ c ∈ takenAlong q cs, isQuote c = false) :
    countFormat q (marked q cs ++ rest) + (takenAlong q cs).count '?' =
      countQmark q cs + countFormat none rest := by
  fun_induction takenAlong q cs with
  | case1 q =>
    obtain rfl : q = none := hends
    simp [marked, countQmark]
  | case2 q c h =>
    obtain ⟨hnone, hc⟩ := Bool.and_eq_true_iff.1 h
    obtain rfl := Option.isNone_iff_eq_none.1 hnone
    obtain rfl := beq_iff_eq.1 hc
    have hend := countFormat_percent_separate hrest
    simpa [marked, countQmark] using hend
  | case3 q c h d more ih =>
    obtain ⟨hnone, hc⟩ := Bool.and_eq_true_iff.1 h
    obtain rfl := Option.isNone_iff_eq_none.1 hnone
    obtain rfl := beq_iff_eq.1 hc
    have hd : isQuote d = false := hsteady d List.mem_cons_self
    have hstep : QuoteState.step none d = none := by simp [QuoteState.step, hd]
    have hpercent : QuoteState.step none '%' = none := rfl
    have hmore :=
      ih (by rwa [QuoteState.after_cons, hpercent, QuoteState.after_cons, hstep] at hends)
      (by simp only [formatTokens] at hown; omega) fun c hc => hsteady c (List.mem_cons_of_mem d hc)
    by_cases hmarker : d = '?'
    · subst hmarker
      have hs : countFormat none ('s' :: (marked none more ++ rest)) =
          countFormat none (marked none more ++ rest) := countFormat_skip rfl _
      simp [marked, countQmark, hpercent, hstep, countFormat_percent, hs]
      omega
    · have hs : d ≠ 's' := by
        rintro rfl
        simp [formatTokens] at hown
      simp [marked, countQmark, hpercent, hstep, countFormat_percent, hmarker, hs]
      omega
  | case4 q c more h ih =>
    have hmore := ih hends (by simp only [formatTokens] at hown; omega) hsteady
    rw [marked, countQmark]
    by_cases hmarker : (q.isNone && c == '?') = true
    · obtain ⟨hnone, hc⟩ := Bool.and_eq_true_iff.1 hmarker
      obtain rfl := Option.isNone_iff_eq_none.1 hnone
      obtain rfl := beq_iff_eq.1 hc
      have hstep : QuoteState.step none '?' = none := rfl
      rw [hstep] at hmore
      simp [countFormat_percent, hstep]
      omega
    · have hskip := countFormat_skip (Bool.eq_false_iff.2 h) (marked (q.step c) more ++ rest)
      simp only [hmarker, Bool.false_eq_true, if_false, List.cons_append, List.nil_append, hskip]
      omega

end Query

/-! ## Names -/

namespace Dialect

/-- Placeholders are format ones, and no percent sign is doubled. -/
structure Undoubled (d : Dialect) : Prop extends d.Scannable where
  style : d.style = .format
  single : d.escapePercent = false

theorem undoubled_mysql : mysql.Undoubled := ⟨scannable_mysql, rfl, rfl⟩

/-- A quote neither begins nor completes a placeholder. -/
theorem formatTokens_doubleQuote {q : Char} (hq : isQuote q = true) (cs : List Char) :
    formatTokens (doubleQuote [q] cs) = formatTokens cs := by
  have hpercent : q ≠ '%' := by rintro rfl; cases hq
  have hs : q ≠ 's' := by rintro rfl; cases hq
  rw [doubleQuote_singleton]
  induction cs with
  | nil => rfl
  | cons c cs ih =>
    rw [List.flatMap_cons]
    by_cases hc : c = q
    · subst hc
      simp [formatTokens, hpercent, ih]
    · have hhead : (cs.flatMap fun c => if c = q then [q, q] else [c]).head? = some 's' ↔
          cs.head? = some 's' := by
        cases cs with
        | nil => rfl
        | cons c' cs =>
          by_cases hc' : c' = q
          · simp [hc']
          · simp [hc']
      simp [formatTokens, hc, ih, hhead]

variable {d : Dialect}

theorem formatTokens_writePart (hd : d.Undoubled) (part : List Char) :
    formatTokens (d.writePart part) = formatTokens part := by
  unfold writePart
  split
  · rfl
  · obtain ⟨q, hq, hquote⟩ := hd.quote
    have hpercent : q ≠ '%' := by rintro rfl; cases hq
    have hs : q ≠ 's' := by rintro rfl; cases hq
    have hclosed : formatTokens (doubleQuote [q] part ++ [q]) = formatTokens part := by
      rw [formatTokens_append (.inr (by simpa using hs)), formatTokens_doubleQuote hq]
      simp [formatTokens]
    simp only [verbatim, hd.single, Bool.false_eq_true, if_false, quotedPart, hquote]
    simpa [formatTokens, hpercent] using hclosed

/-- A dot neither begins nor completes a placeholder. -/
theorem formatTokens_dotted (parts : List (List Char)) :
    formatTokens (dotted parts) = (parts.map formatTokens).sum := by
  induction parts with
  | nil => rfl
  | cons part rest ih =>
    cases rest with
    | nil => simp [dotted]
    | cons part' rest =>
      rw [dotted, formatTokens_append (.inr (by simp)), List.map_cons, List.sum_cons, ← ih]
      · simp [formatTokens]
      · exact List.cons_ne_nil _ _

/-- A name does not end in a percent sign, as it is written. -/
theorem getLast?_quoteName (hd : d.Undoubled) (name : String) :
    (d.quoteName name).toList.getLast? ≠ some '%' := by
  have hpart : ∀ part, (d.writePart part).getLast? ≠ some '%' := by
    intro part hlast
    have hmem := List.mem_of_getLast? hlast
    unfold writePart at hlast hmem
    split at hlast
    next hbare =>
      rw [if_pos hbare] at hmem
      have hplain := List.all_eq_true.1 (isPlainChar_of_standsBare hbare) '%' hmem
      cases hplain
    next hbare =>
      obtain ⟨q, hq, hquote⟩ := hd.quote
      simp only [verbatim, hd.single, Bool.false_eq_true, if_false, quotedPart, hquote,
        List.getLast?_append, List.getLast?_singleton, Option.some_or, Option.some.injEq] at hlast
      subst hlast
      cases hq
  rw [quoteName, String.toList_ofList]
  generalize nameParts name.toList = parts
  induction parts with
  | nil => simp [dotted]
  | cons part rest ih =>
    cases rest with
    | nil => exact hpart part
    | cons part' rest =>
      intro hlast
      simp only [List.map_cons, dotted, List.getLast?_append, List.getLast?_cons] at hlast
      simp only [List.map_cons] at ih
      generalize dotted _ = written at hlast ih
      cases hwritten : written.getLast? with
      | none => simp [hwritten] at hlast
      | some c => simp_all

/-- However a name is written, it holds the same placeholders. -/
theorem formatTokens_quoteName (hd : d.Undoubled) (name : String) :
    formatTokens (d.quoteName name).toList = formatTokens name.toList := by
  have hparts : ∀ part, formatTokens (d.writePart part) = formatTokens part :=
    formatTokens_writePart hd
  rw [quoteName, String.toList_ofList, formatTokens_dotted, List.map_map]
  conv_rhs => rw [← dotted_nameParts name.toList, formatTokens_dotted]
  exact congrArg List.sum (List.map_congr_left fun part _ => hparts part)

/-! ## Hand-written fragments -/

/-- The pieces of a fragment with its values, as they are sent to a driver. -/
theorem toList_sql_weave (hd : d.Undoubled) {q : QuoteState} {cs : List Char} {vs : List Value}
    (hcount : (splitMarkersFrom q cs).2.length = vs.length) :
    (sql d (weave (((splitMarkersFrom q cs).1 :: (splitMarkersFrom q cs).2).map String.ofList)
      vs)).toList = marked q cs := by
  have hwritten : ∀ piece, ((Fragment.written (String.ofList piece)).text d).toList = piece := by
    intro piece
    rw [toList_text_written, verbatim, hd.single, String.toList_ofList]
    rfl
  have hbind : ∀ v, ((Fragment.bind v).text d).toList = ['%', 's'] := by
    intro v
    rw [Fragment.text, hd.style]
    rfl
  have hempty : (sql d []).toList = [] := rfl
  induction cs generalizing q vs with
  | nil =>
    obtain rfl := List.length_eq_zero_iff.1 hcount.symm
    simp only [splitMarkersFrom, weave_singleton, toList_sql_cons, hwritten, hempty]
    rfl
  | cons c cs ih =>
    have hrest := @ih (q.step c)
    simp only [splitMarkersFrom, marked] at hcount ⊢
    generalize (splitMarkersFrom (q.step c) cs).1 = piece at hcount hrest ⊢
    generalize (splitMarkersFrom (q.step c) cs).2 = more at hcount hrest ⊢
    by_cases hmarker : (q.isNone && c == '?') = true
    · simp only [hmarker, if_true] at hcount ⊢
      cases vs with
      | nil => cases hcount
      | cons v vs =>
        rw [weave_cons, toList_sql_cons, toList_sql_cons, hwritten, hbind,
          hrest (by simpa using hcount)]
        rfl
    · simp only [hmarker, Bool.false_eq_true, if_false] at hcount ⊢
      cases more with
      | nil =>
        obtain rfl := List.length_eq_zero_iff.1 hcount.symm
        have hpiece := @hrest [] hcount
        rw [weave_singleton, toList_sql_cons, hwritten, hempty, List.append_nil] at hpiece ⊢
        rw [hpiece]
        rfl
      | cons next more =>
        cases vs with
        | nil => cases hcount
        | cons v vs =>
          have hpiece := hrest hcount
          rw [weave_cons, toList_sql_cons, hwritten] at hpiece ⊢
          rw [List.cons_append, hpiece]
          rfl

end Dialect

/-! ## Tallies -/

namespace Fragment

/-- How many placeholders stand in the fragment if it is a name. -/
def ownTokens : Fragment → Nat
  | .name n => formatTokens n.toList
  | _ => 0

/-- How many placeholders stand in the names among the fragments. -/
def namedTokens (fs : List Fragment) : Nat := (fs.map ownTokens).sum

theorem namedTokens_words (s : String) (fs : List Fragment) :
    namedTokens (.words s :: fs) = namedTokens fs := Nat.zero_add _

theorem namedTokens_name (n : String) (fs : List Fragment) :
    namedTokens (.name n :: fs) = formatTokens n.toList + namedTokens fs := rfl

theorem namedTokens_bind (v : Value) (fs : List Fragment) :
    namedTokens (.bind v :: fs) = namedTokens fs := Nat.zero_add _

theorem namedTokens_written (p : String) (fs : List Fragment) :
    namedTokens (.written p :: fs) = namedTokens fs := Nat.zero_add _

theorem namedTokens_append (fs gs : List Fragment) :
    namedTokens (fs ++ gs) = namedTokens fs + namedTokens gs := by
  simp [namedTokens]

/-- In the text of the fragments a driver finds a token for each value and each one that a name
holds.  If the hand-written texts are `steady`, the scanner finds a placeholder for each value but
for so many.  A text that may stand after a hand-written fragment changes nothing. -/
structure Tallies (d : Dialect) (steady : Prop) (missed : Nat) (fs : List Fragment) : Prop where
  tokens : ∀ rest, Separate rest → formatTokens ((sql d fs).toList ++ rest) =
    (binds fs).length + namedTokens fs + formatTokens rest
  found : steady → ∀ rest, Separate rest →
    countFormat none ((sql d fs).toList ++ rest) + missed =
      (binds fs).length + countFormat none rest

/-- The words may stand between fragments: they are plain, and may stand after hand-written
text. -/
def Divides (s : String) : Prop := isPlainText s = true ∧ s ≠ "" ∧ Separate s.toList

namespace Tallies

variable {d : Dialect} {steady : Prop} {m n : Nat} {fs gs : List Fragment}

theorem nil : Tallies d steady 0 [] := by
  refine ⟨fun rest _ => ?_, fun _ rest _ => ?_⟩
  · simp [toList_sql, binds, namedTokens]
  · simp [toList_sql, binds]

/-- Words, names and values are read alike wherever they stand. -/
theorem cons {f : Fragment} (hd : d.Undoubled) (hf : f.From []) (h : Tallies d steady n fs) :
    Tallies d steady n (f :: fs) := by
  cases f with
  | words s =>
    have hplain : ∀ c ∈ s.toList, isPlainChar c = true := List.all_eq_true.1 hf
    have hpercent : '%' ∉ s.toList := fun hmem => nomatch hplain '%' hmem
    refine ⟨fun rest hrest => ?_, fun hsteady rest hrest => ?_⟩
    · rw [toList_sql_cons, List.append_assoc, text, formatTokens_of_not_mem hpercent,
        h.tokens rest hrest, binds_words, namedTokens_words]
    · rw [toList_sql_cons, List.append_assoc, text,
        countFormat_of_passes (Dialect.passes_plain hf), h.found hsteady rest hrest, binds_words]
  | name name =>
    refine ⟨fun rest hrest => ?_, fun hsteady rest hrest => ?_⟩
    · rw [toList_sql_cons, List.append_assoc, text,
        formatTokens_append (.inl (Dialect.getLast?_quoteName hd name)),
        Dialect.formatTokens_quoteName hd, h.tokens rest hrest, binds_name, namedTokens_name]
      omega
    · have hpasses := Dialect.passes_quoteName hd.toScannable name
      rw [hd.style] at hpasses
      rw [toList_sql_cons, List.append_assoc, text, countFormat_of_passes hpasses,
        h.found hsteady rest hrest, binds_name]
  | bind v =>
    have hbind : ((Fragment.bind v).text d).toList = ['%', 's'] := by
      rw [Fragment.text, hd.style]
      rfl
    refine ⟨fun rest hrest => ?_, fun hsteady rest hrest => ?_⟩
    · have htokens := h.tokens rest hrest
      rw [toList_sql_cons, List.append_assoc, hbind, binds_bind, namedTokens_bind,
        List.length_cons]
      simp [formatTokens, htokens]
      omega
    · have hfound := h.found hsteady rest hrest
      rw [toList_sql_cons, List.append_assoc, hbind, binds_bind, List.length_cons]
      simp only [List.cons_append, List.nil_append, countFormat_percent, if_true]
      omega
  | written p =>
    obtain ⟨text, htext, -⟩ := hf
    cases htext

/-- Fragments that hold nothing hand-written are read alike wherever they stand. -/
theorem of_rendered {known : Prop} {vs : List Value} (hd : d.Undoubled)
    (h : Rendered [] known vs fs) : Tallies d steady 0 fs := by
  have horigin := h.origin
  clear h
  induction fs with
  | nil => exact nil
  | cons f fs ih =>
    exact (ih fun g hg => horigin g (List.mem_cons_of_mem f hg)).cons hd
      (horigin f List.mem_cons_self)

/-- Fragments follow others if their text may. -/
theorem append (h : Tallies d steady m fs) (k : Tallies d steady n gs)
    (hgs : ∀ rest, Separate rest → Separate ((sql d gs).toList ++ rest)) :
    Tallies d steady (m + n) (fs ++ gs) := by
  have hsql : (sql d (fs ++ gs)).toList = (sql d fs).toList ++ (sql d gs).toList := by
    simp [toList_sql]
  refine ⟨fun rest hrest => ?_, fun hsteady rest hrest => ?_⟩
  · have hfirst := h.tokens _ (hgs rest hrest)
    have hsecond := k.tokens rest hrest
    rw [hsql, List.append_assoc, hfirst, hsecond, binds_append, namedTokens_append,
      List.length_append]
    omega
  · have hfirst := h.found hsteady _ (hgs rest hrest)
    have hsecond := k.found hsteady rest hrest
    rw [hsql, List.append_assoc, binds_append, List.length_append]
    omega

/-- Fragments with words between them keep out of each other's way. -/
theorem append_words (hd : d.Undoubled) {s : String} (hs : Divides s) (h : Tallies d steady m fs)
    (k : Tallies d steady n gs) : Tallies d steady (m + n) (fs ++ .words s :: gs) := by
  refine h.append (k.cons hd hs.1) fun rest _ => ?_
  rw [toList_sql_cons, List.append_assoc]
  have hsome : s.toList ≠ [] := fun hnil => hs.2.1 (String.toList_eq_nil_iff.1 hnil)
  exact hs.2.2.append hsome

theorem bracketed (hd : d.Undoubled) (h : Tallies d steady n fs) :
    Tallies d steady n (bracketed fs) := by
  have hclose : Divides ")" := ⟨rfl, by decide, fun c hc => .inr (.inr (by simpa using hc.symm))⟩
  have hinner := h.append_words hd hclose nil
  exact hinner.cons hd (f := .words "(") rfl

end Tallies

/-- Groups of fragments that miss so many placeholders together. -/
inductive TalliesGroups (d : Dialect) (steady : Prop) : Nat → List (List Fragment) → Prop where
  | nil : TalliesGroups d steady 0 []
  | cons {m n : Nat} {g : List Fragment} {gs : List (List Fragment)} (h : Tallies d steady m g)
      (hs : TalliesGroups d steady n gs) : TalliesGroups d steady (m + n) (g :: gs)

namespace TalliesGroups

variable {d : Dialect} {steady : Prop} {m n : Nat} {gs hs : List (List Fragment)}

theorem single {g : List Fragment} (h : Tallies d steady n g) : TalliesGroups d steady n [g] :=
  .cons h .nil

theorem append (h : TalliesGroups d steady m gs) (k : TalliesGroups d steady n hs) :
    TalliesGroups d steady (m + n) (gs ++ hs) := by
  induction h with
  | nil => rwa [Nat.zero_add]
  | cons hg _ ih =>
    rw [Nat.add_assoc]
    exact .cons hg ih

theorem of_rendered {known : Prop} {vs : List Value} (hd : d.Undoubled)
    (h : Rendered [] known vs gs.flatten) : TalliesGroups d steady 0 gs := by
  have horigin := h.origin
  clear h
  induction gs with
  | nil => exact .nil
  | cons g gs ih =>
    have hg : Rendered [] False [] g :=
      ⟨fun f hf => horigin f (List.mem_append_left _ hf), False.elim⟩
    exact .cons (.of_rendered hd hg) (ih fun f hf => horigin f (List.mem_append_right _ hf))

/-- Words between groups keep them out of each other's way. -/
theorem joinWith (hd : d.Undoubled) {separator : String} (hs : Divides separator)
    (h : TalliesGroups d steady n gs) : Tallies d steady n (joinWith separator gs) := by
  induction h with
  | nil => exact .nil
  | @cons _ n g gs hg hgs ih =>
    cases hgs with
    | nil => exact hg
    | cons _ _ => exact hg.append_words hd hs ih

end TalliesGroups

end Fragment

/-! ## Rendering -/

namespace Dialect

variable {d : Dialect} {steady : Prop}

/-- How many markers of hand-written texts percent signs take along. -/
def markersTaken (texts : List String) : Nat :=
  (texts.map fun t => (takenAlong none t.toList).count '?').sum

theorem markersTaken_append (texts more : List String) :
    markersTaken (texts ++ more) = markersTaken texts + markersTaken more := by
  simp [markersTaken]

/-- The text ends outside quotes and holds no placeholder of its own; where texts are `steady`,
no percent sign in it takes a quote along. -/
structure Suits (steady : Prop) (text : String) : Prop where
  ends : endsUnquoted text.toList = true
  own : formatTokens text.toList = 0
  steady : steady → ∀ c ∈ takenAlong none text.toList, isQuote c = false

/-- Rendering gives fragments that miss as many placeholders as the texts lose markers. -/
def Tallied (d : Dialect) (steady : Prop) (texts : List String) :
    Except QueryError (List Fragment) → Prop :=
  Gives (fun _ => True) (Tallies d steady (markersTaken texts))

def TalliedGroups (d : Dialect) (steady : Prop) (texts : List String) :
    Except QueryError (List (List Fragment)) → Prop :=
  Gives (fun _ => True) (TalliesGroups d steady (markersTaken texts))

theorem Renders.tallied (hd : d.Undoubled) {known : Prop} {vs : List Value}
    {x : Except QueryError (List Fragment)} (h : Renders [] known vs x) :
    Tallied d steady [] x :=
  Gives.mono h (fun _ _ => trivial) fun _ hfs => .of_rendered hd hfs

theorem RendersGroups.tallied (hd : d.Undoubled) {known : Prop} {vs : List Value}
    {x : Except QueryError (List (List Fragment))} (h : RendersGroups [] known vs x) :
    TalliedGroups d steady [] x :=
  Gives.mono h (fun _ _ => trivial) fun _ hgs => .of_rendered hd hgs

theorem namedTokens_weave (pieces : List String) (vs : List Value) :
    namedTokens (weave pieces vs) = 0 := by
  induction pieces generalizing vs with
  | nil => cases vs <;> rfl
  | cons p ps ih =>
    cases vs with
    | nil => rfl
    | cons v vs => rw [weave, namedTokens_written, namedTokens_bind, ih]

theorem raw_tallied (hd : d.Undoubled) {text : String} (hsuits : Suits steady text)
    (vs : List Value) : Tallied d steady [text] (raw text vs) := by
  by_cases hcount : (splitMarkers text).length - 1 = vs.length
  · have hlength : (splitMarkersFrom none text.toList).2.length = vs.length := by
      simpa [splitMarkers] using hcount
    have hsql : (sql d (weave (splitMarkers text) vs)).toList = marked none text.toList :=
      toList_sql_weave hd hlength
    have hmarkers : countQmark none text.toList = vs.length := by
      rw [← length_splitMarkersFrom, hlength]
    have hrendered : Rendered [text] True vs (weave (splitMarkers text) vs) :=
      weave_splitMarkers_rendered hcount
    rw [raw_of_count hcount]
    refine .ok ⟨fun rest hrest => ?_, fun hsteady rest hrest => ?_⟩
    · rw [hsql, formatTokens_marked none text.toList hrest, hmarkers, hsuits.own,
        namedTokens_weave, hrendered.binds trivial]
    · have hends : QuoteState.after none text.toList = none :=
        Option.isNone_iff_eq_none.1 hsuits.ends
      have hfound := countFormat_marked hrest hends hsuits.own (hsuits.steady hsteady)
      rw [hsql, hrendered.binds trivial, ← hmarkers, ← hfound]
      simp [markersTaken]
  · rw [raw, if_pos hcount]
    exact .error trivial

/-! ### Conditions -/

theorem divides_space : Divides " " :=
  ⟨rfl, by decide, fun c hc => .inl (by simpa using hc.symm)⟩

theorem divides_connective (op : Connective) : Divides (" " ++ op.keyword ++ " ") := by
  cases op <;> exact ⟨rfl, by decide, fun c hc => .inl (by simpa using hc.symm)⟩

/-- By recursion on the rendering: what stands between hand-written fragments divides them. -/
theorem condition_tallied (hd : d.Undoubled) (nested : Bool) (c : Condition) :
    c.WellFormed → (∀ t ∈ c.writtenTexts, Suits steady t) →
      Tallied d steady c.writtenTexts (d.condition nested c) := by
  refine condition.induct d
    (fun nested c => c.WellFormed → (∀ t ∈ c.writtenTexts, Suits steady t) →
      Tallied d steady c.writtenTexts (d.condition nested c))
    (fun cs => (∀ c ∈ cs, c.WellFormed) →
      (∀ t ∈ cs.flatMap Condition.writtenTexts, Suits steady t) →
      TalliedGroups d steady (cs.flatMap Condition.writtenTexts) (d.conditions cs))
    ?lacking ?comparison ?idle ?negation ?single ?junction ?between ?empty ?members ?null ?raw
    ?stray ?nil ?cons nested c
  case lacking =>
    exact fun nested op left right _ _ _ => (compare_renders nested op left right).tallied hd
  case comparison =>
    exact fun nested op left right _ _ _ => (compare_renders nested op left right).tallied hd
  case idle => exact fun nested _ _ => .error trivial
  case negation =>
    intro nested c tail ih hwell hsuits
    have halone : c.WellFormed ∧ tail = [] := by
      cases hwell with
      | negation h => exact ⟨h, rfl⟩
      | junction hop => exact absurd rfl hop
    obtain ⟨hc, rfl⟩ := halone
    have htexts : (Condition.logical .not [c]).writtenTexts = c.writtenTexts := by
      simp [Condition.writtenTexts_logical]
    rw [htexts] at hsuits ⊢
    rw [condition]
    exact (ih hc hsuits).bind fun fs hfs =>
      .ok ((hfs.bracketed hd).cons hd (f := .words "NOT ") rfl)
  case single =>
    intro nested op c hop ih hwell hsuits
    have htexts : (Condition.logical op [c]).writtenTexts = c.writtenTexts := by
      simp [Condition.writtenTexts_logical]
    rw [htexts] at hsuits ⊢
    rw [condition_single hop]
    exact ih (hwell.children c List.mem_cons_self) hsuits
  case junction =>
    intro nested op children hidle hnot hsingle ih hwell hsuits
    have hop : op ≠ .not := by
      rintro rfl
      cases children with
      | nil => exact hidle rfl rfl
      | cons c tail => exact hnot c tail rfl rfl
    rw [Condition.writtenTexts_logical] at hsuits ⊢
    rw [condition_junction hop hsingle]
    refine (ih hwell.children hsuits).bind fun parts hparts => .ok ?_
    have hjoined := hparts.joinWith hd (divides_connective op)
    cases nested with
    | true => exact hjoined.bracketed hd
    | false => exact hjoined
  case between =>
    exact fun nested column low high negated _ _ =>
      (between_renders nested column low high negated).tallied hd
  case empty =>
    exact fun nested column negated _ _ => (inSet_renders nested column [] negated).tallied hd
  case members =>
    exact fun nested column members negated _ _ _ =>
      (inSet_renders nested column members negated).tallied hd
  case null =>
    exact fun nested column negated _ _ => (isNull_renders nested column negated).tallied hd
  case raw =>
    intro nested text vs _ hsuits
    rw [condition]
    refine (raw_tallied hd (hsuits text List.mem_cons_self) vs).bind fun fs hfs => ?_
    cases nested with
    | true => exact .ok (hfs.bracketed hd)
    | false => exact .ok hfs
  case stray => exact fun nested n _ _ => .error trivial
  case nil => exact fun _ _ => .ok .nil
  case cons =>
    intro c cs hfirst hrest hwell hsuits
    rw [List.flatMap_cons] at hsuits ⊢
    have hone :=
      hfirst (hwell c List.mem_cons_self) fun t ht => hsuits t (List.mem_append_left _ ht)
    have hmore := hrest (fun e he => hwell e (List.mem_cons_of_mem c he)) fun t ht =>
      hsuits t (List.mem_append_right _ ht)
    rw [conditions, TalliedGroups, markersTaken_append]
    exact hone.bind fun g hg => hmore.bind fun gs hgs => .ok (.cons hg hgs)

/-! ### Clauses and statements -/

theorem clause_tallied (hd : d.Undoubled) {keyword : String}
    (hkeyword : isPlainText (keyword ++ " ") = true) {o : Option Condition}
    (hwell : ∀ c ∈ o, c.WellFormed)
    (hsuits : ∀ t ∈ o.toList.flatMap Condition.writtenTexts, Suits steady t) :
    TalliedGroups d steady (o.toList.flatMap Condition.writtenTexts) (d.clause keyword o) := by
  cases o with
  | none => exact .ok .nil
  | some c =>
    have htexts : (some c).toList.flatMap Condition.writtenTexts = c.writtenTexts := by simp
    rw [htexts] at hsuits ⊢
    rw [clause]
    exact (condition_tallied hd false c (hwell c rfl) hsuits).bind fun fs hfs =>
      .ok (.single (hfs.cons hd hkeyword))

theorem join_tallied (hd : d.Undoubled) {j : Join} (hwell : j.on.WellFormed)
    (hsuits : ∀ t ∈ j.on.writtenTexts, Suits steady t) :
    Tallied d steady j.on.writtenTexts (d.join j) := by
  unfold join
  split
  · exact (condition_tallied hd false j.on hwell hsuits).bind fun fs hfs =>
      .ok (((hfs.cons hd (f := .words " ON ") rfl).cons hd (f := .name j.table) trivial).cons hd
        (isPlainText_join j.kind))
  · exact .error trivial

theorem joins_tallied (hd : d.Undoubled) {js : List Join} (hwell : ∀ j ∈ js, j.on.WellFormed)
    (hsuits : ∀ t ∈ js.flatMap fun j => j.on.writtenTexts, Suits steady t) :
    TalliedGroups d steady (js.flatMap fun j => j.on.writtenTexts) (js.mapM d.join) := by
  induction js with
  | nil => exact .ok .nil
  | cons j js ih =>
    rw [List.flatMap_cons] at hsuits ⊢
    have hfirst := join_tallied hd (hwell j List.mem_cons_self) fun t ht =>
      hsuits t (List.mem_append_left _ ht)
    have hmore := ih (fun i hi => hwell i (List.mem_cons_of_mem j hi)) fun t ht =>
      hsuits t (List.mem_append_right _ ht)
    rw [List.mapM_cons, TalliedGroups, markersTaken_append]
    exact hfirst.bind fun g hg => hmore.bind fun gs hgs => .ok (.cons hg hgs)

theorem grouping_tallied (hd : d.Undoubled) {s : Select} (hwell : s.WellFormed)
    (hsuits : ∀ t ∈ s.having.toList.flatMap Condition.writtenTexts, Suits steady t) :
    TalliedGroups d steady (s.having.toList.flatMap Condition.writtenTexts) (d.grouping s) := by
  have hhaving : TalliedGroups d steady _ (d.clause "HAVING" s.having) :=
    clause_tallied hd rfl
      (fun c hc => hwell.conditions c (Select.mem_conditions.2 (.inr (.inr hc)))) hsuits
  unfold grouping
  split
  next hgroup =>
    have hnone : s.having = none := Decidable.byContradiction fun hsome =>
      hwell.having hsome hgroup
    rw [hnone]
    exact .ok .nil
  · refine hhaving.bind fun gs hgs => .ok ?_
    have hnames : Rendered [] True [] (names s.group) := .names s.group
    have hfirst : TalliesGroups d steady 0 [.words "GROUP BY " :: names s.group] :=
      .single (.of_rendered hd (hnames.cons_words rfl))
    simpa using hfirst.append hgs

theorem select_tallied (hd : d.Undoubled) {s : Select} (hwell : s.WellFormed)
    (hsuits : ∀ t ∈ s.conditions.flatMap Condition.writtenTexts, Suits steady t) :
    Tallied d steady (s.conditions.flatMap Condition.writtenTexts) (d.select s) := by
  have htexts : s.conditions.flatMap Condition.writtenTexts =
      (s.joins.flatMap fun j => j.on.writtenTexts) ++
        s.filter.toList.flatMap Condition.writtenTexts ++
        s.having.toList.flatMap Condition.writtenTexts := by
    simp [Select.conditions, List.flatMap_append, List.flatMap_map]
  rw [htexts] at hsuits ⊢
  have hjoins : TalliedGroups d steady _ (s.joins.mapM d.join) :=
    joins_tallied hd
      (fun j hj => hwell.conditions j.on (Select.mem_conditions.2 (.inl ⟨j, hj, rfl⟩)))
      fun t ht => hsuits t (List.mem_append_left _ (List.mem_append_left _ ht))
  have hfilter : TalliedGroups d steady _ (d.clause "WHERE" s.filter) :=
    clause_tallied hd rfl
      (fun c hc => hwell.conditions c (Select.mem_conditions.2 (.inr (.inl hc))))
      fun t ht => hsuits t (List.mem_append_left _ (List.mem_append_right _ ht))
  have hgroup : TalliedGroups d steady _ (d.grouping s) :=
    grouping_tallied hd hwell fun t ht => hsuits t (List.mem_append_right _ ht)
  have hrows : RendersGroups [] True _ (d.window s) := window_renders hd.limit s
  have hcolumns : Renders [] True [] (projection s) := projection_renders s
  have hwindow : TalliedGroups d steady [] (d.window s) := hrows.tallied hd
  have hprojection : Tallied d steady [] (projection s) := hcolumns.tallied hd
  unfold select
  dsimp only
  refine hprojection.bind fun projected hp => hjoins.bind fun joins hj => hfilter.bind
    fun filter hf => hgroup.bind fun group hg => hwindow.bind fun rows hr => .ok ?_
  have hwords : isPlainText (if s.distinct && !s.count then "SELECT DISTINCT" else "SELECT")
      = true := by split <;> rfl
  have hbegin : Tallies d steady 0 [.words (if s.distinct && !s.count then "SELECT DISTINCT"
      else "SELECT")] := Tallies.nil.cons hd hwords
  have hfrom : Tallies d steady 0 [.words "FROM"] := Tallies.nil.cons hd (f := .words "FROM") rfl
  have htable : Tallies d steady 0 [.name s.table] :=
    Tallies.nil.cons hd (f := .name s.table) trivial
  have horder : TalliesGroups d steady 0 (ordering s.order) :=
    have hordering : Rendered [] True [] (ordering s.order).flatten := ordering_rendered s.order
    .of_rendered hd hordering
  have hhead := TalliesGroups.cons hbegin (.cons hp (.cons hfrom (.single htable)))
  have hall := ((((hhead.append hj).append hf).append hg).append horder).append hr
  have hjoined := hall.joinWith hd divides_space
  simpa [markersTaken_append, markersTaken, Nat.add_assoc] using hjoined

theorem filtered_tallied (hd : d.Undoubled) {base : List Fragment} {vs : List Value}
    {filter : Option Condition} (hbase : Rendered [] True vs base)
    (hwell : ∀ c ∈ filter, c.WellFormed)
    (hsuits : ∀ t ∈ filter.toList.flatMap Condition.writtenTexts, Suits steady t) :
    Tallied d steady (filter.toList.flatMap Condition.writtenTexts) (d.filtered base filter) := by
  refine (clause_tallied hd rfl hwell hsuits).bind fun gs hgs => .ok ?_
  have hall := TalliesGroups.cons (Tallies.of_rendered hd hbase) hgs
  rw [Nat.zero_add] at hall
  exact hall.joinWith hd divides_space

/-- A well-formed statement misses as many placeholders as its hand-written texts lose markers. -/
theorem fragments_tallied (hd : d.Undoubled) {s : Statement} (hwell : s.WellFormed)
    (hsuits : ∀ t ∈ s.writtenTexts, Suits steady t) :
    Tallied d steady s.writtenTexts (d.fragments s) := by
  cases s with
  | select s => exact select_tallied hd hwell hsuits
  | insert s =>
    have hrendered : Renders [] True _ (d.insert s) := insert_renders s
    exact hrendered.tallied hd
  | update s =>
    have hcommas : isPlainText ", " = true := rfl
    have hset : isPlainText " SET " = true := rfl
    have hupdate : isPlainText "UPDATE " = true := rfl
    have hassigned : Rendered [] True _ _ :=
      ((assignments_rendered s.assignments).joinWith hcommas).cons_words hset
        |>.cons_name s.table |>.cons_words hupdate
    exact filtered_tallied hd hassigned hwell hsuits
  | delete s =>
    have hfrom : isPlainText "DELETE FROM " = true := rfl
    have hbase : Rendered [] True [] _ := (Rendered.name s.table).cons_words hfrom
    exact filtered_tallied hd hbase hwell hsuits

/-! ## What the driver and the scanner find -/

/-- The driver finds a token for each value, and each that a name holds. -/
theorem formatTokens_render (hd : d.Undoubled) {s : Statement} (hwell : s.WellFormed)
    (hsuits : ∀ t ∈ s.writtenTexts, Suits steady t) {b : BoundStatement} (h : d.render s = .ok b) :
    ∃ fs, d.fragments s = .ok fs ∧
      formatTokens b.sql.toList = b.binds.length + namedTokens fs := by
  obtain ⟨fs, hfs, hbound⟩ := render_eq_ok h
  obtain ⟨hsql, hbinds, -⟩ := bound_eq_ok hbound
  have htallies := (fragments_tallied hd hwell hsuits).of_eq_ok hfs
  have htokens := htallies.tokens [] .nil
  rw [List.append_nil] at htokens
  exact ⟨fs, hfs, by rw [hsql, hbinds, htokens, formatTokens, Nat.add_zero]⟩

/-- The scanner finds a placeholder for each value but for the markers that are taken along, so
rendering succeeds if there are none. -/
theorem render_of_fragments (hd : d.Undoubled) {s : Statement} (hwell : s.WellFormed)
    (hsuits : ∀ t ∈ s.writtenTexts, Suits True t) {fs : List Fragment}
    (hfs : d.fragments s = .ok fs) :
    (markersTaken s.writtenTexts = 0 → ∃ b, d.render s = .ok b) ∧
      (0 < markersTaken s.writtenTexts → d.render s = .error (.invalid
        (.placeholders (s.literals.length - markersTaken s.writtenTexts) s.literals.length))) := by
  have htallies := (fragments_tallied hd hwell hsuits).of_eq_ok hfs
  have hbinds := ((fragments_renders hd.limit s).of_eq_ok hfs).binds hwell
  have hfound := htallies.found trivial [] .nil
  have hcount : countFormat none (sql d fs).toList = countPlaceholders (sql d fs) d.style := by
    rw [hd.style]
    rfl
  rw [List.append_nil, hcount, hbinds, countFormat, Nat.add_zero] at hfound
  have hrender : d.render s = d.bound fs := by
    rw [render, hfs]
    rfl
  rw [hrender, bound, BoundStatement.checked, hbinds]
  refine ⟨fun hnone => ?_, fun hsome => ?_⟩
  · have hall : countPlaceholders (sql d fs) d.style = s.literals.length := by omega
    rw [dif_pos hall]
    exact ⟨_, rfl⟩
  · have hless : countPlaceholders (sql d fs) d.style =
        s.literals.length - markersTaken s.writtenTexts := by omega
    rw [dif_neg (by omega), hless]

/-- A query for the rows whose number is divisible by a value. -/
def moduloQuery : Select := { table := "t", filter := some (.raw "id %? = 0" [.int64 2]) }

/-- A query for a column whose name holds what a driver takes for a placeholder. -/
def remainderQuery : Select :=
  { table := "t", columns := some [⟨"50%s"⟩], filter := some (.raw "price % 5 = ?" [.int64 0]) }

theorem moduloQuery_built : (Statement.select moduloQuery).Built := by
  have hfragment : Term.Built (.condition (.raw "id %? = 0" [.int64 2])) := by
    rintro c ⟨⟩
    exact @Condition.Built.fragmentOf (.text "id %? = 0") (.list [.int 2]) _ rfl
  have hstart : Select.Built { table := "t" } := @Select.Built.start (.text "t") [] _ rfl
  exact hstart.filtered hfragment rfl

theorem remainderQuery_built : (Statement.select remainderQuery).Built := by
  have hfragment : Term.Built (.condition (.raw "price % 5 = ?" [.int64 0])) := by
    rintro c ⟨⟩
    exact @Condition.Built.fragmentOf (.text "price % 5 = ?") (.list [.int 0]) _ rfl
  have hstart : Select.Built { table := "t", columns := some [⟨"50%s"⟩] } :=
    @Select.Built.start (.text "t") [.text "50%s"] _ rfl
  exact hstart.filtered hfragment rfl

theorem moduloQuery_text : "id %? = 0".toList = ['i', 'd', ' ', '%', '?', ' ', '=', ' ', '0'] :=
  rfl

theorem remainderQuery_text : "price % 5 = ?".toList =
    ['p', 'r', 'i', 'c', 'e', ' ', '%', ' ', '5', ' ', '=', ' ', '?'] := rfl

theorem moduloQuery_takes : takenAlong none "id %? = 0".toList = ['?'] := by
  rw [moduloQuery_text]
  rfl

theorem remainderQuery_takes : takenAlong none "price % 5 = ?".toList = [' '] := by
  rw [remainderQuery_text]
  rfl

/-- The queries' fragments end outside quoted text, hold no placeholder of their own, and no
percent sign of them takes a quote along. -/
theorem moduloQuery_suits : ∀ t ∈ (Statement.select moduloQuery).writtenTexts, Suits True t := by
  intro t ht
  obtain rfl : t = "id %? = 0" := List.mem_singleton.1 ht
  refine ⟨?_, ?_, fun _ c hc => ?_⟩
  · rw [moduloQuery_text]
    rfl
  · rw [moduloQuery_text]
    rfl
  · rw [moduloQuery_takes, List.mem_singleton] at hc
    rw [hc]
    rfl

theorem remainderQuery_suits :
    ∀ t ∈ (Statement.select remainderQuery).writtenTexts, Suits True t := by
  intro t ht
  obtain rfl : t = "price % 5 = ?" := List.mem_singleton.1 ht
  refine ⟨?_, ?_, fun _ c hc => ?_⟩
  · rw [remainderQuery_text]
    rfl
  · rw [remainderQuery_text]
    rfl
  · rw [remainderQuery_takes, List.mem_singleton] at hc
    rw [hc]
    rfl

theorem moduloQuery_taken : markersTaken (Statement.select moduloQuery).writtenTexts = 1 := by
  have htexts : (Statement.select moduloQuery).writtenTexts = ["id %? = 0"] := rfl
  rw [htexts, markersTaken, List.map_cons, moduloQuery_takes]
  rfl

theorem remainderQuery_taken :
    markersTaken (Statement.select remainderQuery).writtenTexts = 0 := by
  have htexts : (Statement.select remainderQuery).writtenTexts = ["price % 5 = ?"] := rfl
  rw [htexts, markersTaken, List.map_cons, remainderQuery_takes]
  rfl

/-- What builder functions accept, MySQL's dialect may refuse: a percent sign before a marker takes
the placeholder along that is written there, though SQLite's dialect renders the same query.  And a
name may hold a token that no value is for. -/
theorem mysql_render_miscounts :
    ((Statement.select moduloQuery).Built ∧
      (∀ t ∈ (Statement.select moduloQuery).writtenTexts,
        endsUnquoted t.toList = true ∧ formatTokens t.toList = 0) ∧
      mysql.render (.select moduloQuery) = .error (.invalid (.placeholders 0 1)) ∧
      ∃ b, sqlite.render (.select moduloQuery) = .ok b) ∧
    (Statement.select remainderQuery).Built ∧
      (∀ t ∈ (Statement.select remainderQuery).writtenTexts,
        endsUnquoted t.toList = true ∧ formatTokens t.toList = 0) ∧
      ∃ b, mysql.render (.select remainderQuery) = .ok b ∧ b.binds.length = 1 ∧
        formatTokens b.sql.toList = 2 := by
  have hmodulo := moduloQuery_built.wellFormed
  have hremainder := remainderQuery_built.wellFormed
  refine ⟨⟨moduloQuery_built, fun t ht => ?_, ?_, ?_⟩, remainderQuery_built, fun t ht => ?_, ?_⟩
  · exact ⟨(moduloQuery_suits t ht).ends, (moduloQuery_suits t ht).own⟩
  · have hrefused := (render_of_fragments undoubled_mysql hmodulo moduloQuery_suits rfl).2
    rw [moduloQuery_taken] at hrefused
    exact hrefused Nat.one_pos
  · have haligned := render_aligned scannable_sqlite hmodulo
      (fun t ht => (moduloQuery_suits t ht).ends) nofun
    cases hrender : sqlite.render (.select moduloQuery) with
    | ok b => exact ⟨b, rfl⟩
    | error e => exact nomatch (haligned.of_eq_error hrender).1
  · exact ⟨(remainderQuery_suits t ht).ends, (remainderQuery_suits t ht).own⟩
  · obtain ⟨b, hb⟩ :=
      (render_of_fragments undoubled_mysql hremainder remainderQuery_suits rfl).1
        remainderQuery_taken
    obtain ⟨fs, hfs, htokens⟩ :=
      formatTokens_render undoubled_mysql hremainder remainderQuery_suits hb
    obtain ⟨fs', hfs', hbound⟩ := render_eq_ok hb
    obtain ⟨-, hbinds, -⟩ := bound_eq_ok hbound
    cases hfs
    cases hfs'
    rw [hbinds] at htokens
    exact ⟨b, hb, congrArg List.length hbinds, htokens⟩

/-- On MySQL a built statement has a token for each of its literals and no other, unless a name
holds one.  If no percent sign of its hand-written texts takes a quote along, rendering counts a
placeholder for each literal but for the markers that percent signs take along: with none, it never
fails for the values; otherwise it does. -/
theorem mysql_render_tokens {s : Statement} (built : s.Built)
    (hends : ∀ t ∈ s.writtenTexts, endsUnquoted t.toList = true)
    (hown : ∀ t ∈ s.writtenTexts, formatTokens t.toList = 0) :
    (∀ b, mysql.render s = .ok b → ∃ fs, mysql.fragments s = .ok fs ∧
      formatTokens b.sql.toList = b.binds.length + namedTokens fs) ∧
    ((∀ t ∈ s.writtenTexts, ∀ c ∈ takenAlong none t.toList, isQuote c = false) →
      (markersTaken s.writtenTexts = 0 →
        ∀ e, mysql.render s = .error e → mysql.fragments s = .error e ∧ ¬ e.AboutBinds) ∧
      (0 < markersTaken s.writtenTexts → ∀ fs, mysql.fragments s = .ok fs →
        mysql.render s = .error (.invalid (.placeholders
          (s.literals.length - markersTaken s.writtenTexts) s.literals.length)))) := by
  have hwell := built.wellFormed
  refine ⟨fun b hb => ?_, fun hsteady => ?_⟩
  · have hsuits : ∀ t ∈ s.writtenTexts, Suits False t := fun t ht =>
      ⟨hends t ht, hown t ht, False.elim⟩
    exact formatTokens_render undoubled_mysql hwell hsuits hb
  have hsuits : ∀ t ∈ s.writtenTexts, Suits True t := fun t ht =>
    ⟨hends t ht, hown t ht, fun _ => hsteady t ht⟩
  refine ⟨fun hnone e he => ?_, fun hsome fs hfs =>
    (render_of_fragments undoubled_mysql hwell hsuits hfs).2 hsome⟩
  cases hfs : mysql.fragments s with
  | ok fs =>
    obtain ⟨b, hb⟩ := (render_of_fragments undoubled_mysql hwell hsuits hfs).1 hnone
    rw [hb] at he
    cases he
  | error e' =>
    have hsame : mysql.render s = .error e' := by
      rw [render, hfs]
      rfl
    obtain rfl : e' = e := Except.error.inj (hsame.symm.trans he)
    exact ⟨rfl, (fragments_renders undoubled_mysql.limit s).of_eq_error hfs hwell⟩

theorem mysql_render_tokens_remainder :
    (Statement.select remainderQuery).Built ∧
      (∀ t ∈ (Statement.select remainderQuery).writtenTexts,
        endsUnquoted t.toList = true ∧ formatTokens t.toList = 0) ∧
      (∃ b, mysql.render (.select remainderQuery) = .ok b ∧
        formatTokens b.sql.toList = b.binds.length + 1) ∧
    (Statement.select moduloQuery).Built ∧
      mysql.render (.select moduloQuery) = .error (.invalid (.placeholders 0 1)) := by
  have hremainder := mysql_render_tokens remainderQuery_built
    (fun t ht => (remainderQuery_suits t ht).ends) fun t ht => (remainderQuery_suits t ht).own
  obtain ⟨htokens, hcounts⟩ := hremainder
  have hmodulo := mysql_render_tokens moduloQuery_built
    (fun t ht => (moduloQuery_suits t ht).ends) fun t ht => (moduloQuery_suits t ht).own
  refine ⟨remainderQuery_built, fun t ht => ?_, ?_, moduloQuery_built, ?_⟩
  · exact ⟨(remainderQuery_suits t ht).ends, (remainderQuery_suits t ht).own⟩
  · have hfails := (hcounts fun t ht => (remainderQuery_suits t ht).steady trivial).1
      remainderQuery_taken
    cases hrender : mysql.render (.select remainderQuery) with
    | error e => exact nomatch (hfails e hrender).1
    | ok b =>
      obtain ⟨fs, hfs, hfound⟩ := htokens b hrender
      cases hfs
      exact ⟨b, rfl, hfound⟩
  · have hrefused := (hmodulo.2 fun t ht => (moduloQuery_suits t ht).steady trivial).2
    rw [moduloQuery_taken] at hrefused
    exact hrefused Nat.one_pos _ rfl

end Dialect

end SqlGateway
