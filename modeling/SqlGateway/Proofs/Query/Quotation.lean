import Mathlib.Data.List.Induction
import SqlGateway.Proofs.Dialect.Scanner
set_option autoImplicit false

/-!
# Queries: markers outside quotations

A quotation is a quote, characters other than that quote, and the quote again; a text in which
every quotation ends is *closed*.  This grammar mentions no scanner.  A character lies outside
quoted text if the text in front of it is closed and it opens no quotation.  The markers at which
a fragment is cut and the question marks that are counted in rendered SQL are both the question
marks outside quoted text, so the two scanners agree on every text, whatever it leaves open.
-/

namespace SqlGateway.Query

variable {o : Char}

/-! ## Closed texts -/

/-- A text of characters that are no quotes and of quotations, each of which ends in the text. -/
inductive Closed : List Char → Prop
  | nil : Closed []
  | plain {c : Char} {rest : List Char} : isQuote c = false → Closed rest → Closed (c :: rest)
  | quotation {o : Char} {body rest : List Char} : isQuote o = true → o ∉ body → Closed rest →
      Closed (o :: (body ++ o :: rest))

theorem QuoteState.step_open (ho : isQuote o = true) : QuoteState.step none o = some o := by
  simp [QuoteState.step, ho]

theorem QuoteState.step_close (o : Char) : QuoteState.step (some o) o = none := by
  simp [QuoteState.step]

theorem QuoteState.step_inside {c : Char} (hc : c ≠ o) :
    QuoteState.step (some o) c = some o := by
  simp [QuoteState.step, hc]

/-- Inside a quotation, the scanner waits for the quote that opened it. -/
theorem QuoteState.after_body {body : List Char} (h : o ∉ body) :
    QuoteState.after (some o) body = some o := by
  induction body with
  | nil => rfl
  | cons c body ih =>
    have hc : c ≠ o := fun hc => h (hc ▸ List.mem_cons_self)
    rw [QuoteState.after_cons, QuoteState.step_inside hc]
    exact ih fun hmem => h (List.mem_cons_of_mem c hmem)

theorem Closed.after_eq {cs : List Char} (h : Closed cs) : QuoteState.after none cs = none := by
  induction h with
  | nil => rfl
  | plain hc _ ih => rwa [QuoteState.after_cons, QuoteState.step, hc]
  | quotation ho hbody _ ih =>
    rw [QuoteState.after_cons, QuoteState.step_open ho, QuoteState.after_append,
      QuoteState.after_body hbody, QuoteState.after_cons, QuoteState.step_close]
    exact ih

/-- What a text is that ends outside quoted text: closed, or closed from the first place on at
which the quote that was open before it stands again. -/
def ClosedFrom : QuoteState → List Char → Prop
  | none, cs => Closed cs
  | some o, cs => ∃ body rest, cs = body ++ o :: rest ∧ o ∉ body ∧ Closed rest

theorem closedFrom_of_after {q : QuoteState} {cs : List Char} (hq : q.Valid)
    (h : q.after cs = none) : ClosedFrom q cs := by
  induction cs generalizing q with
  | nil =>
    cases h
    exact .nil
  | cons c cs ih =>
    have hrest := ih (hq.step c) h
    cases q with
    | none =>
      by_cases hc : isQuote c = true
      · rw [QuoteState.step_open hc] at hrest
        obtain ⟨body, rest, rfl, hbody, hclosed⟩ := hrest
        exact .quotation hc hbody hclosed
      · rw [QuoteState.step, if_neg hc] at hrest
        exact .plain (Bool.eq_false_iff.2 hc) hrest
    | some o =>
      by_cases hc : c = o
      · subst hc
        rw [QuoteState.step_close] at hrest
        exact ⟨[], cs, rfl, List.not_mem_nil, hrest⟩
      · rw [QuoteState.step_inside hc] at hrest
        obtain ⟨body, rest, rfl, hbody, hclosed⟩ := hrest
        refine ⟨c :: body, rest, rfl, ?_, hclosed⟩
        intro hmem
        cases hmem with
        | head => exact hc rfl
        | tail _ hmem => exact hbody hmem

/-- The scanner ends outside quoted text exactly if the text is closed. -/
theorem endsUnquoted_iff_closed (cs : List Char) : endsUnquoted cs = true ↔ Closed cs := by
  rw [endsUnquoted, Option.isNone_iff_eq_none]
  exact ⟨closedFrom_of_after QuoteState.valid_none, Closed.after_eq⟩

instance : DecidablePred Closed := fun cs => decidable_of_iff _ (endsUnquoted_iff_closed cs)

/-- Behind a closed text, closed texts are the same as from the start. -/
theorem Closed.append_iff {cs ds : List Char} (h : Closed cs) : Closed (cs ++ ds) ↔ Closed ds := by
  rw [← endsUnquoted_iff_closed, ← endsUnquoted_iff_closed, endsUnquoted, endsUnquoted,
    QuoteState.after_append, h.after_eq]

/-! ## Places outside quoted text -/

/-- The text in front of the place is closed, and what stands there opens no quotation. -/
def Outside (cs : List Char) (i : Nat) : Prop :=
  Closed (cs.take i) ∧ ∃ c, cs[i]? = some c ∧ isQuote c = false

/-- A question mark outside quoted text. -/
def MarkerAt (cs : List Char) (i : Nat) : Prop := cs[i]? = some '?' ∧ Outside cs i

theorem markerAt_iff {cs : List Char} {i : Nat} :
    MarkerAt cs i ↔ cs[i]? = some '?' ∧ Closed (cs.take i) := by
  constructor
  · intro h
    exact ⟨h.1, h.2.1⟩
  · intro h
    exact ⟨h.1, h.2, '?', h.1, by decide⟩

instance (cs : List Char) : DecidablePred (MarkerAt cs) :=
  fun _ => decidable_of_iff _ markerAt_iff.symm

/-- What is behind a place says nothing about it. -/
theorem outside_append_left {cs ds : List Char} {i : Nat} (hi : i < cs.length) :
    Outside (cs ++ ds) i ↔ Outside cs i := by
  rw [Outside, Outside, List.take_append_of_le_length (Nat.le_of_lt hi),
    List.getElem?_append_left hi]

/-- Behind a closed text, the same places are outside as from the start. -/
theorem Closed.outside_append {cs ds : List Char} (h : Closed cs) (i : Nat) :
    Outside (cs ++ ds) (cs.length + i) ↔ Outside ds i := by
  rw [Outside, Outside, List.take_length_add_append, h.append_iff,
    List.getElem?_append_right (Nat.le_add_right _ i), Nat.add_sub_cancel_left]

/-! ## Doubled quotes -/

/-- A text with each of its quotes of the kind doubled. -/
def doubled (o : Char) (body : List Char) : List Char :=
  body.flatMap fun c => if c = o then [o, o] else [c]

/-- A text as it is written between quotes. -/
def quoted (o : Char) (body : List Char) : List Char := o :: (doubled o body ++ [o])

theorem doubled_cons_self (o : Char) (body : List Char) :
    doubled o (o :: body) = o :: o :: doubled o body := by
  rw [doubled, List.flatMap_cons, if_pos rfl]
  rfl

theorem doubled_cons_of_ne {c : Char} (h : c ≠ o) (body : List Char) :
    doubled o (c :: body) = c :: doubled o body := by
  rw [doubled, List.flatMap_cons, if_neg h]
  rfl

theorem QuoteState.after_doubled (ho : isQuote o = true) (body : List Char) :
    QuoteState.after (some o) (doubled o body) = some o := by
  have hsilent := @Dialect.isSilent_doubleQuote .qmark o ho body
  rw [Dialect.doubleQuote_singleton] at hsilent
  exact hsilent.2

theorem closed_quoted (ho : isQuote o = true) (body : List Char) : Closed (quoted o body) := by
  rw [← endsUnquoted_iff_closed, endsUnquoted, quoted, QuoteState.after_cons,
    QuoteState.step_open ho, QuoteState.after_append, QuoteState.after_doubled ho,
    QuoteState.after_cons, QuoteState.step_close]
  rfl

/-- Where a quotation has ended within a text of doubled quotes, the other quote of a pair
follows. -/
theorem eq_quote_of_after_none (ho : isQuote o = true) {body : List Char} {i : Nat} {c : Char}
    (hc : (doubled o body)[i]? = some c)
    (hafter : QuoteState.after (some o) ((doubled o body).take i) = none) : c = o := by
  induction body generalizing i with
  | nil => cases hc
  | cons d body ih =>
    by_cases hd : d = o
    · subst hd
      rw [doubled_cons_self] at hc hafter
      match i with
      | 0 => exact (Option.some.inj hc).symm
      | 1 => exact (Option.some.inj hc).symm
      | i + 2 =>
        rw [List.take_succ_cons, List.take_succ_cons, QuoteState.after_cons,
          QuoteState.step_close, QuoteState.after_cons, QuoteState.step_open ho] at hafter
        exact ih hc hafter
    · rw [doubled_cons_of_ne hd] at hc hafter
      cases i with
      | zero => cases hafter
      | succ i =>
        rw [List.take_succ_cons, QuoteState.after_cons, QuoteState.step_inside hd] at hafter
        exact ih hc hafter

/-- No place of a quoted text is outside quoted text. -/
theorem not_outside_quoted (ho : isQuote o = true) {body : List Char} {i : Nat} :
    ¬ Outside (quoted o body) i := by
  intro hout
  obtain ⟨hclosed, c, hc, hplain⟩ := hout
  have hquote : c = o := by
    cases i with
    | zero => exact (Option.some.inj hc).symm
    | succ i =>
      have hafter := hclosed.after_eq
      rw [quoted, List.getElem?_cons_succ] at hc
      rw [quoted, List.take_succ_cons, QuoteState.after_cons, QuoteState.step_open ho] at hafter
      by_cases hi : i < (doubled o body).length
      · rw [List.getElem?_append_left hi] at hc
        rw [List.take_append_of_le_length (Nat.le_of_lt hi)] at hafter
        exact eq_quote_of_after_none ho hc hafter
      · rw [List.getElem?_append_right (Nat.le_of_not_lt hi)] at hc
        exact List.mem_singleton.1 (List.mem_of_getElem? hc)
  rw [hquote, ho] at hplain
  cases hplain

/-! ## Both scanners -/

theorem countQmark_append (q : QuoteState) (cs ds : List Char) :
    countQmark q (cs ++ ds) = countQmark q cs + countQmark (q.after cs) ds := by
  induction cs generalizing q with
  | nil => exact (Nat.zero_add _).symm
  | cons c cs ih =>
    rw [List.cons_append, countQmark, ih, countQmark, Nat.add_assoc, QuoteState.after_cons]

theorem markerAt_concat {cs : List Char} {c : Char} {i : Nat} (hi : i < cs.length) :
    MarkerAt (cs ++ [c]) i ↔ MarkerAt cs i := by
  rw [MarkerAt, MarkerAt, List.getElem?_append_left hi, outside_append_left hi]

theorem markerAt_last (cs : List Char) (c : Char) :
    MarkerAt (cs ++ [c]) cs.length ↔ ((QuoteState.after none cs).isNone && c == '?') = true := by
  rw [markerAt_iff, List.getElem?_concat_length, List.take_left, ← endsUnquoted_iff_closed,
    Bool.and_eq_true, beq_iff_eq, Option.some.injEq, endsUnquoted]
  exact and_comm

/-- The scanner counts the question marks outside quoted text. -/
theorem countQmark_eq_countP (cs : List Char) :
    countQmark none cs = (List.range cs.length).countP fun i => MarkerAt cs i := by
  -- From the end: what stands outside quoted text is decided by the text in front of it.
  induction cs using List.reverseRecOn with
  | nil => rfl
  | append_singleton cs c ih =>
    have hfront : (List.range cs.length).countP (fun i => MarkerAt (cs ++ [c]) i) =
        (List.range cs.length).countP fun i => MarkerAt cs i := by
      refine List.countP_congr fun i hi => ?_
      rw [decide_eq_true_iff, decide_eq_true_iff]
      exact markerAt_concat (List.mem_range.1 hi)
    rw [countQmark_append, ih, List.length_append, List.length_singleton, List.range_succ,
      List.countP_append, hfront, List.countP_singleton, countQmark, countQmark, Nat.add_zero]
    simp only [decide_eq_true_iff, markerAt_last]

theorem rejoin_eq_intercalate (piece : List Char) (more : List (List Char)) :
    rejoin piece more = ['?'].intercalate (piece :: more) := by
  induction more generalizing piece with
  | nil => exact List.intercalate_singleton.symm
  | cons next more ih =>
    rw [rejoin, ih, List.intercalate_cons_cons, List.append_assoc]
    rfl

/-- The marker between its pieces gives a fragment back. -/
theorem intercalate_splitMarkers (s : String) : "?".intercalate (splitMarkers s) = s := by
  obtain ⟨piece, more, hpieces, hrejoin, -⟩ := exists_pieces s
  have hlists : (splitMarkers s).map String.toList = piece :: more := by
    rw [hpieces, List.map_map]
    exact List.map_id'' (fun _ => String.toList_ofList) _
  rw [← String.toList_inj, String.toList_intercalate, hlists, ← hrejoin, rejoin_eq_intercalate]
  rfl

theorem length_splitMarkers (s : String) :
    (splitMarkers s).length = countPlaceholders s .qmark + 1 := by
  rw [splitMarkers, List.length_map, List.length_cons, length_splitMarkersFrom]
  rfl

/-- For every text: its pieces with the marker between them give it back; there is one more of
them than question marks are counted; and those are the question marks outside quoted text, where
nothing of a text that is written between quotes lies.  Behind a text that ends outside quoted
text, counting starts afresh. -/
theorem markers_outside_quotes (s : String) :
    "?".intercalate (splitMarkers s) = s ∧
      (splitMarkers s).length = countPlaceholders s .qmark + 1 ∧
      countPlaceholders s .qmark =
        (List.range s.length).countP (fun i => MarkerAt s.toList i) ∧
      (∀ front o body rest, Closed front → isQuote o = true →
        s.toList = front ++ quoted o body ++ rest →
        (∀ i < (quoted o body).length, ¬ Outside s.toList (front.length + i)) ∧
          Closed (front ++ quoted o body)) ∧
      (Closed s.toList → ∀ t, countPlaceholders (s ++ t) .qmark =
        countPlaceholders s .qmark + countPlaceholders t .qmark) := by
  refine ⟨intercalate_splitMarkers s, length_splitMarkers s, ?_, ?_, ?_⟩
  · rw [← String.length_toList]
    exact countQmark_eq_countP s.toList
  · intro front o body rest hfront ho hs
    refine ⟨fun i hi hout => ?_, hfront.append_iff.2 (closed_quoted ho body)⟩
    rw [hs, List.append_assoc, hfront.outside_append, outside_append_left hi] at hout
    exact not_outside_quoted ho hout
  · intro hs t
    simp only [countPlaceholders, String.toList_append, countQmark_append, hs.after_eq]

/-- A doubled quote with question marks around it, and behind it a text that leaves another
quotation open. -/
theorem markers_outside_quotes_doubled :
    Closed "a = '?''?' AND b = ?".toList ∧
      countPlaceholders ("a = '?''?' AND b = ?" ++ " OR c = ? OR \"d?'") .qmark = 1 + 1 ∧
      (Closed "a = ".toList ∧ isQuote '\'' = true ∧
        "a = '?''?' AND b = ?".toList =
          "a = ".toList ++ quoted '\'' "?'?".toList ++ " AND b = ?".toList) ∧
      ∀ i < 6, ¬ Outside "a = '?''?' AND b = ?".toList (4 + i) := by
  have hclosed : Closed "a = '?''?' AND b = ?".toList := by decide
  have hfront : Closed "a = ".toList := by decide
  have hquote : isQuote '\'' = true := by decide
  have htext : "a = '?''?' AND b = ?".toList =
      "a = ".toList ++ quoted '\'' "?'?".toList ++ " AND b = ?".toList := by decide
  obtain ⟨-, -, -, hquoted, hadds⟩ := markers_outside_quotes "a = '?''?' AND b = ?"
  refine ⟨hclosed, ?_, ⟨hfront, hquote, htext⟩, ?_⟩
  · exact (hadds hclosed " OR c = ? OR \"d?'").trans (by decide)
  · exact (hquoted _ _ _ _ hfront hquote htext).1

end SqlGateway.Query
