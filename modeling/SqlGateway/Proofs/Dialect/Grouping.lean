import SqlGateway.Proofs.Dialect.Grammar
set_option autoImplicit false

/-!
# Dialects: rendering keeps grouping

A condition is rendered to text that reads as the condition itself.  Nested in a connective,
it is rendered to one part of a conjunction; alone, to a whole condition.  The text is read
sign by sign, a piece of a hand-written fragment being one sign; so names can hold anything
but line breaks, and fragments anything at all.
-/

namespace SqlGateway

open Fragment Query

/-! ## Fragments as tokens -/

/-- The fragments are a phrase of the tokens, with their values in place. -/
def Spells (d : Dialect) (fs : List Fragment) (ts : List Token) : Prop :=
  ∃ us, Phrase d (glyphsOf d fs) us ∧ Token.supply us (binds fs) = some ts

/-- The fragments are the tokens, with their values in place, and a phrase can follow. -/
def LeadsInto (d : Dialect) (fs : List Fragment) (ts : List Token) : Prop :=
  ∃ us, Lead d (glyphsOf d fs) us ∧ Token.supply us (binds fs) = some ts

theorem Token.supply_append {us us' ts ts' : List Token} {vs vs' : List Value}
    (h : Token.supply us vs = some ts) (h' : Token.supply us' vs' = some ts') :
    Token.supply (us ++ us') (vs ++ vs') = some (ts ++ ts') := by
  fun_induction Token.supply us vs generalizing ts with
  | case1 => cases h; exact h'
  | case2 => cases h
  | case3 => cases h
  | case4 us v vs ih =>
    obtain ⟨rest, hrest, rfl⟩ := Option.map_eq_some_iff.1 h
    exact congrArg (Option.map (Token.value v :: ·)) (ih hrest)
  | case5 u us vs hu ih =>
    obtain ⟨rest, hrest, rfl⟩ := Option.map_eq_some_iff.1 h
    rw [List.cons_append, Token.supply, ih hrest]
    · rfl
    · exact hu

/-- Names hold no values. -/
theorem supply_nameTokens (d : Dialect) (name : String) :
    Token.supply (d.nameTokens name) [] = some (d.nameTokens name) := by
  have hpart : ∀ part, Token.supply [d.partToken part] [] = some [d.partToken part] := by
    intro part
    rcases @partToken_eq d part with h | h <;> rw [h] <;> rfl
  rw [Dialect.nameTokens]
  generalize nameParts name.toList = parts
  induction parts with
  | nil => rfl
  | cons part rest ih =>
    cases rest with
    | nil => exact hpart part
    | cons part' rest =>
      have hdot : Token.supply [.dot] [] = some [.dot] := rfl
      exact Token.supply_append (hpart part) (Token.supply_append hdot ih)

section

variable {d : Dialect} {fs gs : List Fragment} {ts us : List Token}

theorem glyphsOf_append (fs gs : List Fragment) :
    glyphsOf d (fs ++ gs) = glyphsOf d fs ++ glyphsOf d gs :=
  List.flatMap_append

theorem glyphsOf_singleton (f : Fragment) : glyphsOf d [f] = f.glyphs d :=
  List.append_nil (f.glyphs d)

theorem LeadsInto.spells (h : LeadsInto d fs ts) : Spells d fs ts := by
  obtain ⟨us, hlead, hsupply⟩ := h
  exact ⟨us, hlead.phrase, hsupply⟩

theorem LeadsInto.append (h : LeadsInto d fs ts) (k : Spells d gs us) :
    Spells d (fs ++ gs) (ts ++ us) := by
  obtain ⟨_, hlead, hsupply⟩ := h
  obtain ⟨_, hphrase, hsupply'⟩ := k
  refine ⟨_, ?_, binds_append fs gs ▸ Token.supply_append hsupply hsupply'⟩
  rw [glyphsOf_append]
  exact hlead.append hphrase

/-- Words that are a joint may follow. -/
theorem Spells.words {w : String} (h : Spells d fs ts) (k : Joint d (Glyph.signs w.toList) us)
    (hus : Token.supply us [] = some us) : LeadsInto d (fs ++ [.words w]) (ts ++ us) := by
  obtain ⟨_, hphrase, hsupply⟩ := h
  refine ⟨_, ?_, binds_append fs [.words w] ▸ Token.supply_append hsupply hus⟩
  rw [glyphsOf_append, glyphsOf_singleton]
  exact hphrase.append_joint k

theorem spells_words {w : String} (h : Phrase d (Glyph.signs w.toList) ts)
    (hts : Token.supply ts [] = some ts) : Spells d [.words w] ts :=
  ⟨ts, (glyphsOf_singleton (.words w)).symm ▸ h, hts⟩

theorem leads_words {w : String} (h : Lead d (Glyph.signs w.toList) ts)
    (hts : Token.supply ts [] = some ts) : LeadsInto d [.words w] ts :=
  ⟨ts, (glyphsOf_singleton (.words w)).symm ▸ h, hts⟩

theorem leads_bind (hd : d.Scannable) (v : Value) : LeadsInto d [.bind v] [.value v] :=
  ⟨_, (glyphsOf_singleton (.bind v)).symm ▸ lead_bind hd v, rfl⟩

theorem leads_written (p : String) : LeadsInto d [.written p] [.written p] :=
  ⟨_, lead_written p, rfl⟩

theorem spells_name (hd : d.Scannable) {name : String} (hline : '\n' ∉ name.toList) :
    Spells d [.name name] (d.nameTokens name) :=
  ⟨_, (glyphsOf_singleton (.name name)).symm ▸ phrase_name hd hline, supply_nameTokens d name⟩

/-- Words that are a joint stand between phrases. -/
theorem Spells.joined {w : String} {ws : List Token} (h : Spells d fs ts)
    (hw : Joint d (Glyph.signs w.toList) ws) (hws : Token.supply ws [] = some ws)
    (k : Spells d gs us) : Spells d (fs ++ .words w :: gs) (ts ++ (ws ++ us)) := by
  have hall := (h.words hw hws).append k
  rw [List.append_assoc, List.append_assoc] at hall
  exact hall

/-- Words after a space end a phrase. -/
theorem Spells.ending (hd : d.Scannable) {w : String} {cs : List Char} (h : Spells d fs ts)
    (hw : w.toList = ' ' :: cs) (k : Phrase d (Glyph.signs cs) us)
    (hus : Token.supply us [] = some us) : Spells d (fs ++ [.words w]) (ts ++ us) := by
  obtain ⟨ts', hphrase, hsupply⟩ := h
  refine ⟨ts' ++ us, ?_, binds_append fs [.words w] ▸ Token.supply_append hsupply hus⟩
  have hall := (hphrase.append_joint (joint_space hd)).append k
  rw [List.append_nil, List.append_assoc] at hall
  have hglyphs : glyphsOf d [.words w] = Glyph.signs [' '] ++ Glyph.signs cs := by
    rw [glyphsOf_singleton, glyphs, text, hw]
    · rfl
    · intro p h
      cases h
  rw [glyphsOf_append, hglyphs]
  exact hall

theorem Spells.bracketed (hd : d.Scannable) (h : Spells d fs ts) :
    Spells d (bracketed fs) (.opening :: ts ++ [.closing]) := by
  have hopening : LeadsInto d [.words "("] [.opening] := leads_words rfl rfl
  exact hopening.append (h.words (w := ")") (joint_closing hd) rfl).spells

/-- Groups with words between them are spelled with a token between them. -/
theorem spells_joinWith {separator : String} {t : Token}
    (h : Joint d (Glyph.signs separator.toList) [t]) (ht : Token.supply [t] [] = some [t])
    {groups : List (List Fragment)} {tss : List (List Token)}
    (hgroups : List.Forall₂ (Spells d) groups tss) :
    Spells d (joinWith separator groups) (t.between tss) := by
  induction hgroups with
  | nil => exact ⟨[], Lead.phrase rfl, rfl⟩
  | @cons fs ts groups tss hfirst hmore ih =>
    cases hmore with
    | nil => exact hfirst
    | cons _ _ => exact hfirst.joined h ht ih

/-! ## Conditions without connectives -/

theorem spells_operand (hd : d.Scannable) {right : Operand}
    (hline : ∀ column, right = .column column → '\n' ∉ column.name.toList) :
    Spells d [Dialect.operand right] (d.operandTokens right) := by
  cases right with
  | literal v => exact (leads_bind hd v).spells
  | column column => exact spells_name hd (hline column rfl)

theorem spells_comparison (hd : d.Scannable) (op : Comparison) {left : Column} {right : Operand}
    (hleft : '\n' ∉ left.name.toList)
    (hright : ∀ column, right = .column column → '\n' ∉ column.name.toList) :
    Spells d [.name left.name, .words (" " ++ op.symbol ++ " "), Dialect.operand right]
      (d.nameTokens left.name ++ (op.tokens ++ d.operandTokens right)) := by
  have hop : Token.supply op.tokens [] = some op.tokens := by
    cases op <;> rfl
  exact (spells_name hd hleft).joined (joint_comparison hd op) hop (spells_operand hd hright)

theorem spells_between (hd : d.Scannable) {column : Column} (hline : '\n' ∉ column.name.toList)
    (low high : Value) (negated : Bool) :
    Spells d [.name column.name, .words (if negated then " NOT BETWEEN " else " BETWEEN "),
        .bind low, .words " AND ", .bind high]
      (d.nameTokens column.name ++ (Token.sign negated ++
        [.word ['B', 'E', 'T', 'W', 'E', 'E', 'N'], .value low, .and, .value high])) := by
  have hwords : Joint d
      (Glyph.signs (if negated then " NOT BETWEEN " else " BETWEEN ").toList)
      (Token.sign negated ++ [.word ['B', 'E', 'T', 'W', 'E', 'E', 'N']]) := by
    cases negated <;> exact Joint.of_space hd rfl
  have hand : Joint d (Glyph.signs " AND ".toList) [.and] := Joint.of_space hd rfl
  have hbounds := (leads_bind hd low).spells.joined hand rfl (leads_bind hd high).spells
  have hall := (spells_name hd hline).joined hwords (by cases negated <;> rfl) hbounds
  rw [List.append_assoc (Token.sign negated)] at hall
  exact hall

theorem spells_members (hd : d.Scannable) {column : Column} (hline : '\n' ∉ column.name.toList)
    (members : List Value) (negated : Bool) :
    Spells d (.name column.name :: .words (if negated then " NOT IN " else " IN ") ::
        bracketed (values members))
      (d.nameTokens column.name ++ (Token.sign negated ++
        .word ['I', 'N'] :: .opening :: (Token.members members ++ [.closing]))) := by
  have hwords : Joint d (Glyph.signs (if negated then " NOT IN " else " IN ").toList)
      (Token.sign negated ++ [.word ['I', 'N']]) := by
    cases negated <;> exact Joint.of_space hd rfl
  have hspace : Lead d (Glyph.signs [' ']) [] := rfl
  have hcomma : Joint d (Glyph.signs ", ".toList) [.comma] := (joint_comma hd).append hspace
  have hvalues : Spells d (values members) (Token.members members) := by
    refine spells_joinWith hcomma rfl ?_
    rw [List.forall₂_map_left_iff, List.forall₂_map_right_iff, List.forall₂_same]
    exact fun v _ => (leads_bind hd v).spells
  have hall := (spells_name hd hline).joined hwords (by cases negated <;> rfl)
    (hvalues.bracketed hd)
  rw [List.append_assoc (Token.sign negated)] at hall
  exact hall

theorem spells_nullity (hd : d.Scannable) {column : Column} (hline : '\n' ∉ column.name.toList)
    (negated : Bool) :
    Spells d [.name column.name, .words (if negated then " IS NOT NULL" else " IS NULL")]
      (d.nameTokens column.name ++ .word ['I', 'S'] :: (Token.sign negated ++ [.null])) := by
  cases negated <;>
    exact (spells_name hd hline).ending hd rfl ⟨_, _, _, rfl, rfl, rfl⟩ rfl

theorem spells_constant (b : Bool) :
    Spells d [.words (if b then "1 = 1" else "1 = 0")]
      [.word ['1'], .symbol ['='], .word [if b then '1' else '0']] := by
  have hsigns : Phrase d (Glyph.signs (if b then "1 = 1" else "1 = 0").toList)
      [.word ['1'], .symbol ['='], .word [if b then '1' else '0']] := by
    cases b with
    | false => exact ⟨[.word ['1'], .symbol ['=']], .word ['0'], [.word ['0']], rfl, rfl, rfl⟩
    | true => exact ⟨[.word ['1'], .symbol ['=']], .word ['1'], [.word ['1']], rfl, rfl, rfl⟩
  exact spells_words hsigns rfl

/-- A hand-written fragment is spelled as its pieces. -/
theorem spells_weave (hd : d.Scannable) (pieces : List String) (vs : List Value) :
    Spells d (Dialect.weave pieces vs) (Token.woven pieces vs) := by
  induction pieces generalizing vs with
  | nil => exact ⟨[], Lead.phrase rfl, rfl⟩
  | cons p ps ih =>
    cases vs with
    | nil => exact (leads_written p).spells
    | cons v vs => exact (leads_written p).append ((leads_bind hd v).append (ih vs))

end

namespace Dialect

variable {d : Dialect}

/-! ## Conditions -/

/-- The dialect has the operators of the condition, and its columns have no line breaks in
their names. -/
structure Accepts (d : Dialect) (c : Condition) : Prop where
  names : ∀ column ∈ c.columns, '\n' ∉ column.name.toList
  operators : ∀ left right, .compare .ilike left right ∈ c.leaves → d.ilike = true

theorem Accepts.children {op : Connective} {cs : List Condition}
    (h : d.Accepts (.logical op cs)) : ∀ c ∈ cs, d.Accepts c := by
  intro c hc
  refine ⟨fun column hcolumn => h.names column ?_,
    fun left right hleaf => h.operators left right ?_⟩
  · rw [Condition.columns_logical]
    exact List.mem_flatMap_of_mem hc hcolumn
  · rw [Condition.leaves_logical]
    exact List.mem_flatMap_of_mem hc hleaf

/-- The condition is rendered to tokens that are read as the condition. -/
def Shows (d : Dialect) (nested : Bool) (c : Condition)
    (reads : List Token → Reading → Prop) : Prop :=
  ∃ fs ts, d.condition nested c = .ok fs ∧ Spells d fs ts ∧ reads ts c.reading

/-- Nested or not, the condition is rendered to what is read as it. -/
structure Grouped (d : Dialect) (c : Condition) : Prop where
  nested : d.Shows true c ReadsPart
  whole : d.Shows false c ReadsWhole

/-- What is rendered without brackets and read as a part is so everywhere. -/
theorem grouped_of_part {c : Condition} {fs : List Fragment} {ts : List Token}
    (hfs : ∀ nested, d.condition nested c = .ok fs) (hspells : Spells d fs ts)
    (hpart : ReadsPart ts c.reading) : d.Grouped c :=
  ⟨⟨fs, ts, hfs true, hspells, hpart⟩, ⟨fs, ts, hfs false, hspells, hpart.whole⟩⟩

theorem grouped_compare (hd : d.Scannable) (op : Comparison) (left : Column) (right : Operand)
    (h : d.Accepts (.compare op left right)) : d.Grouped (.compare op left right) := by
  have hsupported : (op == .ilike && !d.ilike) = false := by
    cases op with
    | ilike => rw [h.operators left right (List.mem_singleton_self _)]; rfl
    | _ => rfl
  have hleft : '\n' ∉ left.name.toList := by
    refine h.names left ?_
    cases right <;> exact List.mem_cons_self
  have hright : ∀ column, right = .column column → '\n' ∉ column.name.toList := by
    rintro column rfl
    exact h.names column (List.mem_cons_of_mem left List.mem_cons_self)
  have htokens : ∃ t more, op.tokens ++ d.operandTokens right = t :: more ∧ t ≠ .dot := by
    cases op <;> exact ⟨_, _, rfl, Token.noConfusion⟩
  refine grouped_of_part (fun nested => ?_) (spells_comparison hd op hleft hright)
    (.of_test hleft htokens (readTest_comparison op left hright))
  rw [condition, if_neg (Bool.eq_false_iff.1 hsupported)]

theorem grouped_between (hd : d.Scannable) (column : Column) (low high : Value) (negated : Bool)
    (h : d.Accepts (.between column low high negated)) :
    d.Grouped (.between column low high negated) := by
  have hline := h.names column List.mem_cons_self
  refine grouped_of_part (fun nested => by rw [condition])
    (spells_between hd hline low high negated)
    (.of_test hline ?_ (readTest_between column low high negated))
  cases negated <;> exact ⟨_, _, rfl, Token.noConfusion⟩

theorem grouped_inSet (hd : d.Scannable) (column : Column) (members : List Value) (negated : Bool)
    (h : d.Accepts (.inSet column members negated)) :
    d.Grouped (.inSet column members negated) := by
  have hline := h.names column List.mem_cons_self
  cases members with
  | nil =>
    exact grouped_of_part (fun nested => by rw [condition]) (spells_constant negated)
      (readsPart_constant negated)
  | cons v vs =>
    refine grouped_of_part (fun nested => ?_) (spells_members hd hline (v :: vs) negated)
      (.of_test hline ?_ (readTest_members (List.cons_ne_nil v vs) negated))
    · rw [condition]
      exact List.cons_ne_nil v vs
    · cases negated <;> exact ⟨_, _, rfl, Token.noConfusion⟩

theorem grouped_isNull (hd : d.Scannable) (column : Column) (negated : Bool)
    (h : d.Accepts (.isNull column negated)) : d.Grouped (.isNull column negated) := by
  have hline := h.names column List.mem_cons_self
  exact grouped_of_part (fun nested => by rw [condition]) (spells_nullity hd hline negated)
    (.of_test hline ⟨_, _, rfl, Token.noConfusion⟩ (readTest_nullity column negated))

/-- A hand-written fragment is bracketed where it is nested, whatever it holds. -/
theorem grouped_raw (hd : d.Scannable) {text : String} {vs : List Value}
    (hcount : (splitMarkers text).length - 1 = vs.length) : d.Grouped (.raw text vs) := by
  have hspells := spells_weave hd (splitMarkers text) vs
  have hpart := readsPart_raw hcount
  have hraw : ∀ nested, d.condition nested (.raw text vs) =
      .ok (if nested then bracketed (weave (splitMarkers text) vs)
        else weave (splitMarkers text) vs) := by
    intro nested
    rw [condition, raw_of_count hcount]
    cases nested <;> rfl
  exact ⟨⟨_, _, hraw true, hspells.bracketed hd, hpart.whole.bracketed⟩,
    ⟨_, _, hraw false, hspells, hpart.whole⟩⟩

theorem grouped_negation (hd : d.Scannable) {c : Condition} (h : d.Grouped c) :
    d.Grouped (.logical .not [c]) := by
  obtain ⟨fs, ts, hfs, hspells, hwhole⟩ := h.whole
  have hnot : LeadsInto d [.words "NOT "] [.not] := leads_words rfl rfl
  have hrendered : ∀ nested, d.condition nested (.logical .not [c]) =
      .ok (.words "NOT " :: bracketed fs) := by
    intro nested
    rw [condition, hfs]
    rfl
  exact grouped_of_part hrendered (hnot.append (hspells.bracketed hd)) hwhole.negation

theorem grouped_single {op : Connective} (hop : op ≠ .not) {c : Condition} (h : d.Grouped c) :
    d.Grouped (.logical op [c]) := by
  have hreading : (Condition.logical op [c]).reading = c.reading := by
    cases op with
    | not => exact absurd rfl hop
    | _ => rw [Condition.reading_logical]; rfl
  obtain ⟨⟨fs, ts, hfs, hspells, hpart⟩, gs, us, hgs, hspells', hwhole⟩ := h
  rw [← condition_single hop] at hfs hgs
  rw [← hreading] at hpart hwhole
  exact ⟨⟨fs, ts, hfs, hspells, hpart⟩, gs, us, hgs, hspells', hwhole⟩

/-- The children of a junction, each rendered as a part. -/
theorem conditions_grouped {cs : List Condition} (h : ∀ c ∈ cs, d.Grouped c) :
    ∃ groups tss, d.conditions cs = .ok groups ∧ List.Forall₂ (Spells d) groups tss ∧
      List.Forall₂ ReadsPart tss (cs.map Condition.reading) := by
  induction cs with
  | nil => exact ⟨[], [], rfl, .nil, .nil⟩
  | cons c cs ih =>
    obtain ⟨fs, ts, hfs, hspells, hpart⟩ := (h c List.mem_cons_self).nested
    obtain ⟨groups, tss, hgroups, hspells', hparts⟩ :=
      ih fun c' hc' => h c' (List.mem_cons_of_mem c hc')
    refine ⟨fs :: groups, ts :: tss, ?_, .cons hspells hspells', .cons hpart hparts⟩
    rw [conditions, hfs, hgroups]
    rfl

theorem grouped_junction (hd : d.Scannable) {op : Connective} (hop : op ≠ .not)
    {cs : List Condition} (hsome : cs ≠ []) (hcs : ∀ c, cs ≠ [c]) (h : ∀ c ∈ cs, d.Grouped c) :
    d.Grouped (.logical op cs) := by
  obtain ⟨groups, tss, hgroups, hspells, hparts⟩ := conditions_grouped h
  have htss : tss ≠ [] := by
    rintro rfl
    exact hsome (List.map_eq_nil_iff.1 (List.forall₂_nil_left_iff.1 hparts))
  have hwhole : ∃ ts, Spells d (joinWith (" " ++ op.keyword ++ " ") groups) ts ∧
      ReadsWhole ts (Condition.logical op cs).reading := by
    rw [Condition.reading_logical]
    cases op with
    | and =>
      have hand : Joint d (Glyph.signs " AND ".toList) [.and] := Joint.of_space hd rfl
      exact ⟨_, spells_joinWith hand rfl hspells, readsWhole_and hparts htss⟩
    | or =>
      have hor : Joint d (Glyph.signs " OR ".toList) [.or] := Joint.of_space hd rfl
      exact ⟨_, spells_joinWith hor rfl hspells, readsWhole_or hparts htss⟩
    | not => exact absurd rfl hop
  obtain ⟨ts, hspells, hwhole⟩ := hwhole
  have hrendered : ∀ nested, d.condition nested (.logical op cs) =
      .ok (if nested then bracketed (joinWith (" " ++ op.keyword ++ " ") groups)
        else joinWith (" " ++ op.keyword ++ " ") groups) := by
    intro nested
    rw [condition_junction hop hcs, hgroups]
    cases nested <;> rfl
  exact ⟨⟨_, _, hrendered true, hspells.bracketed hd, hwhole.bracketed⟩,
    ⟨_, _, hrendered false, hspells, hwhole⟩⟩

/-- By induction on the condition: every form of it is rendered to what is read as it. -/
theorem grouped (hd : d.Scannable) {c : Condition} (hc : c.WellFormed) (ha : d.Accepts c) :
    d.Grouped c := by
  induction hc with
  | compare op left right => exact grouped_compare hd op left right ha
  | between column low high negated => exact grouped_between hd column low high negated ha
  | inSet column members negated => exact grouped_inSet hd column members negated ha
  | isNull column negated => exact grouped_isNull hd column negated ha
  | raw hcount => exact grouped_raw hd hcount
  | negation _ ih => exact grouped_negation hd (ih (ha.children _ List.mem_cons_self))
  | @junction op cs hop hsome _ ih =>
    have hchildren : ∀ c ∈ cs, d.Grouped c := fun c hc => ih c hc (ha.children c hc)
    by_cases hsingle : ∃ c, cs = [c]
    · obtain ⟨c, rfl⟩ := hsingle
      exact grouped_single hop (hchildren c List.mem_cons_self)
    · exact grouped_junction hd hop hsome (fun c hc => hsingle ⟨c, hc⟩) hchildren

/-! ## Main statement -/

/-- The text of the rendered condition, with the values in their places, reads as given. -/
def ReadsAs (d : Dialect) (c : Condition) (r : Reading) : Prop :=
  ∃ fs, d.condition false c = .ok fs ∧
    (glyphsOf d fs).flatMap (Glyph.chars d) = (sql d fs).toList ∧
    d.read (glyphsOf d fs) (binds fs) = some r

theorem Grouped.readsAs {c : Condition} (h : d.Grouped c) : d.ReadsAs c c.reading := by
  obtain ⟨fs, ts, hfs, ⟨us, hphrase, hsupply⟩, hwhole⟩ := h.whole
  have hread := hwhole (ts.length + 1) (Nat.lt_succ_self ts.length) [] trivial
  rw [List.append_nil] at hread
  refine ⟨fs, hfs, chars_glyphsOf d fs, ?_⟩
  simp [read, hphrase.tokensOf_eq, hsupply, hread]

/-- The dialects that are there from the start. -/
def builtins : List Dialect := [.generic, .sqlite, .mysql, .postgresql]

theorem scannable_of_mem_builtins (h : d ∈ builtins) : d.Scannable := by
  simp only [builtins, List.mem_cons, List.not_mem_nil, or_false] at h
  rcases h with rfl | rfl | rfl | rfl
  · exact scannable_generic
  · exact scannable_sqlite
  · exact scannable_mysql
  · exact scannable_postgresql

/-- The condition reads as the conjunction of two others, and means their conjunction. -/
structure Conjoined (d : Dialect) (a b c : Condition) : Prop where
  reads : d.ReadsAs c (.and [a.reading, b.reading])
  truth : ∀ ρ, (Reading.and [a.reading, b.reading]).truth ρ = (a.truth ρ).conjunction (b.truth ρ)

theorem conjoined (hd : d.Scannable) {a b : Condition} (ha : a.WellFormed) (hb : b.WellFormed)
    (haccepts : d.Accepts a) (haccepts' : d.Accepts b) :
    d.Conjoined a b (.logical .and [a, b]) := by
  have hreading : (Condition.logical .and [a, b]).reading = .and [a.reading, b.reading] := by
    rw [Condition.reading_logical]
    rfl
  have hchildren : ∀ c ∈ [a, b], d.Grouped c := by
    intro c hc
    simp only [List.mem_cons, List.not_mem_nil, or_false] at hc
    rcases hc with rfl | rfl
    · exact grouped hd ha haccepts
    · exact grouped hd hb haccepts'
  refine ⟨?_, fun ρ => ?_⟩
  · rw [← hreading]
    exact (grouped_junction hd (by decide) (by simp) (by simp) hchildren).readsAs
  · rw [Reading.truth, Reading.truths_eq_map, List.map_cons, List.map_singleton, Truth.all_pair,
      Condition.truth_reading, Condition.truth_reading]

/-- A built condition is rendered to text that reads as the condition, and means the same.
Two filters, one on top of the other, read as their conjunction, whatever they are. -/
theorem built_condition_read (hd : d ∈ builtins) {a : Condition} (ha : a.Built)
    (haccepts : d.Accepts a) :
    (d.ReadsAs a a.reading ∧ ∀ ρ, a.reading.truth ρ = a.truth ρ) ∧
      ∀ b : Condition, b.Built → d.Accepts b →
        (∀ s : Select, s.filter = none → ∃ t c,
          (s.filtered (.condition a) >>= (·.filtered (.condition b))) = .ok t ∧
            t.filter = some c ∧ d.Conjoined a b c) ∧
        (∀ s : Update, s.filter = none → ∃ t c,
          (s.filtered (.condition a) >>= (·.filtered (.condition b))) = .ok t ∧
            t.filter = some c ∧ d.Conjoined a b c) ∧
        ∀ s : Delete, s.filter = none → ∃ t c,
          (s.filtered (.condition a) >>= (·.filtered (.condition b))) = .ok t ∧
            t.filter = some c ∧ d.Conjoined a b c := by
  have hscan := scannable_of_mem_builtins hd
  have hgrouped := grouped hscan ha.wellFormed haccepts
  refine ⟨⟨hgrouped.readsAs, fun ρ => Condition.truth_reading ρ a⟩, fun b hb haccepts' => ?_⟩
  have hall := conjoined hscan ha.wellFormed hb.wellFormed haccepts haccepts'
  have hfirst := Condition.conjoin_none ha.wellFormed
  have hsecond := Condition.conjoin_some ha.wellFormed hb.wellFormed
  refine ⟨fun s hs => ⟨{ s with filter := some (.logical .and [a, b]) }, _, ?_, rfl, hall⟩,
    fun s hs => ⟨{ s with filter := some (.logical .and [a, b]) }, _, ?_, rfl, hall⟩,
    fun s hs => ⟨{ s with filter := some (.logical .and [a, b]) }, _, ?_, rfl, hall⟩⟩
  all_goals
    rw [← hs] at hfirst
    refine Except.bind_eq_ok.2 ⟨{ s with filter := some a }, ?_, ?_⟩
    · exact Except.bind_eq_ok.2 ⟨a, hfirst, rfl⟩
    · exact Except.bind_eq_ok.2 ⟨.logical .and [a, b], hsecond, rfl⟩

/-- A condition with a connective at its root that binds loosely, over junctions of one, a
negated fragment with a connective of its own, an AND of BETWEEN, and an empty set. -/
def looseFilter : Condition :=
  .logical .or
    [.logical .and [.logical .not [.raw "x = ? OR y = '?'" [.null]]],
      .logical .and [.between ⟨"t.order"⟩ (.bool false) (.bool true) true,
        .inSet ⟨"a b%"⟩ [] true]]

/-- Another such condition, with a fragment beside names that look like words. -/
def looserFilter : Condition :=
  .logical .or [.raw "p OR q" [], .compare .ilike ⟨"order"⟩ (.column ⟨"and"⟩)]

theorem looseFilter_built : looseFilter.Built := by
  have hraw : (Condition.raw "x = ? OR y = '?'" [.null]).Built :=
    @Condition.Built.fragmentOf (.text "x = ? OR y = '?'") (.list [.null]) _ rfl
  have hnot : (Condition.logical .not [.raw "x = ? OR y = '?'" [.null]]).Built :=
    @Condition.Built.negation (.condition (.raw "x = ? OR y = '?'" [.null])) _
      (by rintro _ ⟨⟩; exact hraw) rfl
  have hbetween : (Condition.between ⟨"t.order"⟩ (.bool false) (.bool true) true).Built :=
    @Condition.Built.within (.text "t.order") (.bool false) (.bool true) true _ rfl
  have hset : (Condition.inSet ⟨"a b%"⟩ [] true).Built :=
    @Condition.Built.memberOf (.text "a b%") (.list []) true _ rfl
  have htests : (Condition.logical .and [.between ⟨"t.order"⟩ (.bool false) (.bool true) true,
      .inSet ⟨"a b%"⟩ [] true]).Built :=
    .junction (by decide) (by simp) (by simp [hbetween, hset])
  have hsingle : (Condition.logical .and
      [.logical .not [.raw "x = ? OR y = '?'" [.null]]]).Built :=
    .junction (by decide) (by simp) (by simp [hnot])
  exact .junction (by decide) (by simp) (by simp [hsingle, htests])

theorem looserFilter_built : looserFilter.Built := by
  have hraw : (Condition.raw "p OR q" []).Built :=
    @Condition.Built.fragmentOf (.text "p OR q") (.list []) _ rfl
  have hlike : (Condition.compare .ilike ⟨"order"⟩ (.column ⟨"and"⟩)).Built :=
    @Condition.Built.comparing .ilike (.text "order") (.column "and") _ rfl
  exact .junction (by decide) (by simp) (by simp [hraw, hlike])

theorem built_condition_read_loose :
    (looseFilter.Built ∧ postgresql.Accepts looseFilter) ∧
      (looserFilter.Built ∧ postgresql.Accepts looserFilter) ∧
      postgresql.ReadsAs looseFilter
        (.or [.not (.atom (.raw "x = ? OR y = '?'" [.null])),
          .and [.atom (.between ⟨"t.order"⟩ (.bool false) (.bool true) true), .constant true]]) ∧
      ∃ t c, ((Delete.mk "t" none).filtered (.condition looseFilter) >>=
          (·.filtered (.condition looserFilter))) = .ok t ∧
        t.filter = some c ∧ postgresql.Conjoined looseFilter looserFilter c := by
  have hloose : postgresql.Accepts looseFilter := ⟨by decide, fun _ _ _ => rfl⟩
  have hlooser : postgresql.Accepts looserFilter := ⟨by decide, fun _ _ _ => rfl⟩
  have hread := built_condition_read (d := postgresql) (by simp [builtins]) looseFilter_built hloose
  obtain ⟨⟨hreads, -⟩, hfilters⟩ := hread
  obtain ⟨-, -, hdelete⟩ := hfilters looserFilter looserFilter_built hlooser
  exact ⟨⟨looseFilter_built, hloose⟩, ⟨looserFilter_built, hlooser⟩, hreads,
    hdelete (Delete.mk "t" none) rfl⟩

end Dialect

end SqlGateway
