import SqlGateway.Proofs.Steps
import SqlGateway.Query.Statement
set_option autoImplicit false

/-!
# Queries: what the builders build

A tree or a statement is *built* when builder functions gave it, from terms whose
conditions are built.  A condition is *well formed* when a negation has one child, a
junction has some, and a hand-written fragment has a marker for each value.  What is built
is well formed, and a built query has a HAVING only where it has groups.

The leaves of a condition are its parts that are no connectives, from left to right; what
a condition holds is read off them.
-/

namespace SqlGateway

namespace Condition

/-! ## Built conditions -/

/-- Builder functions gave the condition. -/
inductive Built : Condition → Prop where
  | comparing {op : Comparison} {name right : Native} {c : Condition}
      (h : Condition.comparing op name right = .ok c) : Built c
  | within {name low high : Native} {negated : Bool} {c : Condition}
      (h : Condition.within name low high negated = .ok c) : Built c
  | memberOf {name members : Native} {negated : Bool} {c : Condition}
      (h : Condition.memberOf name members negated = .ok c) : Built c
  | nullity {name : Native} {negated : Bool} {c : Condition}
      (h : Condition.nullity name negated = .ok c) : Built c
  | fragmentOf {fragment binds : Native} {c : Condition}
      (h : Condition.fragmentOf fragment binds = .ok c) : Built c
  | all {terms : List Term} {c : Condition} (built : ∀ d, .condition d ∈ terms → Built d)
      (h : Condition.all terms = .ok c) : Built c
  | any {terms : List Term} {c : Condition} (built : ∀ d, .condition d ∈ terms → Built d)
      (h : Condition.any terms = .ok c) : Built c
  | negation {term : Term} {c : Condition} (built : ∀ d, term = .condition d → Built d)
      (h : Condition.negation term = .ok c) : Built c

/-- Every connective has the children it needs, and every marker its value. -/
inductive WellFormed : Condition → Prop where
  | compare (op : Comparison) (left : Column) (right : Operand) :
      WellFormed (.compare op left right)
  | between (column : Column) (low high : Value) (negated : Bool) :
      WellFormed (.between column low high negated)
  | inSet (column : Column) (members : List Value) (negated : Bool) :
      WellFormed (.inSet column members negated)
  | isNull (column : Column) (negated : Bool) : WellFormed (.isNull column negated)
  | raw {fragment : String} {binds : List Value}
      (h : (Query.splitMarkers fragment).length - 1 = binds.length) :
      WellFormed (.raw fragment binds)
  | negation {c : Condition} (h : WellFormed c) : WellFormed (.logical .not [c])
  | junction {op : Connective} {cs : List Condition} (hop : op ≠ .not) (some : cs ≠ [])
      (h : ∀ c ∈ cs, WellFormed c) : WellFormed (.logical op cs)

end Condition

/-- A term that is a condition is built. -/
def Term.Built (t : Term) : Prop := ∀ c, t = .condition c → c.Built

theorem Term.toCondition_eq_ok {t : Term} {c : Condition} (h : t.toCondition = .ok c) :
    t = .condition c := by
  unfold Term.toCondition at h
  split at h
  · cases h
  · cases h; rfl
  · cases h

theorem Term.mapM_toCondition_eq_ok {terms : List Term} {cs : List Condition}
    (h : terms.mapM Term.toCondition = .ok cs) : terms = cs.map .condition := by
  induction terms generalizing cs with
  | nil => cases h; rfl
  | cons t ts ih =>
    rw [List.mapM_cons] at h
    obtain ⟨d, hd, h⟩ := Except.bind_eq_ok.1 h
    obtain ⟨ds, hds, h⟩ := Except.bind_eq_ok.1 h
    cases h
    rw [List.map_cons, ← Term.toCondition_eq_ok hd, ← ih hds]

namespace Condition

/-- A junction joins the conditions among its terms, and there is at least one. -/
theorem junction_eq_ok {builder : String} {op : Connective} {terms : List Term} {c : Condition}
    (h : junction builder op terms = .ok c) :
    ∃ cs, c = .logical op cs ∧ cs ≠ [] ∧ terms = cs.map .condition := by
  unfold junction at h
  split at h
  · cases h
  · next hsome =>
    obtain ⟨cs, hcs, h⟩ := Except.bind_eq_ok.1 h
    cases h
    have hterms := Term.mapM_toCondition_eq_ok hcs
    refine ⟨cs, rfl, ?_, hterms⟩
    rintro rfl
    exact hsome (by simp [hterms])

theorem negation_eq_ok {term : Term} {c : Condition} (h : negation term = .ok c) :
    ∃ d, c = .logical .not [d] ∧ term = .condition d := by
  obtain ⟨d, hd, h⟩ := Except.bind_eq_ok.1 h
  cases h
  exact ⟨d, rfl, Term.toCondition_eq_ok hd⟩

theorem fragmentOf_eq_ok {fragment binds : Native} {c : Condition}
    (h : fragmentOf fragment binds = .ok c) :
    ∃ text values, c = .raw text values ∧
      (Query.splitMarkers text).length - 1 = values.length := by
  unfold fragmentOf at h
  split at h
  · cases h
  · next text _ =>
    split at h
    · cases h
    · obtain ⟨members, -, h⟩ := Except.bind_eq_ok.1 h
      obtain ⟨values, -, h⟩ := Except.bind_eq_ok.1 h
      dsimp only at h
      split at h
      · cases h
      · next hcount =>
        cases h
        exact ⟨text, values, rfl, Decidable.not_not.1 hcount⟩

theorem Built.wellFormed {c : Condition} (h : c.Built) : c.WellFormed := by
  induction h with
  | comparing h =>
    obtain ⟨left, -, h⟩ := Except.bind_eq_ok.1 h
    obtain ⟨right, -, h⟩ := Except.bind_eq_ok.1 h
    cases h
    exact .compare _ left right
  | within h =>
    obtain ⟨column, -, h⟩ := Except.bind_eq_ok.1 h
    obtain ⟨low, -, h⟩ := Except.bind_eq_ok.1 h
    obtain ⟨high, -, h⟩ := Except.bind_eq_ok.1 h
    cases h
    exact .between column low high _
  | memberOf h =>
    obtain ⟨column, -, h⟩ := Except.bind_eq_ok.1 h
    obtain ⟨members, -, h⟩ := Except.bind_eq_ok.1 h
    cases h
    exact .inSet column members _
  | nullity h =>
    obtain ⟨column, -, h⟩ := Except.bind_eq_ok.1 h
    cases h
    exact .isNull column _
  | fragmentOf h =>
    obtain ⟨text, values, rfl, hcount⟩ := fragmentOf_eq_ok h
    exact .raw hcount
  | all built h ih =>
    obtain ⟨cs, rfl, hsome, rfl⟩ := junction_eq_ok h
    exact .junction (by decide) hsome fun c hc => ih c (List.mem_map_of_mem hc)
  | any built h ih =>
    obtain ⟨cs, rfl, hsome, rfl⟩ := junction_eq_ok h
    exact .junction (by decide) hsome fun c hc => ih c (List.mem_map_of_mem hc)
  | negation built h ih =>
    obtain ⟨d, rfl, hterm⟩ := negation_eq_ok h
    exact .negation (ih d hterm)

/-- A filter on top of another one is the conjunction of the two. -/
theorem conjoin_eq_ok {current : Option Condition} {term : Term} {c : Condition}
    (h : conjoin current term = .ok c) :
    ∃ new, term = .condition new ∧
      c = current.elim new fun old => .logical .and [old, new] := by
  obtain ⟨new, hnew, h⟩ := Except.bind_eq_ok.1 h
  refine ⟨new, Term.toCondition_eq_ok hnew, ?_⟩
  cases current with
  | none => cases h; rfl
  | some old =>
    obtain ⟨cs, rfl, -, hcs⟩ := junction_eq_ok h
    match cs, hcs with
    | [_, _], hcs => cases hcs; rfl

theorem conjoin_wellFormed {current : Option Condition} {term : Term} {c : Condition}
    (hcurrent : ∀ d ∈ current, d.WellFormed) (hterm : term.Built)
    (h : conjoin current term = .ok c) : c.WellFormed := by
  obtain ⟨new, rfl, rfl⟩ := conjoin_eq_ok h
  have hnew := (hterm new rfl).wellFormed
  cases current with
  | none => exact hnew
  | some old =>
    refine .junction (by decide) (by simp) fun d hd => ?_
    simp only [List.mem_cons, List.not_mem_nil, or_false] at hd
    rcases hd with rfl | rfl
    · exact hcurrent d rfl
    · exact hnew

/-- A well-formed condition is a condition to the builders. -/
theorem WellFormed.toCondition {c : Condition} (h : c.WellFormed) :
    (Term.condition c).toCondition = .ok c := by
  cases h <;> rfl

/-- Well-formed conditions can be joined. -/
theorem junction_of_wellFormed (builder : String) (op : Connective) {cs : List Condition}
    (hsome : cs ≠ []) (h : ∀ c ∈ cs, c.WellFormed) :
    junction builder op (cs.map .condition) = .ok (.logical op cs) := by
  have hterms : (cs.map Term.condition).mapM Term.toCondition = .ok cs := by
    clear hsome
    induction cs with
    | nil => rfl
    | cons c cs ih =>
      rw [List.map_cons, List.mapM_cons, (h c List.mem_cons_self).toCondition,
        ih fun c' hc' => h c' (List.mem_cons_of_mem c hc')]
      rfl
  rw [junction, if_neg (by simpa using hsome), hterms]
  rfl

theorem Built.junction {op : Connective} (hop : op ≠ .not) {cs : List Condition}
    (hsome : cs ≠ []) (h : ∀ c ∈ cs, c.Built) : (Condition.logical op cs).Built := by
  have hwell : ∀ c ∈ cs, c.WellFormed := fun c hc => (h c hc).wellFormed
  have hterms : ∀ c, Term.condition c ∈ cs.map Term.condition → c.Built := by
    rintro c hc
    obtain ⟨c', hc', hsame⟩ := List.mem_map.1 hc
    cases hsame
    exact h c hc'
  cases op with
  | and => exact .all hterms (junction_of_wellFormed "and_" .and hsome hwell)
  | or => exact .any hterms (junction_of_wellFormed "or_" .or hsome hwell)
  | not => exact absurd rfl hop

theorem conjoin_none {c : Condition} (h : c.WellFormed) :
    conjoin none (.condition c) = .ok c := by
  rw [conjoin, h.toCondition]
  rfl

theorem conjoin_some {old c : Condition} (hold : old.WellFormed) (h : c.WellFormed) :
    conjoin (some old) (.condition c) = .ok (.logical .and [old, c]) := by
  have hall := @junction_of_wellFormed "and_" .and [old, c] (by simp) (by simp [hold, h])
  rw [conjoin, h.toCondition]
  exact hall

/-- Every child of a well-formed connective is well formed. -/
theorem WellFormed.children {op : Connective} {cs : List Condition}
    (h : (Condition.logical op cs).WellFormed) : ∀ c ∈ cs, c.WellFormed := by
  cases h with
  | negation h => intro c hc; cases List.mem_singleton.1 hc; exact h
  | junction _ _ h => exact h

/-! ## Leaves -/

mutual

/-- The parts of a condition that are no connectives, from left to right. -/
def leaves : Condition → List Condition
  | .logical _ children => leavesOf children
  | c => [c]

/-- The leaves of several conditions. -/
def leavesOf : List Condition → List Condition
  | [] => []
  | c :: rest => leaves c ++ leavesOf rest

end

theorem leavesOf_eq_flatMap (cs : List Condition) : leavesOf cs = cs.flatMap leaves := by
  induction cs with
  | nil => rfl
  | cons c cs ih => rw [leavesOf, ih, List.flatMap_cons]

theorem leaves_logical (op : Connective) (cs : List Condition) :
    (Condition.logical op cs).leaves = cs.flatMap leaves := by
  rw [leaves, leavesOf_eq_flatMap]

/-- The values that stand in a leaf itself. -/
def ownValues : Condition → List Value
  | .compare _ _ (.literal v) => [v]
  | .between _ low high _ => [low, high]
  | .inSet _ members _ => members
  | .raw _ binds => binds
  | _ => []

/-- The text of a hand-written leaf. -/
def ownText? : Condition → Option String
  | .raw fragment _ => some fragment
  | _ => none

/-- The columns that a leaf names. -/
def ownColumns : Condition → List Column
  | .compare _ left (.column right) => [left, right]
  | .compare _ left (.literal _) => [left]
  | .between column _ _ _ | .inSet column _ _ | .isNull column _ => [column]
  | _ => []

/-- The literals of a condition, from left to right. -/
def literals (c : Condition) : List Value := c.leaves.flatMap ownValues

/-- The hand-written fragments of a condition. -/
def writtenTexts (c : Condition) : List String := c.leaves.filterMap ownText?

/-- The columns that a condition names. -/
def columns (c : Condition) : List Column := c.leaves.flatMap ownColumns

theorem literals_inSet (column : Column) (members : List Value) (negated : Bool) :
    (Condition.inSet column members negated).literals = members :=
  List.append_nil members

theorem literals_raw (fragment : String) (binds : List Value) :
    (Condition.raw fragment binds).literals = binds :=
  List.append_nil binds

theorem literals_logical (op : Connective) (cs : List Condition) :
    (Condition.logical op cs).literals = cs.flatMap literals := by
  simp only [literals, leaves_logical, List.flatMap_assoc]
  rfl

theorem writtenTexts_logical (op : Connective) (cs : List Condition) :
    (Condition.logical op cs).writtenTexts = cs.flatMap writtenTexts := by
  simp only [writtenTexts, leaves_logical, List.filterMap_flatMap]
  rfl

theorem columns_logical (op : Connective) (cs : List Condition) :
    (Condition.logical op cs).columns = cs.flatMap columns := by
  simp only [columns, leaves_logical, List.flatMap_assoc]
  rfl

end Condition

/-! ## Built statements -/

namespace Select

/-- Builder functions gave the query. -/
inductive Built : Select → Prop where
  | start {table : Native} {names : List Native} {s : Select}
      (h : Select.start table names = .ok s) : Built s
  | project {s t : Select} {names : List Native} (built : Built s)
      (h : s.project names = .ok t) : Built t
  | filtered {s t : Select} {term : Term} (built : Built s) (term_built : term.Built)
      (h : s.filtered term = .ok t) : Built t
  | orderedBy {s t : Select} {term direction : Native} (built : Built s)
      (h : s.orderedBy term direction = .ok t) : Built t
  | groupedBy {s t : Select} {names : List Native} (built : Built s)
      (h : s.groupedBy names = .ok t) : Built t
  | withHaving {s t : Select} {term : Term} (built : Built s) (term_built : term.Built)
      (h : s.withHaving term = .ok t) : Built t
  | limited {s t : Select} {n : Native} (built : Built s) (h : s.limited n = .ok t) : Built t
  | startingAt {s t : Select} {n : Native} (built : Built s)
      (h : s.startingAt n = .ok t) : Built t
  | distinctRows {s : Select} (built : Built s) : Built s.distinctRows
  | counted {s : Select} (built : Built s) : Built s.counted
  | joined {s t : Select} {kind : JoinKind} {table : Native} {on : Term} (built : Built s)
      (on_built : on.Built) (h : s.joined kind table on = .ok t) : Built t

/-- The conditions of a query, in the order in which they are written. -/
def conditions (s : Select) : List Condition :=
  s.joins.map Join.on ++ s.filter.toList ++ s.having.toList

/-- The literal that stands for a number of rows. -/
def rowLiteral (n : Nat) : Value := .int64 (.ofInt n)

/-- The literals of a query, in the order in which they are written. -/
def literals (s : Select) : List Value :=
  s.conditions.flatMap Condition.literals ++ s.limit.toList.map rowLiteral ++
    s.offset.toList.map rowLiteral

/-- The conditions are well formed, and groups are there to be filtered. -/
structure WellFormed (s : Select) : Prop where
  conditions : ∀ c ∈ s.conditions, c.WellFormed
  having : s.having ≠ none → s.group ≠ []

/-- Only the conditions and the groups of a query matter. -/
theorem WellFormed.congr {s t : Select} (h : s.WellFormed) (hjoins : t.joins = s.joins)
    (hfilter : t.filter = s.filter) (hhaving : t.having = s.having) (hgroup : t.group = s.group) :
    t.WellFormed where
  conditions := by
    have hsame : t.conditions = s.conditions := by
      simp only [Select.conditions, hjoins, hfilter, hhaving]
    rw [hsame]
    exact h.conditions
  having := by rw [hhaving, hgroup]; exact h.having

theorem mem_conditions {s : Select} {c : Condition} :
    c ∈ s.conditions ↔ (∃ j ∈ s.joins, j.on = c) ∨ s.filter = some c ∨ s.having = some c := by
  simp only [conditions, List.mem_append, List.mem_map, Option.mem_toList, or_assoc]

theorem WellFormed.withFilter {s : Select} {f : Condition} (h : s.WellFormed)
    (hf : f.WellFormed) : WellFormed { s with filter := some f } where
  conditions c hc := by
    rcases mem_conditions.1 hc with hjoin | hfilter | hhaving
    · exact h.conditions c (mem_conditions.2 (.inl hjoin))
    · cases hfilter; exact hf
    · exact h.conditions c (mem_conditions.2 (.inr (.inr hhaving)))
  having := h.having

/-- Whatever the sort term is, one more item is sorted by. -/
theorem orderedBy_eq_ok {s t : Select} {term direction : Native}
    (h : s.orderedBy term direction = .ok t) :
    ∃ item, t = { s with order := s.order ++ [item] } := by
  have rest : ∀ (name way : Native), (do
      let c ← Column.of name
      let d ← Query.directionOf way
      return { s with order := s.order ++ [⟨c, d⟩] } : Except QueryError Select) = .ok t →
      ∃ item, t = { s with order := s.order ++ [item] } := by
    intro name way h
    obtain ⟨c, -, h⟩ := Except.bind_eq_ok.1 h
    obtain ⟨d, -, h⟩ := Except.bind_eq_ok.1 h
    cases h
    exact ⟨_, rfl⟩
  unfold Select.orderedBy at h
  dsimp only at h
  split at h
  · exact rest _ _ h
  · cases h
  · exact rest _ _ h

theorem Built.wellFormed {s : Select} (h : s.Built) : s.WellFormed := by
  induction h with
  | start h =>
    obtain ⟨table, -, h⟩ := Except.bind_eq_ok.1 h
    obtain ⟨columns, -, h⟩ := Except.bind_eq_ok.1 h
    cases h
    exact ⟨by simp [Select.conditions], by simp⟩
  | project built h ih =>
    obtain ⟨columns, -, h⟩ := Except.bind_eq_ok.1 h
    cases h
    exact ih.congr rfl rfl rfl rfl
  | @filtered s _ _ built hterm h ih =>
    obtain ⟨f, hf, h⟩ := Except.bind_eq_ok.1 h
    cases h
    refine ih.withFilter (Condition.conjoin_wellFormed (fun d hd => ?_) hterm hf)
    exact ih.conditions d (mem_conditions.2 (.inr (.inl hd)))
  | orderedBy built h ih =>
    obtain ⟨item, rfl⟩ := orderedBy_eq_ok h
    exact ih.congr rfl rfl rfl rfl
  | groupedBy built h ih =>
    unfold Select.groupedBy at h
    split at h
    · cases h
    · obtain ⟨columns, -, h⟩ := Except.bind_eq_ok.1 h
      cases h
      exact ⟨ih.conditions, fun hsome => List.append_ne_nil_of_left_ne_nil (ih.having hsome) _⟩
  | @withHaving s _ _ built hterm h ih =>
    unfold Select.withHaving at h
    split at h
    · cases h
    · next hgroup =>
      obtain ⟨f, hf, h⟩ := Except.bind_eq_ok.1 h
      cases h
      refine ⟨fun c hc => ?_, fun _ hnil => hgroup (by rw [hnil]; rfl)⟩
      rcases mem_conditions.1 hc with hjoin | hfilter | hhaving
      · exact ih.conditions c (mem_conditions.2 (.inl hjoin))
      · exact ih.conditions c (mem_conditions.2 (.inr (.inl hfilter)))
      · cases hhaving
        refine Condition.conjoin_wellFormed (fun d hd => ?_) hterm hf
        exact ih.conditions d (mem_conditions.2 (.inr (.inr hd)))
  | limited built h ih =>
    obtain ⟨k, -, h⟩ := Except.bind_eq_ok.1 h
    cases h
    exact ih.congr rfl rfl rfl rfl
  | startingAt built h ih =>
    obtain ⟨k, -, h⟩ := Except.bind_eq_ok.1 h
    cases h
    exact ih.congr rfl rfl rfl rfl
  | distinctRows built ih => exact ih.congr rfl rfl rfl rfl
  | counted built ih => exact ih.congr rfl rfl rfl rfl
  | joined built hon h ih =>
    obtain ⟨table, -, h⟩ := Except.bind_eq_ok.1 h
    obtain ⟨on, hcondition, h⟩ := Except.bind_eq_ok.1 h
    cases h
    refine ⟨fun c hc => ?_, ih.having⟩
    rcases mem_conditions.1 hc with ⟨j, hj, rfl⟩ | hrest
    · rcases List.mem_append.1 hj with hj | hj
      · exact ih.conditions _ (mem_conditions.2 (.inl ⟨j, hj, rfl⟩))
      · cases List.mem_singleton.1 hj
        exact (hon on (Term.toCondition_eq_ok hcondition)).wellFormed
    · exact ih.conditions c (mem_conditions.2 (.inr hrest))

end Select

/-- Builder functions gave the new rows. -/
inductive Insert.Built : Insert → Prop where
  | start {table : Native} {rows : List (List (String × Native))} {s : Insert}
      (h : Insert.start table rows = .ok s) : Built s
  | withReturning {s t : Insert} {names : List Native} (built : Built s)
      (h : s.withReturning names = .ok t) : Built t

namespace Update

/-- Builder functions gave the update. -/
inductive Built : Update → Prop where
  | start {table : Native} {entries : List (String × Native)} {s : Update}
      (h : Update.start table entries = .ok s) : Built s
  | assigning {s t : Update} {name n : Native} (built : Built s)
      (h : s.assigning name n = .ok t) : Built t
  | filtered {s t : Update} {term : Term} (built : Built s) (term_built : term.Built)
      (h : s.filtered term = .ok t) : Built t

theorem Built.wellFormed {s : Update} (h : s.Built) : ∀ c ∈ s.filter, c.WellFormed := by
  induction h with
  | start h =>
    obtain ⟨table, -, h⟩ := Except.bind_eq_ok.1 h
    obtain ⟨assignments, -, h⟩ := Except.bind_eq_ok.1 h
    obtain ⟨name, -, h⟩ := Except.bind_eq_ok.1 h
    split at h
    · cases h
    · cases h; simp
  | assigning built h ih =>
    obtain ⟨a, -, h⟩ := Except.bind_eq_ok.1 h
    cases h
    exact ih
  | filtered built hterm h ih =>
    obtain ⟨f, hf, h⟩ := Except.bind_eq_ok.1 h
    cases h
    rintro c ⟨⟩
    exact Condition.conjoin_wellFormed ih hterm hf

end Update

namespace Delete

/-- Builder functions gave the delete. -/
inductive Built : Delete → Prop where
  | start {table : Native} {s : Delete} (h : Delete.start table = .ok s) : Built s
  | filtered {s t : Delete} {term : Term} (built : Built s) (term_built : term.Built)
      (h : s.filtered term = .ok t) : Built t

theorem Built.wellFormed {s : Delete} (h : s.Built) : ∀ c ∈ s.filter, c.WellFormed := by
  induction h with
  | start h =>
    obtain ⟨table, -, h⟩ := Except.bind_eq_ok.1 h
    cases h
    simp
  | filtered built hterm h ih =>
    obtain ⟨f, hf, h⟩ := Except.bind_eq_ok.1 h
    cases h
    rintro c ⟨⟩
    exact Condition.conjoin_wellFormed ih hterm hf

end Delete

namespace Statement

/-- Builder functions gave the statement. -/
def Built : Statement → Prop
  | .select s => s.Built
  | .insert s => s.Built
  | .update s => s.Built
  | .delete s => s.Built

/-- The conditions of a statement, in the order in which they are written. -/
def conditions : Statement → List Condition
  | .select s => s.conditions
  | .insert _ => []
  | .update s => s.filter.toList
  | .delete s => s.filter.toList

/-- The hand-written fragments of a statement. -/
def writtenTexts (s : Statement) : List String := s.conditions.flatMap Condition.writtenTexts

/-- The literals of a statement, in the order in which they are written: of new rows row by
row, of an update the assigned values before those of its filter. -/
def literals : Statement → List Value
  | .select s => s.literals
  | .insert s => s.rows.flatten
  | .update s => s.assignments.map Prod.snd ++ s.filter.toList.flatMap Condition.literals
  | .delete s => s.filter.toList.flatMap Condition.literals

/-- The conditions of a statement are well formed, and groups are there to be filtered. -/
def WellFormed : Statement → Prop
  | .select s => s.WellFormed
  | .insert _ => True
  | .update s => ∀ c ∈ s.filter, c.WellFormed
  | .delete s => ∀ c ∈ s.filter, c.WellFormed

theorem Built.wellFormed {s : Statement} (h : s.Built) : s.WellFormed := by
  cases s with
  | select s => exact Select.Built.wellFormed h
  | insert s => trivial
  | update s => exact Update.Built.wellFormed h
  | delete s => exact Delete.Built.wellFormed h

end Statement

end SqlGateway
