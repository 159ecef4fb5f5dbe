import Mathlib.Data.List.Basic
import SqlGateway.Proofs.Dialect.Percent
set_option autoImplicit false

/-!
# Dialects: the shape of a statement

The shape of a statement is what is left of it when zero takes the place of every value and
of every number of rows.  Rendering the shape gives the fragments of the statement with zero
in the place of their values: so the text of a statement is that of its shape, and no value
has a say in it.  There is one lemma per rendering function.
-/

namespace SqlGateway

open Fragment

/-! ## Shapes -/

/-- What takes the place of a value. -/
def nought : Value := Select.rowLiteral 0

namespace Fragment

/-- The fragment without its value. -/
def blank : Fragment → Fragment
  | .bind _ => .bind nought
  | f => f

end Fragment

/-- As many noughts as there are values. -/
def blanks (vs : List Value) : List Value := vs.map fun _ => nought

def Operand.blank : Operand → Operand
  | .literal _ => .literal nought
  | .column c => .column c

namespace Condition

mutual

/-- The condition without its values. -/
def blank : Condition → Condition
  | .compare op left right => .compare op left right.blank
  | .logical op children => .logical op (blankAll children)
  | .between column _ _ negated => .between column nought nought negated
  | .inSet column members negated => .inSet column (blanks members) negated
  | .isNull column negated => .isNull column negated
  | .raw fragment binds => .raw fragment (blanks binds)
  | .stray n => .stray n

/-- Several conditions without their values. -/
def blankAll : List Condition → List Condition
  | [] => []
  | c :: rest => blank c :: blankAll rest

end

mutual

/-- The literals of a condition that rendering comes by: a negation is one of its first child
only. -/
def carried : Condition → List Value
  | .logical .not [] => []
  | .logical .not (c :: _) => carried c
  | .logical _ children => carriedAll children
  | .compare op left right => ownValues (.compare op left right)
  | .between column low high negated => ownValues (.between column low high negated)
  | .inSet column members negated => ownValues (.inSet column members negated)
  | .isNull column negated => ownValues (.isNull column negated)
  | .raw fragment binds => ownValues (.raw fragment binds)
  | .stray n => ownValues (.stray n)

/-- The literals of several conditions that rendering comes by. -/
def carriedAll : List Condition → List Value
  | [] => []
  | c :: rest => carried c ++ carriedAll rest

end

theorem carriedAll_eq_flatMap (cs : List Condition) : carriedAll cs = cs.flatMap carried := by
  induction cs with
  | nil => rfl
  | cons c cs ih => rw [carriedAll, ih, List.flatMap_cons]

/-- In a well-formed condition these are all literals. -/
theorem WellFormed.carried_eq {c : Condition} (h : c.WellFormed) : c.carried = c.literals := by
  induction h with
  | compare op left right => simp [carried, literals, leaves]
  | between column low high negated => simp [carried, literals, leaves]
  | inSet column members negated => simp [carried, literals, leaves]
  | isNull column negated => simp [carried, literals, leaves]
  | raw h => simp [carried, literals, leaves]
  | negation h ih => simp [carried, literals_logical, ih]
  | @junction op cs hop _ _ ih =>
    rw [literals_logical, carried, carriedAll_eq_flatMap]
    · exact List.flatMap_congr ih
    · exact fun hnot _ => hop hnot
    · exact fun _ _ hnot _ => hop hnot

end Condition

namespace Select

/-- The query without its values and its numbers of rows. -/
def blank (s : Select) : Select :=
  { s with
    joins := s.joins.map fun j => { j with on := j.on.blank }
    filter := s.filter.map Condition.blank
    having := s.having.map Condition.blank
    limit := s.limit.map fun _ => 0
    offset := s.offset.map fun _ => 0 }

/-- The literals of a query that rendering comes by: without groups, none of its HAVING. -/
def carried (s : Select) : List Value :=
  s.joins.flatMap (fun j => j.on.carried) ++ s.filter.toList.flatMap Condition.carried ++
    (if s.group = [] then [] else s.having.toList.flatMap Condition.carried) ++
    s.limit.toList.map rowLiteral ++ s.offset.toList.map rowLiteral

end Select

namespace Statement

/-- The statement without its values and its numbers of rows. -/
def blank : Statement → Statement
  | .select s => .select s.blank
  | .insert s => .insert { s with rows := s.rows.map blanks }
  | .update s => .update { s with
      assignments := s.assignments.map fun a => (a.1, nought)
      filter := s.filter.map Condition.blank }
  | .delete s => .delete { s with filter := s.filter.map Condition.blank }

/-- The literals of a statement that rendering comes by, in order. -/
def carried : Statement → List Value
  | .select s => s.carried
  | .insert s => s.rows.flatten
  | .update s => s.assignments.map Prod.snd ++ s.filter.toList.flatMap Condition.carried
  | .delete s => s.filter.toList.flatMap Condition.carried

/-- Of a well-formed statement rendering comes by all literals. -/
theorem WellFormed.carried_eq {s : Statement} (h : s.WellFormed) : s.carried = s.literals := by
  have hsame : ∀ o : Option Condition, (∀ c ∈ o, c.WellFormed) →
      o.toList.flatMap Condition.carried = o.toList.flatMap Condition.literals := by
    intro o ho
    exact List.flatMap_congr fun c hc => (ho c (Option.mem_toList.1 hc)).carried_eq
  cases s with
  | select s =>
    have hjoins : s.joins.flatMap (fun j => j.on.carried) =
        s.joins.flatMap fun j => j.on.literals :=
      List.flatMap_congr fun j hj =>
        (h.conditions j.on (Select.mem_conditions.2 (.inl ⟨j, hj, rfl⟩))).carried_eq
    have hfilter := hsame s.filter fun c hc =>
      h.conditions c (Select.mem_conditions.2 (.inr (.inl hc)))
    have hhaving : (if s.group = [] then [] else s.having.toList.flatMap Condition.carried) =
        s.having.toList.flatMap Condition.literals := by
      split
      next hgroup =>
        have hnone : s.having = none := Decidable.byContradiction fun hsome => h.having hsome hgroup
        rw [hnone]
        rfl
      · exact hsame s.having fun c hc =>
          h.conditions c (Select.mem_conditions.2 (.inr (.inr hc)))
    simp only [carried, Select.carried, hjoins, hfilter, hhaving, literals, Select.literals,
      Select.conditions, List.flatMap_append, List.flatMap_map]
  | insert s => rfl
  | update s => exact congrArg (s.assignments.map Prod.snd ++ ·) (hsame s.filter h)
  | delete s => exact hsame s.filter h

end Statement

/-! ## Fragments of shapes -/

namespace Fragment

/-- Fragments without their values. -/
def blankFragments (fs : List Fragment) : List Fragment := fs.map blank

theorem sql_blankFragments (d : Dialect) (fs : List Fragment) :
    sql d (blankFragments fs) = sql d fs := by
  have htext : ∀ f : Fragment, f.blank.text d = f.text d := by
    intro f
    cases f <;> rfl
  simp only [sql, blankFragments, List.flatMap_map, htext]

@[simp] theorem blankFragments_nil : blankFragments [] = [] := rfl

@[simp] theorem blankFragments_append (fs gs : List Fragment) :
    blankFragments (fs ++ gs) = blankFragments fs ++ blankFragments gs := List.map_append

@[simp] theorem blankFragments_words (s : String) (fs : List Fragment) :
    blankFragments (.words s :: fs) = .words s :: blankFragments fs := rfl

@[simp] theorem blankFragments_name (n : String) (fs : List Fragment) :
    blankFragments (.name n :: fs) = .name n :: blankFragments fs := rfl

@[simp] theorem blankFragments_bind (v : Value) (fs : List Fragment) :
    blankFragments (.bind v :: fs) = .bind nought :: blankFragments fs := rfl

@[simp] theorem blankFragments_written (t : String) (fs : List Fragment) :
    blankFragments (.written t :: fs) = .written t :: blankFragments fs := rfl

theorem length_binds_blankFragments (fs : List Fragment) :
    (binds (blankFragments fs)).length = (binds fs).length := by
  induction fs with
  | nil => rfl
  | cons f fs ih => cases f <;> simp [ih]

@[simp] theorem blankFragments_joinWith (separator : String) (groups : List (List Fragment)) :
    blankFragments (joinWith separator groups) =
      joinWith separator (groups.map blankFragments) := by
  induction groups with
  | nil => rfl
  | cons g rest ih =>
    cases rest with
    | nil => rfl
    | cons g' rest => simpa [joinWith] using ih

@[simp] theorem binds_joinWith (separator : String) (groups : List (List Fragment)) :
    binds (joinWith separator groups) = groups.flatMap binds := by
  induction groups with
  | nil => rfl
  | cons g rest ih =>
    cases rest with
    | nil => simp [joinWith]
    | cons g' rest => simpa [joinWith, binds_append] using ih

@[simp] theorem blankFragments_bracketed (fs : List Fragment) :
    blankFragments (bracketed fs) = bracketed (blankFragments fs) := by
  simp [bracketed]

@[simp] theorem binds_bracketed (fs : List Fragment) : binds (bracketed fs) = binds fs := by
  simp [bracketed, binds_append]

@[simp] theorem blankFragments_names (cs : List Column) :
    blankFragments (names cs) = names cs := by
  simp [names, Function.comp_def]

@[simp] theorem binds_names (cs : List Column) : binds (names cs) = [] := by
  simp [names, List.flatMap_map]

@[simp] theorem blankFragments_values (vs : List Value) :
    blankFragments (values vs) = values (blanks vs) := by
  simp [values, blanks, Function.comp_def]

@[simp] theorem binds_values (vs : List Value) : binds (values vs) = vs := by
  simp [values, List.flatMap_map]

end Fragment

/-! ## Outcomes -/

/-- Two outcomes are the same error, or a result and what a function makes of it. -/
inductive Follows {ε α : Type} (f : α → α) (P : α → Prop) : Except ε α → Except ε α → Prop where
  | error (e : ε) : Follows f P (.error e) (.error e)
  | ok {a : α} (h : P a) : Follows f P (.ok a) (.ok (f a))

theorem Follows.bind {ε α β : Type} {f : α → α} {g : β → β} {P : α → Prop} {Q : β → Prop}
    {x y : Except ε α} {k l : α → Except ε β} (h : Follows f P x y)
    (hk : ∀ a, P a → Follows g Q (k a) (l (f a))) : Follows g Q (x >>= k) (y >>= l) := by
  cases h with
  | error e => exact .error e
  | ok h => exact hk _ h

/-- As before, but a number may be refused where the function's side has a result. -/
def FollowsOrRefused {α : Type} (f : α → α) (P : α → Prop) (x y : Except QueryError α) : Prop :=
  Follows f P x y ∨ (∃ r, x = .error (.refused r)) ∧ ∃ a, y = .ok a

theorem Follows.bindLast {α β : Type} {f : α → α} {g : β → β} {P : α → Prop} {Q : β → Prop}
    {x y : Except QueryError α} {k l : α → Except QueryError β} (h : Follows f P x y)
    (hk : ∀ a, P a → FollowsOrRefused g Q (k a) (l (f a))) :
    FollowsOrRefused g Q (x >>= k) (y >>= l) := by
  cases h with
  | error e => exact .inl (.error e)
  | ok h => exact hk _ h

/-- A number of rows that is refused ends the rendering; the shape goes on without a failure. -/
theorem FollowsOrRefused.bind {α β : Type} {f : α → α} {g : β → β} {P : α → Prop} {Q : β → Prop}
    {x y : Except QueryError α} {k l : α → Except QueryError β} (h : FollowsOrRefused f P x y)
    (hk : ∀ a, P a → FollowsOrRefused g Q (k a) (l (f a))) (hl : ∀ a, ∃ b, l a = .ok b) :
    FollowsOrRefused g Q (x >>= k) (y >>= l) := by
  rcases h with h | ⟨⟨r, rfl⟩, a, rfl⟩
  · exact h.bindLast hk
  · exact .inr ⟨⟨r, rfl⟩, hl a⟩

namespace Dialect

variable {d : Dialect}

/-- A part and its shape are rendered to fragments with the given values, and to these fragments
without them. -/
def Shapes (vs : List Value) :
    Except QueryError (List Fragment) → Except QueryError (List Fragment) → Prop :=
  Follows blankFragments fun fs => binds fs = vs

/-- Several parts and their shapes are rendered so. -/
def ShapesGroups (vs : List Value) :
    Except QueryError (List (List Fragment)) → Except QueryError (List (List Fragment)) → Prop :=
  Follows (List.map blankFragments) fun gs => gs.flatMap binds = vs

theorem shapes_ok {vs : List Value} {fs gs : List Fragment} (hblank : blankFragments fs = gs)
    (h : binds fs = vs) : Shapes vs (.ok fs) (.ok gs) := by
  subst hblank
  exact .ok h

theorem shapesGroups_ok {vs : List Value} {gs hs : List (List Fragment)}
    (hblank : gs.map blankFragments = hs) (h : gs.flatMap binds = vs) :
    ShapesGroups vs (.ok gs) (.ok hs) := by
  subst hblank
  exact .ok h

/-! ## Conditions -/

theorem blankFragments_weave (pieces : List String) (vs : List Value) :
    blankFragments (weave pieces vs) = weave pieces (blanks vs) := by
  induction pieces generalizing vs with
  | nil => cases vs <;> rfl
  | cons p ps ih =>
    cases vs with
    | nil => rfl
    | cons v vs => simp [weave, blanks, ih]

theorem raw_shapes (text : String) (vs : List Value) :
    Shapes vs (raw text vs) (raw text (blanks vs)) := by
  have hlength : (blanks vs).length = vs.length := List.length_map _
  by_cases hcount : (Query.splitMarkers text).length - 1 = vs.length
  · have hrendered : Rendered [text] True vs (weave (Query.splitMarkers text) vs) :=
      weave_splitMarkers_rendered hcount
    rw [raw_of_count hcount, raw_of_count (hcount.trans hlength.symm)]
    exact shapes_ok (blankFragments_weave _ _) (hrendered.binds trivial)
  · simp only [raw, hlength, ne_eq, hcount, not_false_eq_true, if_true]
    exact .error _

/-- The children of a connective are as many as those of its shape. -/
theorem blankAll_ne_singleton {cs : List Condition} (h : ∀ c, cs ≠ [c]) :
    ∀ c, Condition.blankAll cs ≠ [c] := by
  intro c hc
  match cs with
  | [] => cases hc
  | [c'] => exact h c' rfl
  | _ :: _ :: _ => cases hc

/-- By recursion on the rendering: what a connective adds to its children holds no values. -/
theorem condition_shapes (nested : Bool) (c : Condition) :
    Shapes c.carried (d.condition nested c) (d.condition nested c.blank) := by
  refine condition.induct d
    (fun nested c => Shapes c.carried (d.condition nested c) (d.condition nested c.blank))
    (fun cs => ShapesGroups (Condition.carriedAll cs) (d.conditions cs)
      (d.conditions (Condition.blankAll cs)))
    ?lacking ?comparison ?idle ?negation ?single ?junction ?between ?empty ?members ?null ?raw
    ?stray ?nil ?cons nested c
  case lacking =>
    intro nested op left right hlacking
    simp only [Condition.blank, condition, hlacking, if_true]
    exact .error _
  case comparison =>
    intro nested op left right hlacking
    simp only [Condition.blank, condition, if_neg hlacking]
    cases right <;> exact .ok rfl
  case idle =>
    intro nested
    exact .error _
  case negation =>
    intro nested c tail ih
    simp only [Condition.blank, Condition.blankAll, Condition.carried, condition]
    exact ih.bind fun fs hfs => shapes_ok (by simp) (by simpa using hfs)
  case single =>
    intro nested op c hop ih
    have hcarried : (Condition.logical op [c]).carried = c.carried := by
      cases op <;> simp [Condition.carried, Condition.carriedAll]
    rw [condition_single hop, hcarried, Condition.blank, Condition.blankAll, Condition.blankAll,
      condition_single hop]
    exact ih
  case junction =>
    intro nested op children hidle hnot hsingle ih
    have hop : op ≠ .not := by
      rintro rfl
      cases children with
      | nil => exact hidle rfl rfl
      | cons c tail => exact hnot c tail rfl rfl
    have hcarried : (Condition.logical op children).carried = Condition.carriedAll children := by
      cases op with
      | not => exact absurd rfl hop
      | _ => simp [Condition.carried]
    rw [condition_junction hop hsingle, hcarried, Condition.blank,
      condition_junction hop (blankAll_ne_singleton hsingle)]
    refine ih.bind fun parts hparts => ?_
    cases nested with
    | true => exact shapes_ok (by simp) (by simpa using hparts)
    | false => exact shapes_ok (by simp) (by simpa using hparts)
  case between =>
    intro nested column low high negated
    exact .ok rfl
  case empty =>
    intro nested column negated
    simp only [Condition.blank, blanks, List.map_nil, condition]
    exact .ok rfl
  case members =>
    intro nested column members negated hsome
    have hblanks : blanks members ≠ [] := by simpa [blanks] using hsome
    rw [Condition.blank, condition, condition]
    · exact shapes_ok (by simp) (by simp [Condition.carried, Condition.ownValues])
    · exact hblanks
    · exact hsome
  case null =>
    intro nested column negated
    exact .ok rfl
  case raw =>
    intro nested text vs
    simp only [Condition.blank, condition]
    refine (raw_shapes text vs).bind fun fs hfs => ?_
    cases nested with
    | true => exact shapes_ok (by simp) ((binds_bracketed fs).trans hfs)
    | false => exact shapes_ok (by simp) hfs
  case stray =>
    intro nested n
    exact .error _
  case nil => exact .ok rfl
  case cons =>
    intro c cs hfirst hrest
    simp only [Condition.blankAll, conditions]
    exact hfirst.bind fun fs hfs => hrest.bind fun gs hgs =>
      shapesGroups_ok rfl (by rw [List.flatMap_cons, hfs, hgs, Condition.carriedAll])

/-! ## Clauses -/

theorem clause_shapes (keyword : String) (o : Option Condition) :
    ShapesGroups (o.toList.flatMap Condition.carried) (d.clause keyword o)
      (d.clause keyword (o.map Condition.blank)) := by
  cases o with
  | none => exact .ok rfl
  | some c =>
    exact (condition_shapes false c).bind fun fs hfs =>
      shapesGroups_ok (by simp) (by simp [hfs])

theorem mapM_shapes {α : Type} {f : α → Except QueryError (List Fragment)} {g : α → α}
    {vs : α → List Value} (h : ∀ a, Shapes (vs a) (f a) (f (g a))) (as : List α) :
    ShapesGroups (as.flatMap vs) (as.mapM f) ((as.map g).mapM f) := by
  induction as with
  | nil => exact .ok rfl
  | cons a as ih =>
    rw [List.mapM_cons, List.map_cons, List.mapM_cons]
    exact (h a).bind fun fs hfs => ih.bind fun gs hgs =>
      shapesGroups_ok rfl (by rw [List.flatMap_cons, hfs, hgs, List.flatMap_cons])

theorem projection_shapes (s : Select) : Shapes [] (projection s) (projection s.blank) := by
  have hsame : projection s.blank = projection s := rfl
  rw [hsame]
  unfold projection
  split
  · split
    · split
      · exact .ok rfl
      · exact .error _
    · exact .ok rfl
  · split
    · exact .ok rfl
    · exact shapes_ok (by simp) (by simp)

theorem join_shapes (j : Join) :
    Shapes j.on.carried (d.join j) (d.join { j with on := j.on.blank }) := by
  unfold join
  split
  · exact (condition_shapes false j.on).bind fun fs hfs => shapes_ok (by simp) (by simpa using hfs)
  · exact .error _

theorem grouping_shapes (s : Select) :
    ShapesGroups (if s.group = [] then [] else s.having.toList.flatMap Condition.carried)
      (d.grouping s) (d.grouping s.blank) := by
  have hgroup : s.blank.group = s.group := rfl
  unfold grouping
  rw [hgroup]
  cases s.group with
  | nil => exact .ok rfl
  | cons c cs =>
    rw [if_neg (List.cons_ne_nil c cs)]
    exact (clause_shapes "HAVING" s.having).bind fun gs hgs =>
      shapesGroups_ok (by simp) (by simp [hgs])

/-! ## The row window -/

theorem rowCount_zero : rowCount 0 = .ok (.bind nought) := by
  rfl

theorem rowCount_shapes (n : Nat) :
    FollowsOrRefused Fragment.blank (· = .bind (Select.rowLiteral n)) (rowCount n)
      (rowCount 0) := by
  rw [rowCount_zero]
  unfold rowCount
  cases hmake : Value.make .int64 (.int n) with
  | ok v =>
    rw [make_int64_eq_ok hmake]
    exact .inl (.ok rfl)
  | error r => exact .inr ⟨⟨r, rfl⟩, _, rfl⟩

/-- A window with an offset after its limit, if there is one. -/
theorem offset_shapes (limit : List (List Fragment)) {vs : List Value}
    (hlimit : limit.flatMap binds = vs) (o : Option Nat) :
    FollowsOrRefused (List.map blankFragments)
      (fun gs => gs.flatMap binds = vs ++ o.toList.map Select.rowLiteral)
      (match o with
        | some n => do
          let f ← rowCount n
          pure (limit ++ [[.words "OFFSET ", f]])
        | none => pure (limit ++ []))
      (match o.map fun _ => 0 with
        | some n => do
          let f ← rowCount n
          pure (limit.map blankFragments ++ [[.words "OFFSET ", f]])
        | none => pure (limit.map blankFragments ++ [])) := by
  cases o with
  | none => exact .inl (shapesGroups_ok (by simp) (by simpa using hlimit))
  | some n =>
    refine (rowCount_shapes n).bind (fun f hf => ?_) fun f => ⟨_, rfl⟩
    subst hf
    exact .inl (shapesGroups_ok (by simp [blank]) (by simp [hlimit]))

theorem window_shapes (s : Select) :
    FollowsOrRefused (List.map blankFragments)
      (fun gs => gs.flatMap binds =
        s.limit.toList.map Select.rowLiteral ++ s.offset.toList.map Select.rowLiteral)
      (d.window s) (d.window s.blank) := by
  have hlimit : s.blank.limit = s.limit.map fun _ => 0 := rfl
  have hoffset : s.blank.offset = s.offset.map fun _ => 0 := rfl
  unfold window
  dsimp only
  rw [hlimit, hoffset]
  cases s.limit with
  | some n =>
    refine (rowCount_shapes n).bind (fun f hf => ?_) fun f => ?_
    · subst hf
      exact offset_shapes [[.words "LIMIT ", .bind (Select.rowLiteral n)]] rfl s.offset
    · cases s.offset with
      | none => exact ⟨_, rfl⟩
      | some _ =>
        simp only [Option.map_some, pure_bind, rowCount_zero]
        exact ⟨_, rfl⟩
  | none =>
    cases s.offset with
    | none => exact .inl (.ok rfl)
    | some n =>
      cases d.unboundedLimit with
      | none =>
        simp only [pure_bind, Option.map_some, Option.map_none]
        exact offset_shapes [] rfl (some n)
      | some unbounded =>
        simp only [pure_bind, Option.map_some, Option.map_none]
        exact offset_shapes [[.words ("LIMIT " ++ unbounded)]] rfl (some n)

/-! ## Statements -/

@[simp] theorem map_blankFragments_ordering (items : List OrderItem) :
    (ordering items).map blankFragments = ordering items := by
  cases items with
  | nil => rfl
  | cons o items => simp [ordering, Function.comp_def]

@[simp] theorem binds_ordering (items : List OrderItem) : (ordering items).flatMap binds = [] := by
  cases items with
  | nil => rfl
  | cons o items => simp [ordering, List.flatMap_map]

theorem select_shapes (s : Select) :
    FollowsOrRefused blankFragments (fun fs => binds fs = s.carried) (d.select s)
      (d.select s.blank) := by
  have hjoins : ShapesGroups (s.joins.flatMap fun j => j.on.carried) (s.joins.mapM d.join)
      (s.blank.joins.mapM d.join) := mapM_shapes join_shapes s.joins
  unfold select
  dsimp only
  refine (projection_shapes s).bindLast fun projected hp => hjoins.bindLast fun joins hj =>
    (clause_shapes "WHERE" s.filter).bindLast fun filter hf =>
      (grouping_shapes s).bindLast fun group hg =>
        (window_shapes s).bind (fun rows hr => ?_) fun rows => ⟨_, rfl⟩
  refine .inl (shapes_ok ?_ ?_)
  · simp [Select.blank]
  · simp [hp, hj, hf, hg, hr, Select.carried]

theorem insert_shapes (s : Insert) :
    Shapes s.rows.flatten (d.insert s) (d.insert { s with rows := s.rows.map blanks }) := by
  let row (vs : List Value) := bracketed (values vs)
  have hrows : (s.rows.map row).map blankFragments = (s.rows.map blanks).map row := by
    simp [row, Function.comp_def]
  have hbinds : (s.rows.map row).flatMap binds = s.rows.flatten := by
    simp [row, List.flatMap_map, List.flatMap_id']
  unfold insert
  dsimp only
  split
  · refine shapes_ok ?_ ?_
    · simpa using congrArg _ hrows
    · simpa [binds_append] using hbinds
  · split
    · refine shapes_ok ?_ ?_
      · simpa using congrArg _ hrows
      · simpa [binds_append] using hbinds
    · exact .error _

theorem filtered_shapes {base base' : List Fragment} {vs : List Value}
    (hblank : blankFragments base = base') (hbase : binds base = vs) (filter : Option Condition) :
    Shapes (vs ++ filter.toList.flatMap Condition.carried) (d.filtered base filter)
      (d.filtered base' (filter.map Condition.blank)) := by
  exact (clause_shapes "WHERE" filter).bind fun gs hgs =>
    shapes_ok (by simp [hblank]) (by simp [hbase, hgs])

/-- A statement and its shape are rendered to the same fragments but for their values. -/
theorem fragments_shapes (s : Statement) :
    FollowsOrRefused blankFragments (fun fs => binds fs = s.carried) (d.fragments s)
      (d.fragments s.blank) := by
  cases s with
  | select s => exact select_shapes s
  | insert s => exact .inl (insert_shapes s)
  | update s =>
    refine .inl (filtered_shapes ?_ ?_ s.filter)
    · simp [Function.comp_def]
    · have hvalues : (s.assignments.flatMap fun a => [a.2]) = s.assignments.map Prod.snd :=
        List.map_eq_flatMap.symm
      simpa [List.flatMap_map] using hvalues
  | delete s =>
    have hbase : binds [.words "DELETE FROM ", .name s.table] = [] := rfl
    exact .inl (filtered_shapes rfl hbase s.filter)

/-! ## No value in the text -/

/-- The text of a statement is that of the fragments of its shape. -/
theorem render_shape {s : Statement} {b : BoundStatement} (h : d.render s = .ok b) :
    ∃ fs, d.fragments s.blank = .ok (blankFragments fs) ∧ b.sql = sql d (blankFragments fs) ∧
      b.binds = binds fs ∧ binds fs = s.carried := by
  obtain ⟨fs, hfs, hbound⟩ := render_eq_ok h
  obtain ⟨hsql, hbinds, -⟩ := bound_eq_ok hbound
  have hshapes := fragments_shapes (d := d) s
  generalize d.fragments s.blank = y at hshapes
  rw [hfs] at hshapes
  rcases hshapes with hfollows | ⟨⟨r, hrefused⟩, -⟩
  · cases hfollows with
    | ok hcarried => exact ⟨fs, rfl, by rw [hsql, sql_blankFragments], hbinds, hcarried⟩
  · cases hrefused

theorem bound_ne_unsupported (fs : List Fragment) (name construct : String) :
    d.bound fs ≠ .error (.unsupported name construct) := by
  unfold bound BoundStatement.checked
  intro h
  split at h <;> cases h

/-- A statement is refused for a construct if its shape is. -/
theorem render_unsupported_iff {s : Statement} {name construct : String} :
    d.render s = .error (.unsupported name construct) ↔
      d.fragments s.blank = .error (.unsupported name construct) := by
  have hfragments : d.render s = .error (.unsupported name construct) ↔
      d.fragments s = .error (.unsupported name construct) := by
    unfold render
    cases d.fragments s with
    | error e => exact ⟨fun h => by cases h; rfl, fun h => by cases h; rfl⟩
    | ok fs => exact ⟨fun h => absurd h (bound_ne_unsupported fs name construct), nofun⟩
  rw [hfragments]
  have hshapes := fragments_shapes (d := d) s
  generalize d.fragments s = x at hshapes ⊢
  generalize d.fragments s.blank = y at hshapes ⊢
  rcases hshapes with hfollows | ⟨⟨r, rfl⟩, fs, rfl⟩
  · cases hfollows with
    | error e => exact Iff.rfl
    | ok _ => exact ⟨nofun, nofun⟩
  · exact ⟨nofun, nofun⟩

/-- Statements of one shape are rendered to the same text, and each to its own literals, as many
and in the same order; or both are refused for the same construct.  A hand-written statement is
rendered to the same text whatever its arguments are. -/
theorem render_sameShape (d : Dialect) {s s' : Statement} (h : s.blank = s'.blank) :
    (∀ b b', d.render s = .ok b → d.render s' = .ok b' →
      b.sql = b'.sql ∧ b.binds = s.carried ∧ b'.binds = s'.carried ∧
        b.binds.length = b'.binds.length) ∧
    (∀ name construct, d.render s = .error (.unsupported name construct) ↔
      d.render s' = .error (.unsupported name construct)) ∧
    ∀ text args args' b b', d.renderRaw text args = .ok b → d.renderRaw text args' = .ok b' →
      b.sql = b'.sql := by
  refine ⟨?_, ?_, ?_⟩
  · intro b b' hb hb'
    obtain ⟨fs, hfs, hsql, hbinds, hcarried⟩ := render_shape hb
    obtain ⟨fs', hfs', hsql', hbinds', hcarried'⟩ := render_shape hb'
    rw [h, hfs'] at hfs
    have hsame : blankFragments fs' = blankFragments fs := Except.ok.inj hfs
    refine ⟨by rw [hsql, hsql', hsame], hbinds.trans hcarried, hbinds'.trans hcarried', ?_⟩
    rw [hbinds, hbinds', ← length_binds_blankFragments, ← length_binds_blankFragments fs', hsame]
  · intro name construct
    rw [render_unsupported_iff, render_unsupported_iff, h]
  · intro text args args' b b' hb hb'
    obtain ⟨t, vs, fs, htext, hfs, hbound⟩ := renderRaw_eq_ok hb
    obtain ⟨t', vs', fs', htext', hfs', hbound'⟩ := renderRaw_eq_ok hb'
    obtain rfl : t = t' := Option.some.inj (htext.symm.trans htext')
    obtain ⟨hcount, rfl⟩ := raw_eq_ok hfs
    obtain ⟨hcount', rfl⟩ := raw_eq_ok hfs'
    have hblanks : blanks vs = blanks vs' := by
      simp only [blanks, List.map_const', ← hcount, ← hcount']
    rw [(bound_eq_ok hbound).1, (bound_eq_ok hbound').1, ← sql_blankFragments,
      ← sql_blankFragments d (weave _ vs'), blankFragments_weave, blankFragments_weave, hblanks]

/-- A query for the rows in which a column has a value. -/
def lookup (v : Value) : Statement :=
  .select { table := "t", filter := some (.logical .or [.raw "a = ?" [v], .inSet ⟨"b"⟩ [v] true]) }

theorem lookup_renders (v : Value) : ∃ b, mysql.render (lookup v) = .ok b := by
  have hraw : (Condition.raw "a = ?" [v]).WellFormed := .raw rfl
  have hfilter : (Condition.logical .or [.raw "a = ?" [v], .inSet ⟨"b"⟩ [v] true]).WellFormed := by
    refine .junction (by decide) (List.cons_ne_nil _ _) fun c hc => ?_
    simp only [List.mem_cons, List.not_mem_nil, or_false] at hc
    rcases hc with rfl | rfl
    · exact hraw
    · exact .inSet _ _ _
  have hwell : (lookup v).WellFormed := by
    refine ⟨fun c hc => ?_, fun h => absurd rfl h⟩
    obtain rfl := List.mem_singleton.1 hc
    exact hfilter
  have htexts : ∀ t ∈ (lookup v).writtenTexts, t = "a = ?" := by
    intro t ht
    exact List.mem_singleton.1 ht
  have haligned := render_aligned scannable_mysql hwell
    (fun t ht => by rw [htexts t ht]; decide) fun _ _ t ht => by rw [htexts t ht]; decide
  cases hrender : mysql.render (lookup v) with
  | ok b => exact ⟨b, rfl⟩
  | error e => exact nomatch (haligned.of_eq_error hrender).1

/-- A quote in a value is no quote in the text. -/
theorem render_sameShape_lookup :
    (lookup (.int64 7)).blank = (lookup (.text "' OR '' = '")).blank ∧
      ∃ b b', mysql.render (lookup (.int64 7)) = .ok b ∧
        mysql.render (lookup (.text "' OR '' = '")) = .ok b' ∧ b.sql = b'.sql ∧
        b.binds = [.int64 7, .int64 7] ∧ b'.binds = [.text "' OR '' = '", .text "' OR '' = '"] := by
  obtain ⟨b, hb⟩ := lookup_renders (.int64 7)
  obtain ⟨b', hb'⟩ := lookup_renders (.text "' OR '' = '")
  have hshape : (lookup (.int64 7)).blank = (lookup (.text "' OR '' = '")).blank := rfl
  obtain ⟨hsql, hbinds, hbinds', -⟩ := (render_sameShape mysql hshape).1 b b' hb hb'
  exact ⟨hshape, b, b', hb, hb', hsql, hbinds, hbinds'⟩

end Dialect

end SqlGateway
