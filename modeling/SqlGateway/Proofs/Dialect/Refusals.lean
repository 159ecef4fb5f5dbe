import SqlGateway.Proofs.Dialect.Placeholders
import SqlGateway.Proofs.Value.RoundTrip
set_option autoImplicit false

/-!
# Dialects: what is refused

What the builder functions gave is rendered unless the dialect has something against it: an
ILIKE, a join or a RETURNING that it lacks, a count of distinct rows that is not over one
column, or a window whose numbers no signed word holds.  The last of these no builder function
looks for, and it depends on no dialect.

Each step of rendering is put next to what is to blame for its errors: it fails with one of
these errors where there is one, and succeeds where there is none.
-/

namespace SqlGateway

open Fragment

/-- The condition has an ILIKE in it. -/
def Condition.UsesIlike (c : Condition) : Prop :=
  ∃ left right, Condition.compare .ilike left right ∈ c.leaves

theorem Condition.usesIlike_logical {op : Connective} {cs : List Condition} :
    (Condition.logical op cs).UsesIlike ↔ ∃ c ∈ cs, c.UsesIlike := by
  simp only [UsesIlike, leaves_logical, List.mem_flatMap]
  constructor
  · rintro ⟨left, right, c, hc, hleaf⟩
    exact ⟨c, hc, left, right, hleaf⟩
  · rintro ⟨c, hc, left, right, hleaf⟩
    exact ⟨left, right, c, hc, hleaf⟩

namespace Dialect

/-- What a dialect has against a statement, as an error. -/
inductive Refuses (d : Dialect) : Statement → QueryError → Prop where
  | ilike {s : Statement} {c : Condition} (hc : c ∈ s.conditions) (huses : c.UsesIlike)
      (hlacks : d.ilike = false) : Refuses d s (.unsupported d.name "ILIKE")
  | join {s : Select} {j : Join} (hj : j ∈ s.joins) (hlacks : j.kind ∉ d.joins) :
      Refuses d (.select s) (.unsupported d.name j.kind.keyword)
  | returning {s : Insert} (hsome : s.returning ≠ []) (hlacks : d.returning = false) :
      Refuses d (.insert s) (.unsupported d.name "RETURNING")
  | countDistinct {s : Select} (hcount : s.count = true) (hdistinct : s.distinct = true)
      (hcolumns : ∀ c, s.columns ≠ some [c]) : Refuses d (.select s) (.invalid .countDistinct)
  /-- Every dialect refuses such a window. -/
  | window {s : Select} {n : Nat} (hn : s.limit = some n ∨ s.offset = some n)
      (hlarge : 2 ^ 63 ≤ n) : Refuses d (.select s) (.refused (.notPayload (.int n) .int64))

/-! ## Blame -/

/-- A step fails where something is to blame, with an error for it, and succeeds elsewhere. -/
def Blames {α : Type} (R : QueryError → Prop) : Except QueryError α → Prop :=
  Gives R fun _ => ∀ e, ¬ R e

namespace Blames

variable {α β : Type} {R S : QueryError → Prop} {x : Except QueryError α}

theorem nothing (a : α) (h : ∀ e, ¬ R e) : Blames R (.ok a : Except QueryError α) := .ok h

theorem congr (h : Blames R x) (hRS : ∀ e, R e ↔ S e) : Blames S x :=
  h.mono (fun e => (hRS e).1) fun _ hnone e hS => hnone e ((hRS e).2 hS)

/-- Of two steps either may be to blame. -/
theorem bind {f : α → Except QueryError β} (h : Blames R x) (hf : ∀ a, Blames S (f a)) :
    Blames (fun e => R e ∨ S e) (x >>= f) := by
  cases h with
  | error he => exact .error (.inl he)
  | ok hR =>
    refine (hf _).mono (fun e => .inr) fun _ hS e he => ?_
    exact he.elim (hR e) (hS e)

/-- What is made of a result is not to blame. -/
theorem map {f : α → β} (h : Blames R x) : Blames R (x >>= fun a => .ok (f a)) :=
  Gives.bind h fun _ hnone => .ok hnone

/-- Of a list of steps each may be to blame. -/
theorem mapM {f : α → Except QueryError β} {R : α → QueryError → Prop} {as : List α}
    (h : ∀ a ∈ as, Blames (R a) (f a)) : Blames (fun e => ∃ a ∈ as, R a e) (as.mapM f) := by
  induction as with
  | nil => exact nothing [] (by simp)
  | cons a as ih =>
    rw [List.mapM_cons]
    have hmore := ih fun b hb => h b (List.mem_cons_of_mem a hb)
    have hall := (h a List.mem_cons_self).bind fun b => hmore.map (f := fun bs => b :: bs)
    exact hall.congr fun e => by simp

end Blames

variable {d : Dialect}

/-! ## Conditions -/

/-- The dialect lacks ILIKE, and a condition has it. -/
def LacksIlike (d : Dialect) (c : Condition) (e : QueryError) : Prop :=
  e = .unsupported d.name "ILIKE" ∧ d.ilike = false ∧ c.UsesIlike

theorem lacksIlike_logical {op : Connective} {cs : List Condition} {e : QueryError} :
    d.LacksIlike (.logical op cs) e ↔ ∃ c ∈ cs, d.LacksIlike c e := by
  simp only [LacksIlike, Condition.usesIlike_logical]
  constructor
  · rintro ⟨he, hlacks, c, hc, huses⟩
    exact ⟨c, hc, he, hlacks, huses⟩
  · rintro ⟨c, hc, he, hlacks, huses⟩
    exact ⟨he, hlacks, c, hc, huses⟩

/-- A leaf that is no ILIKE is not to blame. -/
theorem not_lacksIlike {c : Condition} (hleaf : c.leaves = [c])
    (hc : ∀ left right, c ≠ .compare .ilike left right) (e : QueryError) : ¬ d.LacksIlike c e := by
  rintro ⟨-, -, left, right, hmem⟩
  rw [hleaf, List.mem_singleton] at hmem
  exact hc left right hmem.symm

theorem compare_blames (nested : Bool) (op : Comparison) (left : Column) (right : Operand) :
    Blames (d.LacksIlike (.compare op left right))
      (d.condition nested (.compare op left right)) := by
  rw [condition]
  split
  next hlacks =>
    simp only [Bool.and_eq_true, beq_iff_eq, Bool.not_eq_true'] at hlacks
    obtain ⟨rfl, hlacks⟩ := hlacks
    exact .error ⟨rfl, hlacks, left, right, List.mem_singleton_self _⟩
  next hhas =>
    refine .nothing _ fun e hblamed => ?_
    obtain ⟨-, hlacks, left', right', hmem⟩ := hblamed
    cases List.mem_singleton.1 hmem
    simp [hlacks] at hhas

theorem junction_blames (nested : Bool) {op : Connective} (hop : op ≠ .not)
    {cs : List Condition} (hcs : ∀ c, cs ≠ [c])
    (h : Blames (fun e => ∃ c ∈ cs, d.LacksIlike c e) (d.conditions cs)) :
    Blames (d.LacksIlike (.logical op cs)) (d.condition nested (.logical op cs)) := by
  rw [condition_junction hop hcs]
  exact h.map.congr fun e => lacksIlike_logical.symm

/-- By recursion on the rendering: a well-formed condition is only refused for an ILIKE. -/
theorem condition_blames (nested : Bool) (c : Condition) :
    c.WellFormed → Blames (d.LacksIlike c) (d.condition nested c) := by
  refine condition.induct d
    (fun nested c => c.WellFormed → Blames (d.LacksIlike c) (d.condition nested c))
    (fun cs => (∀ c ∈ cs, c.WellFormed) →
      Blames (fun e => ∃ c ∈ cs, d.LacksIlike c e) (d.conditions cs))
    ?lacking ?comparison ?idle ?negation ?single ?junction ?between ?empty ?members ?null ?raw
    ?stray ?nil ?cons nested c
  case lacking => exact fun nested op left right _ _ => compare_blames nested op left right
  case comparison => exact fun nested op left right _ _ => compare_blames nested op left right
  case idle =>
    intro nested hidle
    cases hidle with
    | junction hop => exact absurd rfl hop
  case negation =>
    intro nested c tail ih hwell
    cases hwell with
    | negation hc =>
      rw [condition]
      exact (ih hc).map.congr fun e => by simp [lacksIlike_logical]
    | junction hop => exact absurd rfl hop
  case single =>
    intro nested op c hop ih hwell
    rw [condition_single hop]
    exact (ih (hwell.children c List.mem_cons_self)).congr fun e => by simp [lacksIlike_logical]
  case junction =>
    intro nested op children hidle hnot hsingle ih hwell
    have hop : op ≠ .not := by
      rintro rfl
      cases children with
      | nil => exact hidle rfl rfl
      | cons c tail => exact hnot c tail rfl rfl
    exact junction_blames nested hop hsingle (ih hwell.children)
  case between =>
    intro nested column low high negated _
    rw [condition]
    exact .nothing _ (not_lacksIlike rfl (by simp))
  case empty =>
    intro nested column negated _
    rw [condition]
    exact .nothing _ (not_lacksIlike rfl (by simp))
  case members =>
    intro nested column members negated hsome _
    rw [condition]
    · exact .nothing _ (not_lacksIlike rfl (by simp))
    · exact hsome
  case null =>
    intro nested column negated _
    rw [condition]
    exact .nothing _ (not_lacksIlike rfl (by simp))
  case raw =>
    intro nested text vs hwell
    cases hwell with
    | raw hcount =>
      rw [condition, raw_of_count hcount]
      exact .nothing _ (not_lacksIlike rfl (by simp))
  case stray =>
    intro nested n hstray
    cases hstray
  case nil => exact fun _ => .nothing [] (by simp)
  case cons =>
    intro c cs hfirst hrest hwell
    rw [conditions]
    have hmore := hrest fun c' hc' => hwell c' (List.mem_cons_of_mem c hc')
    have hall := (hfirst (hwell c List.mem_cons_self)).bind fun g =>
      hmore.map (f := fun gs => g :: gs)
    exact hall.congr fun e => by simp

/-! ## Clauses -/

theorem clause_blames (keyword : String) {o : Option Condition} (h : ∀ c ∈ o, c.WellFormed) :
    Blames (fun e => ∃ c ∈ o, d.LacksIlike c e) (d.clause keyword o) := by
  cases o with
  | none => exact .nothing [] (by simp)
  | some c =>
    have hcondition := (condition_blames (d := d) false c (h c rfl)).map
      (f := fun fs => [.words (keyword ++ " ") :: fs])
    exact hcondition.congr fun e => by simp

/-- No signed word holds a number of rows. -/
def Exceeds (n : Nat) (e : QueryError) : Prop :=
  e = .refused (.notPayload (.int n) .int64) ∧ 2 ^ 63 ≤ n

theorem rowCount_blames (n : Nat) : Blames (Exceeds n) (rowCount n) := by
  have hword : inInt64 n = true ↔ n < 2 ^ 63 := by
    rw [Codec.inInt64_iff]
    omega
  unfold rowCount
  simp only [Value.make]
  by_cases hn : inInt64 n = true
  · rw [if_pos hn]
    refine .nothing _ fun e hblamed => ?_
    have hsmall := hword.1 hn
    have hlarge := hblamed.2
    omega
  · rw [if_neg hn]
    have hlarge : 2 ^ 63 ≤ n := by
      rw [hword] at hn
      omega
    exact .error ⟨rfl, hlarge⟩

/-- A window with an offset after its limit, if there is one. -/
theorem offset_blames (limit : List (List Fragment)) (o : Option Nat) :
    Blames (fun e => ∃ n ∈ o, Exceeds n e)
      (match o with
        | some n => do
          let f ← rowCount n
          pure (limit ++ [[.words "OFFSET ", f]])
        | none => pure (limit ++ [])) := by
  cases o with
  | none => exact .nothing _ (by simp)
  | some n =>
    have hcount := (rowCount_blames n).map (f := fun f => limit ++ [[.words "OFFSET ", f]])
    exact hcount.congr fun e => by simp

theorem window_blames (s : Select) :
    Blames (fun e => (∃ n ∈ s.limit, Exceeds n e) ∨ ∃ n ∈ s.offset, Exceeds n e)
      (d.window s) := by
  unfold window
  dsimp only
  split
  · next n hn =>
    have hboth := (rowCount_blames n).bind fun f => offset_blames [[.words "LIMIT ", f]] s.offset
    simp only [pure_bind]
    exact hboth.congr fun e => by simp [hn]
  · next hnone _ _ =>
    simp only [pure_bind]
    exact (offset_blames _ s.offset).congr fun e => by simp [hnone]
  · next hlimited _ =>
    have hnone : s.limit = none := Option.eq_none_iff_forall_ne_some.2 fun n hn => hlimited n hn
    simp only [pure_bind]
    exact (offset_blames _ s.offset).congr fun e => by simp [hnone]

theorem projection_blames (s : Select) :
    Blames (fun e => e = .invalid .countDistinct ∧ s.count = true ∧ s.distinct = true ∧
      ∀ c, s.columns ≠ some [c]) (projection s) := by
  unfold projection
  split
  next hcount =>
    split
    next hdistinct =>
      split
      next c hcolumns => exact .nothing _ fun e hblamed => hblamed.2.2.2 c hcolumns
      next hcolumns => exact .error ⟨rfl, hcount, hdistinct, hcolumns⟩
    next hdistinct => exact .nothing _ fun e hblamed => hdistinct hblamed.2.2.1
  next hcount =>
    have hnobody : ∀ e : QueryError, ¬ (e = .invalid .countDistinct ∧ s.count = true ∧
        s.distinct = true ∧ ∀ c, s.columns ≠ some [c]) := fun e hblamed => hcount hblamed.2.1
    split
    · exact .nothing _ hnobody
    · exact .nothing _ hnobody

/-- The dialect lacks the kind of a join. -/
def LacksJoin (d : Dialect) (j : Join) (e : QueryError) : Prop :=
  e = .unsupported d.name j.kind.keyword ∧ j.kind ∉ d.joins

theorem join_blames {j : Join} (h : j.on.WellFormed) :
    Blames (fun e => d.LacksJoin j e ∨ d.LacksIlike j.on e) (d.join j) := by
  unfold join
  split
  next hhas =>
    have hkind : j.kind ∈ d.joins := by simpa using hhas
    exact (condition_blames false j.on h).map.congr fun e => by simp [LacksJoin, hkind]
  next hlacks => exact .error (.inl ⟨rfl, by simpa using hlacks⟩)

/-- A built query has groups where it filters them, so no filter escapes. -/
theorem grouping_blames {s : Select} (h : s.WellFormed) :
    Blames (fun e => ∃ c ∈ s.having, d.LacksIlike c e) (d.grouping s) := by
  unfold grouping
  split
  next hgroup =>
    have hhaving : s.having = none := Decidable.byContradiction fun hsome => h.having hsome hgroup
    exact .nothing [] (by simp [hhaving])
  · exact (clause_blames "HAVING" fun c hc =>
      h.conditions c (Select.mem_conditions.2 (.inr (.inr hc)))).map

/-! ## Statements -/

theorem select_blames {s : Select} (h : s.WellFormed) :
    Blames (d.Refuses (.select s)) (d.select s) := by
  have hjoins := Blames.mapM fun j hj =>
    join_blames (d := d) (h.conditions j.on (Select.mem_conditions.2 (.inl ⟨j, hj, rfl⟩)))
  have hfilter := clause_blames (d := d) "WHERE" fun c hc =>
    h.conditions c (Select.mem_conditions.2 (.inr (.inl hc)))
  have hgroup := grouping_blames (d := d) h
  have hwindow := window_blames (d := d) s
  have hall : Blames _ (d.select s) := (projection_blames s).bind fun _ => hjoins.bind fun _ =>
    hfilter.bind fun _ => hgroup.bind fun _ => hwindow.map
  refine hall.congr fun e => ⟨?_, ?_⟩
  · rintro (⟨rfl, hcount, hdistinct, hcolumns⟩ | ⟨j, hj, ⟨rfl, hlacks⟩ | ⟨rfl, hlacks, huses⟩⟩ |
      ⟨c, hc, rfl, hlacks, huses⟩ | ⟨c, hc, rfl, hlacks, huses⟩ | ⟨n, hn, rfl, hlarge⟩ |
      ⟨n, hn, rfl, hlarge⟩)
    · exact .countDistinct hcount hdistinct hcolumns
    · exact .join hj hlacks
    · exact .ilike (Select.mem_conditions.2 (.inl ⟨j, hj, rfl⟩)) huses hlacks
    · exact .ilike (Select.mem_conditions.2 (.inr (.inl hc))) huses hlacks
    · exact .ilike (Select.mem_conditions.2 (.inr (.inr hc))) huses hlacks
    · exact .window (.inl hn) hlarge
    · exact .window (.inr hn) hlarge
  · intro hrefuses
    cases hrefuses with
    | ilike hc huses hlacks =>
      rcases Select.mem_conditions.1 hc with ⟨j, hj, rfl⟩ | hfilter | hhaving
      · exact .inr (.inl ⟨j, hj, .inr ⟨rfl, hlacks, huses⟩⟩)
      · exact .inr (.inr (.inl ⟨_, hfilter, rfl, hlacks, huses⟩))
      · exact .inr (.inr (.inr (.inl ⟨_, hhaving, rfl, hlacks, huses⟩)))
    | join hj hlacks => exact .inr (.inl ⟨_, hj, .inl ⟨rfl, hlacks⟩⟩)
    | countDistinct hcount hdistinct hcolumns => exact .inl ⟨rfl, hcount, hdistinct, hcolumns⟩
    | window hn hlarge =>
      rcases hn with hlimit | hoffset
      · exact .inr (.inr (.inr (.inr (.inl ⟨_, hlimit, rfl, hlarge⟩))))
      · exact .inr (.inr (.inr (.inr (.inr ⟨_, hoffset, rfl, hlarge⟩))))

theorem insert_blames (s : Insert) : Blames (d.Refuses (.insert s)) (d.insert s) := by
  have hnone : ∀ {e}, d.Refuses (.insert s) e → s.returning ≠ [] ∧ d.returning = false := by
    intro e hrefuses
    cases hrefuses with
    | ilike hc => cases hc
    | returning hsome hlacks => exact ⟨hsome, hlacks⟩
  unfold insert
  dsimp only
  split
  next hnothing => exact .nothing _ fun e hrefuses => (hnone hrefuses).1 hnothing
  next hsome =>
    split
    next hhas => exact .nothing _ fun e hrefuses => by simp [(hnone hrefuses).2] at hhas
    next hlacks => exact .error (.returning hsome (by simpa using hlacks))

/-- Update and delete are only refused for their filters. -/
theorem filtered_blames {s : Statement} {filter : Option Condition} (base : List Fragment)
    (hconditions : s.conditions = filter.toList) (h : ∀ c ∈ filter, c.WellFormed)
    (hilike : ∀ e, d.Refuses s e → ∃ c ∈ s.conditions, d.LacksIlike c e) :
    Blames (d.Refuses s) (d.filtered base filter) := by
  have hclause := (clause_blames (d := d) "WHERE" h).map (f := fun gs => joinWith " " (base :: gs))
  refine hclause.congr fun e => ⟨?_, ?_⟩
  · rintro ⟨c, hc, rfl, hlacks, huses⟩
    exact .ilike (by rw [hconditions]; exact Option.mem_toList.2 hc) huses hlacks
  · intro hrefuses
    obtain ⟨c, hc, hlacks⟩ := hilike e hrefuses
    rw [hconditions] at hc
    exact ⟨c, Option.mem_toList.1 hc, hlacks⟩

/-- A statement that is well formed is rendered to fragments unless the dialect refuses it. -/
theorem fragments_blames {s : Statement} (h : s.WellFormed) :
    Blames (d.Refuses s) (d.fragments s) := by
  cases s with
  | select s => exact select_blames h
  | insert s => exact insert_blames s
  | update s =>
    refine filtered_blames _ rfl h fun e hrefuses => ?_
    cases hrefuses with
    | ilike hc huses hlacks => exact ⟨_, hc, rfl, hlacks, huses⟩
  | delete s =>
    refine filtered_blames _ rfl h fun e hrefuses => ?_
    cases hrefuses with
    | ilike hc huses hlacks => exact ⟨_, hc, rfl, hlacks, huses⟩

/-- What was built without hand-written fragments is rendered exactly where the dialect has nothing
against it, and every error is one that it has against the statement. -/
theorem render_refusals {d : Dialect} (hd : d = .sqlite ∨ d = .mysql ∨ d = .postgresql)
    {s : Statement} (built : s.Built) (hbare : s.writtenTexts = []) :
    (∀ e, d.render s = .error e → d.Refuses s e) ∧
      ((∃ b, d.render s = .ok b) ↔ ∀ e, ¬ d.Refuses s e) := by
  have hscannable : d.Scannable := by
    rcases hd with rfl | rfl | rfl
    · exact scannable_sqlite
    · exact scannable_mysql
    · exact scannable_postgresql
  have haligned := render_aligned hscannable built.wellFormed (by simp [hbare]) (by simp [hbare])
  have hfragments := fragments_blames (d := d) built.wellFormed
  have herror : ∀ e, d.render s = .error e → d.Refuses s e :=
    fun e he => hfragments.of_eq_error (haligned.of_eq_error he).1
  refine ⟨herror, ?_, ?_⟩
  · rintro ⟨b, hb⟩
    obtain ⟨fs, hfs, -⟩ := render_eq_ok hb
    exact hfragments.of_eq_ok hfs
  · intro hnone
    cases hrender : d.render s with
    | ok b => exact ⟨b, rfl⟩
    | error e => exact absurd (herror e hrender) (hnone e)

/-- A search that not every engine can do. -/
def search : Select where
  table := "users"
  filter := some (.compare .ilike ⟨"name"⟩ (.literal (.text "a%")))
  limit := some 5

theorem search_built : (Statement.select search).Built := by
  have hterm : Term.Built (.condition (.compare .ilike ⟨"name"⟩ (.literal (.text "a%")))) := by
    rintro c ⟨⟩
    exact @Condition.Built.comparing .ilike (.text "name") (.text "a%") _ rfl
  have hstart : Select.Built { table := "users" } := @Select.Built.start (.text "users") [] _ rfl
  exact @Select.Built.limited _ _ (.int 5) (hstart.filtered hterm rfl) rfl

/-- PostgreSQL has nothing against the search, and SQLite lacks what it needs. -/
theorem render_refusals_search :
    (Statement.select search).Built ∧ (Statement.select search).writtenTexts = [] ∧
      (∃ b, postgresql.render (.select search) = .ok b) ∧
      ∃ e, sqlite.render (.select search) = .error e ∧ sqlite.Refuses (.select search) e := by
  have hbare : (Statement.select search).writtenTexts = [] := rfl
  have hwants : ∀ d e, Refuses d (.select search) e → e = .unsupported d.name "ILIKE" ∧
      d.ilike = false := by
    intro d e hrefuses
    cases hrefuses with
    | ilike _ _ hlacks => exact ⟨rfl, hlacks⟩
    | join hj => cases hj
    | countDistinct hcount => cases hcount
    | window hn hlarge =>
      rcases hn with hlimit | hoffset
      · cases hlimit
        omega
      · cases hoffset
  obtain ⟨-, hrenders⟩ := render_refusals (.inr (.inr rfl)) search_built hbare
  obtain ⟨herrors, hrefused⟩ := render_refusals (.inl rfl) search_built hbare
  have hilike : sqlite.Refuses (.select search) (.unsupported "sqlite" "ILIKE") :=
    .ilike (c := .compare .ilike ⟨"name"⟩ (.literal (.text "a%"))) (List.mem_singleton_self _)
      ⟨_, _, List.mem_singleton_self _⟩ rfl
  refine ⟨search_built, hbare, hrenders.2 fun e hrefuses => ?_, ?_⟩
  · exact nomatch (hwants _ e hrefuses).2
  · cases hrender : sqlite.render (.select search) with
    | error e => exact ⟨e, rfl, herrors e hrender⟩
    | ok b => exact absurd hilike (hrefused.1 ⟨b, hrender⟩ _)

/-- A query for 2⁶³ rows, more than a signed word counts. -/
def endless : Select := { table := "t", limit := some 9223372036854775808 }

/-- The builder functions give the query, and then no dialect renders it: the error is about a
value and none of those that a dialect has against a construct. -/
theorem endless_refused :
    (Statement.select endless).Built ∧ (Statement.select endless).writtenTexts = [] ∧
      ∀ d ∈ [sqlite, mysql, postgresql],
        d.render (.select endless) = .error (.refused (.notPayload (.int 9223372036854775808) .int64)) := by
  have hstart : Select.Built { table := "t" } := @Select.Built.start (.text "t") [] _ rfl
  have hbuilt : (Statement.select endless).Built :=
    @Select.Built.limited _ _ (.int 9223372036854775808) hstart rfl
  refine ⟨hbuilt, rfl, fun d _ => ?_⟩
  have hwindow : d.Refuses (.select endless) (.refused (.notPayload (.int 9223372036854775808) .int64)) :=
    .window (n := 9223372036854775808) (.inl rfl) (Nat.le_refl _)
  have hfragments := fragments_blames (d := d) hbuilt.wellFormed
  cases hx : d.fragments (.select endless) with
  | ok fs => exact absurd hwindow (hfragments.of_eq_ok hx _)
  | error e =>
    have hrender : d.render (.select endless) = .error e := by
      rw [render, hx]
      rfl
    rw [hrender]
    cases hfragments.of_eq_error hx with
    | ilike hc => cases hc
    | join hj => cases hj
    | countDistinct hcount => cases hcount
    | window hn =>
      rcases hn with hlimit | hoffset
      · cases hlimit
        rfl
      · cases hoffset

end Dialect

end SqlGateway
