import SqlGateway.Proofs.Executor.Journal
set_option autoImplicit false

/-!
# Executor: the life of a transaction

`Course` is what a transaction sends by the time it stands somewhere: it begins, runs
statements until one fails, and ends in a commit or a rollback, with which its lease is
given back.  Every call of a transaction keeps it on its course, whatever the driver
does.
-/

namespace SqlGateway

/-! ## Where a transaction can come to -/

namespace TransactionState

/-- How a transaction moves: an active one anywhere, a failed one only to be rolled back. -/
def Leads : TransactionState → TransactionState → Prop
  | .active, _ => True
  | .failed, st => st = .failed ∨ st = .rolledBack
  | .committed, st => st = .committed
  | .rolledBack, st => st = .rolledBack

/-- How a transaction moves while it is not over. -/
def Works (a b : TransactionState) : Prop := a.Leads b ∧ b.isFinal = a.isFinal

instance : IsPreorder TransactionState Leads where
  refl a := by cases a <;> simp [Leads]
  trans a b c := by cases a <;> cases b <;> cases c <;> simp [Leads]

instance : IsPreorder TransactionState Works where
  refl a := ⟨refl_of Leads a, rfl⟩
  trans _ _ _ hab hbc := ⟨trans_of Leads hab.1 hbc.1, hbc.2.trans hab.2⟩

end TransactionState

namespace Transaction

open TransactionState

variable {α σ : Type}

/-- What a transaction has sent by the time it stands somewhere. -/
inductive Course (lease conn : Nat) : TransactionState → List (Entry α) → Prop where
  | opened : Course lease conn .active [.begin conn none]
  | ran {es : List (Entry α)} (sql : String) (h : Course lease conn .active es) :
      Course lease conn .active (es ++ [.statement conn sql false none])
  | failed {es : List (Entry α)} (sql : String) (interrupted : Bool) (failure : Option Failure)
      (hfailed : interrupted ∨ failure.isSome) (h : Course lease conn .active es) :
      Course lease conn .failed (es ++ [.statement conn sql interrupted failure])
  | committed {es : List (Entry α)} (h : Course lease conn .active es) :
      Course lease conn .committed (es ++ [.commit conn none, .release lease])
  | refused {es : List (Entry α)} (f : Failure) (refusal : Option Failure)
      (h : Course lease conn .active es) :
      Course lease conn .rolledBack
        (es ++ [.commit conn (some f), .rollback conn refusal, .release lease])
  | rolledBack {es : List (Entry α)} {st : TransactionState} (hopen : st.isFinal = false)
      (refusal : Option Failure) (h : Course lease conn st es) :
      Course lease conn .rolledBack (es ++ [.rollback conn refusal, .release lease])

/-- As long as a transaction is active, all went well. -/
theorem Course.clean {lease conn : Nat} {st : TransactionState} {es : List (Entry α)}
    (h : Course lease conn st es) (hst : st = .active) : es.all Entry.isClean = true := by
  induction h with
  | opened => rfl
  | ran sql _ ih => simp [ih rfl, Entry.isClean]
  | _ => cases hst

/-- A statement that was clean keeps its transaction active, and any other makes it fail. -/
theorem Course.statement {lease conn : Nat} {es news : List (Entry α)}
    (hcourse : Course lease conn .active es)
    (hnews : news = [] ∨ ∃ sql interrupted failure,
      news = [.statement conn sql interrupted failure]) :
    Course lease conn (if news.all Entry.isClean then .active else .failed) (es ++ news) := by
  obtain rfl | ⟨sql, interrupted, failure, rfl⟩ := hnews
  · simpa using hcourse
  · cases interrupted with
    | true => exact hcourse.failed sql true failure (.inl rfl)
    | false =>
      cases failure with
      | none => exact hcourse.ran sql
      | some f => exact hcourse.failed sql false (some f) (.inr rfl)

/-- A transaction on its course, with what its holder knows of the lease. -/
structure Stands (Has : Bool → Bool → σ → Prop) (lease conn : Nat) (tx : Transaction)
    (es : List (Entry α)) (s : σ) : Prop where
  sameLease : tx.lease = lease
  sameConn : tx.conn = conn
  course : Course lease conn tx.state es
  has : Has (es.all Entry.isClean) tx.state.isFinal s

/-- A transaction stays on its course, and moves as it may; what it sends meanwhile is added to the
journal. -/
def Advances (Moves : TransactionState → TransactionState → Prop)
    (Has : Bool → Bool → σ → Prop) (lease conn : Nat)
    (a b : Transaction × σ × List (Entry α)) : Prop :=
  ∀ es, Stands Has lease conn a.1 es a.2.1 →
    ∃ news, b.2.2 = a.2.2 ++ news ∧ Stands Has lease conn b.1 (es ++ news) b.2.1 ∧
      Moves a.1.state b.1.state

variable {Moves : TransactionState → TransactionState → Prop} {Has : Bool → Bool → σ → Prop}
  {lease conn : Nat}

instance [IsPreorder TransactionState Moves] :
    IsPreorder (Transaction × σ × List (Entry α)) (Advances Moves Has lease conn) where
  refl a := by
    intro es hstands
    refine ⟨[], (List.append_nil _).symm, ?_, refl_of Moves _⟩
    rwa [List.append_nil]
  trans a b c := by
    intro hab hbc es hstands
    obtain ⟨news, hnews, hb, hmoves⟩ := hab es hstands
    obtain ⟨later, hlater, hc, hmoves'⟩ := hbc _ hb
    refine ⟨news ++ later, ?_, ?_, trans_of Moves hmoves hmoves'⟩
    · rw [hlater, hnews, List.append_assoc]
    · rwa [← List.append_assoc]

end Transaction

/-! ## Statements -/

namespace Host

open TransactionTask Transaction TransactionState

variable {α σ : Type} {h : Host σ} {lease conn : Nat} {Has : Bool → Bool → σ → Prop}
  {tx : Transaction} {es journal : List (Entry α)} {s : σ}

theorem unusable?_eq_none (st : TransactionState) : unusable? st = none ↔ st = .active := by
  cases st <;> simp [unusable?]

/-- A statement leaves its transaction active if it was clean, and failed otherwise; where the
transaction is not active, nothing happens. -/
theorem Custody.performIn (hc : h.Custody lease Has) (b : BoundStatement) (limits : CallLimits)
    (hs : Stands Has lease conn tx es s) :
    ((noted h).performIn b limits).Ensures tx (s, journal) fun _ tx' st =>
      ∃ news, st.2 = journal ++ news ∧ Stands Has lease conn tx' (es ++ news) st.1 ∧
        tx.state.Works tx'.state := by
  have hidle : ∃ news, journal = journal ++ news ∧ Stands Has lease conn tx (es ++ news) s ∧
      tx.state.Works tx.state := by
    refine ⟨[], (List.append_nil journal).symm, ?_, refl_of Works _⟩
    rwa [List.append_nil]
  unfold Host.performIn
  rw [ensures_bind, ensures_current]
  cases hstate : unusable? tx.state with
  | some f =>
    simp only [hstate]
    exact hidle
  | none =>
    have hactive := (unusable?_eq_none tx.state).1 hstate
    obtain ⟨rfl, rfl, hcourse, hhas⟩ := hs
    rw [hactive] at hcourse hhas
    rw [hcourse.clean rfl] at hhas
    simp only [hstate, ensures_bind, ensures_outcome, ensures_task]
    refine (hc.runOn tx.conn b limits hhas).imp ?_
    rintro r ⟨s', journal'⟩ ⟨news, hjournal, hhas', hnews⟩
    have hcourse' := hcourse.statement
      (hnews.imp_right fun ⟨interrupted, failure, h⟩ => ⟨b.sql, interrupted, failure, h⟩)
    rw [ensures_state, noted_healthy, hc.healthy hhas']
    cases hclean : news.all Entry.isClean with
    | true =>
      rw [hclean] at hcourse' hhas'
      have hstands : Stands Has tx.lease tx.conn tx (es ++ news) s' := by
        refine ⟨rfl, rfl, ?_, ?_⟩
        · rw [hactive]
          exact hcourse'
        · rw [hactive, List.all_append, hcourse.clean rfl, hclean]
          exact hhas'
      cases r <;> exact ⟨news, hjournal, hstands, refl_of Works _⟩
    | false =>
      rw [hclean] at hcourse' hhas'
      have hstands : Stands Has tx.lease tx.conn { tx with state := .failed } (es ++ news) s' := by
        refine ⟨rfl, rfl, hcourse', ?_⟩
        rw [List.all_append, hcourse.clean rfl, hclean]
        exact hhas'
      have hworks : tx.state.Works .failed := by
        rw [hactive]
        exact ⟨trivial, rfl⟩
      cases r <;> exact ⟨news, hjournal, hstands, hworks⟩

/-! ## The end -/

/-- An abort rolls back and gives the lease back; the driver's refusal spoils the connection.  What
comes of it is the refusal, unless the lease could not be given back. -/
theorem Custody.abort (hc : h.Custody lease Has) (tx : Transaction)
    (hrollback : ∀ conn s f, ((h.calls.rollback conn).run s).1 = .error f → f.isDriver)
    {healthy : Bool} (hlease : tx.lease = lease) (hopen : tx.state.isFinal = false)
    (hs : Has healthy false s) :
    (noted h).abort.Ensures tx (s, journal) fun r tx' st =>
      ∃ refusal, tx' = { tx with state := .rolledBack } ∧
        st.2 = journal ++ [.rollback tx.conn refusal, .release lease] ∧
        Has (healthy && refusal.isNone) true st.1 ∧ (∀ g, refusal = some g → g.isDriver) ∧
        (h.Returns lease Has → r = .ok refusal) := by
  subst hlease
  have hkeeps := hc.rollback tx.conn hs
  unfold Host.abort
  simp only [ensures_bind, ensures_current, hopen, Bool.false_eq_true, if_false, ensures_outcome,
    ensures_task, noted_rollback]
  rcases hr : (h.calls.rollback tx.conn).run s with ⟨f | _, s'⟩ <;>
    rw [hr] at hkeeps <;> rw [Task.ensures_run hr]
  · have hf : f.isDriver := hrollback tx.conn s f (by rw [hr])
    simp only [hf, if_true, ensures_bind, ensures_state, ensures_task, noted_report, noted_mark,
      ensures_pure, ensures_moveTo, noted_giveBack]
    refine (hc.release (hc.tell _ (hc.mark hkeeps))).imp ?_
    rintro r s'' ⟨hhas, hreturns⟩
    have hrefusal : ∀ g, some f = some g → g.isDriver := by
      rintro g ⟨⟩
      exact hf
    cases r with
    | ok _ =>
      exact ⟨some f, trivial, by simp [failure?], by simpa using hhas, hrefusal, fun _ => rfl⟩
    | error g =>
      exact ⟨some f, trivial, by simp [failure?], by simpa using hhas, hrefusal,
        fun h => by cases hreturns h⟩
  · simp only [ensures_bind, ensures_task, ensures_pure, ensures_moveTo, noted_giveBack]
    refine (hc.release hkeeps).imp ?_
    rintro r s'' ⟨hhas, hreturns⟩
    have hrefusal : ∀ g : Failure, none = some g → g.isDriver := by
      rintro g ⟨⟩
    cases r with
    | ok _ =>
      exact ⟨none, trivial, by simp [failure?], by simpa using hhas, hrefusal, fun _ => rfl⟩
    | error g =>
      exact ⟨none, trivial, by simp [failure?], by simpa using hhas, hrefusal,
        fun h => by cases hreturns h⟩

/-- The commit of a transaction that is over does nothing. -/
theorem commit_final (h : Host σ) (hfinal : tx.state.isFinal = true) :
    h.commit.Ensures tx s fun _ tx' s' => tx' = tx ∧ s' = s := by
  unfold Host.commit
  rw [ensures_bind, ensures_current]
  cases hstate : tx.state with
  | active | failed =>
    rw [hstate] at hfinal
    cases hfinal
  | committed | rolledBack =>
    simp only [hstate]
    exact ⟨rfl, rfl⟩

/-- The commit of a failed transaction is a rollback. -/
theorem Custody.commit_failed (hc : h.Custody tx.lease Has)
    (hrollback : ∀ conn s f, ((h.calls.rollback conn).run s).1 = .error f → f.isDriver)
    {healthy : Bool} (hstate : tx.state = .failed) (hs : Has healthy false s) :
    (noted h).commit.Ensures tx (s, journal) fun r tx' st =>
      ∃ refusal, tx' = { tx with state := .rolledBack } ∧
        st.2 = journal ++ [.rollback tx.conn refusal, .release tx.lease] ∧
        Has (healthy && refusal.isNone) true st.1 ∧ (∀ g, refusal = some g → g.isDriver) ∧
        (h.Returns tx.lease Has → r = .error (h.aborted none
          "Cannot commit a failed transaction; it was rolled back" none refusal)) := by
  have hopen : tx.state.isFinal = false := by rw [hstate]; rfl
  unfold Host.commit
  simp only [ensures_bind, ensures_current, hstate, beq_self_eq_true, if_true]
  refine (hc.abort tx hrollback rfl hopen hs).imp ?_
  rintro r tx' st ⟨refusal, htx, hjournal, hhas, hrefusal, hreturns⟩
  cases r with
  | ok refusal' =>
    refine ⟨refusal, htx, hjournal, hhas, hrefusal, fun h => ?_⟩
    cases hreturns h
    rfl
  | error g => exact ⟨refusal, htx, hjournal, hhas, hrefusal, fun h => nomatch hreturns h⟩

/-- The commit of an active transaction ends it, or is refused and followed by a rollback. -/
theorem Custody.commit_active (hc : h.Custody tx.lease Has)
    (hcommit : ∀ conn s f, ((h.calls.commit conn).run s).1 = .error f → f.isDriver)
    (hrollback : ∀ conn s f, ((h.calls.rollback conn).run s).1 = .error f → f.isDriver)
    (hstate : tx.state = .active) (hs : Has true false s) :
    (noted h).commit.Ensures tx (s, journal) fun r tx' st =>
      (tx' = { tx with state := .committed } ∧
        st.2 = journal ++ [.commit tx.conn none, .release tx.lease] ∧ Has true true st.1 ∧
        (h.Returns tx.lease Has → r = .ok ())) ∨
      ∃ f refusal, tx' = { tx with state := .rolledBack } ∧
        st.2 = journal ++ [.commit tx.conn (some f), .rollback tx.conn refusal,
          .release tx.lease] ∧ Has false true st.1 ∧ (∀ g, refusal = some g → g.isDriver) ∧
        (h.Returns tx.lease Has →
          r = .error (h.aborted none ("Commit failed: " ++ f.text) (some f) refusal)) := by
  have hkeeps := hc.commit tx.conn hs
  unfold Host.commit
  have hactive : (TransactionState.active == .failed) = false := rfl
  simp only [ensures_bind, ensures_current, hstate, hactive, Bool.false_eq_true, if_false,
    ensures_outcome, ensures_task, unusable?, noted_commit]
  rcases hr : (h.calls.commit tx.conn).run s with ⟨f | _, s'⟩ <;>
    rw [hr] at hkeeps <;> rw [Task.ensures_run hr]
  · have hf : f.isDriver := hcommit tx.conn s f (by rw [hr])
    simp only [hf, if_true, ensures_bind, ensures_state, noted_mark, ensures_moveTo]
    refine (hc.abort { tx with state := .failed } hrollback rfl rfl (hc.mark hkeeps)).imp ?_
    rintro r tx' st ⟨refusal, htx, hjournal, hhas, hrefusal, hreturns⟩
    have hsent : st.2 = journal ++
        [.commit tx.conn (some f), .rollback tx.conn refusal, .release tx.lease] := by
      simpa [failure?] using hjournal
    cases r with
    | ok refusal' =>
      refine .inr ⟨f, refusal, htx, hsent, hhas, hrefusal, fun h => ?_⟩
      cases hreturns h
      rfl
    | error g =>
      exact .inr ⟨f, refusal, htx, hsent, hhas, hrefusal, fun h => by cases hreturns h⟩
  · simp only [ensures_bind, ensures_task, ensures_moveTo, noted_giveBack]
    refine (hc.release hkeeps).imp ?_
    rintro r s'' ⟨hhas, hreturns⟩
    exact .inl ⟨trivial, by simp [failure?], hhas, hreturns⟩

/-! ## Calls -/

/-- What a transaction reports does not touch it. -/
theorem Custody.within_tell (hc : h.Custody lease Has) (n : Notice) :
    Within (Advances Works Has lease conn)
      ((noted h : Host (σ × List (Entry α))).inTransaction.tell n) := by
  rintro tx ⟨s, journal⟩ es ⟨hlease, hconn, hcourse, hhas⟩
  refine ⟨[], (List.append_nil journal).symm, ?_, refl_of Works _⟩
  rw [List.append_nil]
  exact ⟨hlease, hconn, hcourse, hc.tell n hhas⟩

theorem Custody.within_perform (hc : h.Custody lease Has) (b : BoundStatement)
    (limits : CallLimits) :
    Within (Advances Works Has lease conn)
      ((noted h : Host (σ × List (Entry α))).inTransaction.perform b limits) :=
  fun _ _ _ hs => hc.performIn b limits hs

theorem Custody.abort_stands (hc : h.Custody lease Has)
    (hrollback : ∀ conn s f, ((h.calls.rollback conn).run s).1 = .error f → f.isDriver)
    (hopen : tx.state.isFinal = false) (hs : Stands Has lease conn tx es s) :
    (noted h).abort.Ensures tx (s, journal) fun _ tx' st =>
      ∃ news, st.2 = journal ++ news ∧ Stands Has lease conn tx' (es ++ news) st.1 ∧
        tx.state.Leads tx'.state := by
  obtain ⟨hlease, rfl, hcourse, hhas⟩ := hs
  rw [hopen] at hhas
  refine (hc.abort tx hrollback hlease hopen hhas).imp ?_
  rintro r tx' st ⟨refusal, rfl, hjournal, hhas', -⟩
  refine ⟨_, hjournal, ⟨hlease, rfl, hcourse.rolledBack hopen refusal, ?_⟩, ?_⟩
  · simpa [Entry.isClean, isFinal] using hhas'
  · cases hstate : tx.state <;> simp_all [Leads, isFinal]

theorem Custody.commit_stands (hc : h.Custody lease Has)
    (hcommit : ∀ conn s f, ((h.calls.commit conn).run s).1 = .error f → f.isDriver)
    (hrollback : ∀ conn s f, ((h.calls.rollback conn).run s).1 = .error f → f.isDriver)
    (hs : Stands Has lease conn tx es s) :
    (noted h).commit.Ensures tx (s, journal) fun _ tx' st =>
      ∃ news, st.2 = journal ++ news ∧ Stands Has lease conn tx' (es ++ news) st.1 ∧
        tx.state.Leads tx'.state := by
  have hidle := refl_of (Advances Leads Has lease conn) (tx, s, journal) es hs
  obtain ⟨rfl, rfl, hcourse, hhas⟩ := hs
  cases hstate : tx.state with
  | active =>
    rw [hstate] at hcourse hhas
    rw [hcourse.clean rfl] at hhas
    refine (hc.commit_active hcommit hrollback hstate hhas).imp ?_
    rintro r tx' st (⟨rfl, hjournal, hhas', -⟩ | ⟨f, refusal, rfl, hjournal, hhas', -⟩)
    · refine ⟨_, hjournal, ⟨rfl, rfl, hcourse.committed, ?_⟩, trivial⟩
      simpa [Entry.isClean, isFinal, hcourse.clean rfl] using hhas'
    · refine ⟨_, hjournal, ⟨rfl, rfl, hcourse.refused f refusal, ?_⟩, trivial⟩
      simpa [Entry.isClean, isFinal] using hhas'
  | failed =>
    rw [hstate] at hcourse hhas
    refine (hc.commit_failed hrollback hstate hhas).imp ?_
    rintro r tx' st ⟨refusal, rfl, hjournal, hhas', -⟩
    refine ⟨_, hjournal, ⟨rfl, rfl, hcourse.rolledBack rfl refusal, ?_⟩, .inr rfl⟩
    simpa [Entry.isClean, isFinal] using hhas'
  | committed | rolledBack =>
    rw [← hstate]
    refine (commit_final _ (by rw [hstate]; rfl)).imp ?_
    rintro r tx' st ⟨rfl, rfl⟩
    exact hidle

theorem Custody.rollback_stands (hc : h.Custody lease Has)
    (hrollback : ∀ conn s f, ((h.calls.rollback conn).run s).1 = .error f → f.isDriver)
    (hs : Stands Has lease conn tx es s) :
    (noted h).rollback.Ensures tx (s, journal) fun _ tx' st =>
      ∃ news, st.2 = journal ++ news ∧ Stands Has lease conn tx' (es ++ news) st.1 ∧
        tx.state.Leads tx'.state := by
  have hidle := refl_of (Advances Leads Has lease conn) (tx, s, journal) es hs
  unfold Host.rollback
  rw [ensures_bind, ensures_current]
  cases hstate : tx.state.isFinal with
  | true =>
    simp only [hstate, if_true]
    exact hidle
  | false =>
    simp only [hstate, Bool.false_eq_true, if_false, ensures_bind]
    refine (hc.abort_stands hrollback hstate hs).imp ?_
    intro r tx' st hstands
    rcases r with f | _ | f <;> exact hstands

theorem Custody.leave_stands (hc : h.Custody lease Has)
    (hrollback : ∀ conn s f, ((h.calls.rollback conn).run s).1 = .error f → f.isDriver)
    (failure : Option Failure) (hs : Stands Has lease conn tx es s) :
    ((noted h).leave failure).Ensures tx (s, journal) fun _ tx' st =>
      ∃ news, st.2 = journal ++ news ∧ Stands Has lease conn tx' (es ++ news) st.1 ∧
        tx.state.Leads tx'.state := by
  have hidle := refl_of (Advances Leads Has lease conn) (tx, s, journal) es hs
  unfold Host.leave
  rw [ensures_bind, ensures_current]
  cases hstate : tx.state.isFinal with
  | true =>
    simp only [hstate, if_true]
    exact hidle
  | false =>
    cases failure with
    | none =>
      have hkeeps : Stands Has lease conn tx es _ :=
        ⟨hs.sameLease, hs.sameConn, hs.course, hc.tell (.log .warning "transaction_unresolved"
          [("engine", .text h.tag), ("action", .text "rollback")]) hs.has⟩
      simp only [hstate, Bool.false_eq_true, if_false, Option.isNone_none, if_true, ensures_bind,
        ensures_task, noted_report]
      refine (hc.abort_stands hrollback hstate hkeeps).imp ?_
      intro r tx' st hstands
      rcases r with f | _ | f <;> exact hstands
    | some g =>
      simp only [hstate, Bool.false_eq_true, if_false, Option.isNone_some, ensures_bind]
      refine (hc.abort_stands hrollback hstate hs).imp ?_
      intro r tx' st hstands
      rcases r with f | _ | f <;> exact hstands

end Host

/-! ## Runs -/

/-- What a caller may do with a transaction. -/
inductive TransactionCall where
  | run (q : Request) (limits : CallLimits)
  | execute (q : Request) (limits : CallLimits)
  | executeRaw (sql args : Native) (limits : CallLimits)
  | fetch (q : Request) (target : FetchTarget) (mapper : Option RecordMapper)
      (limits : CallLimits)
  | fetchOne (q : Request) (target : FetchTarget) (mapper : Option RecordMapper)
      (limits : CallLimits)
  | commit
  | rollback
  /-- Leave the block of the transaction, be it with a failure. -/
  | leave (failure : Option Failure)

namespace TransactionCall

variable {α σ : Type}

/-- Make a call, whatever comes of it. -/
def on (h : Host σ) : TransactionCall → TransactionTask σ Unit
  | .run q limits => do let _ ← h.inTransaction.run q limits
  | .execute q limits => do let _ ← h.inTransaction.execute q limits
  | .executeRaw sql args limits => do let _ ← h.inTransaction.executeRaw sql args limits
  | .fetch q target mapper limits => do
    let _ ← h.inTransaction.fetch q target mapper limits
  | .fetchOne q target mapper limits => do
    let _ ← h.inTransaction.fetchOne q target mapper limits
  | .commit => h.commit
  | .rollback => h.rollback
  | .leave failure => h.leave failure

end TransactionCall

namespace Host

open TransactionTask Transaction TransactionState

variable {α σ : Type} {h : Host σ} {lease conn : Nat} {Has : Bool → Bool → σ → Prop}

/-- No call takes a transaction off its course. -/
theorem Custody.within_call (hc : h.Custody lease Has)
    (hcommit : ∀ conn s f, ((h.calls.commit conn).run s).1 = .error f → f.isDriver)
    (hrollback : ∀ conn s f, ((h.calls.rollback conn).run s).1 = .error f → f.isDriver)
    (c : TransactionCall) :
    Within (Advances Leads Has lease conn) (c.on (noted h : Host (σ × List (Entry α)))) := by
  have hworks : ∀ {β : Type} {t : TransactionTask (σ × List (Entry α)) β},
      Within (Advances Works Has lease conn) t →
        Within (Advances Leads Has lease conn) (do let _ ← t) := by
    intro β t ht
    refine within_bind ?_ fun _ => within_pure ()
    intro tx st es hs
    obtain ⟨news, hnews, hstands, hmoves⟩ := ht tx st es hs
    exact ⟨news, hnews, hstands, hmoves.1⟩
  have htell : ∀ n, Within (Advances Works Has lease conn)
      ((noted h : Host (σ × List (Entry α))).inTransaction.tell n) := hc.within_tell
  have hperform : ∀ b limits, Within (Advances Works Has lease conn)
      ((noted h : Host (σ × List (Entry α))).inTransaction.perform b limits) :=
    hc.within_perform
  cases c with
  | run q limits => exact hworks (within_run htell hperform q limits)
  | execute q limits => exact hworks (within_execute htell hperform q limits)
  | executeRaw sql args limits => exact hworks (within_executeRaw hperform sql args limits)
  | fetch q target mapper limits =>
    exact hworks (within_fetch htell hperform q target mapper limits)
  | fetchOne q target mapper limits =>
    exact hworks (within_fetchOne htell hperform q target mapper limits)
  | commit => exact fun tx st es hs => hc.commit_stands hcommit hrollback hs
  | rollback => exact fun tx st es hs => hc.rollback_stands hrollback hs
  | leave failure => exact fun tx st es hs => hc.leave_stands hrollback failure hs

end Host

namespace Transaction

variable {α σ : Type}

/-- What a transaction can come to, whatever is done with it. -/
inductive Lives (h : Host σ) (tx₀ : Transaction) (s₀ : σ) : Transaction → σ → Prop where
  | begun : Lives h tx₀ s₀ tx₀ s₀
  | call {tx : Transaction} {s : σ} (c : TransactionCall) (hlives : Lives h tx₀ s₀ tx s) :
      Lives h tx₀ s₀ ((c.on h).runIn tx s).1.2 ((c.on h).runIn tx s).2

/-- A transaction stays on its course as long as it lives. -/
theorem Lives.stands {h : Host σ} {lease conn : Nat} {Has : Bool → Bool → σ → Prop}
    {tx₀ tx : Transaction} {st₀ st : σ × List (Entry α)} {es : List (Entry α)}
    (hlives : Lives (Host.noted h) tx₀ st₀ tx st) (hc : h.Custody lease Has)
    (hcommit : ∀ conn s f, ((h.calls.commit conn).run s).1 = .error f → f.isDriver)
    (hrollback : ∀ conn s f, ((h.calls.rollback conn).run s).1 = .error f → f.isDriver)
    (hs : Stands Has lease conn tx₀ es st₀.1) :
    ∃ news, st.2 = st₀.2 ++ news ∧ Stands Has lease conn tx (es ++ news) st.1 := by
  induction hlives with
  | begun =>
    refine ⟨[], (List.append_nil _).symm, ?_⟩
    rwa [List.append_nil]
  | call c _ ih =>
    obtain ⟨news, hnews, hstands⟩ := ih
    obtain ⟨later, hlater, hstands', -⟩ := hc.within_call hcommit hrollback c _ _ _ hstands
    refine ⟨news ++ later, ?_, ?_⟩
    · rw [← List.append_assoc, ← hnews]
      exact hlater
    · rw [← List.append_assoc]
      exact hstands'

/-! ## Courses as a whole -/

/-- How a transaction ends, by where it stands. -/
def Ending (lease conn : Nat) : TransactionState → List (Entry α) → Prop
  | .active, closing | .failed, closing => closing = []
  | .committed, closing => closing = [.commit conn none, .release lease]
  | .rolledBack, closing => ∃ refusal, closing = [.rollback conn refusal, .release lease] ∨
      ∃ f, closing = [.commit conn (some f), .rollback conn refusal, .release lease]

/-- Until it is over, a transaction has begun and run statements, of which only the last may have
failed. -/
theorem Course.statements {lease conn : Nat} {st : TransactionState} {es : List (Entry α)}
    (h : Course lease conn st es) (hopen : st.isFinal = false) :
    ∃ statements : List (Entry α), es = .begin conn none :: statements ∧
      (∀ e ∈ statements, ∃ sql interrupted failure,
        e = .statement conn sql interrupted failure) ∧
      (∀ e ∈ statements.dropLast, e.isClean) ∧
      (st = .active → ∀ e ∈ statements, e.isClean) := by
  induction h with
  | opened => exact ⟨[], rfl, by simp⟩
  | ran sql _ ih =>
    obtain ⟨statements, rfl, hall, -, hclean⟩ := ih rfl
    refine ⟨statements ++ [.statement conn sql false none], rfl, ?_, ?_, ?_⟩
    · intro e he
      rcases List.mem_append.1 he with hold | hnew
      · exact hall e hold
      · exact ⟨sql, false, none, List.mem_singleton.1 hnew⟩
    · rw [List.dropLast_concat]
      exact hclean rfl
    · intro _ e he
      rcases List.mem_append.1 he with hold | hnew
      · exact hclean rfl e hold
      · rw [List.mem_singleton.1 hnew]
        rfl
  | failed sql interrupted failure _ _ ih =>
    obtain ⟨statements, rfl, hall, -, hclean⟩ := ih rfl
    refine ⟨statements ++ [.statement conn sql interrupted failure], rfl, ?_, ?_, nofun⟩
    · intro e he
      rcases List.mem_append.1 he with hold | hnew
      · exact hall e hold
      · exact ⟨sql, interrupted, failure, List.mem_singleton.1 hnew⟩
    · rw [List.dropLast_concat]
      exact hclean rfl
  | _ => cases hopen

/-- A course is a beginning, statements of which only the last may have failed, and an ending, in
which no commit follows a failure. -/
theorem Course.parts {lease conn : Nat} {st : TransactionState} {es : List (Entry α)}
    (h : Course lease conn st es) :
    ∃ statements closing : List (Entry α),
      es = .begin conn none :: statements ++ closing ∧
      (∀ e ∈ statements, ∃ sql interrupted failure,
        e = .statement conn sql interrupted failure) ∧
      (∀ e ∈ statements.dropLast, e.isClean) ∧ Ending lease conn st closing ∧
      ((∃ e ∈ statements, ¬e.isClean) →
        closing = [] ∨ ∃ refusal, closing = [.rollback conn refusal, .release lease]) := by
  have hunfinished : st.isFinal = false → ∃ statements closing : List (Entry α),
      es = .begin conn none :: statements ++ closing ∧
      (∀ e ∈ statements, ∃ sql interrupted failure,
        e = .statement conn sql interrupted failure) ∧
      (∀ e ∈ statements.dropLast, e.isClean) ∧ closing = [] := by
    intro hopen
    obtain ⟨statements, rfl, hall, hclean, -⟩ := h.statements hopen
    exact ⟨statements, [], (List.append_nil _).symm, hall, hclean, rfl⟩
  cases h with
  | opened | ran | failed =>
    obtain ⟨statements, closing, hes, hall, hclean, rfl⟩ := hunfinished rfl
    exact ⟨statements, [], hes, hall, hclean, rfl, fun _ => .inl rfl⟩
  | committed h =>
    obtain ⟨statements, rfl, hall, hclean, hactive⟩ := h.statements rfl
    refine ⟨statements, _, rfl, hall, hclean, rfl, ?_⟩
    rintro ⟨e, he, hbad⟩
    exact absurd (hactive rfl e he) hbad
  | refused f refusal h =>
    obtain ⟨statements, rfl, hall, hclean, hactive⟩ := h.statements rfl
    refine ⟨statements, _, rfl, hall, hclean, ⟨refusal, .inr ⟨f, rfl⟩⟩, ?_⟩
    rintro ⟨e, he, hbad⟩
    exact absurd (hactive rfl e he) hbad
  | rolledBack hopen refusal h =>
    obtain ⟨statements, rfl, hall, hclean, -⟩ := h.statements hopen
    exact ⟨statements, _, rfl, hall, hclean, ⟨refusal, .inl rfl⟩, fun _ => .inr ⟨refusal, rfl⟩⟩

end Transaction

end SqlGateway
