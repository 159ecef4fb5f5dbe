import SqlGateway.Proofs.Executor.Outcome
set_option autoImplicit false

/-!
# Executor: calls

Whatever a caller asks of a runner, it comes down to one statement: a request is
prepared, which needs no connection, then the statement runs, and what it produced is
read, which needs none either.  `ensures_on` says so of every call, so what holds of
running a statement holds of each of them.
-/

namespace SqlGateway

/-- Nothing is done after a failure. -/
def Runner.Stops (m : Type → Type) [Monad m] [MonadExceptOf Failure m] : Prop :=
  ∀ {α β : Type} (f : Failure) (k : α → m β), (throw f : m α) >>= k = throw f

theorem task_stops (σ : Type) : Runner.Stops (Task σ) := fun _ _ => rfl

theorem transactionTask_stops (σ : Type) : Runner.Stops (TransactionTask σ) := fun _ _ => rfl

namespace Dialect

/-- A request as it runs, and what is reported of rendering it; what is bound already stays as it
is. -/
def prepare (d : Dialect) : Request → Except Failure (BoundStatement × List Notice)
  | .bound b => .ok (b, [])
  | q =>
    ((d.renderRequest q).mapError QueryError.toFailure).map fun b =>
      (b, [.event "statement.render" [("sql", .text b.sql)]])

end Dialect

/-- What a caller may ask of a runner. -/
inductive RunnerCall where
  | run (q : Request) (limits : CallLimits)
  | execute (q : Request) (limits : CallLimits)
  | executeRaw (sql args : Native) (limits : CallLimits)
  | fetch (q : Request) (target : FetchTarget) (mapper : Option RecordMapper)
      (limits : CallLimits)
  | fetchOne (q : Request) (target : FetchTarget) (mapper : Option RecordMapper)
      (limits : CallLimits)

namespace RunnerCall

/-- What a call gives. -/
abbrev Gain : RunnerCall → Type
  | .run .. => ResultSet
  | .execute .. | .executeRaw .. => Answer
  | .fetch .. => List Record
  | .fetchOne .. => Option Record

def limits : RunnerCall → CallLimits
  | .run _ limits | .execute _ limits | .executeRaw _ _ limits | .fetch _ _ _ limits
  | .fetchOne _ _ _ limits => limits

/-- Make a call. -/
def on {m : Type → Type} [Monad m] [MonadExceptOf Failure m] (r : Runner m) :
    (c : RunnerCall) → m c.Gain
  | .run q limits => r.run q limits
  | .execute q limits => r.execute q limits
  | .executeRaw sql args limits => r.executeRaw sql args limits
  | .fetch q target mapper limits => r.fetch q target mapper limits
  | .fetchOne q target mapper limits => r.fetchOne q target mapper limits

/-- The statement of a call, and what is reported of rendering it. -/
def prepared (d : Dialect) : RunnerCall → Except Failure (BoundStatement × List Notice)
  | .run q _ | .execute q _ => d.prepare q
  | .executeRaw sql args _ =>
    ((d.renderRaw sql args).mapError QueryError.toFailure).map fun b => (b, [])
  | .fetch q target mapper _ => do
    let (table, _) ← target.resolve mapper
    d.prepare (← q.projected table)
  | .fetchOne q target mapper _ => do
    let q ← q.limitedToOne
    let (table, _) ← target.resolve mapper
    d.prepare (← q.projected table)

/-- What a call reads from the result of its statement. -/
def read (d : Dialect) : (c : RunnerCall) → DriverResult → Except Failure c.Gain
  | .run .., result => result.toResultSet d.codec
  | .execute .., result | .executeRaw .., result =>
    (result.toResultSet d.codec).map ResultSet.answer
  | .fetch _ target mapper _, result => do
    let (table, mapper) ← target.resolve mapper
    result.toRecords d.codec d.name table mapper
  | .fetchOne _ target mapper _, result => do
    let (table, mapper) ← target.resolve mapper
    (result.toRecords d.codec d.name table mapper).map List.head?

/-! ## Where nothing is done after a failure -/

section

variable {m : Type → Type} [Monad m] [MonadExceptOf Failure m] {σ α β : Type}

theorem lift_ok (a : α) : (Runner.lift (.ok a) : m α) = pure a := rfl

theorem lift_error (f : Failure) : (Runner.lift (.error f) : m α) = throw f := rfl

theorem ensures_lift {s : σ} (e : Except Failure α) (Q : Except Failure α → σ → Prop) :
    (Runner.lift e : Task σ α).Ensures s Q ↔ Q e s := by
  cases e <;> rfl

theorem ensures_liftIn {tx : Transaction} {s : σ} (e : Except Failure α)
    (Q : Except Failure α → Transaction → σ → Prop) :
    (Runner.lift e : TransactionTask σ α).Ensures tx s Q ↔ Q e tx s := by
  cases e <;> rfl

variable [LawfulMonad m] (hstops : Runner.Stops m) {r : Runner m}

include hstops

theorem lift_map (k : α → β) (e : Except Failure α) :
    (Runner.lift (e.map k) : m β) = k <$> Runner.lift e := by
  cases e with
  | ok a => exact (map_pure k a).symm
  | error f => exact ((map_eq_pure_bind k (throw f)).trans (hstops f _)).symm

theorem lift_bind (k : α → Except Failure β) (e : Except Failure α) :
    (Runner.lift (e >>= k) : m β) = Runner.lift e >>= fun a => Runner.lift (k a) := by
  cases e with
  | ok a => exact (pure_bind a fun b => (Runner.lift (k b) : m β)).symm
  | error f => exact (hstops f _).symm

/-- Rendering fails before anything is reported of it. -/
theorem render_eq (q : Request) :
    r.render q = (do
      let (b, notices) ← Runner.lift (r.dialect.prepare q)
      notices.forM r.tell
      return b) := by
  cases q with
  | bound b => simp [Runner.render, Dialect.prepare, lift_ok]
  | _ => simp [Runner.render, Dialect.prepare, lift_map hstops]

/-- A call is its statement, and what is read from the result. -/
theorem on_eq_of_stops (c : RunnerCall) :
    c.on r = (do
      let (b, notices) ← Runner.lift (c.prepared r.dialect)
      notices.forM r.tell
      let result ← r.perform b c.limits
      Runner.lift (c.read r.dialect result)) := by
  cases c with
  | run q limits =>
    simp [on, Runner.run, Runner.runBound, prepared, read, RunnerCall.limits, render_eq hstops]
  | execute q limits =>
    simp [on, Runner.execute, Runner.run, Runner.runBound, prepared, read, RunnerCall.limits,
      render_eq hstops, lift_map hstops]
  | executeRaw sql args limits =>
    simp [on, Runner.executeRaw, Runner.runBound, prepared, read, RunnerCall.limits,
      lift_map hstops]
  | fetch q target mapper limits =>
    -- The target is resolved before the statement runs, so it is the same when the rows are read.
    cases htarget : target.resolve mapper <;>
      simp [on, Runner.fetch, prepared, read, RunnerCall.limits, htarget, lift_bind hstops,
        lift_error, lift_ok, hstops _ _, render_eq hstops]
  | fetchOne q target mapper limits =>
    cases htarget : target.resolve mapper <;>
      simp [on, Runner.fetchOne, Runner.fetch, prepared, read, RunnerCall.limits, htarget,
        lift_bind hstops, lift_error, lift_ok, hstops _ _, render_eq hstops, lift_map hstops]

end

/-- What a call on a connection of its own comes to. -/
theorem on_eq {σ : Type} (r : Runner (Task σ)) (c : RunnerCall) :
    c.on r = (do
      let (b, notices) ← Runner.lift (c.prepared r.dialect)
      notices.forM r.tell
      let result ← r.perform b c.limits
      Runner.lift (c.read r.dialect result)) :=
  on_eq_of_stops (task_stops σ) c

end RunnerCall

end SqlGateway
