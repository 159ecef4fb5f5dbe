import SqlGateway.Dialect.Render
import SqlGateway.Executor.Result
set_option autoImplicit false

/-!
# Executor: runners

A runner is a place where statements run: on a connection of their own, or one after
the other in a transaction.  What it adds to the place is the same everywhere:
rendering before and decoding after.
-/

namespace SqlGateway

/-- How long a call may take, and when another caller breaks it off; neither need be. -/
structure CallLimits where
  timeout : Option Seconds := none
  cancelAt : Option Seconds := none
  deriving DecidableEq, Repr

namespace CallLimits

/-- The call has been broken off by a moment. -/
def cancelledBy (l : CallLimits) (now : Seconds) : Bool :=
  match l.cancelAt with
  | some t => decide (t ≤ now)
  | none => false

/-- When a statement that starts now has to be interrupted. -/
def alarm (l : CallLimits) (now : Seconds) : Option Seconds :=
  match l.timeout, l.cancelAt with
  | some t, some c => some (Seconds.earlier (now + t) c)
  | some t, none => some (now + t)
  | none, c => c

end CallLimits

/-- What records are read from: a mapped type, or a descriptor that comes without one. -/
inductive FetchTarget where
  | type (t : RecordType)
  | descriptor (d : TableDescriptor)

namespace FetchTarget

/-- The descriptor and the mapper of a target; a mapper may be given. -/
def resolve (t : FetchTarget) (mapper : Option RecordMapper) :
    Except Failure (TableDescriptor × RecordMapper) :=
  match t, mapper with
  | .descriptor d, some m => .ok (d, m)
  | .descriptor _, none =>
    .error (.make .invalidExpression "A RecordMapper is required with a bare TableDescriptor")
  | .type t, mapper => do
    let d ← t.descriptor
    match mapper with
    | some m => return (d, m)
    | none => return (d, ← RecordMapper.of t)

end FetchTarget

namespace Request

/-- The failure of a request that lacks a member. -/
def lacking (r : Request) (member : String) : Failure :=
  .primitive .attribute
    (Text.quoted r.typeName ++ " object has no attribute " ++ Text.quoted member)

/-- A query for every column asks for the columns of the descriptor. -/
def projected (r : Request) (d : TableDescriptor) : Except Failure Request :=
  match r with
  | .statement (.select s) =>
    if s.columns.isNone && !s.count then
      match s.project (d.columns.map .text) with
      | .ok s => .ok (.statement (.select s))
      | .error e => .error e.toFailure
    else .ok r
  | .statement (.insert _) => .ok r
  | r => .error (r.lacking "columns")

/-- A query without a limit asks for one row. -/
def limitedToOne (r : Request) : Except Failure Request :=
  match r with
  | .statement (.select s) =>
    .ok (if s.limit.isNone then .statement (.select { s with limit := some 1 }) else r)
  | r => .error (r.lacking "limit_value")

end Request

/-- A place where statements run. -/
structure Runner (m : Type → Type) where
  dialect : Dialect
  tell : Notice → m Unit
  /-- Run a statement and bring back what it produced. -/
  perform : BoundStatement → CallLimits → m DriverResult

namespace Runner

variable {m : Type → Type} [Monad m] [MonadExceptOf Failure m]

/-- Give or fail. -/
def lift {α : Type} (e : Except Failure α) : m α :=
  match e with
  | .ok a => pure a
  | .error f => throw f

variable (r : Runner m)

/-- Render a request; what is bound already stays as it is. -/
def render (q : Request) : m BoundStatement := do
  match q with
  | .bound b => return b
  | q =>
    let b ← lift ((r.dialect.renderRequest q).mapError QueryError.toFailure)
    r.tell (.event "statement.render" [("sql", .text b.sql)])
    return b

/-- Run a bound statement for its rows. -/
def runBound (b : BoundStatement) (limits : CallLimits) : m ResultSet := do
  let result ← r.perform b limits
  lift (result.toResultSet r.dialect.codec)

/-- Run a request for its rows. -/
def run (q : Request) (limits : CallLimits) : m ResultSet := do
  let b ← r.render q
  r.runBound b limits

/-- Run a request for rows or a count. -/
def execute (q : Request) (limits : CallLimits) : m Answer := do
  return (← r.run q limits).answer

/-- Run SQL with markers for its values. -/
def executeRaw (sql args : Native) (limits : CallLimits) : m Answer := do
  let b ← lift ((r.dialect.renderRaw sql args).mapError QueryError.toFailure)
  return (← r.runBound b limits).answer

/-- Run a query for records. -/
def fetch (q : Request) (target : FetchTarget) (mapper : Option RecordMapper)
    (limits : CallLimits) : m (List Record) := do
  let (d, mapper) ← lift (target.resolve mapper)
  let q ← lift (q.projected d)
  let b ← r.render q
  let result ← r.perform b limits
  lift (result.toRecords r.dialect.codec r.dialect.name d mapper)

/-- Run a query for the first record. -/
def fetchOne (q : Request) (target : FetchTarget) (mapper : Option RecordMapper)
    (limits : CallLimits) : m (Option Record) := do
  let q ← lift q.limitedToOne
  return (← r.fetch q target mapper limits).head?

end Runner

end SqlGateway
