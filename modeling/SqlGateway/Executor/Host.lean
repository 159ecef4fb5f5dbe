import SqlGateway.Executor.Runner
import SqlGateway.Pool.Desk
set_option autoImplicit false

/-!
# Executor: one statement on one connection

A statement is sent on a connection that the pool has leased.  While it runs it is
watched, if it may be broken off: when its time is over, or another caller cancels
it, the driver interrupts it, once.  A connection on which a statement failed or was
interrupted is marked and never used again.
-/

namespace SqlGateway

/-- What an executor works with: what a driver does for it, the leases of a pool, and a clock.
Leases go by numbers. -/
structure Host (σ : Type) where
  driver : Driver
  calls : DriverCalls σ
  tell : Notice → StateM σ Unit
  /-- How long the pool lets a caller wait who names no time. -/
  patience : Option Seconds
  now : StateM σ Seconds
  checkout : Option Seconds → Task σ Nat
  giveBack : Nat → Task σ Unit
  markUnhealthy : Nat → StateM σ Unit
  healthy : Nat → StateM σ Bool
  /-- The connection of a lease that is good. -/
  connection : Nat → Task σ Nat

namespace Host

variable {σ : Type} (h : Host σ)

def dialect : Dialect := h.driver.dialect

/-- Report from within an action that may fail. -/
def report (n : Notice) : Task σ Unit := liftM (h.tell n)

/-- The name of the engine in reports. -/
def tag : String := h.dialect.name

/-- A fault with the engine in its context. -/
def tagged (f : Failure) : Failure := f.withContext "engine" (.text h.tag)

/-- A failure of a statement: where it happened, without the values. -/
def atStatement (b : BoundStatement) (f : Failure) : Failure :=
  (h.tagged f).withContext "statement" b.shape

/-! ## Watching -/

/-- Interrupt the statement on a connection and note what came of it. -/
def interruptStatement (conn : Nat) : StateM σ Unit := do
  match ← (h.calls.interrupt conn).run with
  | .ok delivered =>
    h.tell (.log .info "statement_interrupted"
      [("engine", .text h.tag), ("delivered", .bool delivered)])
  | .error f =>
    if f.isOrdinary then
      h.tell (.log .warning "statement_interrupt_failed"
        [("engine", .text h.tag), ("error", .text f.text)])

/-! ## Running -/

/-- The parameters of a statement. -/
def parameters (b : BoundStatement) : Except Failure (List Native) :=
  b.binds.mapM fun v => (h.dialect.codec.encode v).mapError Refusal.toFailure

/-- What is reported of a statement that the engine refused. -/
def reportRefused (b : BoundStatement) (f : Failure) : List Notice :=
  [.event "statement.error" [("error_kind", .text f.name), ("sql", .text b.sql)],
    .log .warning "statement_failed"
      [("engine", .text h.tag), ("sql", .text b.sql), ("error", .text f.text)]]

/-- What is reported of a statement that ended in any other failure. -/
def reportAborted (b : BoundStatement) (f : Failure) : List Notice :=
  [.log .warning "statement_aborted"
    [("engine", .text h.tag), ("sql", .text b.sql), ("error_kind", .text f.name)]]

/-- What is reported of a statement that ran. -/
def reportDone (b : BoundStatement) (duration : Seconds) (r : DriverResult) : List Notice :=
  [.event "statement.execute"
      [("duration_ms", .float duration.milliseconds), ("rowcount", .int r.rowcount)],
    .log .debug "statement_executed"
      [("engine", .text h.tag), ("sql", .text b.sql),
        ("duration_ms", .float duration.shortMilliseconds), ("rowcount", .int r.rowcount)]]

def reportAll (notices : List Notice) : Task σ Unit := notices.forM fun n => h.report n

/-- How a statement ends: its result, or the failure that the caller sees.  A failure of the
engine after an interruption is the interruption's. -/
def conclude (lease : Nat) (b : BoundStatement) (started : Seconds) (fired : Bool)
    (r : Except Failure DriverResult) : Task σ DriverResult := do
  match r with
  | .ok result =>
    if fired then h.markUnhealthy lease
    h.reportAll (h.reportDone b ((← h.now) - started) result)
    return result
  | .error f =>
    h.markUnhealthy lease
    if f.isDriver then
      if fired then
        throw (h.atStatement b
          (.make (.cancelled true) "Statement cancelled while in flight" (some f)))
      else
        h.reportAll (h.reportRefused b f)
        throw (h.atStatement b f)
    else
      h.reportAll (h.reportAborted b f)
      throw f

/-- Run a statement on the connection of a lease. -/
def runOn (lease conn : Nat) (b : BoundStatement) (limits : CallLimits) : Task σ DriverResult := do
  let params ← Task.ofExcept (h.parameters b)
  let started ← h.now
  if limits.cancelledBy started then
    throw (h.atStatement b (.make (.cancelled false) "Statement cancelled before it was sent"))
  else
    let (fired, r) ← h.calls.execute conn b.sql params (limits.alarm started)
      (h.interruptStatement conn)
    h.conclude lease b started fired r

/-! ## Leases -/

/-- Do something with a lease and give it back, marked if what was done spoiled it. -/
def withLease {α : Type} (lease : Nat) (body : Task σ α) : Task σ α := do
  match ← Task.outcome body with
  | .ok a =>
    h.giveBack lease
    return a
  | .error f =>
    if f.poisons then h.markUnhealthy lease
    h.giveBack lease
    throw f

/-- Check a connection out within the limits of a call; what is left of its time comes with
the lease. -/
def checkoutWithin (limits : CallLimits) : Task σ (Nat × CallLimits) := do
  let started ← h.now
  if limits.cancelledBy started then
    throw (h.tagged (.make (.cancelled false) "Statement cancelled before checkout"))
  else
    match limits.timeout with
    | none => return (← h.checkout none, limits)
    | some t =>
      let lease ← h.checkout (some ((h.patience.map t.earlier).getD t))
      let left := Seconds.later 0 (t - ((← h.now) - started))
      return (lease, { limits with timeout := some left })

/-- Run a statement on a connection of its own. -/
def perform (b : BoundStatement) (limits : CallLimits) : Task σ DriverResult := do
  let (lease, limits) ← h.checkoutWithin limits
  h.withLease lease do
    let conn ← h.connection lease
    h.runOn lease conn b limits

/-- The runner that gives each statement a connection of its own. -/
def executor : Runner (Task σ) where
  dialect := h.dialect
  tell n := h.report n
  perform := h.perform

/-- The executor in one line. -/
def shown : String := "Executor(engine=" ++ Text.quoted h.tag ++ ")"

end Host

/-! ## A host at an office -/

namespace Office

variable {σ : Type} (o : Office σ)

/-- The failure of a lease that the desk does not know. -/
def noLease : Failure := .foreign { kind := .other "Unbound" }

/-- A lease by number. -/
def leaseAt (n : Nat) : Task σ Lease := do
  match (o.desk (← get)).leases[n]? with
  | some l => return l
  | none => throw noLease

/-- The host whose connections are lent at an office. -/
def host (driver : Driver) (calls : DriverCalls σ) (patience : Option Seconds) : Host σ where
  driver
  calls
  tell := o.tell
  patience
  now := o.surroundings.now
  checkout timeout := do
    match ← ExceptT.mk (o.call (.checkout timeout)) with
    | some lease => return lease
    | none => throw unfinished
  giveBack lease := ExceptT.mk (o.callFor (.giveBack lease))
  markUnhealthy lease := modify fun s => o.setDesk ((o.desk s).markUnhealthy lease) s
  healthy lease := do return (((o.desk (← get)).leases[lease]?).map Lease.healthy).getD false
  connection lease := do Task.ofExcept (← o.leaseAt lease).raw

end Office

end SqlGateway
