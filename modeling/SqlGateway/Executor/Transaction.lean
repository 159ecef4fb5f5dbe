import SqlGateway.Executor.Host
set_option autoImplicit false

/-!
# Executor: transactions

A transaction holds one lease from the statement that opens it to the one that
closes it.  It is active, or failed when a statement failed or was interrupted on
its connection; a failed one can only be rolled back.  Committed and rolled back are
final, and with them the lease is given back.  A transaction that is left without an
answer is rolled back, never committed.
-/

namespace SqlGateway

/-- Where a transaction stands. -/
inductive TransactionState where
  | active | failed | committed | rolledBack
  deriving DecidableEq, Repr

namespace TransactionState

def name : TransactionState → String
  | .active => "active"
  | .failed => "failed"
  | .committed => "committed"
  | .rolledBack => "rolled_back"

/-- Nothing can happen any more. -/
def isFinal : TransactionState → Bool
  | .committed | .rolledBack => true
  | _ => false

end TransactionState

/-- A transaction: its lease, its connection, and where it stands. -/
structure Transaction where
  lease : Nat
  conn : Nat
  state : TransactionState := .active
  deriving DecidableEq, Repr

/-- An action within a transaction that may fail; what it did to the transaction stays. -/
abbrev TransactionTask (σ : Type) := ExceptT Failure (StateT Transaction (StateM σ))

namespace TransactionTask

variable {σ α : Type}

/-- The transaction as it is. -/
def current : TransactionTask σ Transaction :=
  ExceptT.mk fun tx => pure (.ok tx, tx)

/-- The transaction stands elsewhere now. -/
def moveTo (s : TransactionState) : TransactionTask σ Unit :=
  ExceptT.mk fun tx => pure (.ok (), { tx with state := s })

/-- An action beside the transaction. -/
def ofTask (t : Task σ α) : TransactionTask σ α := ExceptT.mk (StateT.lift t.run)

instance : MonadLift (Task σ) (TransactionTask σ) := ⟨ofTask⟩

/-- What came of an action, be it a failure. -/
def outcome (t : TransactionTask σ α) : TransactionTask σ (Except Failure α) :=
  ExceptT.mk do return .ok (← t.run)

/-- Run an action in a transaction: what came of it, and the transaction after it. -/
def runIn (t : TransactionTask σ α) (tx : Transaction) :
    StateM σ (Except Failure α × Transaction) :=
  StateT.run t.run tx

end TransactionTask

namespace Host

open TransactionTask (current moveTo)

variable {σ : Type} (h : Host σ)

/-- A transaction in one line. -/
def shownTransaction (tx : Transaction) : String :=
  "Transaction(engine=" ++ Text.quoted h.tag ++ ", state=" ++ tx.state.name ++ ")"

/-- Open a transaction. -/
def begin (timeout : Option Seconds) : Task σ Transaction := do
  let lease ← h.checkout timeout
  let conn ← h.connection lease
  match ← Task.outcome (h.calls.begin conn) with
  | .ok () => return { lease, conn }
  | .error f =>
    if f.isDriver then
      h.markUnhealthy lease
      h.giveBack lease
    throw f

/-! ## Statements -/

/-- The failure of an operation on a transaction that is no longer active. -/
def unusable? : TransactionState → Option Failure
  | .active => none
  | .failed =>
    some (.make .unhealthy "Transaction connection failed; roll back the transaction")
  | s => some (.make .unhealthy ("Transaction is already " ++ s.name))

/-- Run a statement in a transaction.  It fails with its connection. -/
def performIn (b : BoundStatement) (limits : CallLimits) : TransactionTask σ DriverResult := do
  let tx ← current
  match unusable? tx.state with
  | some f => throw f
  | none =>
    let r ← TransactionTask.outcome (h.runOn tx.lease tx.conn b limits)
    if !(← h.healthy tx.lease) then moveTo .failed
    match r with
    | .ok result => return result
    | .error f => throw f

/-- The runner that runs statements one after the other in a transaction. -/
def inTransaction : Runner (TransactionTask σ) where
  dialect := h.dialect
  tell n := h.report n
  perform := h.performIn

/-! ## The end of a transaction -/

/-- Roll back and give the lease back; the engine's refusal to roll back is returned, and spoils
the connection. -/
def abort : TransactionTask σ (Option Failure) := do
  let tx ← current
  if tx.state.isFinal then return none
  else
    let refusal ← match ← TransactionTask.outcome (h.calls.rollback tx.conn) with
      | .ok () => pure none
      | .error f =>
        if f.isDriver then
          h.markUnhealthy tx.lease
          h.report (.log .error "transaction_rollback_failed"
            [("engine", .text h.tag), ("error", .text f.text)])
          pure (some f)
        else throw f
    moveTo .rolledBack
    h.giveBack tx.lease
    return refusal

/-- The failure of a transaction as a whole. -/
def aborted (step : Option Nat) (message : String) (cause rollback : Option Failure) : Failure :=
  h.tagged (.make (.aborted (step.map Int.ofNat)) message cause rollback)

/-- Commit; a failed transaction is rolled back instead, and so is one whose commit the engine
refuses. -/
def commit : TransactionTask σ Unit := do
  let tx ← current
  if tx.state == .failed then
    let refusal ← h.abort
    throw (h.aborted none "Cannot commit a failed transaction; it was rolled back" none refusal)
  else
    match unusable? tx.state with
    | some f => throw f
    | none =>
      match ← TransactionTask.outcome (h.calls.commit tx.conn) with
      | .ok () =>
        moveTo .committed
        h.giveBack tx.lease
      | .error f =>
        if f.isDriver then
          h.markUnhealthy tx.lease
          moveTo .failed
          let refusal ← h.abort
          throw (h.aborted none ("Commit failed: " ++ f.text) (some f) refusal)
        else throw f

/-- Roll back; a transaction that is over stays as it is. -/
def rollback : TransactionTask σ Unit := do
  if (← current).state.isFinal then return
  else
    match ← h.abort with
    | none => return
    | some f => throw f

/-- Leave the block of a transaction, be it with a failure: what is not resolved is rolled
back. -/
def leave (failure : Option Failure) : TransactionTask σ Unit := do
  if (← current).state.isFinal then return
  else
    if failure.isNone then
      h.report (.log .warning "transaction_unresolved"
        [("engine", .text h.tag), ("action", .text "rollback")])
    match ← h.abort, failure with
    | some f, none => throw f
    | _, _ => return

/-- Nobody holds the transaction any more, nor a failure that left it: if it is not over, its
connection is destroyed, and with it what was not committed. -/
def abandon (tx : Transaction) : StateM σ Unit := do
  if tx.state.isFinal then return
  else
    h.tell (.log .warning "transaction_garbage_collected"
      [("engine", .text h.tag), ("action", .text "destroy_connection")])
    h.markUnhealthy tx.lease
    let _ ← (h.giveBack tx.lease).run

/-! ## Operations as a whole -/

/-- Take the steps in order until one fails; with the failure comes the number of its step. -/
def takeSteps {α : Type} : Nat → List (TransactionTask σ α) →
    TransactionTask σ (Except (Nat × Failure) (List α))
  | _, [] => return .ok []
  | n, step :: rest => do
    match ← TransactionTask.outcome step with
    | .error f => if f.isOrdinary then return .error (n, f) else throw f
    | .ok a => return (← takeSteps (n + 1) rest).map (a :: ·)

/-- Take all steps and commit, or roll back. -/
def allOrNothing {α : Type} (steps : List (TransactionTask σ α)) : TransactionTask σ (List α) := do
  match ← takeSteps 0 steps with
  | .ok results =>
    h.commit
    return results
  | .error (n, f) =>
    let refusal ← h.abort
    h.report (.log .warning "transaction_aborted"
      [("engine", .text h.tag), ("failed_step", .int n), ("error", .text f.text),
        ("rollback_failed", .bool refusal.isSome)])
    throw (h.aborted (some n) ("Transaction aborted at step " ++ toString n ++ ": " ++ f.text)
      (some f) refusal)

/-- Run steps in a transaction of their own, all or none: what came of them, and the transaction as
they left it. -/
def wholeInTransaction {α : Type} (steps : List (TransactionTask σ α)) :
    Task σ (Except Failure (List α) × Transaction) := do
  let tx ← h.begin none
  (h.allOrNothing steps).runIn tx

/-- The outcome of steps in a transaction of their own.  The transaction is not abandoned here: a
failure keeps the transaction that it left, until the caller has done with the failure. -/
def executeInTransaction {α : Type} (steps : List (TransactionTask σ α)) : Task σ (List α) := do
  let (r, _) ← h.wholeInTransaction steps
  Task.ofExcept r

end Host

end SqlGateway
