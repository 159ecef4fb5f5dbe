import SqlGateway.Failure
import SqlGateway.Time.Seconds
set_option autoImplicit false

/-!
# Drivers: the client library

A driver does not speak to an engine itself: it calls the engine's client library.
`Client` lists the calls that the drivers make.  A call may fail in any way and
leaves its mark on whatever state the library and the engine have, so a client is a
record of actions on a state of any type.

A statement runs between `send` and `reply`.  In between `await` waits until the
statement is over or an alarm goes off, whichever is first.
-/

namespace SqlGateway

/-- An action on a state that may fail; what it did to the state stays. -/
abbrev Task (σ : Type) := ExceptT Failure (StateM σ)

namespace Task

variable {σ α : Type}

/-- What came of an action, be it a failure. -/
def outcome (t : Task σ α) : Task σ (Except Failure α) :=
  ExceptT.mk do return .ok (← t.run)

/-- An action that only gives or fails. -/
def ofExcept (e : Except Failure α) : Task σ α := ExceptT.mk (pure e)

end Task

/-- What a cursor knows of its statement once it is over. -/
structure Reply where
  /-- The columns of the result; none without a result. -/
  columns : List String := []
  rowcount : Option Int := none
  lastRowId : Option Int := none
  deriving DecidableEq, Repr

/-- The calls of a client library.  Connections and cursors go by numbers. -/
structure Client (σ : Type) where
  /-- The library can be loaded. -/
  installed : Bool
  /-- Open a connection with arguments by position and by name. -/
  connect : List Native → List (String × Native) → Task σ Nat
  /-- Run a statement on a connection without a cursor. -/
  executeDirect : Nat → String → Task σ Unit
  setAutocommit : Nat → Bool → Task σ Unit
  /-- Allow a connection to read only. -/
  setReadonly : Nat → Task σ Unit
  /-- Let a connection exchange UUIDs as such. -/
  registerUuid : Nat → Task σ Unit
  /-- Open a cursor on a connection. -/
  cursor : Nat → Task σ Nat
  /-- Start a statement with its parameters on a cursor. -/
  send : Nat → String → List Native → Task σ Unit
  /-- Wait for the statement of a cursor; true if the alarm was first. -/
  await : Nat → Option Seconds → StateM σ Bool
  /-- What a statement came to, once it is over. -/
  reply : Nat → Task σ Reply
  fetchAll : Nat → Task σ (List (List Native))
  closeCursor : Nat → Task σ Unit
  /-- Ask the engine for a sign of life, without connecting again. -/
  ping : Nat → Task σ Unit
  /-- The engine's number for a connection, if it is known. -/
  threadId : Nat → StateM σ (Option Int)
  /-- The library knows that a connection is closed. -/
  isClosed : Nat → StateM σ Bool
  /-- Break the statement off that runs on a connection. -/
  interrupt : Nat → Task σ Unit
  close : Nat → Task σ Unit

end SqlGateway
