import SqlGateway.Pool.Operation
set_option autoImplicit false

/-!
# Pool: the desk

The desk lends the pool's connections.  A lease is what a caller has of a
connection: it can be marked unhealthy, and it is given back once, however often
the caller tries.
-/

namespace SqlGateway

/-- A connection that was handed out. -/
structure Lease where
  slot : Slot
  healthy : Bool := true
  released : Bool := false
  deriving DecidableEq, Repr

namespace Lease

/-- The lease in one line. -/
def shown (l : Lease) : String :=
  let state := if l.released then "released" else if l.healthy then "healthy" else "unhealthy"
  "PooledConnection(id=" ++ toString l.slot.id ++ ", " ++ state ++ ")"

/-- The provider's number of the connection, while the lease is good. -/
def raw (l : Lease) : Except Failure Nat :=
  let connection := "Connection " ++ toString l.slot.id
  if l.released then
    .error (.make .unhealthy (connection ++ " was already returned to the pool"))
  else if !l.healthy then .error (.make .unhealthy (connection ++ " is marked unhealthy"))
  else .ok l.slot.raw

end Lease

/-- What callers ask of the desk. -/
inductive DeskCall where
  | checkout (timeout : Option Seconds)
  /-- Give a lease back, by number. -/
  | giveBack (lease : Nat)
  | sweep
  | close (timeout : Option Seconds)
  deriving DecidableEq, Repr

/-- A pool and the leases of its connections, by number. -/
structure Desk where
  pool : Pool
  leases : List Lease := []
  /-- The number of the next operation. -/
  nextCaller : Nat := 0

namespace Desk

/-- A stretch of an operation at the desk, which may end with a new lease. -/
abbrev Stretch := Turn Desk (Option Nat)

/-- A new lease is noted under the next number. -/
def settle (d : Desk) (t : Pool.Stretch) : Stretch :=
  match t.progress with
  | .needs p => ⟨{ d with pool := t.state }, t.notices, .needs p⟩
  | .done (.error f) => ⟨{ d with pool := t.state }, t.notices, .done (.error f)⟩
  | .done (.ok none) => ⟨{ d with pool := t.state }, t.notices, .done (.ok none)⟩
  | .done (.ok (some s)) =>
    ⟨{ d with pool := t.state, leases := d.leases ++ [{ slot := s }] }, t.notices,
      .done (.ok (some d.leases.length))⟩

/-- Mark a lease unhealthy. -/
def markUnhealthy (d : Desk) (lease : Nat) : Desk :=
  { d with leases := d.leases.modify lease fun l => { l with healthy := false } }

/-- Give a lease back: the second time nothing happens. -/
def giveBack (d : Desk) (now : Seconds) (lease : Nat) : Stretch :=
  match d.leases[lease]? with
  | none => .ends d (.ok none)
  | some l =>
    if l.released then .ends d (.ok none)
    else
      let d := { d with leases := d.leases.set lease { l with released := true } }
      d.settle (d.pool.startReturn now l.slot l.healthy)

/-- Begin an operation; it gets a number of its own. -/
def start (d : Desk) (now : Seconds) (c : DeskCall) : Nat × Stretch :=
  let caller := d.nextCaller
  let d := { d with nextCaller := caller + 1 }
  (caller, match c with
    | .checkout timeout => d.settle (d.pool.startCheckout caller now timeout)
    | .giveBack lease => d.giveBack now lease
    | .sweep => d.settle (d.pool.startSweep now)
    | .close timeout => d.settle (d.pool.startClose caller now timeout))

/-- An operation goes on with the reply to what it needed. -/
def proceed (d : Desk) (caller : Nat) (now : Seconds) (q : Pending) (r : q.Reply) : Stretch :=
  d.settle (d.pool.proceed caller now q r)

end Desk

/-! ## Surroundings -/

/-- What does the work that a pool's operations need, as actions of a monad. -/
structure PoolSurroundings (m : Type → Type) where
  openConnection : m (Except Failure Nat)
  testConnection : Nat → m (Except Failure Bool)
  closeConnection : Nat → m (Except Failure Unit)
  sleep : Option Seconds → m (Except Failure Unit)
  now : m Seconds

/-- Do what an operation needs. -/
def PoolSurroundings.reply {m : Type → Type} [Monad m] (s : PoolSurroundings m) :
    (q : Pending) → m q.Reply
  | .opening _ => s.openConnection
  | .testing slot _ => s.testConnection slot.raw
  | .closing slot _ _ => s.closeConnection slot.raw
  | .sleeping limit _ => s.sleep limit
  | .pausing _ => pure ()

/-! ## Calls at a desk -/

/-- Where callers meet a desk: the state that it is a part of, what surrounds its pool, and where
notices go. -/
structure Office (σ : Type) where
  desk : σ → Desk
  setDesk : Desk → σ → σ
  surroundings : PoolSurroundings (StateM σ)
  tell : Notice → StateM σ Unit
  /-- How many turns a call may take before it is given up. -/
  turns : Nat
  desk_setDesk : ∀ (d : Desk) (s : σ), desk (setDesk d s) = d := by intros; rfl

namespace Office

variable {σ : Type} (o : Office σ)

/-- The failure of a call that was given up. -/
def unfinished : Failure := .foreign { kind := .other "Unfinished" }

/-- The desk as a stretch leaves it, and what the stretch reports. -/
def take (t : Desk.Stretch) : StateM σ Unit := do
  modify (o.setDesk t.state)
  t.notices.forM o.tell

/-- Carry an operation on until it is over.  Whatever it needs is done first, and it goes on from
the desk as it is by then. -/
def carryOn (caller : Nat) : Nat → Desk.Stretch → StateM σ (Except Failure (Option Nat))
  | fuel, t => do
    o.take t
    match t.progress with
    | .done r => return r
    | .needs q =>
      match fuel with
      | 0 => return .error unfinished
      | fuel + 1 =>
        let r ← o.surroundings.reply q
        let now ← o.surroundings.now
        carryOn caller fuel ((o.desk (← get)).proceed caller now q r)

/-- Ask the desk for something. -/
def call (q : DeskCall) : StateM σ (Except Failure (Option Nat)) := do
  let now ← o.surroundings.now
  let (caller, t) := (o.desk (← get)).start now q
  o.carryOn caller o.turns t

/-- Ask the desk for something and ignore what it gives. -/
def callFor (q : DeskCall) : StateM σ (Except Failure Unit) := do
  return (← o.call q).map fun _ => ()

end Office

end SqlGateway
