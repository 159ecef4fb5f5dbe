import SqlGateway.Rehearsal.PoolFields
import SqlGateway.Rehearsal.World
set_option autoImplicit false

/-!
# Rehearsal: a pool on its own

The provider of the connections is scripted: some attempts to open fail, and
connections can be made to die, or to fail when they are tested or closed.  A hook
lets another caller take a step in the middle of the provider's next call.
-/

namespace SqlGateway.Rehearsal

open Interchange

/-- A connection of the scripted provider. -/
structure ScriptedConnection where
  number : Nat
  alive : Bool := true
  probeError : Option Failure := none
  closeError : Option Failure := none

/-- A provider that does as the script says. -/
structure ScriptedProvider where
  /-- The attempts to open that fail, counting from one. -/
  openErrors : List (Nat × Failure) := []
  attempts : Nat := 0
  connections : List ScriptedConnection := []
  /-- Steps that other callers take during the next call of a kind. -/
  hooks : List (String × Document) := []

abbrev PoolScene := Scene ScriptedProvider

def modifyProvider (f : ScriptedProvider → ScriptedProvider) : PoolScene Unit :=
  modify fun w => { w with standIn := f w.standIn }

/-- The first hook for a call of a kind, and the others. -/
def takeHook (kind : String) :
    List (String × Document) → Option (Document × List (String × Document))
  | [] => none
  | h :: rest =>
    if h.1 == kind then some (h.2, rest)
    else (takeHook kind rest).map fun found => (found.1, h :: found.2)

/-- Let another caller take a step if there is a hook for this call. -/
def runHook (perform : Performer ScriptedProvider) (kind : String) : PoolScene Unit := do
  match takeHook kind (← get).standIn.hooks with
  | none => return
  | some (action, rest) =>
    modifyProvider fun p => { p with hooks := rest }
    noteFired (← perform action)

def openScripted (perform : Performer ScriptedProvider) : PoolScene (Except Failure Nat) := do
  runHook perform "open"
  modifyProvider fun p => { p with attempts := p.attempts + 1 }
  let p := (← get).standIn
  match p.openErrors.find? fun e => e.1 == p.attempts with
  | some (_, f) =>
    record [.text "open_failed"]
    return .error f
  | none =>
    let number := p.connections.length + 1
    modifyProvider fun p => { p with connections := p.connections ++ [{ number }] }
    record [.text "open", .integer number]
    return .ok number

def connectionAt (number : Nat) : PoolScene ScriptedConnection := do
  return ((← get).standIn.connections.find? fun c => c.number == number).getD { number }

def testScripted (perform : Performer ScriptedProvider) (number : Nat) :
    PoolScene (Except Failure Bool) := do
  record [.text "probe", .integer number]
  runHook perform "probe"
  let c ← connectionAt number
  return match c.probeError with
    | some f => .error f
    | none => .ok c.alive

def closeScripted (perform : Performer ScriptedProvider) (number : Nat) :
    PoolScene (Except Failure Unit) := do
  record [.text "close", .integer number]
  runHook perform "close"
  let c ← connectionAt number
  return match c.closeError with
    | some f => .error f
    | none => .ok ()

/-- The scripted provider as the surroundings of a pool. -/
def scriptedSurroundings (perform : Performer ScriptedProvider) : PoolSurroundings PoolScene where
  openConnection := openScripted perform
  testConnection := testScripted perform
  closeConnection := closeScripted perform
  sleep := wait perform
  now := return (← get).clock

/-- Change a connection as the script says. -/
def changeConnection (fields : Document) (c : ScriptedConnection) : Attempt ScriptedConnection := do
  let alive := ((fields.field? "alive").map Document.asBool).getD c.alive
  let probeError ← match fields.field? "probe_error" with
    | some _ => injectedAt fields "probe_error"
    | none => pure c.probeError
  let closeError ← match fields.field? "close_error" with
    | some _ => injectedAt fields "close_error"
    | none => pure c.closeError
  return { c with alive, probeError, closeError }

/-! ## Steps -/

/-- A step on a lease that the script has named. -/
def onLease (d : Document) (f : Nat → Lease → PoolScene (Attempt Document)) :
    PoolScene (Attempt Document) := do
  match ← lease? (d.textAt "conn") with
  | some (n, l) => f n l
  | none => return .error unbound

def writeLeased (l : Lease) : Document := .list [.integer l.slot.id, .integer l.slot.raw]

/-- A block that has a connection and may fail. -/
def withLease (o : Office (World ScriptedProvider)) (failure : Option Failure) :
    PoolScene (Attempt Document) := do
  match ← o.call (.checkout none) with
  | .error f => return .error f
  | .ok none => return .error unfinished
  | .ok (some n) =>
    let raw : Int := (((← get).desk.leases[n]?).map fun l => l.slot.raw).getD 0
    if (failure.map Failure.poisons).getD false then
      modify fun w => { w with desk := w.desk.markUnhealthy n }
    match ← o.callFor (.giveBack n), failure with
    | .error f, _ => return .error f
    | .ok (), some f => return .error f
    | .ok (), none => return .ok (.integer raw)

/-- The world as the office of a pool with the scripted provider. -/
def poolOffice (perform : Performer ScriptedProvider) (turns : Nat) :
    Office (World ScriptedProvider) :=
  office (scriptedSurroundings perform) turns

/-- Run the background sweep for some intervals; a sweep that fails is noted. -/
def runSweeper (perform : Performer ScriptedProvider) (turns : Nat) (interval : Seconds) :
    Nat → PoolScene Unit
  | 0 => return
  | ticks + 1 => do
    if (← get).desk.pool.closing then return
    passUntil perform turns ((← get).clock + interval)
    if (← get).desk.pool.closing then return
    match ← (poolOffice perform turns).callFor .sweep with
    | .ok () => pure ()
    | .error f =>
      tell (.log .error "pool_sweep_failed"
        [("pool", .text (← get).desk.pool.name), ("error", .text f.text)])
    runSweeper perform turns interval ticks

/-- Take a step of a pool's script. -/
def poolStep (perform : Performer ScriptedProvider) (turns : Nat) (d : Document) :
    PoolScene (Attempt Document) := do
  let o := poolOffice perform turns
  let done (r : Attempt Unit) : Attempt Document := r.map fun _ => .null
  match d.textAt "do" with
  | "checkout" =>
    match ← o.call (.checkout (d.double? "timeout")) with
    | .error f => return .error f
    | .ok none => return .error unfinished
    | .ok (some n) =>
      nameLease (d.textAt "as") n
      return .ok (.orNull writeLeased ((← get).desk.leases[n]?))
  | "release" => onLease d fun n _ => do return done (← o.callFor (.giveBack n))
  | "mark_unhealthy" => onLease d fun n _ => do
    modify fun w => { w with desk := w.desk.markUnhealthy n }
    return .ok .null
  | "inspect" => onLease d fun _ l =>
    return .ok (.list [.text l.shown, .bool l.healthy, .bool l.released])
  | "raw" => onLease d fun _ l => return l.raw.map fun n => .integer n
  | "set" => onLease d fun _ l => do
    match changeConnection (d.field "fields") (← connectionAt l.slot.raw) with
    | .error f => return .error f
    | .ok changed =>
      modifyProvider fun p =>
        { p with connections := p.connections.map fun c =>
            if c.number == changed.number then changed else c }
      return .ok .null
  | "with" =>
    match injectedAt d "raise" with
    | .error f => return .error f
    | .ok failure => withLease o failure
  | "with_pool" =>
    match injectedAt d "raise" with
    | .error f => return .error f
    | .ok failure =>
      match ← o.callFor (.close none), failure with
      | .error f, _ => return .error f
      | .ok (), some f => return .error f
      | .ok (), none => return .ok (.bool (← get).desk.pool.closing)
  | "sweep" => return done (← o.callFor .sweep)
  | "sweeper" =>
    match (← get).desk.pool.config.sweepPeriod with
    | none => return .ok (.text "no sweeper")
    | some interval =>
      runSweeper perform turns interval (d.field "ticks").asInt.toNat
      return .ok .null
  | "advance" =>
    passUntil perform turns ((← get).clock + (d.field "seconds").asDouble)
    return .ok .null
  | "schedule" =>
    schedule (d.field "after").asDouble (d.field "action")
    return .ok .null
  | "hook" =>
    modifyProvider fun p =>
      { p with hooks := p.hooks ++ [(d.textAt "on", d.field "action")] }
    return .ok .null
  | "close" => return done (← o.callFor (.close (d.double? "timeout")))
  | "stats" =>
    let stats := (← get).desk.pool.stats
    return .ok (writeFields (stats.toFields ++ [("closed", .bool stats.closed)]))
  | "repr" => return .ok (.text (← get).desk.pool.shown)
  | other => return malformed other

/-- Take a step and the steps that other callers take meanwhile, so deep. -/
def performPoolStep (turns : Nat) : Nat → Performer ScriptedProvider
  | 0, _ => return .error unfinished
  | depth + 1, d => poolStep (fun action => performPoolStep turns depth action) turns d

/-- Rehearse a script of a pool. -/
def rehearsePool (d : Document) : Attempt Document := do
  let config ← PoolConfig.ofFields (← fieldsAt d "pool")
  let openErrors ← readNumbered (d.field "open_errors")
  let pool : Pool := { config, name := (d.text? "name").getD "default" }
  let world := withSubscriber
    { desk := { pool }, standIn := { openErrors }, tellsWaiting := true }
  let turns := turnsFor d.size config
  let (reports, _) := (reportSteps (performPoolStep turns (d.size + 1)) "stats"
    (d.itemsAt "ops")).run world
  return .list reports

end SqlGateway.Rehearsal
