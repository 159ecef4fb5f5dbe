import SqlGateway.Executor.Transaction
import SqlGateway.Interchange.Failures
import SqlGateway.Pool.Desk
import SqlGateway.Telemetry
set_option autoImplicit false

/-!
# Rehearsal: the world

A rehearsal runs the gateway without threads, without a database and without real
time.  Its world has a clock that moves only when something waits, and an agenda of
steps that other callers take at set times.  While an operation waits, the steps
that fall due are taken; then the operation goes on.
-/

namespace SqlGateway.Rehearsal

/-- Everything a rehearsal acts on.  `σ` is what stands in for databases. -/
structure World (σ : Type) where
  clock : Seconds := 0
  /-- Steps of other callers and when they take them, in the order they were put down. -/
  agenda : List (Seconds × Document) := []
  desk : Desk
  /-- Leases by the names that the script gives them. -/
  leases : List (String × Nat) := []
  transactions : List Transaction := []
  /-- Transactions by the names that the script gives them. -/
  transactionNames : List (String × Nat) := []
  standIn : σ
  /-- What has reached the stand-in since the last report. -/
  calls : List Document := []
  board : TelemetryBoard (List TelemetryEvent) := {}
  hub : TelemetryHub := {}
  /-- Events that subscribers have seen since the last report. -/
  seen : List TelemetryEvent := []
  /-- Entries of the log since the last report. -/
  logs : List (LogLevel × String × List (String × Native)) := []
  /-- What came of the steps of other callers since the last report. -/
  fired : List Document := []
  /-- Steps of other callers tell how many callers wait after them. -/
  tellsWaiting : Bool := false

/-- An action of a rehearsal. -/
abbrev Scene (σ : Type) := StateM (World σ)

/-- How a step of the script is taken. -/
abbrev Performer (σ : Type) := Document → Scene σ (Attempt Document)

variable {σ : Type}

/-- A subscriber of every event. -/
def withSubscriber (w : World σ) : World σ :=
  { w with board :=
      (w.board.subscribe "*" (TelemetryHandler.subscriber fun e seen => (seen ++ [e], none))).1 }

/-- Pass a notice on: events to the subscribers, entries to the log. -/
def tell (n : Notice) : Scene σ Unit :=
  modify fun w =>
    match n with
    | .event name attributes => { w with seen := (w.board.emit w.hub name attributes w.seen).1 }
    | .log level message fields => { w with logs := w.logs ++ [(level, message, fields)] }

/-- Note what reached the stand-in. -/
def record (call : List Document) : Scene σ Unit :=
  modify fun w => { w with calls := w.calls ++ [.list call] }

/-- The names of failures that only a rehearsal knows. -/
def stageFailure (name : String) : Failure := .foreign { kind := .other name }

/-- A step names something that no earlier step has named. -/
def unbound : Failure := Office.noLease

/-- Something waits for ever. -/
def wouldBlock : Failure := stageFailure "WouldBlock"

/-- A script goes on for longer than its length allows. -/
def unfinished : Failure := Office.unfinished

/-! ## The agenda -/

/-- The step that falls due first, of equal ones the one put down first, and the others. -/
def takeFirst :
    List (Seconds × Document) → Option ((Seconds × Document) × List (Seconds × Document))
  | [] => none
  | a :: rest =>
    match takeFirst rest with
    | none => some (a, rest)
    | some (b, others) => if a.1 ≤ b.1 then some (a, rest) else some (b, a :: others)

/-- The first step of the agenda if it falls due by a time, and the others. -/
def takeDue (limit : Option Seconds) (agenda : List (Seconds × Document)) :
    Option ((Seconds × Document) × List (Seconds × Document)) :=
  match takeFirst agenda, limit with
  | some (a, rest), some t => if a.1 ≤ t then some (a, rest) else none
  | found, none => found
  | none, _ => none

/-- What came of a step of another caller. -/
def noteFired (r : Attempt Document) : Scene σ Unit :=
  modify fun w =>
    let written := match Interchange.writeAttempt r with
      | .object parts =>
        .object (if w.tellsWaiting then parts ++ [("waiting", .integer w.desk.pool.waiting)]
          else parts)
      | d => d
    { w with fired := w.fired ++ [written] }

/-- Another caller takes a step at its time. -/
def fire (perform : Performer σ) (due : Seconds) (action : Document) : Scene σ Unit := do
  modify fun w => { w with clock := w.clock.later due }
  noteFired (← perform action)

/-- Put a step on the agenda. -/
def schedule (delay : Seconds) (action : Document) : Scene σ Unit :=
  modify fun w => { w with agenda := w.agenda ++ [(w.clock + delay, action)] }

/-- Wait: until another caller takes a step, or for the whole time. -/
def wait (perform : Performer σ) (limit : Option Seconds) : Scene σ (Except Failure Unit) := do
  let w ← get
  match takeDue (limit.map fun t => w.clock + t) w.agenda, limit with
  | some ((due, action), rest), _ =>
    set { w with agenda := rest }
    fire perform due action
    return .ok ()
  | none, some t =>
    set { w with clock := w.clock + t }
    return .ok ()
  | none, none => return .error wouldBlock

/-- Let other callers take the steps that fall due by a time, and move the clock there. -/
def passUntil (perform : Performer σ) : Nat → Seconds → Scene σ Unit
  | 0, target => modify fun w => { w with clock := w.clock.later target }
  | fuel + 1, target => do
    let w ← get
    match takeDue (some target) w.agenda with
    | some ((due, action), rest) =>
      set { w with agenda := rest }
      fire perform due action
      passUntil perform fuel target
    | none => modify fun w => { w with clock := w.clock.later target }

/-! ## Operations at the desk -/

/-- How many turns operations may take: a script of a length cannot make them take more. -/
def turnsFor (script : Nat) (c : PoolConfig) : Nat := (script + 2) * (8 * c.maxSize + 16)

/-- The world as the office of its desk. -/
def office (s : PoolSurroundings (Scene σ)) (turns : Nat) : Office (World σ) where
  desk := World.desk
  setDesk d w := { w with desk := d }
  surroundings := s
  tell
  turns

/-- A lease by its name. -/
def lease? (name : String) : Scene σ (Option (Nat × Lease)) := do
  let w ← get
  return do
    let (_, n) ← w.leases.find? fun e => e.1 == name
    let l ← w.desk.leases[n]?
    return (n, l)

/-- Give a lease a name. -/
def nameLease (name : String) (lease : Nat) : Scene σ Unit :=
  modify fun w => { w with leases := putEntry w.leases name lease }

/-! ## Reports -/

/-- An attribute of an event; times are shown with three places. -/
def writeEventAttribute (a : String × Native) : String × Document :=
  if "_ms".toList.isSuffixOf a.1.toList then
    match a.2 with
    | .float x => (a.1, .text (Seconds.shown ((x.toRat?).getD 0)))
    | n => (a.1, Interchange.writeNative n)
  else (a.1, Interchange.writeNative a.2)

def writeEvent (e : TelemetryEvent) : Document :=
  .list [.text e.name, .orNull .text e.engine, .object (e.attributes.map writeEventAttribute)]

def writeLog (entry : LogLevel × String × List (String × Native)) : Document :=
  .list [.text entry.1.name, .text entry.2.1, Interchange.writeFields entry.2.2]

def writeCounters (s : PoolStats) : Document :=
  .list [.integer s.size, .integer s.idle, .integer s.inUse, .integer s.waiting, .bool s.healthy]

/-- The entries of the log that are shown: those that are no mere detail. -/
def shownLogs (w : World σ) : List Document :=
  (w.logs.filter fun entry => entry.1 != .debug).map writeLog

/-- Everything since the last report, under the name of the pool's counters. -/
def takeReport (counters : String) : Scene σ (List (String × Document)) := do
  let w ← get
  set { w with calls := [], seen := [], logs := [], fired := [] }
  return (counters, writeCounters w.desk.pool.stats) ::
    (Document.unlessEmpty "calls" w.calls ++
      Document.unlessEmpty "events" (w.seen.map writeEvent) ++
      Document.unlessEmpty "logs" (shownLogs w) ++
      Document.unlessEmpty "fired" w.fired)

/-- Take one step of the script and report. -/
def reportStep (perform : Performer σ) (counters : String) (step : Document) :
    Scene σ Document := do
  let r ← perform step
  let now := (← get).clock
  let parts ← takeReport counters
  return .object
    (("r", Interchange.writeAttempt r) :: ("clock", .text (Seconds.shown now)) :: parts)

/-- Take the steps of a script in order. -/
def reportSteps (perform : Performer σ) (counters : String) (steps : List Document) :
    Scene σ (List Document) :=
  steps.mapM (reportStep perform counters)

end SqlGateway.Rehearsal
