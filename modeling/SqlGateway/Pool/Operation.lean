import SqlGateway.Pool.Basic
import SqlGateway.Failure
set_option autoImplicit false

/-!
# Pool: operations

Checking out, returning, sweeping and closing.  Opening, testing and closing a
connection, and waiting, are not the pool's to do: an operation runs up to the
point where it needs one of these, says what it needs as a `Pending`, and goes on
when it has the reply.  Between the two other operations may run.  They may also
run where an operation only lets go of the pool and comes back, which is a `Pending`
that needs nothing.  A `Pending` holds everything that the operation owns in the
meantime.
-/

namespace SqlGateway

/-- A caller at the pool: when it came, and how long it waits; without a number, for ever. -/
structure Visit where
  since : Seconds
  patience : Option Seconds
  deriving DecidableEq, Repr

/-- When a caller stops waiting. -/
def Visit.deadline (v : Visit) : Option Seconds := v.patience.map fun t => v.since + t

/-- What an operation opens a connection for. -/
inductive Opening where
  /-- A caller. -/
  | visit (v : Visit)
  /-- The least number of idle connections. -/
  | reserve
  deriving DecidableEq, Repr

/-- What an operation tests a connection for. -/
inductive Testing where
  /-- A caller. -/
  | visit (v : Visit)
  /-- A sweep, with the connections to test after this one and those found alive. -/
  | sweep (rest alive : List Slot)
  deriving DecidableEq, Repr

/-- How an operation goes on when it has closed a connection. -/
inductive Closing where
  /-- The caller tries again. -/
  | visit (v : Visit)
  /-- It was returned. -/
  | returned
  /-- A sweep retires the rest, and then tests the others. -/
  | retired (rest : List (Slot × RetireReason)) (others : List Slot)
  /-- A sweep tests the rest. -/
  | stale (rest alive : List Slot)
  /-- A sweep that found the pool closed closes what it still holds. -/
  | late (rest : List Slot)
  /-- A sweep that found the pool closed when it had opened a connection is over. -/
  | surplus
  /-- The pool closes the rest; the first to close it says so. -/
  | shutdown (rest : List Slot) (first : Bool)
  deriving DecidableEq, Repr

/-- What an operation sleeps for. -/
inductive Sleeping where
  /-- A connection. -/
  | visit (v : Visit)
  /-- The return of every connection, until a moment. -/
  | shutdown (deadline : Option Seconds)
  deriving DecidableEq, Repr

/-- What an operation comes back for when it has let go of the pool. -/
inductive Pausing where
  /-- A connection that it has taken is too old for the caller. -/
  | discard (slot : Slot) (reason : RetireReason) (v : Visit)
  /-- The caller tries again. -/
  | visit (v : Visit)
  /-- A sweep has tested the last connection. -/
  | tests (alive : List Slot)
  /-- A sweep fills up. -/
  | fill
  deriving DecidableEq, Repr

/-- What an operation needs before it can go on. -/
inductive Pending where
  | opening (use : Opening)
  | testing (slot : Slot) (use : Testing)
  | closing (slot : Slot) (reason : RetireReason) (next : Closing)
  | sleeping (limit : Option Seconds) (use : Sleeping)
  | pausing (use : Pausing)
  deriving DecidableEq, Repr

/-- The reply to what an operation needs. -/
def Pending.Reply : Pending → Type
  | .opening _ => Except Failure Nat
  | .testing _ _ => Except Failure Bool
  | .closing _ _ _ => Except Failure Unit
  | .sleeping _ _ => Except Failure Unit
  | .pausing _ => Unit

/-- Where an operation is: it needs something, or it is over. -/
inductive Progress (α : Type) where
  | needs (p : Pending)
  | done (r : Except Failure α)

/-- One stretch of an operation: the new state, what it reports, and where it is. -/
structure Turn (σ α : Type) where
  state : σ
  notices : List Notice := []
  progress : Progress α

namespace Turn

variable {σ α : Type}

/-- The stretch after some reports. -/
def after (notices : List Notice) (t : Turn σ α) : Turn σ α :=
  { t with notices := notices ++ t.notices }

/-- The operation is over. -/
def ends (s : σ) (r : Except Failure α) : Turn σ α := ⟨s, [], .done r⟩

/-- The operation needs something. -/
def asks (s : σ) (p : Pending) : Turn σ α := ⟨s, [], .needs p⟩

end Turn

namespace Pool

/-- A stretch of an operation at a pool, which may end with a connection for the caller. -/
abbrev Stretch := Turn Pool (Option Slot)

/-! ## Reports -/

def slotFields (p : Pool) (s : Slot) : List (String × Native) :=
  [("pool", .text p.name), ("connection_id", .int s.id)]

/-- A failure that is only noted. -/
def troubled (p : Pool) (message : String) (s : Slot) (f : Failure) : Notice :=
  .log .warning message (p.slotFields s ++ [("error", .text f.text)])

def reportCheckout (p : Pool) (s : Slot) (wait : Seconds) : List Notice :=
  [.event "pool.checkout"
      [("wait_ms", .float wait.milliseconds), ("connection_id", .int s.id)],
    .log .debug "pool_checkout" (p.slotFields s ++ [("wait_ms", .float wait.shortMilliseconds)])]

def reportOpened (p : Pool) (s : Slot) : List Notice :=
  [.event "pool.connection_opened" [("connection_id", .int s.id)],
    .log .debug "pool_connection_opened" (p.slotFields s)]

def reportClosed (p : Pool) (s : Slot) (reason : RetireReason) : List Notice :=
  [.event "pool.connection_closed"
      [("connection_id", .int s.id), ("reason", .text reason.name)],
    .log .debug "pool_connection_closed" (p.slotFields s ++ [("reason", .text reason.name)])]

/-! ## Failures -/

def closedFailure (p : Pool) : Failure :=
  .make .poolClosed ("Pool " ++ Text.quoted p.name ++ " is closed")

def exhaustedFailure (p : Pool) (patience : Seconds) : Failure :=
  ((Failure.make .poolExhausted ("No connection available in pool " ++ Text.quoted p.name ++
      " within " ++ patience.shown ++ "s")).withContext "operation" (.text "checkout")).withContext
    "max_size" (.int p.config.maxSize)

/-- Why a connection could not be opened: a fault as it is, any other failure as the cause of
one; an interruption is left alone. -/
def openFailure (f : Failure) : Failure :=
  if f.isFault || !f.isOrdinary then f
  else .make .connection ("Failed to open connection: " ++ f.text) (some f)

/-! ## Checking out -/

/-- Hand out a connection. -/
def handOut (p : Pool) (now : Seconds) (v : Visit) (s : Slot) : Stretch :=
  ⟨p, p.reportCheckout s (now - v.since), .done (.ok (some s))⟩

/-- Close a connection that the caller cannot have. -/
def discard (p : Pool) (s : Slot) (reason : RetireReason) (v : Visit) : Stretch :=
  .asks { p with inUse := p.inUse - 1 } (.closing s reason (.visit v))

/-- Look at a connection that was at rest before it is handed out. -/
def examine (p : Pool) (now : Seconds) (v : Visit) (s : Slot) : Stretch :=
  match refusal? p.config s now with
  | some reason => .asks p (.pausing (.discard s reason v))
  | none =>
    if p.config.validateOnCheckout then .asks p (.testing s (.visit v)) else p.handOut now v s

/-- Take the connection that was returned last, or room for a new one, or wait. -/
def seek (p : Pool) (caller : Nat) (now : Seconds) (v : Visit) : Stretch :=
  if p.closing then .ends p (.error p.closedFailure)
  else
    match p.idle.getLast? with
    | some s => examine { p with idle := p.idle.dropLast, inUse := p.inUse + 1 } now v s
    | none =>
      if p.live < p.config.maxSize then
        .asks { p with live := p.live + 1, inUse := p.inUse + 1 } (.opening (.visit v))
      else
        match v.patience with
        | some patience =>
          if v.since + patience ≤ now then .ends p (.error (p.exhaustedFailure patience))
          else
            .asks { p.fallAsleep caller with waiting := p.waiting + 1 }
              (.sleeping (some (v.since + patience - now)) (.visit v))
        | none =>
          .asks { p.fallAsleep caller with waiting := p.waiting + 1 } (.sleeping none (.visit v))

/-- Begin to check out. -/
def startCheckout (p : Pool) (caller : Nat) (now : Seconds) (timeout : Option Seconds) : Stretch :=
  p.seek caller now { since := now, patience := timeout.or p.config.patience }

/-! ## Returning -/

/-- Return a connection: it rests, unless it is not fit to. -/
def startReturn (p : Pool) (now : Seconds) (s : Slot) (healthy : Bool) : Stretch :=
  let p := { p with inUse := p.inUse - 1 }
  let reason :=
    if !healthy then some RetireReason.unhealthy
    else if p.closing then some .poolClosed
    else if livedOut p.config s now then some .maxLifetime
    else none
  match reason with
  | some r => .asks p (.closing s r .returned)
  | none => .ends ({ p with idle := p.idle ++ [{ s with lastUsed := now }] }.call 1) (.ok none)

/-! ## Sweeping -/

/-- Open one more connection if fewer than the least number live. -/
def fillUp (p : Pool) : Stretch :=
  if p.closing || decide ((p.config.minIdle : Int) ≤ p.live) ||
      decide ((p.config.maxSize : Int) ≤ p.live) then
    .ends p (.ok none)
  else .asks { p with live := p.live + 1, inUse := p.inUse + 1 } (.opening .reserve)

/-- Close what a sweep holds when the pool has been closed. -/
def closeLate (p : Pool) : List Slot → Stretch
  | [] => .ends p (.ok none)
  | s :: rest => .asks p (.closing s .poolClosed (.late rest))

/-- Put the connections that are alive back, colder than those returned since; then fill up. -/
def finishTests (p : Pool) (alive : List Slot) : Stretch :=
  if p.closing then p.closeLate alive
  else .asks ({ p with idle := alive ++ p.idle }.call alive.length) (.pausing .fill)

/-- Test the next connection of a sweep. -/
def testNext (p : Pool) (alive : List Slot) : List Slot → Stretch
  | [] => .asks p (.pausing (.tests alive))
  | s :: rest => .asks p (.testing s (.sweep rest alive))

/-- Retire the next connection of a sweep. -/
def retireNext (p : Pool) (others : List Slot) : List (Slot × RetireReason) → Stretch
  | [] => p.testNext [] others
  | (s, r) :: rest => .asks p (.closing s r (.retired rest others))

/-- Begin a sweep: it takes every connection at rest. -/
def startSweep (p : Pool) (now : Seconds) : Stretch :=
  if p.closing then .ends p (.ok none)
  else
    let (retired, kept) := triage p.config now p.live p.idle
    retireNext { p with idle := [] } kept retired

/-! ## Closing -/

/-- Close the next connection; the last one may be announced. -/
def shutNext (p : Pool) (first : Bool) : List Slot → Stretch
  | [] =>
    ⟨p, if first then [.log .info "pool_closed" [("pool", .text p.name)]] else [], .done (.ok none)⟩
  | s :: rest => .asks p (.closing s .poolClosed (.shutdown rest first))

/-- Close every connection at rest. -/
def shut (p : Pool) (first : Bool) : Stretch := shutNext { p with idle := [] } first p.idle

/-- Wait for the return of every connection, until a moment. -/
def awaitReturns (p : Pool) (caller : Nat) (now : Seconds) (deadline : Option Seconds) : Stretch :=
  if p.inUse ≤ 0 then p.shut true
  else
    match deadline with
    | some d =>
      if d ≤ now then
        (p.shut true).after
          [.log .warning "pool_close_timeout"
            [("pool", .text p.name), ("outstanding", .int p.inUse)]]
      else .asks (p.fallAsleep caller) (.sleeping (some (d - now)) (.shutdown deadline))
    | none => .asks (p.fallAsleep caller) (.sleeping none (.shutdown none))

/-- Begin to close the pool; only the first to do so waits. -/
def startClose (p : Pool) (caller : Nat) (now : Seconds) (timeout : Option Seconds) : Stretch :=
  let closed := { p with closing := true }.callAll
  if p.closing then closed.shut false
  else closed.awaitReturns caller now (timeout.map fun t => now + t)

/-! ## Going on -/

/-- Go on when a connection has been opened, or could not be. -/
def opened (p : Pool) (now : Seconds) (use : Opening) (r : Except Failure Nat) : Stretch :=
  match r with
  | .error f =>
    let p := { p with live := p.live - 1, inUse := p.inUse - 1 }.call 1
    let f := openFailure f
    match use with
    | .visit _ => .ends p (.error f)
    | .reserve =>
      if f.isFault then
        ⟨p, [.log .warning "pool_top_up_failed" [("pool", .text p.name), ("error", .text f.text)]],
          .done (.ok none)⟩
      else .ends p (.error f)
  | .ok raw =>
    let s : Slot := { raw, id := p.nextId, createdAt := now, lastUsed := now }
    let p := { p with nextId := p.nextId + 1 }
    match use with
    | .visit v => (p.handOut now v s).after (p.reportOpened s)
    | .reserve =>
      let p := { p with inUse := p.inUse - 1 }
      if p.closing then
        (Turn.asks p (.closing s .poolClosed .surplus)).after (p.reportOpened s)
      else
        (Turn.asks ({ p with idle := s :: p.idle }.call 1) (.pausing .fill)).after
          (p.reportOpened s)

/-- Go on when a connection has been tested; a test that fails counts as a dead connection. -/
def tested (p : Pool) (now : Seconds) (s : Slot) (use : Testing) (r : Except Failure Bool) :
    Stretch :=
  let goOn (alive : Bool) : Stretch :=
    match use with
    | .visit v => if alive then p.handOut now v s else p.discard s .validationFailed v
    | .sweep rest found =>
      if alive then p.testNext (found ++ [s]) rest
      else .asks p (.closing s .stale (.stale rest found))
  match r with
  | .ok alive => goOn alive
  | .error f =>
    if f.isOrdinary then (goOn false).after [p.troubled "pool_probe_failed" s f]
    else .ends p (.error f)

/-- Go on when a connection has been closed; a connection that failed to close is gone too. -/
def closed (p : Pool) (s : Slot) (reason : RetireReason) (next : Closing)
    (r : Except Failure Unit) : Stretch :=
  let p := { p with live := p.live - 1 }.callAll
  let goOn : Stretch :=
    match next with
    | .visit v => .asks p (.pausing (.visit v))
    | .returned => .ends p (.ok none)
    | .retired rest others => p.retireNext others rest
    | .stale rest alive => p.testNext alive rest
    | .late rest => p.closeLate rest
    | .surplus => .ends p (.ok none)
    | .shutdown rest first => p.shutNext first rest
  match r with
  | .ok () => goOn.after (p.reportClosed s reason)
  | .error f =>
    if f.isOrdinary then
      goOn.after (p.troubled "pool_close_connection_failed" s f :: p.reportClosed s reason)
    else .ends p (.error f)

/-- Go on after sleep, or fail where sleep is not possible. -/
def roused (p : Pool) (caller : Nat) (now : Seconds) (use : Sleeping) (r : Except Failure Unit) :
    Stretch :=
  let p := p.wakeUp caller
  match use with
  | .visit v =>
    let p := { p with waiting := p.waiting - 1 }
    match r with
    | .ok () => p.seek caller now v
    | .error f => .ends p (.error f)
  | .shutdown deadline =>
    match r with
    | .ok () => p.awaitReturns caller now deadline
    | .error f => .ends p (.error f)

/-- Go on after a pause. -/
def resumed (p : Pool) (caller : Nat) (now : Seconds) (use : Pausing) : Stretch :=
  match use with
  | .discard s reason v => p.discard s reason v
  | .visit v => p.seek caller now v
  | .tests alive => p.finishTests alive
  | .fill => p.fillUp

/-- Go on with the reply to what was needed. -/
def proceed (p : Pool) (caller : Nat) (now : Seconds) : (q : Pending) → q.Reply → Stretch
  | .opening use, r => p.opened now use r
  | .testing slot use, r => p.tested now slot use r
  | .closing slot reason next, r => p.closed slot reason next r
  | .sleeping _ use, r => p.roused caller now use r
  | .pausing use, () => p.resumed caller now use

end Pool

end SqlGateway
