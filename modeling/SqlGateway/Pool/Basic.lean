import SqlGateway.Config.Pool
import SqlGateway.Failure
import SqlGateway.Notice
import SqlGateway.Time.Seconds
set_option autoImplicit false

/-!
# Pool: the state

A pool holds connections that rest, and counts those that live and those that are
in use.  A connection that lives is at one place: it rests, or a caller has it, or
an operation in progress owns it.  Callers that wait stand in a queue until they
are called; a caller that has been called stays noted until it goes on.
-/

namespace SqlGateway

/-- A connection of the pool: the number its provider gave it, and its own. -/
structure Slot where
  raw : Nat
  id : Nat
  createdAt : Seconds
  lastUsed : Seconds
  deriving DecidableEq, Repr

/-- Why a connection is closed. -/
inductive RetireReason where
  | maxLifetime | idleTimeout | validationFailed | stale | unhealthy | poolClosed
  deriving DecidableEq, Repr

def RetireReason.name : RetireReason → String
  | .maxLifetime => "max_lifetime"
  | .idleTimeout => "idle_timeout"
  | .validationFailed => "validation_failed"
  | .stale => "stale"
  | .unhealthy => "unhealthy"
  | .poolClosed => "pool_closed"

/-- A bounded set of connections. -/
structure Pool where
  config : PoolConfig
  name : String := "default"
  /-- Connections at rest; the one that was returned last is at the end. -/
  idle : List Slot := []
  /-- Connections that live, those that are being opened or closed among them. -/
  live : Int := 0
  /-- Connections that callers have, those that are being opened or tested for one among
  them. -/
  inUse : Int := 0
  /-- Callers that wait for a connection. -/
  waiting : Int := 0
  /-- The pool is closed or closing. -/
  closing : Bool := false
  /-- The number of the next connection. -/
  nextId : Nat := 1
  /-- Operations that sleep and have not been called, in order. -/
  sleepers : List Nat := []
  /-- Operations that have been called and have not gone on yet. -/
  woken : List Nat := []

/-- Counters of a pool at one moment. -/
structure PoolStats where
  size : Int
  idle : Nat
  inUse : Int
  waiting : Int
  maxSize : Nat
  minIdle : Nat
  closed : Bool
  deriving DecidableEq, Repr

namespace PoolStats

def healthy (s : PoolStats) : Bool := !s.closed

/-- The counters by name. -/
def toFields (s : PoolStats) : List (String × Native) :=
  [("size", .int s.size), ("idle", .int s.idle), ("in_use", .int s.inUse),
    ("waiting", .int s.waiting), ("max_size", .int s.maxSize), ("min_idle", .int s.minIdle),
    ("healthy", .bool s.healthy)]

end PoolStats

namespace Pool

def stats (p : Pool) : PoolStats where
  size := p.live
  idle := p.idle.length
  inUse := p.inUse
  waiting := p.waiting
  maxSize := p.config.maxSize
  minIdle := p.config.minIdle
  closed := p.closing

/-- The pool in one line. -/
def shown (p : Pool) : String :=
  "ConnectionPool(name=" ++ Text.quoted p.name ++ ", max_size=" ++ toString p.config.maxSize ++ ")"

/-! ## Calling those that sleep -/

/-- Call the first `count` sleepers. -/
def call (p : Pool) (count : Nat) : Pool :=
  { p with sleepers := p.sleepers.drop count, woken := p.woken ++ p.sleepers.take count }

/-- Call every sleeper. -/
def callAll (p : Pool) : Pool := { p with sleepers := [], woken := p.woken ++ p.sleepers }

/-- An operation goes to sleep. -/
def fallAsleep (p : Pool) (caller : Nat) : Pool := { p with sleepers := p.sleepers ++ [caller] }

/-- An operation goes on, called or not. -/
def wakeUp (p : Pool) (caller : Nat) : Pool :=
  { p with sleepers := p.sleepers.erase caller, woken := p.woken.erase caller }

/-! ## The age of connections -/

/-- A connection has reached an age, if there is a limit. -/
def reached (limit : Option Seconds) (age : Seconds) : Bool :=
  match limit with
  | some l => decide (l ≤ age)
  | none => false

/-- A connection has rested for too long. -/
def restedOut (c : PoolConfig) (s : Slot) (now : Seconds) : Bool :=
  reached c.restLimit (now - s.lastUsed)

/-- A connection has lived for too long. -/
def livedOut (c : PoolConfig) (s : Slot) (now : Seconds) : Bool :=
  reached c.lifeLimit (now - s.createdAt)

/-- Why a resting connection may not be handed out. -/
def refusal? (c : PoolConfig) (s : Slot) (now : Seconds) : Option RetireReason :=
  if livedOut c s now then some .maxLifetime
  else if restedOut c s now then some .idleTimeout
  else none

/-- Connections to retire at a sweep, and those to keep, from the coldest on.  A connection
that has only rested for too long goes while more than the least number live. -/
def triage (c : PoolConfig) (now : Seconds) : Int → List Slot →
    List (Slot × RetireReason) × List Slot
  | _, [] => ([], [])
  | remaining, s :: rest =>
    let reason :=
      if livedOut c s now then some RetireReason.maxLifetime
      else if restedOut c s now && decide ((c.minIdle : Int) < remaining) then some .idleTimeout
      else none
    match reason with
    | some r =>
      let (retired, kept) := triage c now (remaining - 1) rest
      ((s, r) :: retired, kept)
    | none =>
      let (retired, kept) := triage c now remaining rest
      (retired, s :: kept)

end Pool

end SqlGateway
