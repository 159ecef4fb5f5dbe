import SqlGateway.Number.Binary64
set_option autoImplicit false

/-!
# Configuration: the pool

How many connections to keep and for how long, in seconds.  A configuration that
exists is consistent: there is room for at least one connection, and no more are
kept idle than there is room for.
-/

namespace SqlGateway

/-- Sizes and lifetimes of a pool. -/
structure PoolConfig where
  maxSize : Nat := 10
  minIdle : Nat := 0
  /-- Idle connections older than this are closed. -/
  idleTimeout : Option Binary64 := some (.ofQuotient false 600 1)
  /-- Connections older than this are closed. -/
  maxLifetime : Option Binary64 := some (.ofQuotient false 1800 1)
  connectTimeout : Binary64 := .ofQuotient false 10 1
  /-- How long a caller waits who names no time. -/
  checkoutTimeout : Binary64 := .ofQuotient false 30 1
  /-- The period of the background sweep; none without it. -/
  sweepInterval : Option Binary64 := none
  /-- Idle connections are probed before they are handed out. -/
  validateOnCheckout : Bool := true
  room : 0 < maxSize := by decide
  fits : minIdle ≤ maxSize := by decide

namespace PoolConfig

/-- The configuration of a pool that nothing is said about. -/
def standard : PoolConfig := {}

/-- A size of nothing is a size of one. -/
def normalSize (n : Nat) : Nat := max n 1

/-- What is wrong with more idle connections than a pool has room for. -/
def crowdedMessage (idle size : Nat) : String :=
  "min_idle (" ++ toString idle ++ ") cannot exceed max_size (" ++ toString size ++ ")"

/-- How long a connection may rest; without a number, for ever. -/
def restLimit (c : PoolConfig) : Option Rat := c.idleTimeout.bind Binary64.toRat?

/-- How long a connection may live. -/
def lifeLimit (c : PoolConfig) : Option Rat := c.maxLifetime.bind Binary64.toRat?

/-- How long a caller waits who names no time. -/
def patience (c : PoolConfig) : Option Rat := c.checkoutTimeout.toRat?

/-- The period of the background sweep. -/
def sweepPeriod (c : PoolConfig) : Option Rat := c.sweepInterval.bind Binary64.toRat?

end PoolConfig

end SqlGateway
