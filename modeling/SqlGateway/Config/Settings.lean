import SqlGateway.Config.Database
set_option autoImplicit false

/-!
# Configuration: settings

Settings give the configurations of a database and of a pool, which check them further.
-/

namespace SqlGateway

/-- Where a process is configured from. -/
structure Settings where
  databaseUrl : String := "sqlite://:memory:"
  connectTimeout : Binary64 := .ofQuotient false 10 1
  poolMaxSize : Int := 10
  poolMinIdle : Int := 0
  poolIdleTimeout : Option Binary64 := some (.ofQuotient false 600 1)
  poolMaxLifetime : Option Binary64 := some (.ofQuotient false 1800 1)
  poolCheckoutTimeout : Binary64 := .ofQuotient false 30 1
  poolSweepInterval : Option Binary64 := none
  poolValidateOnCheckout : Bool := true
  logLevel : String := "INFO"
  logJson : Option Bool := none

namespace Settings

/-- What the names of environment variables begin with, in lower case. -/
def variablePrefix : String := "keel_"

/-- A time in seconds that may be left open. -/
def seconds : Option Binary64 → Native
  | some x => .float x
  | none => .null

/-- The database that the settings name. -/
def databaseConfig (s : Settings) : Except Failure DatabaseConfig :=
  DatabaseConfig.ofUrl (.text s.databaseUrl) [("connect_timeout", .float s.connectTimeout)]

/-- The fields of the pool that the settings describe. -/
def poolFields (s : Settings) : List (String × Native) :=
  [("max_size", .int s.poolMaxSize), ("min_idle", .int s.poolMinIdle),
    ("idle_timeout", seconds s.poolIdleTimeout), ("max_lifetime", seconds s.poolMaxLifetime),
    ("connect_timeout", .float s.connectTimeout),
    ("checkout_timeout", .float s.poolCheckoutTimeout),
    ("sweep_interval", seconds s.poolSweepInterval),
    ("validate_on_checkout", .bool s.poolValidateOnCheckout)]

end Settings

end SqlGateway
