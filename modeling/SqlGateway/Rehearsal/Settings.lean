import SqlGateway.Config.Settings
import SqlGateway.Rehearsal.PoolFields
import SqlGateway.Rehearsal.VariableFile
set_option autoImplicit false

/-!
# Rehearsal: settings from their sources

A stand-in for the library that reads settings.  They come from arguments, from the
environment and from a variable file, in this order of precedence; names in the latter
two are read in any case.
-/

namespace SqlGateway.Settings

def fieldNames : List String :=
  ["database_url", "connect_timeout", "pool_max_size", "pool_min_idle", "pool_idle_timeout",
    "pool_max_lifetime", "pool_checkout_timeout", "pool_sweep_interval",
    "pool_validate_on_checkout", "log_level", "log_json"]

/-- Variables under names in lower case; the last of equal names counts. -/
def lowered {α : Type} (entries : List (String × α)) : List (String × α) :=
  entries.foldl (fun es v => putEntry es (Text.toLower v.1) v.2) []

/-- The fields as the sources give them, the first source first. -/
def gather (arguments : List (String × Native)) (environment : List (String × String))
    (file : String) : List (String × Native) :=
  let fromEnvironment := lowered environment
  let fromFile := lowered (Dotenv.load environment file)
  fieldNames.filterMap fun name =>
    let variable_ := variablePrefix ++ name
    let argument := (arguments.find? fun f => f.1 == name).map Prod.snd
    let outer := (fromEnvironment.find? fun f => f.1 == variable_).map fun f => Native.text f.2
    let inner := (fromFile.find? fun f => f.1 == variable_).bind fun f => f.2.map Native.text
    (argument.or (outer.or inner)).map fun n => (name, n)

/-- Settings from their fields; everything that is wrong is reported. -/
def ofFields (fields : List (String × Native)) : Except Failure Settings :=
  let d : Settings := {}
  let optionalFloat := Field.orNothing Field.asFloat
  let url := Checked.read fields "database_url" d.databaseUrl Field.asText
  let connect := Checked.read fields "connect_timeout" d.connectTimeout Field.asFloat
  let size := Checked.read fields "pool_max_size" d.poolMaxSize Field.asInt
  let idle := Checked.read fields "pool_min_idle" d.poolMinIdle Field.asInt
  let idleTime := Checked.read fields "pool_idle_timeout" d.poolIdleTimeout optionalFloat
  let lifetime := Checked.read fields "pool_max_lifetime" d.poolMaxLifetime optionalFloat
  let checkout := Checked.read fields "pool_checkout_timeout" d.poolCheckoutTimeout Field.asFloat
  let interval := Checked.read fields "pool_sweep_interval" d.poolSweepInterval optionalFloat
  let validate := Checked.read fields "pool_validate_on_checkout" d.poolValidateOnCheckout
    Field.asBool
  let level := Checked.read fields "log_level" d.logLevel Field.asText
  let json := Checked.read fields "log_json" d.logJson (Field.orNothing Field.asBool)
  let issues := url.issues ++ connect.issues ++ size.issues ++ idle.issues ++ idleTime.issues ++
    lifetime.issues ++ checkout.issues ++ interval.issues ++ validate.issues ++ level.issues ++
    json.issues
  let settings : Option Settings := do
    let databaseUrl ← url.value
    let connectTimeout ← connect.value
    let poolMaxSize ← size.value
    let poolMinIdle ← idle.value
    let poolIdleTimeout ← idleTime.value
    let poolMaxLifetime ← lifetime.value
    let poolCheckoutTimeout ← checkout.value
    let poolSweepInterval ← interval.value
    let poolValidateOnCheckout ← validate.value
    let logLevel ← level.value
    let logJson ← json.value
    return { databaseUrl, connectTimeout, poolMaxSize, poolMinIdle, poolIdleTimeout,
             poolMaxLifetime, poolCheckoutTimeout, poolSweepInterval, poolValidateOnCheckout,
             logLevel, logJson }
  match issues, settings with
  | [], some s => .ok s
  | issues, _ => .error (.settings issues)

/-- Settings from all sources. -/
def load (arguments : List (String × Native)) (environment : List (String × String))
    (file : String) : Except Failure Settings :=
  ofFields (gather arguments environment file)

/-- The fields as they are. -/
def toFields (s : Settings) : List (String × Native) :=
  [("database_url", .text s.databaseUrl), ("connect_timeout", .float s.connectTimeout),
    ("pool_max_size", .int s.poolMaxSize), ("pool_min_idle", .int s.poolMinIdle),
    ("pool_idle_timeout", seconds s.poolIdleTimeout),
    ("pool_max_lifetime", seconds s.poolMaxLifetime),
    ("pool_checkout_timeout", .float s.poolCheckoutTimeout),
    ("pool_sweep_interval", seconds s.poolSweepInterval),
    ("pool_validate_on_checkout", .bool s.poolValidateOnCheckout),
    ("log_level", .text s.logLevel),
    ("log_json", match s.logJson with | some b => .bool b | none => .null)]

/-- The pool that the settings describe. -/
def poolConfig (s : Settings) : Except Failure PoolConfig := PoolConfig.ofFields s.poolFields

/-- The settings of a process, once they have been loaded. -/
abbrev Cache := Option Settings

/-- The cached settings, or those of the sources, which are cached from then on. -/
def cached (cache : Cache) (environment : List (String × String)) (file : String) :
    Except Failure Settings × Cache :=
  match cache with
  | some s => (.ok s, cache)
  | none =>
    match load [] environment file with
    | .ok s => (.ok s, some s)
    | .error f => (.error f, none)

end SqlGateway.Settings
