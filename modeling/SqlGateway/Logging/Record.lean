import SqlGateway.Failure
import SqlGateway.Logging.Json
import SqlGateway.Text.Case
set_option autoImplicit false

/-!
# Logging: records and their way to a line

A record is an ordered dictionary of fields.  The program's own steps name the service
in it, mask the fields that may hold application data and give time and level the names
that log aggregation expects.
-/

namespace SqlGateway

namespace Logging

/-- The fields of a record. -/
abbrev Record := List (String × Native)

/-- Keys of fields that may hold application data. -/
def redactedKeys : List String := ["binds", "params", "values", "parameters"]

/-- Put a mask in the place of application data. -/
def redact (r : Record) : Record :=
  r.map fun f => if redactedKeys.contains f.1 then (f.1, .text "<redacted>") else f

/-- Move a field to another name. -/
def rename (old new : String) (r : Record) : Record :=
  match r.find? fun f => f.1 == old with
  | some (_, v) => putEntry (r.filter fun f => f.1 != old) new v
  | none => r

/-- The names that log aggregation expects for time and level. -/
def aggregationNames (r : Record) : Record :=
  rename "level" "log.level" (rename "timestamp" "@timestamp" r)

/-- Name the service, unless the record names one. -/
def withService (service : String) (r : Record) : Record :=
  if r.any fun f => f.1 == "service.name" then r
  else r ++ [("service.name", .text service)]

/-! ## Levels -/

/-- The rank of a level's name in configuration; `none` for a name that is no level. -/
def rankOf? (level : String) : Option Nat :=
  match Text.toUpper level with
  | "CRITICAL" | "FATAL" => some 50
  | "ERROR" => some 40
  | "WARNING" | "WARN" => some 30
  | "INFO" => some 20
  | "DEBUG" => some 10
  | "NOTSET" => some 0
  | _ => none

/-! ## Configuration -/

/-- How records are written. -/
structure Config where
  /-- Records below this rank are dropped. -/
  threshold : Nat
  /-- As JSON lines, or for a console. -/
  asJson : Bool
  service : String
  /-- The time of a record is written. -/
  stamped : Bool
  deriving Repr

/-- A configuration by the name of its level. -/
def configure (level : String) (asJson : Bool) (service : String) (stamped : Bool) :
    Except Failure Config :=
  match rankOf? level with
  | some threshold => .ok { threshold, asJson, service, stamped }
  | none =>
    .error (.primitive .attribute
      ("module 'logging' has no attribute " ++ Text.quoted (Text.toUpper level)))

/-- A record as a JSON line. -/
def line (r : Record) : String := json (.dict r)

end Logging

end SqlGateway
