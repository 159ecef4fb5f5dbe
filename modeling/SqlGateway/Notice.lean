import SqlGateway.Value.Basic
set_option autoImplicit false

/-!
# Notices

Components report what they do: events for the subscribers of telemetry, and
entries for the log.  A component returns its notices in the order in which it
gives them; who runs it passes them on.
-/

namespace SqlGateway

/-- The levels of log entries. -/
inductive LogLevel where
  | debug | info | warning | error
  deriving DecidableEq, Repr

def LogLevel.name : LogLevel → String
  | .debug => "debug"
  | .info => "info"
  | .warning => "warning"
  | .error => "error"

/-- One report of a component. -/
inductive Notice where
  /-- An event, by name, and its attributes. -/
  | event (name : String) (attributes : List (String × Native))
  /-- An entry of the log, by its message, and its fields. -/
  | log (level : LogLevel) (message : String) (fields : List (String × Native))
  deriving Repr

end SqlGateway
