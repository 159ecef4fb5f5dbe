import SqlGateway.Logging.Context
set_option autoImplicit false

/-!
# Rehearsal: the logging library

A stand-in for the logging library.  Its steps write their fields over what is there, in a
fixed order; a stack is never shown, and of the console it tells how many lines a record
takes there.
-/

namespace SqlGateway.Logging

/-- The levels a logger writes at, by the name of the operation: its rank and the level's name
in the record. -/
def operationLevel? (operation : String) : Option (Nat × String) :=
  match operation with
  | "debug" => some (10, "debug")
  | "info" => some (20, "info")
  | "warning" | "warn" => some (30, "warning")
  | "error" => some (40, "error")
  | "exception" => some (40, "error")
  | "critical" | "fatal" => some (50, "critical")
  | _ => none

/-- Write one field over what is there. -/
def put (key : String) (v : Native) (r : Record) : Record := putEntry r key v

/-- Fields over a context: the fields win. -/
def merge (context fields : Record) : Record :=
  fields.foldl (fun r f => putEntry r f.1 f.2) context

/-- The name of a logger; one without a name is the root of all. -/
def loggerName (name : String) : String := if name.isEmpty then "root" else name

/-- The stand-in. -/
def rehearsed : Library where
  admits threshold operation :=
    match operationLevel? operation with
    | some (rank, _) => decide (threshold ≤ rank)
    | none => false
  compose event fields := put "event" (.text event) fields
  stamp o := put "timestamp" (.text o.now)
  mergeContext := merge
  addLevel o := put "level" (.text (((operationLevel? o.operation).map Prod.snd).getD ""))
  addLogger o := put "logger" (.text (loggerName o.logger))
  renderStack _ r := r.filter fun f => f.1 != "stack_info"
  setException o r := if o.operation == "exception" then put "exc_info" (.bool true) r else r
  bind fields context := merge context fields
  unbind keys context := context.filter fun f => !keys.contains f.1
  clear _ := []

/-- The record of a call as the renderer receives it, or nothing below the threshold. -/
def process (config : Config) (context : Record) (now operation logger event : String)
    (fields : Record) : Option Record :=
  rehearsed.process config context { now, operation, logger } event fields

/-- How many lines a record takes on a console: one, and one more for each line break in its
texts. -/
def consoleLines (r : Record) : Nat :=
  r.foldl (fun n f =>
    match f.2 with
    | .text s => n + s.toList.count '\n'
    | _ => n) 1

namespace Context

def bind (c : Context) (fields : Record) : Context := rehearsed.bindContext c fields

def unbind (c : Context) (keys : List String) : Context := rehearsed.unbindContext c keys

def clear (c : Context) : Context := rehearsed.clearContext c

def enter (c : Context) (fields : Record) : Context := rehearsed.enter c fields

def exit (c : Context) : Context := rehearsed.exit c

end Context

end SqlGateway.Logging
