import SqlGateway.Logging.Record
set_option autoImplicit false

/-!
# Logging: what comes from the logging library

The program does not write its records itself.  A logging library begins them, lets them
through or drops them, adds what it knows of a call, and keeps the fields that are bound to
later calls.  The library is a parameter here: what the program does is the order of the
steps, with its own ones last.
-/

namespace SqlGateway.Logging

/-- What a step is told of a call besides the record. -/
structure Occasion where
  now : String
  /-- Where in the program the call is made. -/
  stack : String := ""
  /-- The name of the operation: `info`, `exception` and so on. -/
  operation : String
  logger : String
  deriving Repr

/-- What the program takes from the logging library. -/
structure Library where
  /-- Whether a call of an operation is let through where records below a rank are dropped. -/
  admits : (threshold : Nat) → (operation : String) → Bool
  /-- The record that a call begins with, from its event and its fields. -/
  compose : (event : String) → Record → Record
  /-- Add the time. -/
  stamp : Occasion → Record → Record
  /-- Take up the fields of a bound context. -/
  mergeContext : (context : Record) → Record → Record
  /-- Add the level. -/
  addLevel : Occasion → Record → Record
  /-- Add the name of the logger. -/
  addLogger : Occasion → Record → Record
  /-- Add the stack, if the record asks for it. -/
  renderStack : Occasion → Record → Record
  /-- Ask for the exception, if the operation reports one. -/
  setException : Occasion → Record → Record
  /-- What is bound once fields are bound, -/
  bind : (fields : Record) → (context : Record) → Record
  /-- once names are unbound, -/
  unbind : (keys : List String) → (context : Record) → Record
  /-- and once all names are. -/
  clear : (context : Record) → Record

namespace Library

variable (lib : Library)

/-- A record as it stands when the program's own steps begin. -/
def gathered (config : Config) (context : Record) (o : Occasion) (event : String)
    (fields : Record) : Record :=
  let own := lib.compose event fields
  let timed := if config.stamped then lib.stamp o own else own
  let merged := lib.mergeContext context timed
  let named := lib.addLogger o (lib.addLevel o merged)
  lib.setException o (lib.renderStack o named)

/-- The record of a call as the renderer receives it, if it is let through. -/
def process (config : Config) (context : Record) (o : Occasion) (event : String)
    (fields : Record) : Option Record :=
  if lib.admits config.threshold o.operation then
    let masked := redact (withService config.service (lib.gathered config context o event fields))
    some (if config.asJson then aggregationNames masked else masked)
  else none

end Library

end SqlGateway.Logging
