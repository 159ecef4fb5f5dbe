import SqlGateway.Driver.Basic
set_option autoImplicit false

/-!
# Drivers: by engine tag

A registry says which driver serves which engine.  Drivers are registered by tag in
any case; a configuration is served by the driver under the tag of its engine.
-/

namespace SqlGateway

/-- A kind of driver that can be made for any configuration. -/
structure DriverMaker where
  dialer : Dialer
  title : String
  deriving DecidableEq, Repr

namespace DriverMaker

/-- The maker of a kind of driver under its own name. -/
def standard (d : Dialer) : DriverMaker := ⟨d, d.title⟩

def make (m : DriverMaker) (config : DatabaseConfig) (memoryTag : String) : Driver :=
  { dialer := m.dialer, title := m.title, config, memoryTag }

end DriverMaker

/-- Makers of drivers by tag. -/
structure DriverRegistry where
  entries : List (String × DriverMaker) :=
    [("sqlite", .standard .sqlite), ("mysql", .standard .mysql),
      ("postgresql", .standard .postgresql)]

namespace DriverRegistry

/-- Put a maker under a tag, in lower case. -/
def register (r : DriverRegistry) (tag : String) (m : DriverMaker) : DriverRegistry :=
  { r with entries := putEntry r.entries (Text.toLower tag) m }

/-- The driver for a configuration. -/
def create (r : DriverRegistry) (config : DatabaseConfig) (memoryTag : String) :
    Except Failure Driver :=
  match r.entries.find? fun e => e.1 == config.engine.tag with
  | some (_, m) => .ok (m.make config memoryTag)
  | none => .error (.make .config ("Unknown database driver: " ++ config.engine.tag))

/-- The tags in order. -/
def tags (r : DriverRegistry) : List String := DialectRegistry.sorted (r.entries.map Prod.fst)

end DriverRegistry

end SqlGateway
