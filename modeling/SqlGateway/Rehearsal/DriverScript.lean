import SqlGateway.Driver.Registry
import SqlGateway.Interchange.Results
import SqlGateway.Rehearsal.Database
set_option autoImplicit false

/-!
# Rehearsal: a driver on its own

A driver is made from a URL or from the arguments of its kind, and then connects to a
scripted database.
-/

namespace SqlGateway.Rehearsal

open Interchange

/-- What tells shared memory apart: in a rehearsal there is only one. -/
def memoryTag : String := "*"

/-! ## Making a driver -/

/-- The arguments of a kind of driver as the fields of a configuration: what is not a field
is an option. -/
def fieldsOf (engine : Engine) (arguments : List (String × Native)) : List (String × Native) :=
  let argument (name : String) (default : Native) : Native :=
    ((arguments.find? fun a => a.1 == name).map Prod.snd).getD default
  let others (names : List String) : List (String × Native) :=
    arguments.filter fun a => !names.contains a.1
  let server (port : Int) : List (String × Native) :=
    [("host", argument "host" (.text "localhost")), ("port", argument "port" (.int port)),
      ("database", argument "database" (.text "")), ("username", argument "username" .null),
      ("password", argument "password" .null)]
  let serverNames := ["host", "port", "database", "username", "password"]
  ("db_type", .text engine.tag) :: match engine with
    | .sqlite => [("path", argument "path" .null), ("options", .dict (others ["path"]))]
    | .mysql =>
      server 3306 ++ [("options", .dict (others ("charset" :: serverNames) ++
        [("charset", argument "charset" (.text "utf8mb4"))]))]
    | .postgresql => server 5432 ++ [("options", .dict (others serverNames))]

/-- The driver that a script names. -/
def readDriver (d : Document) : Attempt Driver := do
  let driver ← match d.text? "class" with
    | some name =>
      match Engine.ofTag? name with
      | some engine =>
        let config ← DatabaseConfig.ofFields (fieldsOf engine (← fieldsAt d "kwargs"))
        ({} : DriverRegistry).create config memoryTag
      | none => malformed name
    | none =>
      let config ← DatabaseConfig.ofUrl (.text (d.textAt "url")) (← fieldsAt d "overrides")
      ({} : DriverRegistry).create config memoryTag
  return if d.flagAt "plain" then { driver with dialer := .plain, title := "PlainDriver" }
    else driver

/-! ## Steps -/

/-- A driver at work in a rehearsal. -/
def rehearsedLine (driver : Driver) (installed : Bool) : Line (World ScriptedDatabase) where
  driver
  client := scriptedClient installed
  tell n := tell n

/-- Connections by the names that the script gives them. -/
abbrev Names := List (String × Nat)

def describeDriver (d : Driver) : Document :=
  .object [("name", .text d.name), ("dialect", .text d.dialect.name),
    ("db_type", .text d.config.engine.tag), ("repr", .text d.shown),
    ("port", writeNative d.config.port), ("options", writeFields d.config.options)]

/-- A step on a connection. -/
def connectionStep (l : Line (World ScriptedDatabase)) (n : Nat) (d : Document) :
    StageTask Document := do
  let done (t : StageTask Unit) : StageTask Document := do t; return .null
  match d.textAt "do" with
  | "execute" =>
    let params ← Task.ofExcept (nativesAt d "params")
    return writeDriverResult (← l.execute n (d.textAt "sql") params)
  | "begin" => done (l.begin n)
  | "commit" => done (l.commit n)
  | "rollback" => done (l.rollback n)
  | "ping" | "is_alive" => return .bool (← l.ping n)
  | "interrupt" => return .bool (← l.interrupt n)
  | "close" => done (l.close n)
  | "set" => ExceptT.mk (setSession n (d.field "fields"))
  | other => Task.ofExcept (malformed other)

/-- A step of a driver's script. -/
def driverStep (l : Line (World ScriptedDatabase)) (names : Names) (d : Document) :
    StageTask (Names × Document) := do
  match d.textAt "do" with
  | "about" => return (names, describeDriver l.driver)
  | "connect" | "open" =>
    let n ← l.connect
    return (putEntry names (d.textAt "as") n, .integer n)
  | "translate" =>
    let f ← Task.ofExcept (readInjected (d.field "error"))
    let worded ← Task.ofExcept (l.driver.translate l.client.installed f)
    return (names, writeFailure worded)
  | _ =>
    match names.find? fun e => e.1 == d.textAt "conn" with
    | none => throw unbound
    | some (_, n) => return (names, ← connectionStep l n d)

/-- Take the steps of a driver's script and report each. -/
def reportDriver (l : Line (World ScriptedDatabase)) :
    Names → List Document → Stage (List Document)
  | _, [] => return []
  | names, d :: rest => do
    let r ← (driverStep l names d).run
    let names := match r with
      | .ok (names, _) => names
      | .error _ => names
    let w ← get
    set { w with calls := [], logs := [] }
    let report := Document.object (("r", writeAttempt (r.map Prod.snd)) ::
      (Document.unlessEmpty "calls" w.calls ++
        Document.unlessEmpty "logs" (shownLogs w)))
    return report :: (← reportDriver l names rest)

/-- Rehearse a script of a driver. -/
def rehearseDriver (d : Document) : Attempt Document := do
  let driver ← readDriver d
  let standIn ← readDatabase d
  let world : World ScriptedDatabase := { desk := { pool := { config := .standard } }, standIn }
  let l := rehearsedLine driver standIn.installed
  return .list ((reportDriver l [] (d.itemsAt "ops")).run world).1

/-! ## The registry -/

/-- A registry without what stands under a tag.  A registry does not offer this: a script reaches
into its entries. -/
def withoutEntry (r : DriverRegistry) (tag : String) : DriverRegistry :=
  { r with entries := r.entries.filter fun e => e.1 != tag }

/-- A step on a registry of drivers. -/
def registryStep (r : DriverRegistry) (op : Document) : DriverRegistry × Attempt Document :=
  match op.asItems.map Document.asText with
  | ["register", tag, title] => (r.register tag ⟨.sqlite, title⟩, .ok .null)
  | ["create", url] =>
    let driver := do
      let config ← DatabaseConfig.ofUrl (.text url) []
      r.create config memoryTag
    (r, driver.map fun d => .text d.title)
  | ["remove", tag] => (withoutEntry r tag, .ok .null)
  | ["list"] => (r, .ok (.texts r.tags))
  | _ => (r, malformed "registry")

/-- Rehearse a script of a registry. -/
def rehearseRegistry (d : Document) : Attempt Document :=
  let (_, answers) := (d.itemsAt "ops").foldl (fun (state : DriverRegistry × List Document) op =>
    let (r, answer) := registryStep state.1 op
    (r, state.2 ++ [writeAttempt answer])) ({}, [])
  .ok (.list answers)

end SqlGateway.Rehearsal
