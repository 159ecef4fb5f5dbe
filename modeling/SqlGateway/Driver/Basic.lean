import SqlGateway.Config.Database
import SqlGateway.Driver.Client
import SqlGateway.Notice
import SqlGateway.Value.Whole
set_option autoImplicit false

/-!
# Drivers

A driver knows how to connect to one engine, how to run a statement, how to find out
whether a connection lives, how to break a statement off, and how to word the
engine's errors.  Connections commit every statement by themselves; transactions are
opened and closed by statements.
-/

namespace SqlGateway

/-- What a statement produced. -/
structure DriverResult where
  /-- The columns of the result; none for a statement without one. -/
  columns : List String := []
  rows : List (List Native) := []
  /-- Rows that were changed or returned; `-1` when it is not known. -/
  rowcount : Int := -1
  /-- The generated key of the last new row, when it is reported. -/
  lastRowId : Option Int := none
  deriving Repr, Inhabited

/-- The statement had a result. -/
def DriverResult.hasRows (r : DriverResult) : Bool := !r.columns.isEmpty

/-- How to speak to an engine; a plain driver knows no engine in particular. -/
inductive Dialer where
  | plain | sqlite | mysql | postgresql
  deriving DecidableEq, Repr

namespace Dialer

def name : Dialer → String
  | .plain => "generic"
  | .sqlite => "sqlite"
  | .mysql => "mysql"
  | .postgresql => "postgresql"

/-- The name of a driver of this kind that has no name of its own. -/
def title : Dialer → String
  | .plain => "Driver"
  | .sqlite => "SQLiteDriver"
  | .mysql => "MySQLDriver"
  | .postgresql => "PostgreSQLDriver"

/-- The engine's name in failures to connect. -/
def brand : Dialer → String
  | .plain => "database"
  | .sqlite => "SQLite"
  | .mysql => "MySQL"
  | .postgresql => "PostgreSQL"

/-- What is said where the client library is missing; one library is always there. -/
def missingLibrary? : Dialer → Option String
  | .plain | .sqlite => none
  | .mysql =>
    some ("mysql-connector-python is required for MySQL. " ++
      "Install with: pip install mysql-connector-python")
  | .postgresql =>
    some ("psycopg2 is required for PostgreSQL. Install with: pip install psycopg2-binary")

end Dialer

/-- A driver: how it speaks to its engine, its name, and where it connects to. -/
structure Driver where
  dialer : Dialer
  title : String
  config : DatabaseConfig
  /-- What tells the memory of this driver's connections from that of others. -/
  memoryTag : String
  deriving Repr

namespace Driver

def name (d : Driver) : String := d.dialer.name

def dialect (d : Driver) : Dialect := d.config.engine.dialect

/-- The driver in one line. -/
def shown (d : Driver) : String := d.title ++ "(" ++ Text.quoted (d.config.toUrl true) ++ ")"

/-! ## Errors -/

/-- The failure where the client library is missing. -/
def missingLibrary (d : Driver) (installed : Bool) : Option Failure :=
  if installed then none else d.dialer.missingLibrary?.map fun m => .make .config m

/-- The engine's own state of an error. -/
def stateOf : Failure → Native
  | .foreign e => e.sqlstate
  | .fault (.driver _ state) _ _ _ | .fault (.integrity _ state) _ _ _ => state
  | _ => .null

/-- The engine's own number of a client error. -/
def codeOf : Failure → Native
  | .foreign e => e.code
  | _ => .null

/-- A violated constraint, as the client library reports it. -/
def isViolation : Failure → Bool
  | .foreign e => e.kind == .clientIntegrity
  | _ => false

/-- The code and the state that a driver takes from an error. -/
def facts (d : Dialer) (f : Failure) : Native × Native :=
  match d with
  | .plain => (.null, .null)
  | .sqlite => (codeOf f, .null)
  | .mysql => (codeOf f, stateOf f)
  | .postgresql => (codeOf f, codeOf f)

/-- An error in the words of the driver. -/
def worded (d : Driver) (f : Failure) : Failure :=
  let (code, state) := facts d.dialer f
  let kind : FaultKind :=
    if d.dialer != .plain && isViolation f then .integrity code state else .driver code state
  (Failure.make kind (d.name ++ ": " ++ f.text) (some f)).withContext "engine" (.text d.name)

/-- Word an error; the client library is needed to tell errors apart. -/
def translate (d : Driver) (installed : Bool) (f : Failure) : Except Failure Failure :=
  match d.missingLibrary installed with
  | some missing => .error missing
  | none => .ok (d.worded f)

/-- A client library's error, of either kind. -/
def isClientError : Failure → Bool
  | .foreign e => e.isClient
  | _ => false

/-- The failure to connect. -/
def refused (d : Driver) (f : Failure) : Failure :=
  (Failure.make .connection ("Failed to connect to " ++ d.dialer.brand ++ ": " ++ f.text)
    (some f)).withContext "engine" (.text d.name)

/-- What leaves a statement that failed: client errors are worded, all others pass. -/
def surfaced (d : Driver) (installed : Bool) (f : Failure) : Failure :=
  if isClientError f then
    match d.translate installed f with
    | .ok f => f
    | .error f => f
  else f

/-! ## Connecting -/

/-- Memory that all connections of the driver share. -/
def sharedMemory (d : Driver) : String :=
  "file:keel-" ++ d.memoryTag ++ "?mode=memory&cache=shared"

/-- The file to open and whether it is given as a URI. -/
def file (d : Driver) : String × Bool :=
  match d.config.path with
  | none | some "" | some ":memory:" => (d.sharedMemory, true)
  | some path => (path, "file:".toList.isPrefixOf path.toList)

def nullable (s : Option String) : Native :=
  match s with
  | some s => .text s
  | none => .null

/-- Named arguments and further options, which may not repeat a name. -/
def withOptions (fixed options : List (String × Native)) :
    Except Failure (List (String × Native)) :=
  match options.find? fun o => fixed.any fun f => f.1 == o.1 with
  | some (key, _) =>
    .error (.primitive .type ("got multiple values for keyword argument " ++ Text.quoted key))
  | none => .ok (fixed ++ options)

/-- The arguments of a connection, by position and by name. -/
def arguments (d : Driver) : Except Failure (List Native × List (String × Native)) :=
  let c := d.config
  match d.dialer with
  | .plain => .ok ([], [])
  | .sqlite =>
    .ok ([.text d.file.1],
      [("timeout", c.connectTimeout), ("check_same_thread", .bool false),
        ("isolation_level", .null), ("uri", .bool d.file.2)])
  | .mysql => do
    let timeout ← c.connectTimeout.toWhole.mapError Breakdown.toFailure
    let names ← withOptions
      [("host", .text c.host), ("port", c.port), ("database", .text c.database),
        ("user", nullable c.username), ("password", nullable c.password),
        ("connection_timeout", .int timeout), ("autocommit", .bool true)]
      (c.options.foldl (fun es o => putEntry es o.1 o.2) [("charset", .text "utf8mb4")])
    return ([], names)
  | .postgresql => do
    let timeout ← c.connectTimeout.toWhole.mapError Breakdown.toFailure
    let names ← withOptions
      [("host", .text c.host), ("port", c.port), ("dbname", .text c.database),
        ("user", nullable c.username), ("password", nullable c.password),
        ("connect_timeout", .int timeout)]
      c.options
    return ([], names)

end Driver

/-- What a driver does for those who run statements.  Connections go by numbers.  A statement may
be watched: then an alarm is set, and if it goes off while the statement runs, something is done
about it, and that is told with the outcome. -/
structure DriverCalls (σ : Type) where
  begin : Nat → Task σ Unit
  commit : Nat → Task σ Unit
  rollback : Nat → Task σ Unit
  execute : Nat → String → List Native → Option Seconds → StateM σ Unit →
    StateM σ (Bool × Except Failure DriverResult)
  /-- Break the statement off that runs on a connection; false if there is no way to. -/
  interrupt : Nat → Task σ Bool

/-- A driver at work: the client library it calls, and where its notices go. -/
structure Line (σ : Type) where
  driver : Driver
  client : Client σ
  tell : Notice → StateM σ Unit

namespace Line

variable {σ : Type} (l : Line σ)

/-- Report from within an action that may fail. -/
def report (n : Notice) : Task σ Unit := liftM (l.tell n)

/-- Client errors of an action are failures to connect. -/
def connecting {α : Type} (action : Task σ α) : Task σ α :=
  tryCatch action fun f =>
    throw (if Driver.isClientError f then l.driver.refused f else f)

/-- What is done to a new connection, client errors being failures to connect. -/
def prepare (n : Nat) : Task σ Unit := do
  match l.driver.dialer with
  | .sqlite =>
    l.client.executeDirect n "PRAGMA foreign_keys = ON"
    if l.driver.config.readonly.holds then l.client.executeDirect n "PRAGMA query_only = ON"
  | _ => return

/-- What is done to a connection once it stands. -/
def settle (n : Nat) : Task σ Unit := do
  match l.driver.dialer with
  | .postgresql =>
    l.client.setAutocommit n true
    if l.driver.config.readonly.holds then l.client.setReadonly n
    l.client.registerUuid n
  | _ => return

/-- What is noted of a new connection. -/
def connectionFields : List (String × Native) :=
  let c := l.driver.config
  match l.driver.dialer with
  | .sqlite => [("engine", .text l.driver.name), ("path", .text l.driver.file.1)]
  | _ =>
    [("engine", .text l.driver.name), ("host", .text c.host), ("database", .text c.database)]

/-- Open a connection. -/
def connect : Task σ Nat := do
  match l.driver.missingLibrary l.client.installed with
  | some f => throw f
  | none =>
    match l.driver.dialer with
    | .plain => l.client.connect [] []
    | _ =>
      let (positional, named) ← Task.ofExcept l.driver.arguments
      let n ← l.connecting do
        let n ← l.client.connect positional named
        l.prepare n
        return n
      l.settle n
      l.report (.log .debug "driver_connected" l.connectionFields)
      return n

/-- Close a connection; a failure is only noted. -/
def close (n : Nat) : Task σ Unit :=
  tryCatch (l.client.close n) fun f =>
    if f.isOrdinary then
      l.report (.log .warning "driver_close_failed"
        [("engine", .text l.driver.name), ("error", .text f.text)])
    else throw f

/-! ## Statements -/

/-- The key that a cursor reports, where the engine reports one. -/
def lastRowId (r : Reply) : Option Int :=
  match l.driver.dialer, r.lastRowId with
  | .postgresql, _ => none
  | _, some 0 => none
  | _, id => id

/-- What a statement produced, from a cursor whose statement is over. -/
def collect (cursor : Nat) : Task σ DriverResult := do
  let r ← l.client.reply cursor
  let rows ← if r.columns.isEmpty then pure [] else l.client.fetchAll cursor
  return {
    columns := r.columns
    rows
    rowcount := r.rowcount.getD (-1)
    lastRowId := l.lastRowId r }

/-- Run a statement on a cursor.  If the alarm goes off while it runs, something is done about
it, and that is told with the outcome. -/
def runCursor (cursor : Nat) (sql : String) (params : List Native) (alarm : Option Seconds)
    (onAlarm : StateM σ Unit) : StateM σ (Bool × Except Failure DriverResult) := do
  match ← (l.client.send cursor sql params).run with
  | .error f => return (false, .error f)
  | .ok () =>
    let fired ← l.client.await cursor alarm
    if fired then onAlarm
    return (fired, ← (l.collect cursor).run)

/-- Run a statement on a cursor of its own, which is closed in every case; the failure to close
it takes the place of what came before. -/
def runStatement (conn : Nat) (sql : String) (params : List Native) (alarm : Option Seconds)
    (onAlarm : StateM σ Unit) : StateM σ (Bool × Except Failure DriverResult) := do
  match ← (l.client.cursor conn).run with
  | .error f => return (false, .error f)
  | .ok cursor =>
    let (fired, r) ← l.runCursor cursor sql params alarm onAlarm
    match ← (l.client.closeCursor cursor).run with
    | .error f => return (fired, .error f)
    | .ok () => return (fired, r)

/-- Run a statement that may be watched. -/
def executeWatched (conn : Nat) (sql : String) (params : List Native) (alarm : Option Seconds)
    (onAlarm : StateM σ Unit) : StateM σ (Bool × Except Failure DriverResult) := do
  let (fired, r) ← l.runStatement conn sql params alarm onAlarm
  return (fired, r.mapError (l.driver.surfaced l.client.installed))

/-- Run a statement. -/
def execute (conn : Nat) (sql : String) (params : List Native) : Task σ DriverResult :=
  ExceptT.mk do return (← l.executeWatched conn sql params none (pure ())).2

/-- Run a statement for its effect. -/
def control (conn : Nat) (sql : String) : Task σ Unit := do
  let _ ← l.execute conn sql []

def begin (conn : Nat) : Task σ Unit := l.control conn l.driver.dialect.begin

def commit (conn : Nat) : Task σ Unit := l.control conn Dialect.commit

def rollback (conn : Nat) : Task σ Unit := l.control conn Dialect.rollback

/-! ## Life and interruption -/

/-- An action as a test: it holds if the action succeeds, and fails if it fails in a way that
is expected. -/
def testing (expected : Failure → Bool) (action : Task σ Unit) : Task σ Bool :=
  tryCatch (do action; return true) fun f => if expected f then return false else throw f

/-- Ask with a statement whether a connection lives. -/
def probe (conn : Nat) : Task σ Bool :=
  testing Failure.isDriver (l.control conn "SELECT 1")

/-- Ask whether a connection lives. -/
def ping (conn : Nat) : Task σ Bool := do
  match l.driver.dialer with
  | .mysql => testing Driver.isClientError (l.client.ping conn)
  | .postgresql => if ← l.client.isClosed conn then return false else l.probe conn
  | _ => l.probe conn

/-- Break a statement off from a second connection, by the engine's number of the first. -/
def kill (thread : Int) : Task σ Unit := do
  let killer ← l.connect
  let r ← Task.outcome (l.control killer ("KILL QUERY " ++ toString thread))
  l.close killer
  Task.ofExcept r

/-- Break the statement off that runs on a connection; false if there is no way to. -/
def interrupt (conn : Nat) : Task σ Bool := do
  match l.driver.dialer with
  | .plain => return false
  | .mysql =>
    match ← l.client.threadId conn with
    | none => return false
    | some thread =>
      l.kill thread
      return true
  | _ =>
    l.client.interrupt conn
    return true

/-- What the driver does for those who run statements. -/
def calls : DriverCalls σ where
  begin := l.begin
  commit := l.commit
  rollback := l.rollback
  execute := l.executeWatched
  interrupt := l.interrupt

end Line

end SqlGateway
