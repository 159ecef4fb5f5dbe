import SqlGateway.Interchange.Queries
import SqlGateway.Rehearsal.DriverScript
import SqlGateway.Rehearsal.Logging
import SqlGateway.Rehearsal.Settings
import SqlGateway.Repository.Basic
set_option autoImplicit false

/-!
# Rehearsal: an engine

The whole gateway on a scripted database: an executor, transactions and repositories
on a pool whose connections a driver opens.  With it come the stand-ins for what the
program takes from other libraries: the reading of settings, and logging.
-/

namespace SqlGateway.Rehearsal

open Interchange

/-- What stays the same throughout a script. -/
structure Production where
  driver : Driver
  installed : Bool
  config : PoolConfig
  records : List (String × RecordType)
  turns : Nat

/-! ## Hosts -/

/-- The driver as the provider of the pool's connections. -/
def driverSurroundings (p : Production) (perform : Performer ScriptedDatabase) :
    PoolSurroundings Stage :=
  let l := rehearsedLine p.driver p.installed
  { openConnection := l.connect.run
    testConnection := fun n => (l.ping n).run
    closeConnection := fun n => (l.close n).run
    sleep := wait perform
    now := do return (← get).clock }

/-- The world as the office of the executor's pool. -/
def stageOffice (p : Production) (perform : Performer ScriptedDatabase) :
    Office (World ScriptedDatabase) :=
  office (driverSurroundings p perform) p.turns

/-- The desk of the world as the executor's pool. -/
def rehearsedHost (p : Production) (perform : Performer ScriptedDatabase) :
    Host (World ScriptedDatabase) :=
  (stageOffice p perform).host p.driver (rehearsedLine p.driver p.installed).calls
    p.config.patience

/-! ## Statements -/

/-- A type of records by name. -/
def recordType (p : Production) (name : String) : Attempt RecordType :=
  match p.records.find? fun e => e.1 == name with
  | some (_, t) => .ok t
  | none => .error unbound

/-- A record that is passed as an argument. -/
def readRecord (p : Production) (d : Document) : Attempt Record := do
  let t ← recordType p (d.textAt "class")
  t.construct (← pairsAt d "values")

/-- A condition that may be absent. -/
def filterAt (d : Document) (key : String) : Attempt (Option Term) := do
  match ← readTerm (d.field key) with
  | .object .null => return none
  | t => return some t

/-- What is read from and with what mapper. -/
def readTarget (p : Production) (d : Document) : Attempt (FetchTarget × Option RecordMapper) := do
  let t ← recordType p (d.textAt "record")
  let target ← if d.flagAt "bare" then (t.descriptor.map FetchTarget.descriptor)
    else pure (.type t)
  let mapper ← match d.text? "mapper" with
    | some name => do pure (some ⟨← recordType p name⟩)
    | none => pure none
  return (target, mapper)

/-- The repository that a step names. -/
def readRepository (p : Production) (d : Document) : Attempt Repository := do
  let t ← recordType p (d.textAt "record")
  match d.text? "descriptor" with
  | none => Repository.of t none none
  | some name =>
    let other ← recordType p name
    let descriptor ← other.describe (d.text? "table") (d.text? "primary_key")
    Repository.of t (some descriptor) (some ⟨t⟩)

/-- An argument that is there and not null. -/
def argument? (d : Document) (key : String) : Attempt (Option Native) := do
  match ← nativeAt d key with
  | .null => return none
  | n => return some n

section
variable {m : Type → Type} [Monad m] [MonadExceptOf Failure m]

/-- An operation of a repository. -/
def repositoryStep (p : Production) (on : Runner m) (d : Document) : m Document := do
  let r ← Runner.lift (readRepository p d)
  match d.textAt "method" with
  | "list" =>
    let filter ← Runner.lift (filterAt d "where")
    let order ← Runner.lift (argument? d "order_by")
    let limit ← Runner.lift (argument? d "limit")
    let offset ← Runner.lift (argument? d "offset")
    return writeRecords (← r.list on filter order limit offset)
  | "find_one" =>
    let filter ← Runner.lift (filterAt d "where")
    return .orNull writeRecord (← r.findOne on filter)
  | "get" =>
    let key ← Runner.lift (nativeAt d "key")
    return .orNull writeRecord (← r.get on key)
  | "count" =>
    let filter ← Runner.lift (filterAt d "where")
    return writeInt (← r.count on filter)
  | "exists" =>
    let filter ← Runner.lift (readTerm (d.field "where"))
    return .bool (← r.exists? on filter)
  | "insert" =>
    let record ← Runner.lift (readRecord p (d.field "value"))
    return writeNative (← r.insert on record)
  | "insert_many" =>
    let records ← Runner.lift ((d.itemsAt "values").mapM (readRecord p))
    return writeInt (← r.insertMany on records)
  | "update" =>
    let record ← Runner.lift (readRecord p (d.field "value"))
    return writeInt (← r.save on record)
  | "save_or_update" =>
    let record ← Runner.lift (readRecord p (d.field "value"))
    return writeNative (← r.saveOrUpdate on record)
  | "update_where" =>
    let values ← Runner.lift (pairsAt d "set")
    let filter ← Runner.lift (readTerm (d.field "where"))
    return writeInt (← r.updateWhere on values filter)
  | "delete" =>
    let key ← Runner.lift (nativeAt d "key")
    return writeInt (← r.delete on key)
  | "delete_many" =>
    let keys ← Runner.lift (nativesAt d "keys")
    return writeInt (← r.deleteMany on keys)
  | "delete_where" =>
    let filter ← Runner.lift (readTerm (d.field "where"))
    return writeInt (← r.deleteWhere on filter)
  | "repr" => return .texts [r.shown, r.table]
  | other => Runner.lift (malformed other)

/-- A step that runs a statement wherever statements run; nothing if it is another step. -/
def runnerStep? (p : Production) (on : Runner m) (limits : CallLimits) (d : Document) :
    Option (m Document) :=
  match d.textAt "do" with
  | "execute" => some do
    let q ← Runner.lift (readRequest (d.field "stmt"))
    return writeAnswer (← on.execute q limits)
  | "run" => some do
    let q ← Runner.lift (readRequest (d.field "stmt"))
    return writeResultSet (← on.run q limits)
  | "execute_raw" => some do
    let sql ← Runner.lift (nativeAt d "sql")
    let args ← Runner.lift (nativesAt d "binds")
    return writeAnswer (← on.executeRaw sql (.list args) limits)
  | "scalar" => some do
    let q ← Runner.lift (readRequest (d.field "stmt"))
    return writeNative (← on.run q limits).scalar
  | "fetch" => some do
    let q ← Runner.lift (readRequest (d.field "stmt"))
    let (target, mapper) ← Runner.lift (readTarget p d)
    return writeRecords (← on.fetch q target mapper limits)
  | "fetch_one" => some do
    let q ← Runner.lift (readRequest (d.field "stmt"))
    let (target, mapper) ← Runner.lift (readTarget p d)
    return .orNull writeRecord (← on.fetchOne q target mapper limits)
  | "repo" => some (repositoryStep p on d)
  | _ => none

end

/-- The limits of a step that is taken at a moment. -/
def readLimits (now : Seconds) (d : Document) : CallLimits where
  timeout := d.double? "timeout"
  cancelAt :=
    match d.present? "cancel" with
    | none => none
    | some (.text s) => if s == "set" then some now else none
    | some n => some (now + n.asDouble)

/-! ## Transactions -/

/-- Note a new transaction and give its number. -/
def keepTransaction (tx : Transaction) : Stage Nat := do
  let n := (← get).transactions.length
  modify fun w => { w with transactions := w.transactions ++ [tx] }
  return n

def storeTransaction (n : Nat) (tx : Transaction) : Stage Unit :=
  modify fun w => { w with transactions := w.transactions.set n tx }

def transactionAt (n : Nat) : Stage Transaction := do
  return ((← get).transactions[n]?).getD { lease := 0, conn := 0, state := .rolledBack }

/-- Do something in a transaction that the world keeps. -/
def within {α : Type} (n : Nat) (t : TransactionTask (World ScriptedDatabase) α) :
    StageTask α := do
  let (r, tx) ← t.runIn (← transactionAt n)
  storeTransaction n tx
  Task.ofExcept r

/-- The number of a transaction by name. -/
def transactionNamed (name : String) : StageTask Nat := do
  match (← get).transactionNames.find? fun e => e.1 == name with
  | some (_, n) => return n
  | none => throw unbound

/-- The transaction of a step: the one that it is handed, or one by name. -/
def transactionOf (handed : Option Nat) (d : Document) : StageTask (Option Nat) := do
  match handed, d.text? "tx" with
  | some n, _ => return some n
  | none, some name => return some (← transactionNamed name)
  | none, none => return none

/-- Nobody holds a transaction any more. -/
def drop (h : Host (World ScriptedDatabase)) (n : Nat) : Stage Unit := do
  let tx ← transactionAt n
  h.abandon tx
  storeTransaction n { tx with state := .rolledBack }

/-- Give a transaction a name; whatever had the name before is no longer held. -/
def nameTransaction (h : Host (World ScriptedDatabase)) (name : String) (n : Nat) :
    Stage Unit := do
  let old := (← get).transactionNames.find? fun e => e.1 == name
  modify fun w => { w with transactionNames := putEntry w.transactionNames name n }
  match old with
  | some (_, o) => drop h o
  | none => return

/-- A step on a transaction; nothing if it is another step. -/
def transactionStep? (h : Host (World ScriptedDatabase)) (n : Nat) (d : Document) :
    Option (StageTask Document) :=
  match d.textAt "do" with
  | "commit" => some do
    within n h.commit
    return .null
  | "rollback" => some do
    within n h.rollback
    return .null
  | "state" => some do
    let tx ← transactionAt n
    return .list [.text tx.state.name, .bool (tx.state == .active)]
  | "drop" => some do
    modify fun w => { w with transactionNames := w.transactionNames.filter fun e => e.2 != n }
    drop h n
    return .null
  | _ => none

/-! ## Steps -/

/-- A step, which a transaction may have been handed. -/
abbrev Player := Option Nat → Document → Stage (Attempt Document)

/-- Take steps in order until one fails. -/
def takeAll (play : Player) (handed : Option Nat) (steps : List Document) :
    StageTask (List Document) :=
  steps.mapM fun d => ExceptT.mk (play handed d)

/-- Take steps within a transaction that has a name, and leave it. -/
def withTransaction (h : Host (World ScriptedDatabase)) (play : Player) (d : Document) :
    StageTask Document := do
  let n ← keepTransaction (← h.begin none)
  nameTransaction h (d.textAt "as") n
  let r ← Task.outcome do
    let results ← takeAll play none (d.itemsAt "ops")
    match ← Task.ofExcept (injectedAt d "raise") with
    | some f => throw f
    | none => return Document.list results
  let failure := match r with
    | .ok _ => none
    | .error f => some f
  within n (h.leave failure)
  Task.ofExcept r

/-- Take steps as operations on one transaction, all or none. -/
def allOrNone (h : Host (World ScriptedDatabase)) (play : Player) (d : Document) :
    StageTask Document := do
  let n ← keepTransaction { lease := 0, conn := 0, state := .rolledBack }
  let operation (step : Document) : TransactionTask (World ScriptedDatabase) Document :=
    ExceptT.mk fun tx => do
      storeTransaction n tx
      let r ← play (some n) step
      return (r, ← transactionAt n)
  let (r, tx) ← h.wholeInTransaction ((d.itemsAt "ops").map operation)
  -- A step has done with its failure before the next one, so nobody holds the transaction then.
  h.abandon tx
  let results ← Task.ofExcept r
  return .object [("committed", .bool true), ("results", .list results)]

/-- Take steps and close the engine. -/
def withEngine (p : Production) (perform : Performer ScriptedDatabase) (play : Player)
    (d : Document) : StageTask Document := do
  let r ← Task.outcome (takeAll play none (d.itemsAt "ops"))
  ExceptT.mk ((stageOffice p perform).callFor (.close none))
  let results ← Task.ofExcept r
  return .list (results ++ [.bool (← get).desk.pool.closing])

/-- A step on the engine itself or on its pool. -/
def engineStep (p : Production) (h : Host (World ScriptedDatabase))
    (perform : Performer ScriptedDatabase) (play : Player) (d : Document) :
    StageTask Document := do
  match d.textAt "do" with
  | "begin" =>
    let tx ← h.begin (d.double? "timeout")
    let n ← keepTransaction tx
    nameTransaction h (d.textAt "as") n
    return .text (h.shownTransaction tx)
  | "with_tx" => withTransaction h play d
  | "in_transaction" => allOrNone h play d
  | "with_engine" => withEngine p perform play d
  | "raise" =>
    match ← Task.ofExcept (injectedAt d "raise") with
    | some f => throw f
    | none => return .null
  | "hold" =>
    let lease ← h.checkout (d.double? "timeout")
    (nameLease (d.textAt "as") lease : Stage Unit)
    return .integer (← (stageOffice p perform).leaseAt lease).slot.id
  | "release" =>
    match ← (lease? (d.textAt "conn") : Stage _) with
    | some (n, _) =>
      h.giveBack n
      return .null
    | none => throw unbound
  | "set" => ExceptT.mk (setSession (d.field "conn").asInt.toNat (d.field "fields"))
  | "advance" =>
    passUntil perform p.turns ((← get).clock + (d.field "seconds").asDouble)
    return .null
  | "schedule" =>
    (schedule (d.field "after").asDouble (d.field "action") : Stage Unit)
    return .null
  | "sweep" =>
    ExceptT.mk ((stageOffice p perform).callFor .sweep)
    return .null
  | "close" =>
    ExceptT.mk ((stageOffice p perform).callFor (.close (d.double? "timeout")))
    return .null
  | "repr" =>
    return .texts [h.shown, h.tag, h.dialect.shown, (← get).desk.pool.shown]
  | other => Task.ofExcept (malformed other)

/-- Take a step: where statements run, on a transaction, or on the engine. -/
def takeStep (p : Production) (perform : Performer ScriptedDatabase) (play : Player)
    (handed : Option Nat) (d : Document) : StageTask Document := do
  let h := rehearsedHost p perform
  let limits := readLimits (← get).clock d
  match ← transactionOf handed d with
  | some n =>
    match (runnerStep? p h.inTransaction limits d).map (within n) with
    | some t => t
    | none => (transactionStep? h n d).getD (engineStep p h perform play d)
  | none =>
    (runnerStep? p h.executor limits d).getD (engineStep p h perform play d)

/-- Take a step and the steps in it, so deep. -/
def performStep (p : Production) : Nat → Player
  | 0, _, _ => return .error unfinished
  | depth + 1, handed, d =>
    (takeStep p (fun action => performStep p depth none action)
      (fun handed step => performStep p depth handed step) handed d).run

/-! ## The script -/

/-- The URL of an engine unless a script gives one. -/
def defaultUrl : Engine → String
  | .sqlite => "sqlite:///data/app.db"
  | .mysql => "mysql://app:pw@db/orders"
  | .postgresql => "postgresql://app:pw@db/orders"

/-- The database and the pool of a script: from settings, or given. -/
def readConfigs (d : Document) : Attempt (DatabaseConfig × PoolConfig) := do
  match d.present? "settings" with
  | some fields =>
    let s ← Settings.ofFields (← readPairs fields.asItems)
    return (← s.databaseConfig, ← s.poolConfig)
  | none =>
    let pool ← PoolConfig.ofFields (← fieldsAt d "pool")
    let engine := (Engine.ofTag? (d.textAt "engine")).getD .sqlite
    let url := (d.text? "url").getD (defaultUrl engine)
    return (← DatabaseConfig.ofUrl (.text url) [], pool)

/-- The types of records of a script, by name. -/
def readRecordTypes (d : Document) : Attempt (List (String × RecordType)) := do
  let types ← (d.itemsAt "records").mapM readRecordType
  return types.map fun t => (t.name, t)

/-- Rehearse a script of an engine. -/
def rehearseEngine (d : Document) : Attempt Document := do
  let records ← readRecordTypes d
  let standIn ← readDatabase d
  let (config, poolConfig) ← readConfigs d
  let driver ← ({} : DriverRegistry).create config memoryTag
  let tag := driver.dialect.name
  let given := if (d.present? "settings").isSome then none else d.text? "name"
  let pool : Pool := { config := poolConfig, name := (DatabaseConfig.nonEmpty given).getD tag }
  let bare : World ScriptedDatabase :=
    { desk := { pool }, standIn, hub := ({} : TelemetryHub).bindEngine tag }
  let subscribed := ((d.field? "telemetry").map Document.asBool).getD true
  let world := if subscribed then withSubscriber bare else bare
  let turns := turnsFor d.size poolConfig
  let p : Production :=
    { driver, installed := standIn.installed, config := poolConfig, records, turns }
  let script : Stage (List Document) := do
    tell (.log .info "engine_created"
      [("engine", .text tag), ("url", .text (config.toUrl true))])
    let created ← takeReport "pool"
    let reports ← reportSteps (performStep p (d.size + 1) none) "pool" (d.itemsAt "ops")
    return .object created :: reports
  return .list (script.run world).1

end SqlGateway.Rehearsal
