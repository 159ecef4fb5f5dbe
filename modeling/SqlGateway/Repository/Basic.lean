import SqlGateway.Executor.Runner
import SqlGateway.Repository.Statements
set_option autoImplicit false

/-!
# Repositories

A repository loads and saves records.  Its operations run wherever a runner runs
statements: on a connection of their own, or in a transaction.
-/

namespace SqlGateway

namespace Repository

variable {m : Type → Type} [Monad m] [MonadExceptOf Failure m]

variable (r : Repository) (on : Runner m)

def noLimits : CallLimits := {}

/-- Run a statement for its rows. -/
def send (s : Statement) : m ResultSet := on.run (.statement s) noLimits

/-! ## Reading -/

/-- The records that satisfy a condition, or all. -/
def list (filter : Option Term) (order limit offset : Option Native) : m (List Record) := do
  let s ← Runner.lift (r.query filter order limit offset)
  on.fetch (.statement (.select s)) (.descriptor r.descriptor) (some r.mapper) noLimits

/-- The first record that satisfies a condition. -/
def findOne (filter : Option Term) : m (Option Record) := do
  let s ← Runner.lift (r.query filter none none none)
  on.fetchOne (.statement (.select s)) (.descriptor r.descriptor) (some r.mapper) noLimits

/-- The record with a key. -/
def get (key : Native) : m (Option Record) := do
  let c ← Runner.lift (r.keyIs key)
  r.findOne on (some (.condition c))

/-- A count that came as a value; nothing counts as zero. -/
def countOf (n : Native) : Except Failure Int :=
  if n.holds then n.toWhole.mapError Breakdown.toFailure else .ok 0

/-- The number of records that satisfy a condition, or of all. -/
def count (filter : Option Term) : m Int := do
  let s ← Runner.lift (r.countQuery filter)
  Runner.lift (countOf (← send on (.select s)).scalar)

/-- There is a record that satisfies a condition. -/
def exists? (filter : Term) : m Bool := do
  let s ← Runner.lift (r.existsQuery filter)
  return !(← send on (.select s)).rows.isEmpty

/-! ## Writing -/

/-- The key that the engine made for a new row: returned by the statement where the dialect can
do that, else reported by the driver. -/
def insertForKey (s : Insert) (f : FieldSpec) : m Native := do
  if on.dialect.returning then
    let s ← Runner.lift (built (s.withReturning [.text f.column]))
    return (← send on (.insert s)).scalar
  else
    match (← send on (.insert s)).lastRowId with
    | some id => return .int id
    | none => return .null

/-- Save a new record; the answer is its key. -/
def insert (record : Record) : m Native := do
  let row ← Runner.lift (r.encodeNew record)
  let s ← Runner.lift (r.insertion [row])
  if r.descriptor.primaryKey.isNone then
    let _ ← send on (.insert s)
    return .null
  else
    let f ← Runner.lift r.descriptor.keyField
    match valueIn? row f.column with
    | some key =>
      let _ ← send on (.insert s)
      return .ofValue key
    | none => insertForKey on s f

/-- Save new records at once; the answer is how many. -/
def insertMany (records : List Record) : m Int := do
  match ← Runner.lift (r.insertionOf records) with
  | none => return 0
  | some s => return (← send on (.insert s)).rowcount

/-- Write a record to its row; the answer is how many rows there were. -/
def save (record : Record) : m Int := do
  match ← Runner.lift (r.update record) with
  | none => return 0
  | some s => return (← send on (.update s)).rowcount

/-- Save a record as new if it has no key, else write it to its row; the answer is its key. -/
def saveOrUpdate (record : Record) : m Native := do
  let f ← Runner.lift r.descriptor.keyField
  let row ← Runner.lift (r.encode record)
  let key ← Runner.lift (valueIn row f.column)
  if key.isNull then r.insert on record
  else
    let _ ← r.save on record
    return .ofValue key

/-- Set columns of the rows that satisfy a condition. -/
def updateWhere (values : List (String × Native)) (filter : Term) : m Int := do
  let s ← Runner.lift (r.updating values (.ok filter))
  return (← send on (.update s)).rowcount

/-- Delete the row with a key. -/
def delete (key : Native) : m Int := do
  let s ← Runner.lift (r.deletion key)
  return (← send on (.delete s)).rowcount

/-- Delete the rows with keys. -/
def deleteMany (keys : List Native) : m Int := do
  match ← Runner.lift (r.deletionOf keys) with
  | none => return 0
  | some s => return (← send on (.delete s)).rowcount

/-- Delete the rows that satisfy a condition. -/
def deleteWhere (filter : Term) : m Int := do
  let s ← Runner.lift (r.deleting (.ok filter))
  return (← send on (.delete s)).rowcount

end Repository

end SqlGateway
