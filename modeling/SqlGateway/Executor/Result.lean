import SqlGateway.Driver.Basic
import SqlGateway.Mapping.Record
set_option autoImplicit false

/-!
# Executor: results

Rows leave an executor as values, or as records of a mapped type.  A record takes
each column by its name, so the order of the columns and columns that nothing is
mapped to do not matter.
-/

namespace SqlGateway

/-- The rows of a statement as values. -/
structure ResultSet where
  columns : List String := []
  rows : List (List Value) := []
  rowcount : Int := -1
  lastRowId : Option Int := none
  deriving Repr, Inhabited

namespace ResultSet

def first? (r : ResultSet) : Option (List Value) := r.rows.head?

/-- The first value of the first row, or nothing. -/
def scalar (r : ResultSet) : Native :=
  match r.rows with
  | (v :: _) :: _ => .ofValue v
  | _ => .null

/-- A row by column; the last of equal names counts. -/
def entries (columns : List String) (row : List Value) : List (String × Native) :=
  (columns.zip row).foldl (fun es e => putEntry es e.1 (.ofValue e.2)) []

/-- The rows by column. -/
def dictionaries (r : ResultSet) : List (List (String × Native)) := r.rows.map (entries r.columns)

end ResultSet

/-- What a statement answers: rows if it has any columns, else how many rows it changed. -/
inductive Answer where
  | rows (r : ResultSet)
  | count (n : Int)
  deriving Repr

/-- The answer of a result. -/
def ResultSet.answer (r : ResultSet) : Answer :=
  if r.columns.isEmpty then .count r.rowcount else .rows r

namespace DriverResult

/-- A cell as a value, of a declared kind if there is one. -/
def decodeCell (c : Codec) (kind : Option ValueKind) (n : Native) : Except Failure Value :=
  (c.decode n kind).mapError ConversionFault.toFailure

/-- The rows as values. -/
def toResultSet (c : Codec) (r : DriverResult) : Except Failure ResultSet := do
  let rows ← r.rows.mapM fun row => row.mapM (decodeCell c none)
  return { columns := r.columns, rows, rowcount := r.rowcount, lastRowId := r.lastRowId }

/-- The place of a column; the last of equal names counts. -/
def position? (columns : List String) (name : String) : Option Nat :=
  (columns.zipIdx.reverse.find? fun e => e.1 == name).map Prod.snd

/-- The failure of a column that the result does not have. -/
def missingColumn (column : String) (available : List String) : Failure :=
  .make (.missingColumn column available) ("Result set has no column " ++ Text.quoted column)

/-- The place of each mapped column. -/
def positions (columns : List String) (fields : List FieldSpec) :
    Except Failure (List (FieldSpec × Nat)) :=
  fields.mapM fun f =>
    match position? columns f.column with
    | some i => .ok (f, i)
    | none => .error (missingColumn f.column columns)

/-- The mapped cells of a row, by column. -/
def mappedCells (c : Codec) (places : List (FieldSpec × Nat)) (row : List Native) :
    Except Failure (List (String × Value)) :=
  places.foldlM (fun es place =>
    match row[place.2]? with
    | some n => do return putEntry es place.1.column (← decodeCell c place.1.kind n)
    | none => .error (.primitive .index "tuple index out of range")) []

/-- The rows as whatever a mapper makes of their mapped cells, one row after the other. -/
def readRows {m : Type → Type} [Monad m] [MonadExceptOf Failure m] {α : Type}
    (read : List (String × Value) → TableDescriptor → m α) (c : Codec) (engine : String)
    (d : TableDescriptor) (r : DriverResult) : m (List α) := do
  let located (f : Failure) : Failure :=
    (f.withContext "engine" (.text engine)).withContext "table" (.text d.table)
  let places ← MonadExcept.ofExcept ((positions r.columns d.fields).mapError located)
  r.rows.mapM fun row => do
    let cells ← MonadExcept.ofExcept (mappedCells c places row)
    read cells d

/-- The rows as records. -/
def toRecords (c : Codec) (engine : String) (d : TableDescriptor) (m : RecordMapper)
    (r : DriverResult) : Except Failure (List Record) :=
  readRows m.decodeRow c engine d r

end DriverResult

end SqlGateway
