import SqlGateway.Executor.Runner
import SqlGateway.Interchange.Records
set_option autoImplicit false

/-!
# Interchange: results

Results of drivers and executors as documents.
-/

namespace SqlGateway.Interchange

def writeIntOrNull (n : Option Int) : Document := .orNull writeInt n

def writeDriverResult (r : DriverResult) : Document :=
  .object [("columns", .texts r.columns), ("rows", .list (r.rows.map fun row =>
      .list (writeNatives row))), ("rowcount", writeInt r.rowcount),
    ("lastrowid", writeIntOrNull r.lastRowId), ("has_result_set", .bool r.hasRows)]

def writeValues (row : List Value) : Document := .list (row.map writeValue)

def writeResultSet (r : ResultSet) : Document :=
  .object [("columns", .texts r.columns), ("rows", .list (r.rows.map writeValues)),
    ("rowcount", writeInt r.rowcount), ("lastrowid", writeIntOrNull r.lastRowId),
    ("len", .integer r.rows.length), ("first", .orNull writeValues r.first?),
    ("scalar", writeNative r.scalar), ("dicts", .list (r.dictionaries.map writeFields))]

def writeAnswer : Answer → Document
  | .rows r => writeResultSet r
  | .count n => writeInt n

def writeRecords (rs : List Record) : Document := .list (rs.map writeRecord)

end SqlGateway.Interchange
