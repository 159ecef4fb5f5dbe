import SqlGateway.Mapping.Record
import SqlGateway.Query.Statement
set_option autoImplicit false

/-!
# Repositories: statements

A repository turns records, keys and conditions into statements on its table.  What
changes or deletes rows always has a filter: the key of a record, a list of keys, or
a condition that the caller has to give.
-/

namespace SqlGateway

/-- Access to the table of one type of records. -/
structure Repository where
  typeName : String
  descriptor : TableDescriptor
  mapper : RecordMapper

namespace Repository

/-- The repository of a type; a descriptor and a mapper may be given in place of its own. -/
def of (t : RecordType) (descriptor : Option TableDescriptor) (mapper : Option RecordMapper) :
    Except Failure Repository := do
  let d ← match descriptor with
    | some d => pure d
    | none => t.descriptor
  let m ← match mapper with
    | some m => pure m
    | none => RecordMapper.of t
  return { typeName := t.name, descriptor := d, mapper := m }

variable (r : Repository)

def table (r : Repository) : String := r.descriptor.table

/-- The repository in one line. -/
def shown : String := "Repository(" ++ r.typeName ++ ", table=" ++ Text.quoted r.table ++ ")"

/-- An error of a builder as it surfaces. -/
def built {α : Type} (e : Except QueryError α) : Except Failure α :=
  e.mapError QueryError.toFailure

/-- A key as a value of the key's kind. -/
def keyValue (f : FieldSpec) (key : Native) : Except Failure Value :=
  (Value.coerce key f.kind).mapError ConversionFault.toFailure

/-- A column equals a value that is not Null. -/
def columnIs (column : String) (v : Value) : Except Failure Condition :=
  built (Condition.comparing .eq (.text column) (.value v))

/-- The condition that a row has a key. -/
def keyIs (key : Native) : Except Failure Condition := do
  let f ← r.descriptor.keyField
  columnIs f.column (← keyValue f key)

/-! ## Reading -/

/-- Sort by one more term: a column, or the arguments of a sort in a tuple. -/
def orderBy (s : Select) (item : Native) : Except QueryError Select :=
  match item with
  | .tuple [name] => s.orderedBy name (.direction .asc)
  | .tuple [name, direction] => s.orderedBy name direction
  | .tuple _ => .error (.misused (.arity "order_by"))
  | name => s.orderedBy name (.direction .asc)

/-- The terms of a sort: a list of them, or one. -/
def orderItems : Option Native → List Native
  | none => []
  | some (.list items) => items
  | some item => [item]

/-- A query for the mapped columns. -/
def query (filter : Option Term) (order limit offset : Option Native) : Except Failure Select :=
  built do
    let s ← Select.start (.text r.table) (r.descriptor.columns.map .text)
    let s ← match filter with
      | some t => s.filtered t
      | none => pure s
    let s ← (orderItems order).foldlM orderBy s
    let s ← match limit with
      | some n => s.limited n
      | none => pure s
    match offset with
    | some n => s.startingAt n
    | none => pure s

/-- A query for the number of rows. -/
def countQuery (filter : Option Term) : Except Failure Select :=
  built do
    let s := (← Select.start (.text r.table) []).counted
    match filter with
    | some t => s.filtered t
    | none => pure s

/-- A query for one row of the first column. -/
def existsQuery (filter : Term) : Except Failure Select :=
  built do
    let first := (r.descriptor.columns.take 1).map Native.text
    let s ← (← Select.start (.text r.table) first).filtered filter
    s.limited (.int 1)

/-! ## Writing -/

/-- The values of a record by column. -/
def encode (record : Record) : Except Failure (List (String × Value)) := do
  let entries ← r.mapper.encodeRecord record r.descriptor
  return entries.foldl (fun es e => putEntry es e.1 e.2) []

def valueIn? (row : List (String × Value)) (column : String) : Option Value :=
  (row.find? fun e => e.1 == column).map Prod.snd

/-- The value in a column of a row that has the column. -/
def valueIn (row : List (String × Value)) (column : String) : Except Failure Value :=
  match valueIn? row column with
  | some v => .ok v
  | none => .error (.primitive .key column)

/-- A row without a column. -/
def without (row : List (String × Value)) (column : String) : List (String × Value) :=
  row.filter fun e => e.1 != column

/-- The values of a new record; a key that is Null is left to the engine. -/
def encodeNew (record : Record) : Except Failure (List (String × Value)) := do
  let row ← r.encode record
  if r.descriptor.primaryKey.isNone then return row
  else
    let f ← r.descriptor.keyField
    match valueIn? row f.column with
    | some .null => return without row f.column
    | _ => return row

/-- Values as arguments of a builder. -/
def arguments (row : List (String × Value)) : List (String × Native) :=
  row.map fun e => (e.1, .value e.2)

/-- A statement for new rows. -/
def insertion (rows : List (List (String × Value))) : Except Failure Insert :=
  built (Insert.start (.text r.table) (rows.map arguments))

/-- All rows name the same columns. -/
def uniform (rows : List (List (String × Value))) : Bool :=
  match rows with
  | [] => true
  | first :: rest => rest.all fun row => Insert.sameKeys (arguments first) (arguments row)

/-- A statement for new records, unless there are none; all of them bring their keys, or
none. -/
def insertionOf (records : List Record) : Except Failure (Option Insert) := do
  let rows ← records.mapM r.encodeNew
  if rows.isEmpty then return none
  else if uniform rows then return some (← r.insertion rows)
  else
    .error (.make .invalidExpression
      ("insert_many into " ++ Text.quoted r.table ++
        " mixes records with and without primary keys"))

/-- A statement that sets columns of the rows that satisfy a condition. -/
def updating (values : List (String × Native)) (filter : Except Failure Term) :
    Except Failure Update := do
  let s ← built (Update.start (.text r.table) values)
  built (s.filtered (← filter))

/-- A statement that writes a record to the row with its key, unless the key is all it has. -/
def update (record : Record) : Except Failure (Option Update) := do
  let row ← r.encode record
  let f ← r.descriptor.keyField
  let key ← valueIn row f.column
  if key.isNull then
    .error (.make .invalidExpression
      ("Cannot update a " ++ r.typeName ++ " without a primary key value"))
  else
    match without row f.column with
    | [] => return none
    | rest => return some (← r.updating (arguments rest) ((columnIs f.column key).map .condition))

/-- A statement that deletes the rows that satisfy a condition. -/
def deleting (filter : Except Failure Term) : Except Failure Delete := do
  let s ← built (Delete.start (.text r.table))
  built (s.filtered (← filter))

/-- A statement that deletes the row with a key. -/
def deletion (key : Native) : Except Failure Delete := r.deleting ((r.keyIs key).map .condition)

/-- A statement that deletes the rows with keys, unless there are no keys. -/
def deletionOf (keys : List Native) : Except Failure (Option Delete) := do
  let f ← r.descriptor.keyField
  let members ← keys.mapM (keyValue f)
  if members.isEmpty then return none
  else
    let filter := built (Condition.memberOf (.text f.column) (.list (members.map .value)) false)
    return some (← r.deleting (filter.map .condition))

end Repository

end SqlGateway
