import SqlGateway.Query.Condition
import SqlGateway.Text.Case
set_option autoImplicit false

/-!
# Queries: statements

A statement describes what to run.  Builder functions take a descriptor to a new
one and leave the old one as it is, so a query can be shared and refined freely.
Repeated filters are joined by an explicit AND of the old filter and the new one.
-/

namespace SqlGateway

/-- The kinds of join. -/
inductive JoinKind where
  | inner | left | right | full
  deriving DecidableEq, Repr

namespace JoinKind

def keyword : JoinKind → String
  | .inner => "INNER JOIN"
  | .left => "LEFT JOIN"
  | .right => "RIGHT JOIN"
  | .full => "FULL JOIN"

def all : List JoinKind := [.inner, .left, .right, .full]

def ofKeyword? (s : String) : Option JoinKind := all.find? fun k => k.keyword == s

end JoinKind

/-- A joined table and the condition it is joined on. -/
structure Join where
  kind : JoinKind
  table : String
  on : Condition
  deriving Repr

/-- A column to sort by. -/
structure OrderItem where
  column : Column
  direction : Direction
  deriving DecidableEq, Repr

/-- A query for rows. -/
structure Select where
  table : String
  /-- The projected columns; all of them when there are none. -/
  columns : Option (List Column) := none
  filter : Option Condition := none
  order : List OrderItem := []
  group : List Column := []
  having : Option Condition := none
  limit : Option Nat := none
  offset : Option Nat := none
  joins : List Join := []
  distinct : Bool := false
  count : Bool := false
  deriving Repr

/-- New rows; every row has one value per column, in order. -/
structure Insert where
  table : String
  columns : List Column
  rows : List (List Value)
  returning : List Column := []
  deriving Repr

/-- New values for columns of the rows that satisfy the filter. -/
structure Update where
  table : String
  assignments : List (Column × Value)
  filter : Option Condition := none
  deriving Repr

/-- The end of the rows that satisfy the filter. -/
structure Delete where
  table : String
  filter : Option Condition := none
  deriving Repr

/-- A statement of any of the four kinds. -/
inductive Statement where
  | select (s : Select)
  | insert (s : Insert)
  | update (s : Update)
  | delete (s : Delete)
  deriving Repr

namespace Query

/-- A list that is absent when it is empty. -/
def unlessEmpty {α : Type} : List α → Option (List α)
  | [] => none
  | xs => some xs

/-- A count of rows: an integer that is not negative, and no truth value. -/
def countOf (what : String) (n : Native) : Except QueryError Nat :=
  match n with
  | .int i => if i < 0 then .error (.invalid (.notCount what n.shown)) else .ok i.toNat
  | n => .error (.invalid (.notCount what n.shown))

/-- A sort direction, or its keyword in any case. -/
def directionOf (n : Native) : Except QueryError Direction :=
  match n with
  | .direction d => .ok d
  | n =>
    let word := Text.toUpper n.plain
    if word == Direction.asc.keyword then .ok .asc
    else if word == Direction.desc.keyword then .ok .desc
    else .error (.invalid (.unknownDirection n.shown))

end Query

/-! ## Select -/

namespace Select

/-- Start a query; with no columns every column is projected. -/
def start (table : Native) (names : List Native) : Except QueryError Select := do
  let t ← Query.tableOf table
  let cs ← Column.ofAll names
  return { table := t, columns := Query.unlessEmpty cs }

/-- A descriptor made at once, whose parts must fit together. -/
def checked (table : Native) (columns : Option (List Column)) (group : List Column)
    (having : Option Condition) (limit offset : Native) (distinct count : Bool) :
    Except QueryError Select := do
  let t ← Query.tableOf table
  match columns with
  | some [] => .error (.invalid .projectionEmpty)
  | columns =>
    let window (what : String) : Native → Except QueryError (Option Nat)
      | .null => .ok none
      | n => (Query.countOf what n).map some
    let l ← window "limit" limit
    let o ← window "offset" offset
    if having.isSome && group.isEmpty then .error (.invalid .havingWithoutGroup)
    else
      return { table := t, columns, group, having, limit := l, offset := o, distinct, count }

/-- Replace the projection. -/
def project (s : Select) (names : List Native) : Except QueryError Select := do
  let cs ← Column.ofAll names
  return { s with columns := Query.unlessEmpty cs }

/-- Keep only rows that also satisfy a condition. -/
def filtered (s : Select) (term : Term) : Except QueryError Select := do
  let f ← Condition.conjoin s.filter term
  return { s with filter := some f }

/-- Sort by one more column; a sort term brings its own direction. -/
def orderedBy (s : Select) (term direction : Native) : Except QueryError Select := do
  let (name, direction) ← match term with
    | .tuple [name, direction] => pure (name, direction)
    | .tuple items => .error (.misused (.notPair items.length))
    | name => pure (name, direction)
  let c ← Column.of name
  let d ← Query.directionOf direction
  return { s with order := s.order ++ [⟨c, d⟩] }

def groupedBy (s : Select) (names : List Native) : Except QueryError Select := do
  if names.isEmpty then .error (.invalid .groupEmpty)
  else
    let cs ← Column.ofAll names
    return { s with group := s.group ++ cs }

/-- Keep only groups that also satisfy a condition. -/
def withHaving (s : Select) (term : Term) : Except QueryError Select := do
  if s.group.isEmpty then .error (.invalid .havingWithoutGroup)
  else
    let f ← Condition.conjoin s.having term
    return { s with having := some f }

def limited (s : Select) (n : Native) : Except QueryError Select := do
  let k ← Query.countOf "limit" n
  return { s with limit := some k }

def startingAt (s : Select) (n : Native) : Except QueryError Select := do
  let k ← Query.countOf "offset" n
  return { s with offset := some k }

def distinctRows (s : Select) : Select := { s with distinct := true }

/-- Ask for the number of rows; order and window are dropped. -/
def counted (s : Select) : Select :=
  { s with count := true, order := [], limit := none, offset := none }

def joined (s : Select) (kind : JoinKind) (table : Native) (on : Term) :
    Except QueryError Select := do
  let t ← Query.tableOf table
  let c ← on.toCondition
  return { s with joins := s.joins ++ [⟨kind, t, c⟩] }

end Select

/-! ## Insert -/

namespace Insert

/-- A descriptor made at once: there is a column and a row, and all rows are as wide as the
columns are many. -/
def checked (table : Native) (columns : List Column) (rows : List (List Value)) :
    Except QueryError Insert := do
  let t ← Query.tableOf table
  if columns.isEmpty || rows.isEmpty then .error (.invalid .insertEmpty)
  else
    match rows.zipIdx.find? fun r => r.1.length != columns.length with
    | some (row, i) => .error (.invalid (.insertWidth i row.length columns.length))
    | none => return { table := t, columns, rows }

/-- Two rows name the same columns, in any order. -/
def sameKeys (a b : List (String × Native)) : Bool :=
  a.all (fun e => b.any fun f => f.1 == e.1) && b.all fun e => a.any fun f => f.1 == e.1

/-- The first row whose keys differ from those of a row, counting from `i`. -/
def firstMismatch? (row : List (String × Native)) :
    Nat → List (List (String × Native)) → Option Nat
  | _, [] => none
  | i, r :: rest => if sameKeys row r then firstMismatch? row (i + 1) rest else some i

/-- The values of a row under the given keys. -/
def valuesOf (keys : List String) (row : List (String × Native)) :
    Except QueryError (List Value) :=
  keys.mapM fun key =>
    match row.find? fun e => e.1 == key with
    | some (_, n) => Query.valueOf n
    | none => Query.valueOf .null

/-- New rows from dictionaries with the same keys; the first one fixes the order of the
columns. -/
def start (table : Native) (rows : List (List (String × Native))) : Except QueryError Insert := do
  match rows with
  | [] => .error (.invalid .insertEmpty)
  | first :: rest =>
    match firstMismatch? first 1 rest with
    | some i => .error (.invalid (.insertKeys i))
    | none =>
      let t ← Query.tableOf table
      let keys := first.map Prod.fst
      let columns ← Column.ofAll (keys.map .text)
      let values ← rows.mapM (valuesOf keys)
      checked (.text t) columns values

/-- Ask for generated values of columns. -/
def withReturning (s : Insert) (names : List Native) : Except QueryError Insert := do
  let cs ← Column.ofAll names
  return { s with returning := cs }

end Insert

/-! ## Update and delete -/

namespace Update

/-- A descriptor made at once: there is an assignment. -/
def checked (table : Native) (assignments : List (Column × Value)) :
    Except QueryError Update := do
  let t ← Query.tableOf table
  if assignments.isEmpty then .error (.invalid .updateEmpty)
  else return { table := t, assignments }

/-- One assignment. -/
def assignment (name n : Native) : Except QueryError (Column × Value) := do
  let c ← Column.of name
  let v ← Query.valueOf n
  return (c, v)

def start (table : Native) (entries : List (String × Native)) : Except QueryError Update := do
  let t ← Query.tableOf table
  let assignments ← entries.mapM fun e => assignment (.text e.1) e.2
  checked (.text t) assignments

/-- Assign one more column. -/
def assigning (s : Update) (name n : Native) : Except QueryError Update := do
  let a ← assignment name n
  return { s with assignments := s.assignments ++ [a] }

def filtered (s : Update) (term : Term) : Except QueryError Update := do
  let f ← Condition.conjoin s.filter term
  return { s with filter := some f }

end Update

namespace Delete

def start (table : Native) : Except QueryError Delete := do
  let t ← Query.tableOf table
  return { table := t }

def filtered (s : Delete) (term : Term) : Except QueryError Delete := do
  let f ← Condition.conjoin s.filter term
  return { s with filter := some f }

end Delete

/-! ## Bound statements -/

/-- SQL of one dialect and the values of its placeholders, in order.  There are as many of
one as of the other. -/
structure BoundStatement where
  sql : String
  binds : List Value
  style : ParamStyle
  /-- The dialect it was rendered for. -/
  dialect : Option String
  balanced : Query.countPlaceholders sql style = binds.length

namespace BoundStatement

/-- SQL and values that match one to one. -/
def checked (sql : String) (binds : List Value) (style : ParamStyle)
    (dialect : Option String) : Except QueryError BoundStatement :=
  if h : Query.countPlaceholders sql style = binds.length then
    .ok ⟨sql, binds, style, dialect, h⟩
  else
    .error (.invalid (.placeholders (Query.countPlaceholders sql style) binds.length))

/-- What diagnostics show of the values. -/
def bindKinds (b : BoundStatement) : List ValueKind := b.binds.map Value.kind

/-- The statement without its values. -/
def shape (b : BoundStatement) : Native :=
  .dict [("sql", .text b.sql), ("bind_kinds", .list (b.bindKinds.map fun k => .text k.name))]

end BoundStatement

/-- What can be asked of an executor: a descriptor, a bound statement, or anything else, which
it refuses. -/
inductive Request where
  | statement (s : Statement)
  | bound (b : BoundStatement)
  | object (n : Native)

namespace Request

/-- The name of a request's type in messages. -/
def typeName : Request → String
  | .statement (.select _) => "Select"
  | .statement (.insert _) => "Insert"
  | .statement (.update _) => "Update"
  | .statement (.delete _) => "Delete"
  | .bound _ => "BoundStatement"
  | .object n => n.typeName

end Request

end SqlGateway
