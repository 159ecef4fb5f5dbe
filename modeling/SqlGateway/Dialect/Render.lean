import SqlGateway.Dialect.Fragment
set_option autoImplicit false

/-!
# Dialects: rendering

A statement becomes fragments, and fragments become a bound statement.  A construct
that the dialect lacks is refused; nothing turns silently into other SQL.
-/

namespace SqlGateway

open Fragment

namespace Dialect

variable (d : Dialect)

def lacks {α : Type} (construct : String) : Except QueryError α :=
  .error (.unsupported d.name construct)

/-! ## Conditions -/

def operand : Operand → Fragment
  | .literal v => .bind v
  | .column c => .name c.name

/-- Values woven into the pieces of a text, one between each two. -/
def weave : List String → List Value → List Fragment
  | [], _ => []
  | p :: _, [] => [.written p]
  | p :: ps, v :: vs => .written p :: .bind v :: weave ps vs

/-- A hand-written text with its values in place of its markers. -/
def raw (text : String) (binds : List Value) : Except QueryError (List Fragment) :=
  let pieces := Query.splitMarkers text
  if pieces.length - 1 ≠ binds.length then
    .error (.invalid (.sqlBinds (pieces.length - 1) binds.length))
  else .ok (weave pieces binds)

mutual

/-- A condition; nested in a connective, it is bracketed where reading would regroup it. -/
def condition (nested : Bool) : Condition → Except QueryError (List Fragment)
  | .compare op left right =>
    if op == .ilike && !d.ilike then d.lacks Comparison.ilike.symbol
    else .ok [.name left.name, .words (" " ++ op.symbol ++ " "), operand right]
  | .logical .not [] => .error (.misused .noOperand)
  | .logical .not (c :: _) => do
    let inner ← condition false c
    return .words "NOT " :: bracketed inner
  | .logical _ [c] => condition nested c
  | .logical op children => do
    let parts ← conditions children
    let joined := joinWith (" " ++ op.keyword ++ " ") parts
    return if nested then bracketed joined else joined
  | .between column low high negated =>
    .ok [.name column.name, .words (if negated then " NOT BETWEEN " else " BETWEEN "), .bind low,
      .words " AND ", .bind high]
  | .inSet _ [] negated => .ok [.words (if negated then "1 = 1" else "1 = 0")]
  | .inSet column members negated =>
    .ok (.name column.name :: .words (if negated then " NOT IN " else " IN ") ::
      bracketed (values members))
  | .isNull column negated =>
    .ok [.name column.name, .words (if negated then " IS NOT NULL" else " IS NULL")]
  | .raw fragment binds => do
    let fs ← raw fragment binds
    return if nested then bracketed fs else fs
  | .stray n => .error (.invalid (.notRenderableCondition n.typeName))

/-- The children of a connective, each nested. -/
def conditions : List Condition → Except QueryError (List (List Fragment))
  | [] => .ok []
  | c :: rest => do
    let first ← condition true c
    let more ← conditions rest
    return first :: more

end

/-! ## Statements -/

/-- A clause that is there when its condition is. -/
def clause (keyword : String) : Option Condition → Except QueryError (List (List Fragment))
  | none => .ok []
  | some c => do
    let fs ← d.condition false c
    return [.words (keyword ++ " ") :: fs]

/-- A number of rows as a bound value; it must fit a signed word. -/
def rowCount (n : Nat) : Except QueryError Fragment :=
  ((Value.make .int64 (.int n)).mapError .refused).map .bind

/-- The row window. -/
def window (s : Select) : Except QueryError (List (List Fragment)) := do
  let limit ← match s.limit, s.offset, d.unboundedLimit with
    | some n, _, _ => do
      let f ← rowCount n
      pure [[.words "LIMIT ", f]]
    | none, some _, some unbounded => pure [[.words ("LIMIT " ++ unbounded)]]
    | _, _, _ => pure []
  let offset ← match s.offset with
    | some n => do
      let f ← rowCount n
      pure [[.words "OFFSET ", f]]
    | none => pure []
  return limit ++ offset

/-- What is selected. -/
def projection (s : Select) : Except QueryError (List Fragment) :=
  if s.count then
    if s.distinct then
      match s.columns with
      | some [c] => .ok [.words "COUNT(DISTINCT ", .name c.name, .words ")"]
      | _ => .error (.invalid .countDistinct)
    else .ok [.words "COUNT(*)"]
  else
    match s.columns with
    | none => .ok [.words "*"]
    | some cs => .ok (names cs)

def join (j : Join) : Except QueryError (List Fragment) :=
  if d.joins.contains j.kind then do
    let on ← d.condition false j.on
    return .words (j.kind.keyword ++ " ") :: .name j.table :: .words " ON " :: on
  else d.lacks j.kind.keyword

/-- Groups and the condition on them. -/
def grouping (s : Select) : Except QueryError (List (List Fragment)) :=
  match s.group with
  | [] => .ok []
  | cs => do
    let having ← d.clause "HAVING" s.having
    return (.words "GROUP BY " :: names cs) :: having

def ordering (items : List OrderItem) : List (List Fragment) :=
  match items with
  | [] => []
  | items =>
    [.words "ORDER BY " :: joinWith ", " (items.map fun o =>
      [.name o.column.name, .words (" " ++ o.direction.keyword)])]

def select (s : Select) : Except QueryError (List Fragment) := do
  let head := if s.distinct && !s.count then "SELECT DISTINCT" else "SELECT"
  let projected ← projection s
  let joins ← s.joins.mapM d.join
  let filter ← d.clause "WHERE" s.filter
  let group ← d.grouping s
  let rows ← d.window s
  return joinWith " " ([[.words head], projected, [.words "FROM"], [.name s.table]] ++ joins ++
    filter ++ group ++ ordering s.order ++ rows)

def insert (s : Insert) : Except QueryError (List Fragment) := do
  let rows := joinWith ", " (s.rows.map fun row => bracketed (values row))
  let base := [.words "INSERT INTO ", .name s.table, .words " "] ++ bracketed (names s.columns) ++
    .words " VALUES " :: rows
  match s.returning with
  | [] => return base
  | cs =>
    if d.returning then return base ++ .words " RETURNING " :: names cs
    else d.lacks "RETURNING"

/-- A filter at the end of a statement. -/
def filtered (base : List Fragment) (filter : Option Condition) :
    Except QueryError (List Fragment) := do
  return joinWith " " (base :: (← d.clause "WHERE" filter))

def update (s : Update) : Except QueryError (List Fragment) :=
  d.filtered ([.words "UPDATE ", .name s.table, .words " SET "] ++
    joinWith ", " (s.assignments.map fun a => [.name a.1.name, .words " = ", .bind a.2])) s.filter

def delete (s : Delete) : Except QueryError (List Fragment) :=
  d.filtered [.words "DELETE FROM ", .name s.table] s.filter

def fragments : Statement → Except QueryError (List Fragment)
  | .select s => d.select s
  | .insert s => d.insert s
  | .update s => d.update s
  | .delete s => d.delete s

/-- Fragments as a bound statement; the placeholders found in the text must be as many as the
values. -/
def bound (fs : List Fragment) : Except QueryError BoundStatement :=
  BoundStatement.checked (sql d fs) (binds fs) d.style (some d.name)

/-- Render a statement. -/
def render (s : Statement) : Except QueryError BoundStatement := do
  let fs ← d.fragments s
  d.bound fs

/-- Render whatever is asked for; only descriptors can be. -/
def renderRequest (r : Request) : Except QueryError BoundStatement :=
  match r with
  | .statement s => d.render s
  | r => .error (.invalid (.notRenderable r.typeName))

/-- Render a hand-written statement with a marker for each value. -/
def renderRaw (text : Native) (args : Native) : Except QueryError BoundStatement := do
  match text.asText? with
  | none => .error (.invalid .sqlEmpty)
  | some s =>
    if Text.allBlank s then .error (.invalid .sqlEmpty)
    else
      let values ← (← args.members).mapM Query.valueOf
      let fs ← raw s values
      d.bound fs

end Dialect

end SqlGateway
