import SqlGateway.Interchange.Objects
import SqlGateway.Dialect.Registry
set_option autoImplicit false

/-!
# Interchange: queries

A condition is a list: the name of a builder function and its arguments.  A
statement is an object: how it starts, and the builder calls that follow.
Reading one applies the builders, so it fails where they do.
-/

namespace SqlGateway.Interchange

/-! ## Dialects -/

/-- A dialect that varies the generic one. -/
def readCustomDialect (spec : Document) : Dialect :=
  let g := Dialect.generic
  { g with
    title := "CustomDialect"
    name := (spec.text? "name").getD g.name
    quote := (spec.text? "quote_char").getD g.quote
    style := ((spec.text? "param_style").bind ParamStyle.ofName?).getD g.style
    unboundedLimit := spec.text? "unbounded_limit"
    escapePercent := spec.flagAt "escape_percent"
    ilike := spec.flagAt "supports_ilike"
    returning := spec.flagAt "supports_returning"
    reserved := spec.textsAt "reserved"
    joins := match spec.present? "supported_joins" with
      | some js => js.asItems.filterMap fun x => JoinKind.ofKeyword? x.asText
      | none => g.joins }

def readDialect (d : Document) : Attempt Dialect :=
  match d with
  | .text "generic" => .ok .generic
  | .text tag => DialectRegistry.get {} tag
  | d =>
    match d.present? "custom" with
    | some spec => .ok (readCustomDialect spec)
    | none => DialectRegistry.get {} ((d.present? "object").getD (d.field "enum")).asText

def readCodec (d : Document) : Attempt Codec :=
  match d with
  | .text "generic" => .ok .generic
  | .text tag => refusal (Codec.ofTag tag)
  | d => (readDialect d).map Dialect.codec

/-! ## Conditions -/

def misused {α : Type} (m : Misuse) : Attempt α := query (.error (.misused m))

/-- The comparison of a builder or an operator. -/
def comparison? (name : String) : Option Comparison :=
  match name with
  | "equals" | "==" => some .eq
  | "not_equals" | "!=" => some .ne
  | "greater" | ">" => some .gt
  | "greater_or_equal" | ">=" => some .ge
  | "less" | "<" => some .lt
  | "less_or_equal" | "<=" => some .le
  | "like" => some .like
  | "not_like" => some .notLike
  | "ilike" => some .ilike
  | _ => none

/-- The builders beside the comparisons that take objects. -/
def otherBuilders : List String :=
  ["between", "not_between", "in_set", "not_in_set", "is_null", "is_not_null", "raw"]

/-- The methods of a handle on a column. -/
def handleMethods : List String :=
  ["==", "!=", "<", "<=", ">", ">=", "equals", "not_equals", "between", "not_between", "in_set",
    "not_in_set", "is_null", "is_not_null", "like", "not_like", "ilike"]

/-- A builder applied to objects. -/
def buildCondition (name : String) (args : List Native) : Attempt Condition :=
  match comparison? name, args with
  | some op, [c, v] => query (Condition.comparing op c v)
  | some _, _ => misused (.arity name)
  | none, args =>
    match name, args with
    | "between", [c, l, h] => query (Condition.within c l h false)
    | "not_between", [c, l, h] => query (Condition.within c l h true)
    | "in_set", [c, vs] => query (Condition.memberOf c vs false)
    | "not_in_set", [c, vs] => query (Condition.memberOf c vs true)
    | "is_null", [c] => query (Condition.nullity c false)
    | "is_not_null", [c] => query (Condition.nullity c true)
    | "raw", [f] => query (Condition.fragmentOf f (.list []))
    | "raw", [f, binds] => query (Condition.fragmentOf f binds)
    | name, _ =>
      if otherBuilders.contains name then misused (.arity name)
      else misused (.noMethod "module" name)

/-- A builder that takes conditions, by name; nothing if there is none of that name. -/
def combine? (name : String) (terms : List Term) : Option (Attempt Condition) :=
  match name, terms with
  | "and_", ts => some (query (Condition.all ts))
  | "or_", ts => some (query (Condition.any ts))
  | "not_", [t] => some (query (Condition.negation t))
  | "not_", _ => some (misused (.arity name))
  | "&", [a, b] => some (query (Condition.both a b))
  | "|", [a, b] => some (query (Condition.either a b))
  | "~", [a] => some (query (Condition.complement a))
  | _, _ => none

/-- The names of builders that take conditions. -/
def combiners : List String := ["and_", "or_", "not_", "&", "|", "~"]

/-- A condition that is built from objects, by the name of its builder. -/
def readLeaf (name : String) (args : List Document) : Attempt Condition := do
  match name, args with
  | "proxy", .text method :: column :: args =>
    let c ← query (Column.of (← readNative column))
    if handleMethods.contains method then
      buildCondition method (c.handle :: (← readNatives args))
    else misused (.noMethod "ColumnProxy" method)
  | "Raw", [fragment, binds] =>
    let values ← (← readNatives binds.asItems).mapM fun n => query (Query.valueOf n)
    return .raw fragment.asText values
  | name, args => buildCondition name (← readNatives args)

mutual

/-- A condition, or an object in the place of one. -/
def readTerm : Document → Attempt Term
  | .list (.text name :: args) =>
    if combiners.contains name then do
      let terms ← readTerms args
      match combine? name terms with
      | some made => made.map .condition
      | none => misused (.arity name)
    else if name == "Logical" then
      match args with
      | op :: children => do
        let terms ← readTerms children
        return .condition (.logical ((Connective.ofKeyword? op.asText).getD .and)
          (terms.map Term.unchecked))
      | [] => malformed "condition"
    else (readLeaf name args).map .condition
  | .list _ => malformed "condition"
  | d => (readNative d).map .object

def readTerms : List Document → Attempt (List Term)
  | [] => .ok []
  | d :: rest => do
    let t ← readTerm d
    return t :: (← readTerms rest)

end

def writeOperand : Operand → Document
  | .literal v => .tagged "literal" (writeValue v)
  | .column c => .tagged "column" (.text c.name)

mutual

def writeCondition : Condition → Document
  | .compare op left right =>
    .object [("comparison", .text op.symbol), ("left", .text left.name),
      ("right", writeOperand right)]
  | .logical op children =>
    .object [("logical", .text op.keyword), ("children", .list (writeConditions children))]
  | .between c low high negated =>
    .object [("between", .text c.name), ("low", writeValue low), ("high", writeValue high),
      ("negated", .bool negated)]
  | .inSet c members negated =>
    .object [("in", .text c.name), ("values", .list (members.map writeValue)),
      ("negated", .bool negated)]
  | .isNull c negated => .object [("is_null", .text c.name), ("negated", .bool negated)]
  | .raw fragment binds =>
    .object [("raw", .text fragment), ("binds", .list (binds.map writeValue))]
  | .stray (.column name) => .tagged "column" (.text name)
  | .stray n => writeNative n

def writeConditions : List Condition → List Document
  | [] => []
  | c :: rest => writeCondition c :: writeConditions rest

end

def writeTerm : Term → Document
  | .condition c => writeCondition c
  | .object n => writeCondition (.stray n)

/-! ## Statements -/

def columnNames (cs : List Column) : Document := .texts (cs.map (·.name))

def writeFilter (c : Option Condition) : Document := .orNull writeCondition c

def writeStatement : Statement → Document
  | .select s =>
    .object [("select", .text s.table), ("columns", .orNull columnNames s.columns),
      ("filter", writeFilter s.filter),
      ("order", .list (s.order.map fun o => .texts [o.column.name, o.direction.keyword])),
      ("group", columnNames s.group), ("having", writeFilter s.having),
      ("limit", .orNull (fun n : Nat => writeInt n) s.limit),
      ("offset", .orNull (fun n : Nat => writeInt n) s.offset),
      ("joins", .list (s.joins.map fun j =>
        .list [.text j.kind.keyword, .text j.table, writeCondition j.on])),
      ("distinct", .bool s.distinct), ("count", .bool s.count)]
  | .insert s =>
    .object [("insert", .text s.table), ("columns", columnNames s.columns),
      ("rows", .list (s.rows.map fun r => .list (r.map writeValue))),
      ("returning", columnNames s.returning)]
  | .update s =>
    .object [("update", .text s.table),
      ("set", .list (s.assignments.map fun a => .list [.text a.1.name, writeValue a.2])),
      ("filter", writeFilter s.filter)]
  | .delete s => .object [("delete", .text s.table), ("filter", writeFilter s.filter)]

def writeBound (b : BoundStatement) : Document :=
  .object [("sql", .text b.sql), ("binds", .list (b.binds.map writeValue)),
    ("style", .text b.style.name), ("dialect", .orNull .text b.dialect),
    ("bind_kinds", .texts (b.bindKinds.map ValueKind.name))]

def writeRequest : Request → Document
  | .statement s => writeStatement s
  | .bound b => writeBound b
  | .object n => writeNative n

/-- Columns of a descriptor that is built directly. -/
def readColumns (d : Document) : Attempt (List Column) := do
  let ns ← readNatives d.asItems
  ns.mapM fun n =>
    match n with
    | .text s => .ok ⟨s⟩
    | n => query (Column.of n)

def readValues (d : Document) : Attempt (List Value) := do
  let ns ← readNatives d.asItems
  ns.mapM fun n => query (Query.valueOf n)

/-- A bound statement made by hand. -/
def readBound (d : Document) : Attempt BoundStatement := do
  let binds ← readValues (d.field "binds")
  let style := (ParamStyle.ofName? (d.textAt "style")).getD .qmark
  query (BoundStatement.checked (d.textAt "sql") binds style none)

/-- A descriptor that is built directly, by the name of its type. -/
def readDirect (kind : String) (spec : Document) : Attempt Request := do
  let table ← nativeAt spec "table"
  match kind with
  | "Select" =>
    let columns ← match spec.present? "columns" with
      | some d => (readColumns d).map some
      | none => pure none
    let group ← readColumns (spec.field "group")
    let having ← match spec.present? "having" with
      | some d => (readTerm d).map fun t => some t.unchecked
      | none => pure none
    let limit ← nativeAt spec "limit_value"
    let offset ← nativeAt spec "offset_value"
    let s ← query (Select.checked table columns group having limit offset
      (spec.flagAt "is_distinct") (spec.flagAt "is_count"))
    return .statement (.select s)
  | "Insert" =>
    let columns := (spec.textsAt "columns").map fun name => (⟨name⟩ : Column)
    let rows ← (spec.itemsAt "rows").mapM readValues
    return .statement (.insert (← query (Insert.checked table columns rows)))
  | _ =>
    let assignments ← (spec.itemsAt "assignments").mapM fun e => do
      match e.asItems with
      | [name, v] => return ((⟨name.asText⟩ : Column), ← query (Query.valueOf (← readNative v)))
      | _ => malformed "assignment"
    return .statement (.update (← query (Update.checked table assignments)))

/-- A statement without its calls. -/
def readStart (d : Document) : Attempt Request := do
  match d.field? "select", d.field? "insert", d.field? "update", d.field? "delete" with
  | some table, _, _, _ =>
    let t ← readNative table
    let names ← nativesAt d "columns"
    return .statement (.select (← query (Select.start t names)))
  | _, some table, _, _ =>
    let t ← readNative table
    let rows ← match d.field? "row" with
      | some row => (readPairs row.asItems).map fun r => [r]
      | none => (d.itemsAt "rows").mapM fun r => readPairs r.asItems
    return .statement (.insert (← query (Insert.start t rows)))
  | _, _, some table, _ =>
    let t ← readNative table
    let entries ← pairsAt d "set"
    return .statement (.update (← query (Update.start t entries)))
  | _, _, _, some table =>
    let t ← readNative table
    return .statement (.delete (← query (Delete.start t)))
  | _, _, _, _ =>
    match d.field? "bound", d.field? "other" with
    | some spec, _ => return .bound (← readBound spec)
    | _, some n => return .object (← readNative n)
    | _, _ =>
      match ["Select", "Insert", "Update"].filterMap fun k => (d.field? k).map fun s => (k, s) with
      | (kind, spec) :: _ => readDirect kind spec
      | [] => malformed "statement"

/-- One argument that is a condition. -/
def oneTerm (name : String) (args : List Document) : Attempt Term := do
  match ← readTerms args with
  | [t] => return t
  | _ => misused (.arity name)

def joinKind? : String → Option JoinKind
  | "join" => some .inner
  | "left_join" => some .left
  | "right_join" => some .right
  | "full_join" => some .full
  | _ => none

/-- A builder call on a query. -/
def callSelect (s : Select) (name : String) (args : List Document) : Attempt Select := do
  match joinKind? name with
  | some kind =>
    match args with
    | [table, on] => query (s.joined kind (← readNative table) (← readTerm on))
    | _ => misused (.arity name)
  | none =>
    match name with
    | "where" => query (s.filtered (← oneTerm name args))
    | "having" => query (s.withHaving (← oneTerm name args))
    | "select" => query (s.project (← readNatives args))
    | "group_by" => query (s.groupedBy (← readNatives args))
    | "order_by" =>
      match ← readNatives args with
      | [c] => query (s.orderedBy c (.direction .asc))
      | [c, d] => query (s.orderedBy c d)
      | _ => misused (.arity name)
    | "limit" =>
      match ← readNatives args with
      | [n] => query (s.limited n)
      | _ => misused (.arity name)
    | "offset" =>
      match ← readNatives args with
      | [n] => query (s.startingAt n)
      | _ => misused (.arity name)
    | "distinct" => if args.isEmpty then return s.distinctRows else misused (.arity name)
    | "count" => if args.isEmpty then return s.counted else misused (.arity name)
    | name => misused (.noMethod "Select" name)

/-- A builder call: a list of its name and its arguments. -/
def callStatement (r : Request) (call : Document) : Attempt Request := do
  let (name, args) := match call.asItems with
    | name :: args => (name.asText, args)
    | [] => ("", [])
  match r, name with
  | .statement (.select s), name => return .statement (.select (← callSelect s name args))
  | .statement (.insert s), "returning" =>
    return .statement (.insert (← query (s.withReturning (← readNatives args))))
  | .statement (.update s), "where" =>
    return .statement (.update (← query (s.filtered (← oneTerm name args))))
  | .statement (.update s), "set" =>
    match ← readNatives args with
    | [c, v] => return .statement (.update (← query (s.assigning c v)))
    | _ => misused (.arity name)
  | .statement (.delete s), "where" =>
    return .statement (.delete (← query (s.filtered (← oneTerm name args))))
  | r, name => misused (.noMethod r.typeName name)

/-- A statement: how it starts, and the calls on it. -/
def readRequest (d : Document) : Attempt Request := do
  (d.itemsAt "calls").foldlM callStatement (← readStart d)

end SqlGateway.Interchange
