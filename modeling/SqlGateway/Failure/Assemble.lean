import SqlGateway.Failure
import SqlGateway.Value.Whole
set_option autoImplicit false

/-!
# Failures: assembled from a description

A fault can be described from outside by the name of its kind, its arguments and
its attributes.  Every kind takes a message and the common attributes, and the
attributes of its own facts; the two faults of mapping that name a column or a
table word their own message.
-/

namespace SqlGateway

/-- A description of a failure. -/
structure FailureSpec where
  name : String
  args : List Native := []
  attributes : List (String × Native) := []
  context : Option ErrorContext := none
  cause : Option Failure := none
  rollback : Option Failure := none

namespace ErrorContext

/-- A context from its named fields; `none` for a field it does not have. -/
def ofFields? (fields : List (String × Native)) : Option ErrorContext :=
  fields.foldlM (fun c f =>
    match f with
    | ("metadata", .dict entries) => some { c with metadata := entries }
    | ("metadata", n) => if n.holds then none else some c
    | (key, v) =>
      if ["engine", "table", "operation", "statement"].contains key then some (c.put key v)
      else none) {}

end ErrorContext

namespace FailureSpec

/-- An attribute, unless it is absent or nothing. -/
def attribute? (s : FailureSpec) (key : String) : Option Native :=
  match (s.attributes.find? fun a => a.1 == key).map Prod.snd with
  | some .null => none
  | a => a

def text? (s : FailureSpec) (key : String) : Option String := (s.attribute? key).map Native.plain

def int? (s : FailureSpec) (key : String) : Option Int :=
  match s.attribute? key with
  | some (.int n) => some n
  | _ => none

/-- The attributes that every kind takes. -/
def common : List String := ["category", "retryable", "retry_after"]

/-- The kind of fault a description names, with the facts it gives, and the attributes that
belong to the kind. -/
def kind? (s : FailureSpec) : Option (FaultKind × List String) :=
  let code := (s.attribute? "code").getD .null
  let state := (s.attribute? "sqlstate").getD .null
  match s.name with
  | "KeelError" => some (.internal, [])
  | "InvalidExpressionError" => some (.invalidExpression, [])
  | "UnsupportedOperationError" =>
    some (.unsupported (s.text? "dialect") (s.text? "construct"), ["dialect", "construct"])
  | "ConversionError" =>
    some (.conversion (s.text? "kind") (s.text? "native_type"), ["kind", "native_type"])
  | "ConfigError" => some (.config, [])
  | "PoolExhaustedError" => some (.poolExhausted, [])
  | "PoolClosedError" => some (.poolClosed, [])
  | "ConnectionUnhealthyError" => some (.unhealthy, [])
  | "DatabaseConnectionError" => some (.connection, [])
  | "DriverError" => some (.driver code state, ["code", "sqlstate"])
  | "IntegrityViolationError" => some (.integrity code state, ["code", "sqlstate"])
  | "QueryCancelledError" =>
    some (.cancelled (((s.attribute? "sent").map Native.holds).getD false), ["sent"])
  | "TransactionAbortedError" => some (.aborted (s.int? "failed_step"), ["failed_step"])
  | _ => none

/-- Arguments or attributes that a kind does not take. -/
def misfit (s : FailureSpec) : Except Failure Failure :=
  .error (.primitive .type (s.name ++ ".__init__() got unexpected arguments"))

/-- The common part of a fault. -/
def finish (s : FailureSpec) (kind : FaultKind) (message : String) : Failure :=
  let category := ((s.text? "category").bind Category.ofName?).getD kind.category
  let retryable := ((s.attribute? "retryable").map Native.holds).getD kind.retryable
  .fault kind
    { message, category, retryable, retryAfter := s.int? "retry_after"
      context := s.context.getD {} }
    s.cause s.rollback

/-- A column that was not found among others. -/
def missingColumn (s : FailureSpec) : Except Failure Failure :=
  match s.args with
  | [column] =>
    if s.rollback.isSome || s.attributes.any fun a => !(common ++ ["available"]).contains a.1 then
      s.misfit
    else
      let available := match s.attribute? "available" with
        | some (.list items) => items.map Native.plain
        | _ => []
      .ok (s.finish (.missingColumn column.plain available)
        ("Result set has no column " ++ column.shown))
  | _ => s.misfit

/-- A table without a primary key; it takes a message and nothing else. -/
def missingKey (s : FailureSpec) : Except Failure Failure :=
  if s.context.isSome || s.cause.isSome || s.rollback.isSome ||
      s.attributes.any fun a => a.1 != "message" then s.misfit
  else
    let build (table : Native) (message : Option Native) : Except Failure Failure :=
      let words := match message with
        | some m => if m.holds then m.plain else ""
        | none => ""
      .ok (Failure.make (.missingKey table.plain)
        (if words.isEmpty then "Table " ++ table.shown ++ " has no primary key" else words))
    match s.args with
    | [table] => build table (s.attribute? "message")
    | [table, message] => if s.attributes.isEmpty then build table (some message) else s.misfit
    | _ => s.misfit

/-- The text of a foreign failure with the given arguments. -/
def foreignText (kind : ForeignKind) : List Native → String
  | [] => ""
  | [a] => if kind == .key then a.shown else a.plain
  | args => (Native.tuple args).shown

/-- The kind of a foreign failure by name. -/
def foreignKind (name : String) : ForeignKind :=
  match [ForeignKind.value, .type, .overflow, .attribute, .key, .index, .invalidOperation, .runtime,
      .os, .interrupt].find? fun k => k.name == name with
  | some k => k
  | none => .other name

/-- The failure that a description gives. -/
def build (s : FailureSpec) : Except Failure Failure :=
  if s.name == "MissingColumnError" then s.missingColumn
  else if s.name == "MissingPrimaryKeyError" then s.missingKey
  else
    match s.kind? with
    | none =>
      let kind := foreignKind s.name
      .ok (.foreign { kind, text := foreignText kind s.args })
    | some (kind, own) =>
      let isAborted := match kind with
        | .aborted _ => true
        | _ => false
      match s.args with
      | [message] =>
        if s.attributes.any (fun a => !(common ++ own).contains a.1) ||
            (s.rollback.isSome && !isAborted) then s.misfit
        else .ok (s.finish kind message.plain)
      | _ => s.misfit

end FailureSpec

/-- The kinds that a failure belongs to, its own first. -/
def Failure.ancestry : Failure → List String
  | .fault k _ _ _ => k.lineage
  | f => [f.name]

end SqlGateway
