import SqlGateway.Interchange.Objects
import SqlGateway.Failure.Assemble
set_option autoImplicit false

/-!
# Interchange: failures

A fault is written with its kind, its message, its routing and the facts that go
with its kind; a foreign failure with its kind alone, unless its words came from
outside.
-/

namespace SqlGateway.Interchange

/-- A failure as another one mentions it. -/
def writeBrief (f : Failure) : Document :=
  .object (("error", .text f.name) :: if f.isFault then [("message", .text f.text)] else [])

def unlessNull (key : String) (n : Native) : List (String × Document) :=
  match n with
  | .null => []
  | n => [(key, writeNative n)]

/-- The facts that go with a kind of fault. -/
def writeKind : FaultKind → List (String × Document)
  | .unsupported dialect construct =>
    Document.part? "dialect" (dialect.map .text) ++
      Document.part? "construct" (construct.map .text)
  | .conversion kind native =>
    Document.part? "kind" (kind.map .text) ++ Document.part? "native_type" (native.map .text)
  | .driver code state | .integrity code state =>
    unlessNull "code" code ++ unlessNull "sqlstate" state
  | .cancelled sent => [("sent", .bool sent)]
  | .aborted step => Document.part? "failed_step" (step.map .integer)
  | .missingColumn column available =>
    [("column", .text column), ("available", .texts available)]
  | .missingKey table => [("table", .text table)]
  | _ => []

def writeFailure (f : Failure) : Document :=
  match f with
  | .foreign e =>
    .object (("error", .text e.kind.name) ::
      if e.injected || e.kind == .key then [("message", .text e.text)] else [])
  | .settings issues =>
    .object [("error", .text f.name), ("errors", .list (issues.map fun i =>
      .object [("loc", .texts [i.field]), ("type", .text i.rule), ("msg", .text i.message)]))]
  | .fault k d c r =>
    .object ([("error", .text k.name), ("message", .text d.message),
        ("category", .text d.category.name), ("retryable", .bool d.retryable)] ++
      Document.part? "retry_after" (d.retryAfter.map .integer) ++
      (match d.context.entries with
        | [] => []
        | es => [("context", writeFields es)]) ++
      Document.part? "cause" (c.map writeBrief) ++
      Document.part? "rollback_error" (r.map writeBrief) ++ writeKind k)

/-- What came of a step. -/
def writeAttempt : Attempt Document → Document
  | .ok d => .tagged "ok" d
  | .error f => writeFailure f

/-- What came of each step. -/
def writeAttempts {α : Type} (xs : List α) (f : α → Attempt Document) : Document :=
  .list (xs.map fun x => writeAttempt (f x))

/-! ## Reading -/

mutual

/-- A failure and the failures behind it. -/
def readFailure : Document → Attempt Failure
  | .object entries => do
    let own := Document.object entries
    let context ← match own.field? "context" with
      | some c =>
        match ErrorContext.ofFields? (← readPairs c.asItems) with
        | some c => pure (some c)
        | none => .error (.primitive .type "unexpected keyword argument")
      | none => pure none
    let cause ← readFailureAt "cause" entries
    let rollback ← readFailureAt "rollback_error" entries
    let f ← FailureSpec.build {
      name := own.textAt "class"
      args := ← nativesAt own "args"
      attributes := ← pairsAt own "kwargs"
      context, cause, rollback }
    (own.itemsAt "with_context").foldlM (fun f c => do
      let fields ← readPairs c.asItems
      fields.foldlM (fun f e => f.recording e.1 e.2) f) f
  | _ => malformed "failure"

def readFailureAt (key : String) : List (String × Document) → Attempt (Option Failure)
  | [] => .ok none
  | (k, d) :: rest =>
    if k == key then
      match d with
      | .null => .ok none
      | d => do return some (← readFailure d)
    else readFailureAt key rest

end

/-- A failure that is brought in from outside, by the name of its type. -/
def readInjected (d : Document) : Attempt Failure := do
  let message := d.textAt "message"
  let code ← nativeAt d "code"
  let sqlstate ← nativeAt d "sqlstate"
  return match d.textAt "type" with
    | "DriverError" => .make (.driver code sqlstate) message
    | "DatabaseConnectionError" => .make .connection message
    | "QueryCancelledError" => .make (.cancelled (d.flagAt "sent")) message
    | "RuntimeError" => foreign .runtime message
    | "ValueError" => foreign .value message
    | "OSError" => foreign .os message
    | "KeyboardInterrupt" => foreign .interrupt message
    | "Error" => .foreign ⟨.client, message, true, code, sqlstate⟩
    | "IntegrityError" => .foreign ⟨.clientIntegrity, message, true, code, sqlstate⟩
    | name => foreign (.other name) message
where
  foreign (kind : ForeignKind) (message : String) : Failure :=
    .foreign { kind, text := message, injected := true }

/-- A failure that may be absent. -/
def injectedAt (d : Document) (key : String) : Attempt (Option Failure) :=
  (d.present? key).mapM readInjected

/-- Failures by the number of the attempt that meets them. -/
def readNumbered (d : Document) : Attempt (List (Nat × Failure)) :=
  match d with
  | .object entries => entries.mapM fun e => do
    return ((e.1.toNat?).getD 0, ← readInjected e.2)
  | _ => .ok []

end SqlGateway.Interchange
