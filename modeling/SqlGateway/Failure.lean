import SqlGateway.Value.Codec
set_option autoImplicit false

/-!
# Failures

Every operation of the gateway that fails does so with a `Failure`: a fault of the
gateway, which carries a category, a retry flag, context and its cause, or a
foreign failure that passes through unchanged.  A fault's kind says what happened
and holds the facts that go with it; `FaultKind.category` and
`FaultKind.retryable` are the defaults of each kind.
-/

namespace SqlGateway

/-- What a failure is about, for routing. -/
inductive Category where
  | expression | render | conversion | pool | database | mapping | transaction | config
  | internal | unknown
  deriving DecidableEq, Repr, Inhabited

namespace Category

def name : Category → String
  | .expression => "EXPRESSION"
  | .render => "RENDER"
  | .conversion => "CONVERSION"
  | .pool => "POOL"
  | .database => "DATABASE"
  | .mapping => "MAPPING"
  | .transaction => "TRANSACTION"
  | .config => "CONFIG"
  | .internal => "INTERNAL"
  | .unknown => "UNKNOWN"

def all : List Category :=
  [.expression, .render, .conversion, .pool, .database, .mapping, .transaction, .config,
    .internal, .unknown]

def ofName? (s : String) : Option Category := all.find? fun c => c.name == s

end Category

/-! ## Context -/

/-- Insert or overwrite an entry of an ordered dictionary; a key keeps its place. -/
def putEntry {α : Type} (entries : List (String × α)) (key : String) (v : α) :
    List (String × α) :=
  if entries.any (fun e => e.1 == key) then
    entries.map fun e => if e.1 == key then (key, v) else e
  else entries ++ [(key, v)]

section

variable {α : Type} (entries : List (String × α)) (key : String) (v : α)

/-- A test of the keys does not see that the value of an entry changes. -/
theorem overwrite_keys (p : String → Bool) :
    ((fun e : String × α => p e.1) ∘ fun e => if e.1 == key then (key, v) else e) =
      fun e => p e.1 := by
  funext e
  by_cases he : e.1 = key <;> simp [he]

/-- An entry that is put is found under its key, and nothing changes under other names. -/
theorem find?_putEntry (name : String) :
    (putEntry entries key v).find? (fun e => e.1 == name) =
      if key = name then some (key, v) else entries.find? fun e => e.1 == name := by
  unfold putEntry
  split
  case isTrue hany =>
    rw [List.find?_map, overwrite_keys key v fun k => k == name]
    cases hfind : entries.find? fun e => e.1 == name with
    | none =>
      have hother : ¬ key = name := by
        intro hname
        obtain ⟨e, he, hkey⟩ := List.any_eq_true.1 hany
        exact List.find?_eq_none.1 hfind e he (hname ▸ hkey)
      simp [hother]
    | some e =>
      have hname : e.1 = name := by simpa using List.find?_some hfind
      by_cases hkey : key = name
      · simp [hname, hkey]
      · simp [hname, hkey, Ne.symm hkey]
  case isFalse hnone =>
    rw [List.find?_append]
    by_cases hkey : key = name
    · have hnew : entries.find? (fun e => e.1 == name) = none :=
        List.find?_eq_none.2 fun e he hname =>
          hnone (List.any_eq_true.2 ⟨e, he, hkey ▸ hname⟩)
      simp [hnew, hkey]
    · simp [hkey]

/-- Of entries that are put one after the other, the last one under a name is found. -/
theorem find?_foldl_putEntry {β : Type} (key : β → String) (val : β → α) (puts : List β)
    (name : String) :
    (puts.foldl (fun es b => putEntry es (key b) (val b)) entries).find? (fun e => e.1 == name) =
      ((puts.reverse.find? fun b => key b == name).map fun b => (name, val b)).or
        (entries.find? fun e => e.1 == name) := by
  induction puts generalizing entries with
  | nil => rfl
  | cons b puts ih =>
    rw [List.foldl_cons, ih, find?_putEntry, List.reverse_cons, List.find?_append]
    cases hlater : puts.reverse.find? fun b => key b == name with
    | some later => rfl
    | none => by_cases hkey : key b = name <;> simp [hkey]

/-- A new key goes to the end. -/
theorem putEntry_of_new {entries : List (String × α)} {key : String} {v : α}
    (h : key ∉ entries.map Prod.fst) : putEntry entries key v = entries ++ [(key, v)] := by
  have hnew : entries.any (fun e => e.1 == key) = false := by
    refine List.any_eq_false.2 fun e he hsame => h ?_
    rw [← beq_iff_eq.1 hsame]
    exact List.mem_map_of_mem he
  rw [putEntry, hnew]
  rfl

/-- Entries under names of their own are put one after the other. -/
theorem foldl_putEntry {entries es : List (String × α)}
    (hkeys : (es.map Prod.fst ++ entries.map Prod.fst).Nodup) :
    entries.foldl (fun es e => putEntry es e.1 e.2) es = es ++ entries := by
  induction entries generalizing es with
  | nil => exact (List.append_nil es).symm
  | cons e rest ih =>
    have hnew : e.1 ∉ es.map Prod.fst := fun hmem =>
      (List.nodup_append.1 hkeys).2.2 _ hmem _ List.mem_cons_self rfl
    rw [List.foldl_cons, putEntry_of_new hnew, ih (by simpa using hkeys), List.append_assoc]
    rfl

/-- An entry that is put leaves no trace where its key is left out. -/
theorem filter_putEntry {p : String → Bool} (h : p key = false) :
    (putEntry entries key v).filter (fun e => p e.1) = entries.filter fun e => p e.1 := by
  unfold putEntry
  split
  · rw [List.filter_map, overwrite_keys]
    have hkept : ∀ e ∈ entries.filter fun e => p e.1,
        (if e.1 == key then (key, v) else e) = id e := by
      intro e he
      have hother : e.1 ≠ key := by
        intro hkey
        have hp := (List.mem_filter.1 he).2
        simp [hkey, h] at hp
      simp [hother]
    rw [List.map_congr_left hkept, List.map_id]
  · simp [h]

end

/-- The names a context answers to beyond its fields; a caller's value under one of them is
kept but not reported. -/
def contextReserved : List String :=
  ["__annotations__", "__class__", "__dataclass_fields__", "__dataclass_params__",
    "__delattr__", "__dict__", "__dir__", "__doc__", "__eq__", "__format__", "__ge__",
    "__getattribute__", "__getstate__", "__gt__", "__hash__", "__init__", "__init_subclass__",
    "__le__", "__lt__", "__match_args__", "__module__", "__ne__", "__new__", "__reduce__",
    "__reduce_ex__", "__repr__", "__setattr__", "__sizeof__", "__str__", "__subclasshook__",
    "__weakref__", "to_dict"]

/-- What is known about where a failure happened: four named facts and any others. -/
structure ErrorContext where
  engine : Native := .null
  table : Native := .null
  operation : Native := .null
  statement : Native := .null
  metadata : List (String × Native) := []
  /-- Values under reserved names. -/
  hidden : List (String × Native) := []
  deriving Repr, Inhabited

namespace ErrorContext

/-- Record a fact; the last one under a name counts. -/
def put (c : ErrorContext) (key : String) (v : Native) : ErrorContext :=
  if key == "engine" then { c with engine := v }
  else if key == "table" then { c with table := v }
  else if key == "operation" then { c with operation := v }
  else if key == "statement" then { c with statement := v }
  else if contextReserved.contains key then { c with hidden := putEntry c.hidden key v }
  else { c with metadata := putEntry c.metadata key v }

def isUnset : Native → Bool
  | .null => true
  | _ => false

/-- The facts in order: the named ones that are set, then the others, which may override
them. -/
def entries (c : ErrorContext) : List (String × Native) :=
  let named := [("engine", c.engine), ("table", c.table), ("operation", c.operation),
    ("statement", c.statement)].filter fun e => !isUnset e.2
  c.metadata.foldl (fun es e => putEntry es e.1 e.2) named

end ErrorContext

/-! ## Foreign failures -/

/-- Kinds of failure that are not the gateway's own. -/
inductive ForeignKind where
  | value | type | overflow | attribute | key | index | invalidOperation | runtime | os
  /-- An interruption of the program, which nothing may swallow. -/
  | interrupt
  /-- The client library's general error. -/
  | client
  /-- The client library's report of a violated constraint. -/
  | clientIntegrity
  | other (name : String)
  deriving DecidableEq, Repr

/-- The name of a foreign failure in reports. -/
def ForeignKind.name : ForeignKind → String
  | .value => "ValueError"
  | .type => "TypeError"
  | .overflow => "OverflowError"
  | .attribute => "AttributeError"
  | .key => "KeyError"
  | .index => "IndexError"
  | .invalidOperation => "InvalidOperation"
  | .runtime => "RuntimeError"
  | .os => "OSError"
  | .interrupt => "KeyboardInterrupt"
  | .client => "Error"
  | .clientIntegrity => "IntegrityError"
  | .other name => name

/-- A failure that is not the gateway's own.

It always has a text.  This is an idealisation: a failure words itself by code of its own, which
may fail in turn, and then the second failure takes the place of the first wherever a message or a
log entry is made of it. -/
structure Foreign where
  kind : ForeignKind
  text : String := ""
  /-- The text was given by the caller or the engine, not by a primitive. -/
  injected : Bool := false
  /-- The engine's own number or code for a client error. -/
  code : Native := .null
  sqlstate : Native := .null
  deriving Repr

namespace Foreign

/-- A client library's error of either kind. -/
def isClient (e : Foreign) : Bool :=
  match e.kind with
  | .client | .clientIntegrity => true
  | _ => false

/-- Everything but an interruption may be handled. -/
def isOrdinary (e : Foreign) : Bool := e.kind != .interrupt

end Foreign

/-! ## Faults -/

/-- What went wrong, with the facts that go with it. -/
inductive FaultKind where
  | internal
  | invalidExpression
  | unsupported (dialect construct : Option String)
  | conversion (kind nativeType : Option String)
  | config
  | poolExhausted
  | poolClosed
  | unhealthy
  | connection
  | driver (code sqlstate : Native)
  | integrity (code sqlstate : Native)
  | cancelled (sent : Bool)
  | aborted (failedStep : Option Int)
  | missingColumn (column : String) (available : List String)
  | missingKey (table : String)
  deriving Repr

namespace FaultKind

/-- The name of a kind of fault in reports. -/
def name : FaultKind → String
  | .internal => "KeelError"
  | .invalidExpression => "InvalidExpressionError"
  | .unsupported .. => "UnsupportedOperationError"
  | .conversion .. => "ConversionError"
  | .config => "ConfigError"
  | .poolExhausted => "PoolExhaustedError"
  | .poolClosed => "PoolClosedError"
  | .unhealthy => "ConnectionUnhealthyError"
  | .connection => "DatabaseConnectionError"
  | .driver .. => "DriverError"
  | .integrity .. => "IntegrityViolationError"
  | .cancelled _ => "QueryCancelledError"
  | .aborted _ => "TransactionAbortedError"
  | .missingColumn .. => "MissingColumnError"
  | .missingKey _ => "MissingPrimaryKeyError"

/-- The category a kind of fault has unless it is given another. -/
def category : FaultKind → Category
  | .internal => .internal
  | .invalidExpression => .expression
  | .unsupported .. => .render
  | .conversion .. => .conversion
  | .config => .config
  | .poolExhausted | .poolClosed | .unhealthy => .pool
  | .connection | .driver .. | .integrity .. | .cancelled _ => .database
  | .aborted _ => .transaction
  | .missingColumn .. | .missingKey _ => .mapping

/-- Whether trying again could help, unless a fault says otherwise. -/
def retryable : FaultKind → Bool
  | .poolExhausted | .unhealthy | .connection => true
  | _ => false

/-- The engine reported the fault. -/
def isDriver : FaultKind → Bool
  | .driver .. | .integrity .. => true
  | _ => false

/-- The kinds a kind of fault belongs to, itself first. -/
def lineage (k : FaultKind) : List String :=
  match k with
  | .internal => [k.name]
  | .integrity .. => [k.name, "DriverError", "KeelError"]
  | _ => [k.name, "KeelError"]

end FaultKind

/-- What every fault carries beside its kind. -/
structure FaultDetails where
  message : String
  category : Category
  retryable : Bool
  retryAfter : Option Int := none
  context : ErrorContext := {}
  deriving Repr

/-- A setting that was refused: its name, the rule it breaks and the wording. -/
structure FieldIssue where
  field : String
  rule : String
  message : String
  deriving DecidableEq, Repr

/-- Why an operation failed.  The second cause of a fault is the failure of the rollback that
followed the first.  Settings are refused all at once. -/
inductive Failure where
  | fault (kind : FaultKind) (details : FaultDetails) (cause rollback : Option Failure)
  | foreign (e : Foreign)
  | settings (issues : List FieldIssue)
  deriving Repr

namespace Failure

instance : Inhabited Failure := ⟨.foreign { kind := .value }⟩

/-- A fault with the defaults of its kind. -/
def make (kind : FaultKind) (message : String) (cause : Option Failure := none)
    (rollback : Option Failure := none) : Failure :=
  .fault kind ⟨message, kind.category, kind.retryable, none, {}⟩ cause rollback

/-- A foreign failure of a primitive. -/
def primitive (kind : ForeignKind) (text : String) : Failure := .foreign { kind, text }

/-- Record a fact in a fault's context; foreign failures have none. -/
def withContext (f : Failure) (key : String) (v : Native) : Failure :=
  match f with
  | .fault k d c r => .fault k { d with context := d.context.put key v } c r
  | f => f

/-- The name of the kind of a failure. -/
def name : Failure → String
  | .fault k _ _ _ => k.name
  | .foreign e => e.kind.name
  | .settings _ => "ValidationError"

/-- The text of a failure: a fault's message, a foreign failure's own words. -/
def text : Failure → String
  | .fault _ d _ _ => d.message
  | .foreign e => e.text
  | .settings issues => "\n".intercalate (issues.map fun i => i.field ++ ": " ++ i.message)

/-- One of the gateway's own faults. -/
def isFault : Failure → Bool
  | .fault .. => true
  | _ => false

/-- A failure the engine reported, as a driver words it. -/
def isDriver : Failure → Bool
  | .fault k _ _ _ => k.isDriver
  | _ => false

/-- Anything but an interruption of the program. -/
def isOrdinary : Failure → Bool
  | .fault .. => true
  | .foreign e => e.isOrdinary
  | .settings _ => true

/-- A connection that met this failure inside a block is not reusable: the engine reported it,
or a statement was cancelled in flight. -/
def poisons : Failure → Bool
  | .fault k _ _ _ =>
    match k with
    | .cancelled sent => sent
    | k => k.isDriver
  | _ => false

def cause? : Failure → Option Failure
  | .fault _ _ c _ => c
  | _ => none

def rollback? : Failure → Option Failure
  | .fault _ _ _ r => r
  | _ => none

/-- Could trying again help? -/
def retryable : Failure → Bool
  | .fault _ d _ _ => d.retryable
  | _ => false

def category : Failure → Category
  | .fault _ d _ _ => d.category
  | _ => .unknown

/-- A fault in one line. -/
def shown : Failure → String
  | .fault k d _ _ =>
    k.name ++ "(" ++ Text.quoted d.message ++ ", category=" ++ d.category.name ++ ")"
  | f => f.name

/-- Record a fact under a name that a caller chose.  A context takes no other type, no other
dictionary of its own and no weak reference, and the failure itself is named already. -/
def recording (f : Failure) (key : String) (v : Native) : Except Failure Failure :=
  match key, v with
  | "self", _ => .error (.primitive .type "the failure is named already")
  | "__class__", _ => .error (.primitive .type "a context is of no other type")
  | "__weakref__", _ => .error (.primitive .attribute "a context has no weak reference")
  | "__dict__", .dict _ => .ok (f.withContext key v)
  | "__dict__", _ => .error (.primitive .type "a context is no such dictionary")
  | key, v => .ok (f.withContext key v)

/-- The facts of a context, unless a fact has taken the place of the report or of all the
others. -/
def reportedContext (c : ErrorContext) : Except Failure (List (String × Native)) :=
  if c.hidden.any fun e => e.1 == "to_dict" then
    .error (.primitive .type "the report of the context is not a function")
  else if c.hidden.any fun e => e.1 == "__dict__" then
    .error (.primitive .attribute "the context has no facts")
  else .ok c.entries

/-- Name and text, as reports mention a cause. -/
def brief (f : Failure) : String := f.name ++ ": " ++ f.text

/-- What the report of a fault says before its context. -/
def heading (k : FaultKind) (d : FaultDetails) : List (String × Native) :=
  [("error_type", .text k.name), ("message", .text d.message),
    ("category", .text d.category.name), ("retryable", .bool d.retryable)] ++
  match d.retryAfter with
  | some n => [("retry_after", .int n)]
  | none => []

/-- A context that says nothing is left out. -/
def contextEntry : List (String × Native) → List (String × Native)
  | [] => []
  | es => [("context", .dict es)]

def causeEntry : Option Failure → List (String × Native)
  | some f => [("cause", .text f.brief)]
  | none => []

/-- What the report says of a kind of fault alone: an empty kind, type or state is left out. -/
def particulars (k : FaultKind) (rollback : Option Failure) : List (String × Native) :=
  match k with
  | .conversion kind native => unlessEmpty "kind" kind ++ unlessEmpty "native_type" native
  | .driver code state | .integrity code state =>
    (match code with | .null => [] | code => [("code", code)]) ++
    (match state with
      | .null => []
      | .text "" => []
      | state => [("sqlstate", state)])
  | .aborted step =>
    (match step with | some n => [("failed_step", Native.int n)] | none => []) ++
    (match rollback with | some f => [("rollback_error", .text f.brief)] | none => [])
  | _ => []
where
  unlessEmpty (key : String) : Option String → List (String × Native)
    | some s => if s.isEmpty then [] else [(key, .text s)]
    | none => []

/-- The report of a fault for logs. -/
def report : Failure → Except Failure (List (String × Native))
  | .foreign _ | .settings _ => .ok []
  | .fault k d c r => do
    let context ← reportedContext d.context
    return heading k d ++ contextEntry context ++ causeEntry c ++ particulars k r

end Failure

/-! ## Faults of conversions -/

mutual

/-- Has an object a literal?  An integer of too many digits has none, nor has what holds it.

Every other object is taken to be shown without failing.  For an object that is known by the name
of its type only this is an idealisation: how it is shown is code of its own, which may fail. -/
def Native.hasLiteral : Native → Bool
  | .int n => decide (n.natAbs < Number.tenTo Codec.maxIntegerDigits)
  | .list items => Native.haveLiterals items
  | .tuple items => Native.haveLiterals items
  | .dict entries => Native.entriesHaveLiterals entries
  | _ => true

/-- Have all members of a list a literal? -/
def Native.haveLiterals : List Native → Bool
  | [] => true
  | n :: rest => n.hasLiteral && Native.haveLiterals rest

/-- Have all entries of a dictionary a literal? -/
def Native.entriesHaveLiterals : List (String × Native) → Bool
  | [] => true
  | (_, n) :: rest => n.hasLiteral && Native.entriesHaveLiterals rest

end

/-- Can a refusal be worded?  Its message shows the object that was refused. -/
def Refusal.hasMessage : Refusal → Bool
  | .notPayload n _ => n.hasLiteral
  | .outOfRange n => (Native.int n).hasLiteral
  | .undecodableColumn _ _ inner => inner.hasMessage
  | _ => true

/-- The failure a broken primitive surfaces as. -/
def Breakdown.toFailure : Breakdown → Failure
  | .intTooLarge => .primitive .overflow "int too large to convert to float"
  | .infiniteInt name => .primitive .overflow ("cannot convert " ++ name ++ " to integer")
  | .notANumber name => .primitive .value ("cannot convert " ++ name ++ " to integer")
  | .notNumber t =>
    .primitive .type
      ("int() argument must be a string, a bytes-like object or a real number, not " ++
        Text.quoted t)
  | .signalling => .primitive .invalidOperation "[<class 'decimal.InvalidOperation'>]"
  | .signallingDouble => .primitive .value "cannot convert signaling NaN to float"
  | .notInteger s => .primitive .value ("invalid literal for int() with base 10: " ++ s)
  | .tooManyDigits n =>
    .primitive .value ("Exceeds the limit (4300 digits) for integer string conversion: " ++
      "value has " ++ toString n ++
      " digits; use sys.set_int_max_str_digits() to increase the limit")
  | .noLiteral =>
    .primitive .value ("Exceeds the limit (4300 digits) for integer string conversion; " ++
      "use sys.set_int_max_str_digits() to increase the limit")
  | .noKind s => .primitive .value (s ++ " is not a valid ValueKind")

/-- What a refusal comes of: the primitive that read the literal, or the refusal inside. -/
def Refusal.cause? : Refusal → Option Failure
  | .notDecimal _ =>
    some (.primitive .invalidOperation "[<class 'decimal.ConversionSyntax'>]")
  | .notUuid _ => some (.primitive .value "badly formed hexadecimal UUID string")
  | .undecodableColumn _ _ inner =>
    some (.make (.conversion inner.kind? inner.nativeType?) inner.message)
  | _ => none

/-- The failure a refusal surfaces as; one that cannot be worded surfaces as just that. -/
def Refusal.toFailure (r : Refusal) : Failure :=
  if r.hasMessage then .make (.conversion r.kind? r.nativeType?) r.message r.cause?
  else Breakdown.noLiteral.toFailure

/-- No refusal is a fault of the connection. -/
theorem Refusal.poisons_toFailure (r : Refusal) : r.toFailure.poisons = false := by
  unfold Refusal.toFailure
  split <;> rfl

def ConversionFault.toFailure : ConversionFault → Failure
  | .refused r => r.toFailure
  | .broke b => b.toFailure

end SqlGateway
