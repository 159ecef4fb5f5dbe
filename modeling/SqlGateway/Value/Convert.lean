import SqlGateway.Value.Refusal
set_option autoImplicit false

/-!
# Values: building from objects

`Value.of` infers the kind of an object; `Value.make` checks an object against a
kind as it is; `Value.ofKind` converts where the kind has other spellings of its
payload (a text or an integer for a decimal, a text for an identifier, an integer
for a double, a buffer or a view for bytes).
-/

namespace SqlGateway

/-- The range of a signed word. -/
def inInt64 (n : Int) : Bool := -(Number.twoTo 63 : Int) ≤ n && n < Number.twoTo 63

/-- The range of an unsigned word. -/
def inUInt64 (n : Int) : Bool := 0 ≤ n && n < Number.twoTo 64

namespace Value

/-- A value of a kind whose payload is the object itself. -/
def make (kind : ValueKind) (n : Native) : Except Refusal Value :=
  match kind, n with
  | .null, .null => .ok .null
  | .bool, .bool b => .ok (.bool b)
  | .int64, .int i => if inInt64 i then .ok (.int64 (.ofInt i)) else .error (.notPayload n kind)
  | .uint64, .int i =>
    if inUInt64 i then .ok (.uint64 (.ofNat i.toNat)) else .error (.notPayload n kind)
  | .float64, .float x => .ok (.float64 x)
  | .decimal, .decimal d => .ok (.decimal d)
  | .text, n =>
    match n.asText? with
    | some s => .ok (.text s)
    | none => .error (.notPayload n kind)
  | .bytes, .bytes .plain b => .ok (.bytes b)
  | .timestamp, .timestamp t => .ok (.timestamp t)
  | .uuid, .uuid u => .ok (.uuid u)
  | kind, n => .error (.notPayload n kind)

/-- A value of the kind that an object has by itself. -/
def of : Native → Except Refusal Value
  | .value v => .ok v
  | .null => .ok .null
  | .bool b => .ok (.bool b)
  | .int i =>
    if inInt64 i then .ok (.int64 (.ofInt i))
    else if inUInt64 i then .ok (.uint64 (.ofNat i.toNat))
    else .error (.outOfRange i)
  | .float x => .ok (.float64 x)
  | .decimal d => .ok (.decimal d)
  | .text s => .ok (.text s)
  | .kind k => .ok (.text k.name)
  | .direction d => .ok (.text d.keyword)
  | .bytes _ b => .ok (.bytes b)
  | .timestamp t => .ok (.timestamp t)
  | .uuid u => .ok (.uuid u)
  | .date _ => .error .bareDate
  | n => .error (.unsupported n.typeName)

/-- A value of a kind, from any spelling of a payload that the kind accepts. -/
def ofKind (kind : ValueKind) (n : Native) : Except ConversionFault Value :=
  let direct := (make kind n).mapError ConversionFault.refused
  match kind, n with
  | .float64, .int i =>
    match Binary64.ofInt? i with
    | some x => .ok (.float64 x)
    | none => .error (.broke .intTooLarge)
  | .decimal, .int i => .ok (.decimal (.ofInt i))
  | .decimal, n =>
    match n.asText? with
    | some s =>
      match Decimal.ofText? s with
      | some d => .ok (.decimal d)
      | none => .error (.refused (.notDecimal n.shown))
    | none => direct
  | .bytes, .bytes _ b => .ok (.bytes b)
  | .uuid, n =>
    match n.asText? with
    | some s =>
      match Uuid.ofText? s with
      | some u => .ok (.uuid u)
      | none => .error (.refused (.notUuid n.shown))
    | none => direct
  | _, _ => direct

/-- A value of a declared kind: values keep their own kind, and nothing is Null. -/
def coerce (n : Native) (kind : Option ValueKind) : Except ConversionFault Value :=
  match kind, n with
  | none, n => (of n).mapError .refused
  | some _, .value v => .ok v
  | some _, .null => .ok .null
  | some k, n => ofKind k n

/-- As `coerce`, with the kind given by name; the name is looked up only when it is needed. -/
def coerceNamed (n : Native) (kind : Option String) : Except ConversionFault Value :=
  match kind, n with
  | none, n => coerce n none
  | some _, .value v => .ok v
  | some _, .null => .ok .null
  | some s, n =>
    match ValueKind.ofName? s with
    | some k => ofKind k n
    | none => .error (.broke (.noKind (Text.quoted s)))

/-- As `make`, with the kind given by name. -/
def makeNamed (kind : String) (n : Native) : Except ConversionFault Value :=
  match ValueKind.ofName? kind with
  | some k => (make k n).mapError .refused
  | none => .error (.broke (.noKind (Text.quoted kind)))

/-- A value from the constructor of its kind; Null takes no payload. -/
def construct (kind : ValueKind) (n : Native) : Except ConversionFault Value :=
  match kind with
  | .null => .ok .null
  | kind => ofKind kind n

/-- Equality of values as numbers, texts and instants: kinds must agree, the two zeros are
one, decimals compare by value and times by instant, and a NaN equals nothing. -/
def equal : Value → Value → Except ConversionFault Bool
  | .float64 x, .float64 y => .ok (x.numEq y)
  | .decimal x, .decimal y =>
    if x.isSignalling || y.isSignalling then .error (.broke .signalling) else .ok (x.numEq y)
  | .timestamp s, .timestamp t => .ok (s.sameInstant t)
  | v, w => .ok (v == w)

end Value

end SqlGateway
