import SqlGateway.Time.Iso8601
import SqlGateway.Value.Convert
set_option autoImplicit false

/-!
# Values: codecs

A codec converts between values and the objects one driver binds and returns.
All codecs read alike; they differ in what they write:

* SQLite stores booleans as integers, and decimals, times, identifiers and
  unsigned words past the signed range as text;
* MySQL stores booleans as integers and identifiers as sixteen bytes, and cannot
  store an offset;
* PostgreSQL stores unsigned words as decimals;
* the generic codec writes every payload as it is.

`decode` with a declared kind gives a value of that kind, Null for nothing, or a
fault; without one it infers the kind from the object.
-/

namespace SqlGateway

/-- The value conventions of one engine's driver. -/
inductive Codec where
  | generic | sqlite | mysql | postgresql
  deriving DecidableEq, Repr, Inhabited

namespace Codec

def name : Codec → String
  | .generic => "generic"
  | .sqlite => "sqlite"
  | .mysql => "mysql"
  | .postgresql => "postgresql"

/-- The name of the codec's kind, as it is shown. -/
def title : Codec → String
  | .generic => "ValueCodec"
  | .sqlite => "SQLiteCodec"
  | .mysql => "MySQLCodec"
  | .postgresql => "PostgreSQLCodec"

/-! ## Writing -/

/-- The object a driver binds for a value. -/
def encode (c : Codec) (v : Value) : Except Refusal Native :=
  match c, v with
  | .sqlite, .bool b => .ok (.int (if b then 1 else 0))
  | .sqlite, .uint64 n =>
    .ok (if n.toNat < Number.twoTo 63 then .int n.toNat else .text (toString n.toNat))
  | .sqlite, .decimal d => .ok (.text d.toText)
  | .sqlite, .timestamp t => .ok (.text t.toText)
  | .sqlite, .uuid u => .ok (.text u.toText)
  | .mysql, .bool b => .ok (.int (if b then 1 else 0))
  | .mysql, .timestamp t =>
    if t.offset.isSome then .error .offsetTimestamp else .ok (.timestamp t)
  | .mysql, .uuid u => .ok (.bytes .plain u.bytes)
  | .postgresql, .uint64 n => .ok (.decimal (.ofInt n.toNat))
  | _, v => .ok (.ofValue v)

/-! ## Reading -/

/-- Largest count of digits an integer literal may have. -/
def maxIntegerDigits : Nat := 4300

/-- Words past this many digits are out of range whatever their digits. -/
def wordDigits : Nat := 40

section
variable (c : Codec)

/-- The refusal of a cell for a declared kind. -/
def cannotDecode (n : Native) (k : ValueKind) : Except ConversionFault Value :=
  .error (.refused (.undecodable n.typeName k c.name))

/-- A whole decimal as an integer, and an integer as itself; other objects stay what they
are.

A whole decimal past the words is replaced by one integer that is past them too: all that is made
of it is the refusal of an integer, which does not show it.  Its digits, of which an exponent can
ask for any number, are never written out, so that memory does not run out over them here. -/
def wholeNumber (n : Native) : Except Breakdown Native :=
  match n with
  | .decimal d =>
    if d.isSignalling then .error .signalling
    else match d with
      | .infinite _ => .error (.infiniteInt "Infinity")
      | d =>
        if d.isWhole then .ok (.int ((d.toInt? wordDigits).getD (Number.twoTo 64))) else .ok n
  | n => .ok n

/-- The integer that a text of digits denotes. -/
def integerOfDigits (s : String) : Except Breakdown Int :=
  let cs := s.toList
  match cs.mapM Text.decimalDigit? with
  | none => .error (.notInteger (Text.quoted s))
  | some ds =>
    if maxIntegerDigits < cs.length then .error (.tooManyDigits cs.length)
    else .ok (Text.ofDigits 10 ds)

def decodeBool (n : Native) : Except ConversionFault Value :=
  match n with
  | .bool b => .ok (.bool b)
  | .int i =>
    if i = 0 then .ok (.bool false)
    else if i = 1 then .ok (.bool true)
    else cannotDecode c n .bool
  | n => cannotDecode c n .bool

def decodeInt64 (n : Native) : Except ConversionFault Value :=
  match wholeNumber n with
  | .error b => .error (.broke b)
  | .ok (.int i) => if inInt64 i then .ok (.int64 (.ofInt i)) else cannotDecode c (.int i) .int64
  | .ok n => cannotDecode c n .int64

def decodeUInt64 (n : Native) : Except ConversionFault Value :=
  let digits := match n.asText? with
    | some s => if !s.isEmpty && s.toList.all Text.isDigit then some s else none
    | none => none
  let whole := match digits with
    | some s => (integerOfDigits s).map Native.int
    | none => wholeNumber n
  match whole with
  | .error b => .error (.broke b)
  | .ok (.int i) =>
    if inUInt64 i then .ok (.uint64 (.ofNat i.toNat)) else cannotDecode c (.int i) .uint64
  | .ok n => cannotDecode c n .uint64

def decodeFloat64 (n : Native) : Except ConversionFault Value :=
  match n with
  | .float x => .ok (.float64 x)
  | .decimal d =>
    match d.toBinary64? with
    | some x => .ok (.float64 x)
    | none => .error (.broke .signallingDouble)
  | .int i => Value.ofKind .float64 (.int i)
  | n => cannotDecode c n .float64

def decodeDecimal (n : Native) : Except ConversionFault Value :=
  match n with
  | .decimal d => .ok (.decimal d)
  | .int i => .ok (.decimal (.ofInt i))
  | .float x => Value.ofKind .decimal (.text (Number.FloatFormat.plain.write x))
  | n =>
    match n.asText? with
    | some s => Value.ofKind .decimal (.text s)
    | none => cannotDecode c n .decimal

def decodeText (n : Native) : Except ConversionFault Value :=
  match n with
  | .bytes .view _ => cannotDecode c n .text
  | .bytes _ b =>
    match String.fromUTF8? ⟨b.toArray⟩ with
    | some s => .ok (.text s)
    | none => cannotDecode c n .text
  | n =>
    match n.asText? with
    | some s => .ok (.text s)
    | none => cannotDecode c n .text

def decodeBytes (n : Native) : Except ConversionFault Value :=
  match n with
  | .bytes _ b => .ok (.bytes b)
  | n => cannotDecode c n .bytes

def decodeTimestamp (n : Native) : Except ConversionFault Value :=
  match n with
  | .timestamp t => .ok (.timestamp t)
  | n =>
    match n.asText?.bind Time.DateTime.ofText? with
    | some t => .ok (.timestamp t)
    | none => cannotDecode c n .timestamp

def decodeUuid (n : Native) : Except ConversionFault Value :=
  match n with
  | .uuid u => .ok (.uuid u)
  | .bytes .view _ => cannotDecode c n .uuid
  | .bytes _ b => if b.length = 16 then .ok (.uuid (.ofBytes b)) else cannotDecode c n .uuid
  | n =>
    match n.asText?.bind Uuid.ofText? with
    | some u => .ok (.uuid u)
    | none => cannotDecode c n .uuid

/-- Read an object, not nothing, as a declared kind. -/
def decodeAs (k : ValueKind) (n : Native) : Except ConversionFault Value :=
  match k with
  | .null => cannotDecode c n .null
  | .bool => decodeBool c n
  | .int64 => decodeInt64 c n
  | .uint64 => decodeUInt64 c n
  | .float64 => decodeFloat64 c n
  | .decimal => decodeDecimal c n
  | .text => decodeText c n
  | .bytes => decodeBytes c n
  | .timestamp => decodeTimestamp c n
  | .uuid => decodeUuid c n

/-- Read an object as the kind it has by itself. -/
def infer (n : Native) : Except ConversionFault Value :=
  match Value.of n with
  | .ok v => .ok v
  | .error r => .error (.refused (.undecodableColumn n.typeName c.name r))

/-- Read an object a driver returned. -/
def decode (n : Native) (kind : Option ValueKind) : Except ConversionFault Value :=
  match n, kind with
  | .null, _ => .ok .null
  | n, none => infer c n
  | n, some k => decodeAs c k n

/-- As `decode`, with the kind given by name; nothing is Null under any name. -/
def decodeNamed (n : Native) (kind : Option String) : Except ConversionFault Value :=
  match n, kind with
  | .null, _ => .ok .null
  | n, none => infer c n
  | n, some s =>
    match ValueKind.ofName? s with
    | some k => decodeAs c k n
    | none => .error (.broke (.noKind (Text.quoted s)))

end

/-! ## Round trips -/

/-- What comes of writing a value and reading it back. -/
structure RoundTrip where
  native : Native
  back : Value
  equal : Bool
  inferred : Except ConversionFault Value

/-- Does the codec hand the payload of a kind to the driver as it is? -/
def carries (c : Codec) (k : ValueKind) : Bool :=
  match c, k with
  | .sqlite, .bool | .sqlite, .uint64 | .sqlite, .decimal | .sqlite, .timestamp
  | .sqlite, .uuid | .mysql, .bool | .mysql, .uuid | .postgresql, .uint64 => false
  | _, _ => true

/-- Write a value, read it back as its own kind and as none.  A payload that was carried
through is the same object and so equal to itself, even a NaN. -/
def roundTrip (c : Codec) (v : Value) : Except ConversionFault RoundTrip := do
  let native ← (c.encode v).mapError .refused
  let back ← c.decode native (some v.kind)
  let equal ← if c.carries v.kind then pure true else v.equal back
  pure { native, back, equal, inferred := c.decode native none }

end Codec

end SqlGateway
