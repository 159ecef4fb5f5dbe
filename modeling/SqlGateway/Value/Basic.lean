import SqlGateway.Number.Decimal
import SqlGateway.Time.Calendar
import SqlGateway.Value.Uuid
set_option autoImplicit false

/-!
# Values: the variants

A `Value` is what a statement binds and what a result holds: one of ten kinds,
each with a payload that is valid for its kind by its type.  A `Native` is an
object as a caller passes it or as a driver returns it, which may or may not be
the payload of a value.
-/

namespace SqlGateway

/-- The variants of a value. -/
inductive ValueKind where
  | null | bool | int64 | uint64 | float64 | decimal | text | bytes | timestamp | uuid
  deriving DecidableEq, Repr, Inhabited

namespace ValueKind

/-- The name of a kind in messages and descriptors. -/
def name : ValueKind → String
  | .null => "null"
  | .bool => "bool"
  | .int64 => "int64"
  | .uint64 => "uint64"
  | .float64 => "float64"
  | .decimal => "decimal"
  | .text => "text"
  | .bytes => "bytes"
  | .timestamp => "timestamp"
  | .uuid => "uuid"

def all : List ValueKind :=
  [.null, .bool, .int64, .uint64, .float64, .decimal, .text, .bytes, .timestamp, .uuid]

def ofName? (s : String) : Option ValueKind := all.find? fun k => k.name == s

theorem ofName?_name (k : ValueKind) : ofName? k.name = some k := by cases k <;> decide

end ValueKind

/-- A typed scalar. -/
inductive Value where
  | null
  | bool (b : Bool)
  | int64 (n : Int64)
  | uint64 (n : UInt64)
  | float64 (x : Binary64)
  | decimal (d : Decimal)
  | text (s : String)
  | bytes (b : List UInt8)
  | timestamp (t : Time.DateTime)
  | uuid (u : Uuid)
  deriving DecidableEq, Repr

namespace Value

def kind : Value → ValueKind
  | .null => .null
  | .bool _ => .bool
  | .int64 _ => .int64
  | .uint64 _ => .uint64
  | .float64 _ => .float64
  | .decimal _ => .decimal
  | .text _ => .text
  | .bytes _ => .bytes
  | .timestamp _ => .timestamp
  | .uuid _ => .uuid

def isNull (v : Value) : Bool := v.kind == .null

end Value

/-- How a byte string is held: as such, in a mutable buffer, or as a view of one.  A view shows its
bytes throughout: one that its owner has released, and that fails when it is read, is not
modelled. -/
inductive ByteHolder where
  | plain | buffer | view
  deriving DecidableEq, Repr

/-- Sort directions. -/
inductive Direction where
  | asc | desc
  deriving DecidableEq, Repr

/-- The keyword of a direction. -/
def Direction.keyword : Direction → String
  | .asc => "ASC"
  | .desc => "DESC"

/-- An object outside the value model: an argument of a caller or a cell of a driver. -/
inductive Native where
  | null
  | bool (b : Bool)
  | int (n : Int)
  | float (x : Binary64)
  | decimal (d : Decimal)
  | text (s : String)
  | bytes (holder : ByteHolder) (b : List UInt8)
  | timestamp (t : Time.DateTime)
  | date (d : Time.Date)
  | uuid (u : Uuid)
  | list (items : List Native)
  | tuple (items : List Native)
  | dict (entries : List (String × Native))
  | value (v : Value)
  /-- A column reference, checked or not. -/
  | column (name : String)
  /-- A handle on a column, whose name has been checked. -/
  | columnHandle (name : String)
  | kind (k : ValueKind)
  | direction (d : Direction)
  /-- Anything else, known by the name of its type only; it can be shown without failing. -/
  | other (typeName : String)
  deriving Repr

namespace Native

instance : Inhabited Native := ⟨.null⟩

/-- The payload of a value. -/
def ofValue : Value → Native
  | .null => .null
  | .bool b => .bool b
  | .int64 n => .int n.toInt
  | .uint64 n => .int n.toNat
  | .float64 x => .float x
  | .decimal d => .decimal d
  | .text s => .text s
  | .bytes b => .bytes .plain b
  | .timestamp t => .timestamp t
  | .uuid u => .uuid u

/-- A text, also one that names a kind or a direction. -/
def asText? : Native → Option String
  | .text s => some s
  | .kind k => some k.name
  | .direction d => some d.keyword
  | _ => none

end Native

end SqlGateway
