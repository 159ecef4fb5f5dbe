import SqlGateway.Number.FloatText
import SqlGateway.Text.Quoted
import SqlGateway.Time.Iso8601
import SqlGateway.Value.Basic
set_option autoImplicit false

/-!
# Values: how messages show objects

Messages name the type of an object and show the object as a literal.  The
spellings of types and literals below are part of the messages.
-/

namespace SqlGateway

/-- The name of an object's type in messages. -/
def Native.typeName : Native → String
  | .null => "NoneType"
  | .bool _ => "bool"
  | .int _ => "int"
  | .float _ => "float"
  | .decimal _ => "Decimal"
  | .text _ => "str"
  | .bytes .plain _ => "bytes"
  | .bytes .buffer _ => "bytearray"
  | .bytes .view _ => "memoryview"
  | .timestamp _ => "datetime"
  | .date _ => "date"
  | .uuid _ => "UUID"
  | .list _ => "list"
  | .tuple _ => "tuple"
  | .dict _ => "dict"
  | .value _ => "Value"
  | .column _ => "Column"
  | .columnHandle _ => "ColumnProxy"
  | .kind _ => "ValueKind"
  | .direction _ => "Direction"
  | .other t => t

/-- The name of an object's type with the package it comes from. -/
def Native.longTypeName (n : Native) : String :=
  match n with
  | .timestamp _ => "datetime.datetime"
  | .date _ => "datetime.date"
  | n => n.typeName

namespace Shown

def bool (b : Bool) : String := if b then "True" else "False"

def date (d : Time.Date) : String := s!"datetime.date({d.year}, {d.month}, {d.day})"

/-- An offset: universal time by name, any other as days, seconds and microseconds. -/
def offset (o : Time.Offset) : String :=
  if o.micros == 0 then "datetime.timezone.utc"
  else
    let days := o.micros / Time.microsPerDay
    let rest := o.micros % Time.microsPerDay
    let seconds := rest / 1000000
    let micros := rest % 1000000
    let parts := (if days == 0 then [] else [s!"days={days}"]) ++
      (if seconds == 0 then [] else [s!"seconds={seconds}"]) ++
      (if micros == 0 then [] else [s!"microseconds={micros}"])
    "datetime.timezone(datetime.timedelta(" ++ ", ".intercalate parts ++ "))"

/-- A time: seconds and microseconds are left out from the end while they are zero. -/
def dateTime (t : Time.DateTime) : String :=
  let c := t.clock
  let fields := [t.date.year, t.date.month, t.date.day, c.hour, c.minute] ++
    (if c.micro != 0 then [c.second, c.micro] else if c.second != 0 then [c.second] else [])
  let fields := fields.map (fun n => toString n)
  let fields := fields ++ match t.offset with
    | some o => ["tzinfo=" ++ offset o]
    | none => []
  "datetime.datetime(" ++ ", ".intercalate fields ++ ")"

def decimal (d : Decimal) : String := "Decimal('" ++ d.toText ++ "')"

def uuid (u : Uuid) : String := "UUID('" ++ u.toText ++ "')"

/-- The payload of a value. -/
def payload : Value → String
  | .null => "None"
  | .bool b => bool b
  | .int64 n => toString n.toInt
  | .uint64 n => toString n.toNat
  | .float64 x => Number.FloatFormat.plain.write x
  | .decimal d => decimal d
  | .text s => Text.quoted s
  | .bytes b => Text.quotedBytes b
  | .timestamp t => dateTime t
  | .uuid u => uuid u

end Shown

/-- A value with its kind. -/
def Value.shown (v : Value) : String :=
  match v with
  | .null => "Value(null)"
  | v => "Value(" ++ v.kind.name ++ ", " ++ Shown.payload v ++ ")"

mutual

/-- An object as a literal. -/
def Native.shown : Native → String
  | .null => "None"
  | .bool b => Shown.bool b
  | .int n => toString n
  | .float x => Number.FloatFormat.plain.write x
  | .decimal d => Shown.decimal d
  | .text s => Text.quoted s
  | .bytes .plain b => Text.quotedBytes b
  | .bytes .buffer b => "bytearray(" ++ Text.quotedBytes b ++ ")"
  | .bytes .view _ => "<memory>"
  | .timestamp t => Shown.dateTime t
  | .date d => Shown.date d
  | .uuid u => Shown.uuid u
  | .list items => "[" ++ ", ".intercalate (Native.shownAll items) ++ "]"
  | .tuple items =>
    match Native.shownAll items with
    | [one] => "(" ++ one ++ ",)"
    | parts => "(" ++ ", ".intercalate parts ++ ")"
  | .dict entries => "\x7b" ++ ", ".intercalate (Native.shownEntries entries) ++ "\x7d"
  | .value v => v.shown
  | .column name => "Column(name=" ++ Text.quoted name ++ ")"
  | .columnHandle name => "col(" ++ Text.quoted name ++ ")"
  | .kind k => "<ValueKind." ++ k.name.toUpper ++ ": " ++ Text.quoted k.name ++ ">"
  | .direction d => "<Direction." ++ d.keyword ++ ": " ++ Text.quoted d.keyword ++ ">"
  | .other t => "<" ++ t ++ " object>"

/-- The literals of the members of a list. -/
def Native.shownAll : List Native → List String
  | [] => []
  | n :: rest => n.shown :: Native.shownAll rest

/-- The literals of the entries of a dictionary. -/
def Native.shownEntries : List (String × Native) → List String
  | [] => []
  | (key, n) :: rest => (Text.quoted key ++ ": " ++ n.shown) :: Native.shownEntries rest

end

/-- The text of an object where it is not quoted: a text stands as itself. -/
def Native.plain (n : Native) : String :=
  match n with
  | .text s => s
  | .decimal d => d.toText
  | .timestamp t => String.ofList (t.date.chars ++ ' ' :: (t.clock.chars ++
      match t.offset with | some o => o.chars | none => []))
  | .date d => d.toText
  | .uuid u => u.toText
  | .kind k => "ValueKind." ++ k.name.toUpper
  | .direction d => "Direction." ++ d.keyword
  | n => n.shown

end SqlGateway
