import SqlGateway.Value.Shown
import SqlGateway.Text.Hex
set_option autoImplicit false

/-!
# Logging: JSON

Objects as JSON text.  Everything that JSON has no form for is written as a string
that shows it; characters outside ASCII are escaped.
-/

namespace SqlGateway.Logging

/-- One escaped sixteen-bit unit. -/
def unitEscape (n : Nat) : List Char := '\\' :: 'u' :: Text.hexDigits 4 n

/-- A character inside a JSON string. -/
def jsonChar (c : Char) : List Char :=
  let n := c.toNat
  if c == '"' then ['\\', '"']
  else if c == '\\' then ['\\', '\\']
  else if c == '\n' then ['\\', 'n']
  else if c == '\r' then ['\\', 'r']
  else if c == '\t' then ['\\', 't']
  else if n == 0x08 then ['\\', 'b']
  else if n == 0x0c then ['\\', 'f']
  else if 0x20 ≤ n && n < 0x7f then [c]
  else if n < 0x10000 then unitEscape n
  else
    let m := n - 0x10000
    unitEscape (0xd800 + m / 0x400) ++ unitEscape (0xdc00 + m % 0x400)

/-- A JSON string. -/
def jsonText (s : String) : String :=
  "\"" ++ String.ofList (s.toList.flatMap jsonChar) ++ "\""

mutual

/-- An object as JSON. -/
def json : Native → String
  | .null => "null"
  | .bool b => if b then "true" else "false"
  | .int n => toString n
  | .float x => Number.FloatFormat.json.write x
  | .text s => jsonText s
  | .kind k => jsonText k.name
  | .direction d => jsonText d.keyword
  | .list items | .tuple items => "[" ++ ", ".intercalate (jsonAll items) ++ "]"
  | .dict entries => "\x7b" ++ ", ".intercalate (jsonEntries entries) ++ "\x7d"
  | .decimal d => jsonText (Shown.decimal d)
  | .bytes h b => jsonText (Native.bytes h b).shown
  | .timestamp t => jsonText (Shown.dateTime t)
  | .date d => jsonText (Shown.date d)
  | .uuid u => jsonText (Shown.uuid u)
  | .value v => jsonText v.shown
  | .column name => jsonText (Native.column name).shown
  | .columnHandle name => jsonText (Native.columnHandle name).shown
  | .other t => jsonText (Native.other t).shown

/-- The members of a list as JSON. -/
def jsonAll : List Native → List String
  | [] => []
  | n :: rest => json n :: jsonAll rest

/-- The entries of a dictionary as JSON. -/
def jsonEntries : List (String × Native) → List String
  | [] => []
  | (key, n) :: rest => (jsonText key ++ ": " ++ json n) :: jsonEntries rest

end

end SqlGateway.Logging
