import SqlGateway.Query.Statement
import SqlGateway.Value.Codec
set_option autoImplicit false

/-!
# Dialects: what differs between engines

A dialect is data: how names are quoted, how bound values are shown, which
constructs exist, and which codec writes the values.  Quoting is here; rendering
is in `Dialect.Render`.
-/

namespace SqlGateway

/-- The SQL of one engine. -/
structure Dialect where
  name : String
  /-- The name of the dialect's kind, as it is shown. -/
  title : String
  quote : String
  style : ParamStyle
  /-- Words that must be quoted beside the common ones. -/
  reserved : List String
  /-- The limit that stands for none where an offset needs one. -/
  unboundedLimit : Option String
  /-- Percent signs in names and hand-written text are doubled. -/
  escapePercent : Bool
  joins : List JoinKind
  ilike : Bool
  returning : Bool
  codec : Codec
  /-- The statement that opens a transaction. -/
  begin : String
  deriving DecidableEq, Repr

namespace Dialect

def commit : String := "COMMIT"

def rollback : String := "ROLLBACK"

/-- Words that are quoted on every engine. -/
def commonReserved : List String :=
  ["ADD", "ALL", "ALTER", "AND", "ANY", "AS", "ASC", "BETWEEN", "BY", "CASE", "CHECK", "COLUMN",
    "CONSTRAINT", "CREATE", "CROSS", "CURRENT_DATE", "CURRENT_TIME", "CURRENT_TIMESTAMP",
    "DEFAULT", "DELETE", "DESC", "DISTINCT", "DROP", "ELSE", "END", "EXCEPT", "EXISTS", "FALSE",
    "FOREIGN", "FROM", "FULL", "GRANT", "GROUP", "HAVING", "IN", "INDEX", "INNER", "INSERT",
    "INTERSECT", "INTO", "IS", "JOIN", "KEY", "LEFT", "LIKE", "LIMIT", "NATURAL", "NOT", "NULL",
    "OFFSET", "ON", "OR", "ORDER", "OUTER", "PRIMARY", "REFERENCES", "RIGHT", "SELECT", "SET",
    "TABLE", "THEN", "TO", "TRUE", "UNION", "UNIQUE", "UPDATE", "USING", "VALUES", "WHEN",
    "WHERE", "WITH"]

/-- The dialect that others vary. -/
def generic : Dialect where
  name := "generic"
  title := "SQLDialect"
  quote := "\""
  style := .qmark
  reserved := []
  unboundedLimit := none
  escapePercent := false
  joins := [.inner, .left]
  ilike := false
  returning := false
  codec := .generic
  begin := "BEGIN"

def sqlite : Dialect :=
  { generic with
    name := "sqlite"
    title := "SQLiteDialect"
    reserved := ["ABORT", "AUTOINCREMENT", "GLOB", "PRAGMA", "REGEXP", "VACUUM"]
    unboundedLimit := some "-1"
    codec := .sqlite }

/-- The driver replaces each format placeholder and passes any other percent sign through. -/
def mysql : Dialect :=
  { generic with
    name := "mysql"
    title := "MySQLDialect"
    quote := "\x60"
    style := .format
    reserved := ["CONDITION", "DIV", "INTERVAL", "KEYS", "LOCK", "MOD", "RANGE", "READ", "RLIKE",
      "SCHEMA", "WRITE"]
    unboundedLimit := some "18446744073709551615"
    joins := [.inner, .left, .right]
    codec := .mysql
    begin := "START TRANSACTION" }

def postgresql : Dialect :=
  { generic with
    name := "postgresql"
    title := "PostgreSQLDialect"
    style := .format
    reserved := ["ANALYSE", "ANALYZE", "ARRAY", "CAST", "COLLATE", "CURRENT_USER", "DO", "FETCH",
      "FOR", "ONLY", "RETURNING", "SOME", "SYMMETRIC", "USER", "WINDOW"]
    escapePercent := true
    joins := JoinKind.all
    ilike := true
    returning := true
    codec := .postgresql }

/-- The dialect in one line. -/
def shown (d : Dialect) : String := d.title ++ "()"

/-- Placeholders for so many values. -/
def placeholders (d : Dialect) (count : Int) : String :=
  ", ".intercalate (List.replicate count.toNat d.style.placeholder)

/-! ## Text -/

/-- Double every percent sign. -/
def doublePercent : List Char → List Char
  | [] => []
  | c :: rest => if c == '%' then '%' :: '%' :: doublePercent rest else c :: doublePercent rest

/-- Text that is not the dialect's own, as it is sent to the driver. -/
def verbatim (d : Dialect) (cs : List Char) : List Char :=
  if d.escapePercent then doublePercent cs else cs

/-- The rest of a text after a leading pattern. -/
def dropPattern? : List Char → List Char → Option (List Char)
  | [], cs => some cs
  | _ :: _, [] => none
  | p :: ps, c :: cs => if p == c then dropPattern? ps cs else none

theorem dropPattern?_length {p cs r : List Char} (h : dropPattern? p cs = some r) :
    r.length + p.length = cs.length := by
  induction p generalizing cs with
  | nil => simp only [dropPattern?, Option.some.injEq] at h; simp [h]
  | cons a p ih =>
    cases cs with
    | nil => simp [dropPattern?] at h
    | cons c cs =>
      simp only [dropPattern?] at h
      split at h
      · have := ih h; simp only [List.length_cons]; omega
      · simp at h

/-- Double every occurrence of a quote in a text, from the left and without overlap. -/
def doubleQuote (quote cs : List Char) : List Char :=
  match quote, cs with
  | [], cs => cs
  | _, [] => []
  | q :: qs, c :: rest =>
    match _h : dropPattern? (q :: qs) (c :: rest) with
    | some after => (q :: qs) ++ (q :: qs) ++ doubleQuote (q :: qs) after
    | none => c :: doubleQuote (q :: qs) rest
termination_by cs.length
decreasing_by
  · have := dropPattern?_length _h; simp only [List.length_cons] at this ⊢; omega
  · simp

/-! ## Names -/

def isAsciiLetter (c : Char) : Bool :=
  ('a' ≤ c && c ≤ 'z') || ('A' ≤ c && c ≤ 'Z')

/-- Letters, digits and underscores of ASCII, no digit first. -/
def isWord : List Char → Bool
  | [] => false
  | c :: rest =>
    (isAsciiLetter c || c == '_') &&
      rest.all fun c => isAsciiLetter c || c.isDigit || c == '_'

/-- A word, which may be followed by one line break. -/
def isPlain (part : List Char) : Bool :=
  isWord part || (part.getLast? == some '\n' && isWord part.dropLast)

/-- The word is a keyword of the engine in any case. -/
def isReserved (d : Dialect) (part : List Char) : Bool :=
  let word := String.ofList (part.map Char.toUpper)
  commonReserved.contains word || d.reserved.contains word

/-- A part of a name needs no quotes. -/
def standsBare (d : Dialect) (part : List Char) : Bool :=
  part == ['*'] || (isPlain part && !d.isReserved part)

/-- A part of a name in quotes. -/
def quotedPart (d : Dialect) (part : List Char) : List Char :=
  let q := d.quote.toList
  q ++ doubleQuote q part ++ q

/-- One part of a name as it is written. -/
def writePart (d : Dialect) (part : List Char) : List Char :=
  if d.standsBare part then part else d.verbatim (d.quotedPart part)

/-- Parts of a name with dots between them. -/
def dotted : List (List Char) → List Char
  | [] => []
  | [part] => part
  | part :: rest => part ++ '.' :: dotted rest

/-- A name as it is written: every part is quoted where it needs to be. -/
def quoteName (d : Dialect) (name : String) : String :=
  String.ofList (dotted ((Query.nameParts name.toList).map d.writePart))

end Dialect

end SqlGateway
