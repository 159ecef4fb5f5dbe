import SqlGateway.Dialect.Registry
import SqlGateway.Url.Split
set_option autoImplicit false

/-!
# Configuration: the database

Where to connect.  A configuration is read from a URL and written back to one;
building one never opens a connection.  The password never appears in what is
shown.
-/

namespace SqlGateway

/-- The engines. -/
inductive Engine where
  | sqlite | mysql | postgresql
  deriving DecidableEq, Repr, Inhabited

namespace Engine

/-- The tag of an engine. -/
def tag : Engine → String
  | .sqlite => "sqlite"
  | .mysql => "mysql"
  | .postgresql => "postgresql"

/-- The engine of a tag in any of its spellings. -/
def ofTag? (tag : String) : Option Engine :=
  let key := normalizeTag tag
  [Engine.sqlite, .mysql, .postgresql].find? fun e => e.tag == key

/-- The port of an engine on a network. -/
def defaultPort? : Engine → Option Int
  | .sqlite => none
  | .mysql => some 3306
  | .postgresql => some 5432

def dialect : Engine → Dialect
  | .sqlite => .sqlite
  | .mysql => .mysql
  | .postgresql => .postgresql

end Engine

/-- Where a database is.  SQLite reads the path only; the others read the rest. -/
structure DatabaseConfig where
  engine : Engine := .sqlite
  path : Option String := none
  host : String := "localhost"
  port : Native := .null
  database : String := ""
  username : Option String := none
  password : Option String := none
  connectTimeout : Native := .float (.ofQuotient false 10 1)
  readonly : Native := .bool false
  /-- Further options for the engine's client. -/
  options : List (String × Native) := []
  deriving Repr

namespace DatabaseConfig

/-- A text that is there and not empty. -/
def nonEmpty : Option String → Option String
  | some "" => none
  | s => s

/-- Fill in what the engine supplies itself; an engine on a network needs a database. -/
def complete (c : DatabaseConfig) : Except Failure DatabaseConfig :=
  let port := match c.port, c.engine.defaultPort? with
    | .null, some p => .int p
    | port, _ => port
  if c.engine == .sqlite then
    .ok { c with port, path := some ((nonEmpty c.path).getD ":memory:") }
  else if c.database.isEmpty then
    .error (.make .config (c.engine.tag ++ " configuration requires a database name"))
  else .ok { c with port }

/-- The names of the fields. -/
def fieldNames : List String :=
  ["db_type", "path", "host", "port", "database", "username", "password", "connect_timeout",
    "readonly", "options"]

/-- The text of a field that holds one or nothing. -/
def textField (n : Native) : Option String :=
  match n with
  | .null => none
  | n => some n.plain

/-- Set a field by name; the engine is set elsewhere. -/
def setField (c : DatabaseConfig) (key : String) (n : Native) : DatabaseConfig :=
  match key with
  | "path" => { c with path := textField n }
  | "host" => { c with host := n.plain }
  | "port" => { c with port := n }
  | "database" => { c with database := (textField n).getD "" }
  | "username" => { c with username := textField n }
  | "password" => { c with password := textField n }
  | "connect_timeout" => { c with connectTimeout := n }
  | "readonly" => { c with readonly := n }
  | "options" =>
    match n with
    | .dict entries => { c with options := entries }
    | _ => c
  | _ => c

/-- A field that does not exist, or one that is given twice. -/
def misfit (key : String) : Failure :=
  .primitive .type ("unexpected or repeated argument " ++ Text.quoted key)

/-- A configuration from its fields. -/
def ofFields (fields : List (String × Native)) : Except Failure DatabaseConfig := do
  match fields.find? fun f => !fieldNames.contains f.1 with
  | some (key, _) => .error (misfit key)
  | none =>
    let tag := match fields.find? fun f => f.1 == "db_type" with
      | some (_, n) => n
      | none => .text Engine.sqlite.tag
    match Engine.ofTag? tag.engineTag with
    | none => .error (.make .config ("Unsupported database type: " ++ tag.shown))
    | some engine =>
      complete (fields.foldl (fun c f => c.setField f.1 f.2) { engine })

/-! ## URLs -/

/-- The text before the first `://` and the text after it. -/
def splitScheme : List Char → Option (List Char × List Char)
  | [] => none
  | ':' :: '/' :: '/' :: rest => some ([], rest)
  | c :: rest => (splitScheme rest).map fun s => (c :: s.1, s.2)

/-- Options of a query; the last of equal names counts. -/
def optionsOf (query : List Char) : List (String × Native) :=
  (Url.queryFields query).foldl (fun es f => putEntry es f.1 (.text f.2)) []

/-- The configuration of a file: host and path are one text, and nothing or a lone slash is
memory. -/
def ofFileUrl (rest : List Char) : DatabaseConfig :=
  let (path, query) := Url.cutAt (· == '?') rest
  let memory := path.isEmpty || path == ['/'] || String.ofList path == "/:memory:"
  { engine := .sqlite
    path := some (if memory then ":memory:" else Url.decode path)
    options := optionsOf (query.getD []) }

/-- A user or a password, which is nothing when it is empty. -/
def credential : Option (List Char) → Option String
  | none => none
  | some [] => none
  | some cs => some (Url.decode cs)

/-- The configuration of a server. -/
def ofServerUrl (engine : Engine) (rest : List Char) : Except Failure DatabaseConfig :=
  match Url.split rest with
  | .error fault =>
    .error (.make .config ("Malformed database URL: " ++ fault.message)
      (some (.primitive .value fault.message)))
  | .ok parts =>
    .ok {
      engine
      host := if parts.host.isEmpty then "localhost" else String.ofList parts.host
      port := match parts.port with
        | some p => .int p
        | none => .null
      database := Url.decode (parts.path.dropWhile (· == '/'))
      username := credential parts.username
      password := credential parts.password
      options := optionsOf parts.query }

/-- The fields that a URL sets itself. -/
def urlFields : Engine → List String
  | .sqlite => ["db_type", "path", "options"]
  | _ => ["db_type", "host", "port", "database", "username", "password", "options"]

/-- Read a URL; further fields may be given beside it. -/
def ofUrl (url : Native) (overrides : List (String × Native)) : Except Failure DatabaseConfig := do
  match overrides.find? fun f => f.1 == "url" || f.1 == "cls" with
  | some (key, _) => .error (misfit key)
  | none =>
    match url.asText?.bind fun s => splitScheme s.toList with
    | none => .error (.make .config ("Malformed database URL: " ++ url.shown))
    | some (scheme, rest) =>
      match Engine.ofTag? (String.ofList scheme) with
      | none =>
        .error ((Failure.make .config
          ("Unknown database scheme " ++ Text.quoted (String.ofList scheme))).withContext
            "operation" (.text "from_url"))
      | some engine =>
        let c ← if engine == .sqlite then pure (ofFileUrl rest) else ofServerUrl engine rest
        match overrides.find? fun f =>
          !fieldNames.contains f.1 || (urlFields engine).contains f.1 with
        | some (key, _) => .error (misfit key)
        | none => complete (overrides.foldl (fun c f => c.setField f.1 f.2) c)

/-- User and password in front of a host. -/
def writeCredentials (c : DatabaseConfig) (redact : Bool) : String :=
  match nonEmpty c.username with
  | none => ""
  | some user =>
    let secret := match nonEmpty c.password with
      | none => ""
      | some p => ":" ++ (if redact then "***" else Url.encode p)
    Url.encode user ++ secret ++ "@"

/-- Write a URL, with the password or with a mask for it. -/
def toUrl (c : DatabaseConfig) (redact : Bool) : String :=
  match c.engine with
  | .sqlite => "sqlite://" ++ (c.path.getD "None")
  | engine =>
    engine.tag ++ "://" ++ c.writeCredentials redact ++ c.host ++ ":" ++ c.port.plain ++ "/" ++
      c.database

/-- The configuration in one line. -/
def shown (c : DatabaseConfig) : String :=
  "DatabaseConfig(" ++ Text.quoted (c.toUrl true) ++ ")"

end DatabaseConfig

end SqlGateway
