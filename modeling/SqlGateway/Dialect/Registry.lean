import SqlGateway.Dialect.Render
set_option autoImplicit false

/-!
# Dialects: by engine tag

A tag is read in any case, and some engines have more than one.  A registry holds
the dialects by lower-case tag; registering under an engine's own tag replaces its
dialect.
-/

namespace SqlGateway

/-- Other tags of the engines. -/
def engineAliases : List (String × String) :=
  [("postgres", "postgresql"), ("pg", "postgresql"), ("mariadb", "mysql"), ("sqlite3", "sqlite")]

/-- The tag of an engine in its one form. -/
def normalizeTag (tag : String) : String :=
  let key := Text.toLower tag
  match engineAliases.find? fun a => a.1 == key with
  | some (_, engine) => engine
  | none => key

/-- The tag that an object spells: its text, if it is one, else what it is shown as. -/
def Native.engineTag (n : Native) : String := n.asText?.getD n.plain

/-- The codec of an engine. -/
def Codec.ofTag (tag : String) : Except Refusal Codec :=
  let key := normalizeTag tag
  match [Codec.sqlite, .mysql, .postgresql].find? fun c => c.name == key with
  | some c => .ok c
  | none => .error (.noCodec (Text.quoted tag))

/-- Dialects by tag. -/
structure DialectRegistry where
  entries : List (String × Dialect) :=
    [("sqlite", .sqlite), ("mysql", .mysql), ("postgresql", .postgresql)]

namespace DialectRegistry

/-- A list of texts in order of their characters. -/
def sorted (tags : List String) : List String := tags.mergeSort fun a b => !(b < a)

/-- The dialect of an engine. -/
def get (r : DialectRegistry) (tag : String) : Except Failure Dialect :=
  match r.entries.find? fun e => e.1 == normalizeTag tag with
  | some (_, d) => .ok d
  | none =>
    .error (.make .config ("Unknown dialect '" ++ tag ++ "'. Supported: " ++
      (Native.list ((sorted (r.entries.map Prod.fst)).map .text)).shown))

/-- Put a dialect under a tag, in lower case. -/
def register (r : DialectRegistry) (tag : String) (d : Dialect) : DialectRegistry :=
  { r with entries := putEntry r.entries (Text.toLower tag) d }

end DialectRegistry

end SqlGateway
