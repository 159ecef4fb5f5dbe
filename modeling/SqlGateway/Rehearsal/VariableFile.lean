import SqlGateway.Failure
import SqlGateway.Text.Blank
import SqlGateway.Text.Case
set_option autoImplicit false

/-!
# Rehearsal: variable files

A stand-in for the library that reads a variable file.  Such a file binds one name a
line.  A value may stand bare, up to a comment or the end of the line, or in quotes,
where it may span lines and hold escapes.  A line that cannot be read is skipped.
Values may refer to other variables as `${name}` or `${name:-default}`.
-/

namespace SqlGateway.Dotenv

/-- White space within a line. -/
def isInline (c : Char) : Bool := Text.isBlank c && c != '\n' && c != '\r'

/-- Line breaks of every kind become one. -/
def unifyBreaks : List Char → List Char
  | '\r' :: '\n' :: rest => '\n' :: unifyBreaks rest
  | '\r' :: rest => '\n' :: unifyBreaks rest
  | c :: rest => c :: unifyBreaks rest
  | [] => []

/-- What is left of a text after a word that white space follows, and that space. -/
def dropExport (cs : List Char) : List Char :=
  if "export".toList.isPrefixOf cs then
    let rest := cs.drop 6
    match rest with
    | c :: _ => if isInline c then rest.dropWhile isInline else cs
    | [] => cs
  else cs

/-! ## Quoted values -/

/-- The text up to the first quote without a backslash before it, and what follows. -/
def closeAtPlain (quote : Char) : Bool → List Char → Option (List Char × List Char)
  | _, [] => none
  | escaped, c :: rest =>
    if c == quote && !escaped then some ([], rest)
    else (closeAtPlain quote (c == '\\') rest).map fun r => (c :: r.1, r.2)

/-- The text up to the last quote, and what follows. -/
def closeAtLast (quote : Char) (cs : List Char) : Option (List Char × List Char) :=
  let after := (cs.reverse.takeWhile (· != quote)).reverse
  let before := cs.take (cs.length - after.length)
  match before.getLast? with
  | some _ => some (before.dropLast, after)
  | none => none

/-- A quoted text without its opening quote: it ends at the first quote that is not escaped, or
at the last one if all are. -/
def closeQuote (quote : Char) (cs : List Char) : Option (List Char × List Char) :=
  (closeAtPlain quote false cs).orElse fun _ => closeAtLast quote cs

/-- The character that an escape stands for. -/
def escapeOf? (quote c : Char) : Option Char :=
  if c == '\\' then some '\\'
  else if c == '\'' then some '\''
  else if quote == '\'' then none
  else if c == '"' then some '"'
  else if c == 'a' then some '\x07'
  else if c == 'b' then some '\x08'
  else if c == 'f' then some '\x0c'
  else if c == 'n' then some '\n'
  else if c == 'r' then some '\r'
  else if c == 't' then some '\t'
  else if c == 'v' then some '\x0b'
  else none

/-- A quoted text with its escapes read. -/
def unescape (quote : Char) : List Char → List Char
  | '\\' :: c :: rest =>
    match escapeOf? quote c with
    | some d => d :: unescape quote rest
    | none => '\\' :: unescape quote (c :: rest)
  | c :: rest => c :: unescape quote rest
  | [] => []

/-! ## Bindings -/

/-- A text up to white space that a comment follows. -/
def beforeComment : List Char → List Char
  | [] => []
  | c :: rest =>
    if Text.isBlank c && (rest.dropWhile Text.isBlank).head? == some '#' then []
    else c :: beforeComment rest

def dropTrailingBlanks (cs : List Char) : List Char :=
  (cs.reverse.dropWhile Text.isBlank).reverse

/-- The value at the start of a text and what follows it, or what is left to skip. -/
def value (cs : List Char) : Except (List Char) (List Char × List Char) :=
  match cs with
  | [] => .ok ([], [])
  | c :: rest =>
    if c == '\'' || c == '"' then
      match closeQuote c rest with
      | some (text, rest) => .ok (unescape c text, rest)
      | none => .error cs
    else
      let line := cs.takeWhile (· != '\n')
      .ok (dropTrailingBlanks (beforeComment line), cs.drop line.length)

/-- The name at the start of a text; none at a comment. -/
def key (cs : List Char) : Except (List Char) (Option (List Char) × List Char) :=
  match cs with
  | '#' :: _ => .ok (none, cs)
  | '\'' :: rest =>
    let name := rest.takeWhile (· != '\'')
    match rest.drop name.length with
    | _ :: after => if name.isEmpty then .error cs else .ok (some name, after)
    | [] => .error cs
  | cs =>
    let name := cs.takeWhile fun c => c != '=' && c != '#' && !Text.isBlank c
    if name.isEmpty then .error cs else .ok (some name, cs.drop name.length)

/-- The end of a line, which only a comment may precede. -/
def lineEnd (cs : List Char) : Except (List Char) (List Char) :=
  let ahead := cs.dropWhile isInline
  let rest := if ahead.head? == some '#' then ahead.dropWhile (· != '\n') else ahead
  match rest with
  | [] => .ok []
  | '\n' :: after => .ok after
  | _ => .error cs

/-- A name and its value, if it has one. -/
abbrev Binding := String × Option String

/-- One line, which starts with something that is not blank. -/
def line (cs : List Char) : Except (List Char) (Option Binding × List Char) := do
  let (name, rest) ← key (dropExport cs)
  let rest := rest.dropWhile isInline
  let (v, rest) ← match rest with
    | '=' :: after => do
      let (v, rest) ← value (after.dropWhile isInline)
      pure (some (String.ofList v), rest)
    | rest => pure (none, rest)
  let rest ← lineEnd rest
  return (name.map fun n => (String.ofList n, v), rest)

/-- The lines of a text; the fuel is its length. -/
def lines : Nat → List Char → List Binding
  | 0, _ => []
  | fuel + 1, cs =>
    match cs.dropWhile Text.isBlank with
    | [] => []
    | cs =>
      match line cs with
      | .ok (some b, rest) => b :: lines fuel rest
      | .ok (none, rest) => lines fuel rest
      | .error rest => lines fuel ((rest.dropWhile (· != '\n')).drop 1)

/-- The bindings of a file, in order. -/
def bindings (text : String) : List Binding :=
  let cs := unifyBreaks text.toList
  lines (cs.length + 1) cs

/-! ## References -/

/-- A reference behind its `${`: the name, the default, and what follows. -/
def reference? (cs : List Char) : Option (List Char × List Char × List Char) :=
  let name := cs.takeWhile fun c => c != '\x7d' && c != ':'
  match cs.drop name.length with
  | '\x7d' :: rest => some (name, [], rest)
  | ':' :: '-' :: after =>
    let default := after.takeWhile (· != '\x7d')
    match after.drop default.length with
    | _ :: rest => some (name, default, rest)
    | [] => none
  | _ => none

/-- A value with its references replaced; the fuel is its length. -/
def expand (look : String → Option String) : Nat → List Char → List Char
  | 0, cs => cs
  | _, [] => []
  | fuel + 1, '$' :: '\x7b' :: rest =>
    match reference? rest with
    | some (name, default, after) =>
      ((look (String.ofList name)).getD (String.ofList default)).toList ++ expand look fuel after
    | none => '$' :: expand look fuel ('\x7b' :: rest)
  | fuel + 1, c :: rest => c :: expand look fuel rest

/-- The variables of a file in a surrounding environment.  A reference sees the bindings before
it, then the environment. -/
def load (environment : List (String × String)) (text : String) :
    List (String × Option String) :=
  (bindings text).foldl (fun done b =>
    let look (name : String) : Option String :=
      match done.find? fun e => e.1 == name with
      | some (_, v) => some (v.getD "")
      | none => (environment.find? fun e => e.1 == name).map Prod.snd
    let v := b.2.map fun v => String.ofList (expand look (v.length + 1) v.toList)
    putEntry done b.1 v) []

end SqlGateway.Dotenv
