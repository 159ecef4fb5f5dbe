import SqlGateway.Query.Issue
import SqlGateway.Text.Blank
set_option autoImplicit false

/-!
# Queries: columns and tables

A column is named by a text whose dot-separated parts are not blank, by a column
built elsewhere, or by a handle on one.
-/

namespace SqlGateway

/-- A reference to a column, possibly qualified by a table. -/
structure Column where
  name : String
  deriving DecidableEq, Repr, Inhabited

namespace Query

/-- The dot-separated parts of a name; there is always at least one. -/
def nameParts : List Char → List (List Char)
  | [] => [[]]
  | c :: rest =>
    if c == '.' then [] :: nameParts rest
    else
      match nameParts rest with
      | part :: more => (c :: part) :: more
      | [] => [[c]]

/-- Every part of a name has a character that is not blank. -/
def isColumnName (name : String) : Bool :=
  (nameParts name.toList).all fun part => !part.all Text.isBlank

end Query

namespace Column

/-- The column that an argument names. -/
def of (n : Native) : Except QueryError Column :=
  match n with
  | .column name => .ok ⟨name⟩
  | .columnHandle name => .ok ⟨name⟩
  | n =>
    match n.asText? with
    | none => .error (.invalid (.columnNotText n.typeName))
    | some name =>
      if Text.allBlank name then .error (.invalid .columnEmpty)
      else if Query.isColumnName name then .ok ⟨name⟩
      else .error (.invalid (.columnComponent name))

/-- The columns that arguments name. -/
def ofAll (ns : List Native) : Except QueryError (List Column) := ns.mapM of

/-- A handle on the column, as an argument. -/
def handle (c : Column) : Native := .columnHandle c.name

/-- The sort term of a column: its name beside a direction. -/
def sortTerm (c : Column) (d : Direction) : Native := .tuple [.text c.name, .text d.keyword]

end Column

/-- A table name is a text that is not blank. -/
def Query.tableOf (n : Native) : Except QueryError String :=
  match n.asText? with
  | some name =>
    if Text.allBlank name then .error (.invalid .tableEmpty) else .ok name
  | none => .error (.invalid .tableEmpty)

end SqlGateway
