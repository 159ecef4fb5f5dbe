import SqlGateway.Query.Issue
set_option autoImplicit false

/-!
# Mapping: descriptors

A descriptor says how the attributes of a record map to the columns of a table.
It has at least one field, no attribute twice, and its primary key is one of its
attributes.
-/

namespace SqlGateway

/-- One mapped attribute. -/
structure FieldSpec where
  member : String
  column : String
  /-- The declared kind; without one it is inferred from each value. -/
  kind : Option ValueKind := none
  nullable : Bool := true
  deriving DecidableEq, Repr

/-- A table, its fields in order, and the attribute that is its primary key. -/
structure TableDescriptor where
  table : String
  fields : List FieldSpec
  primaryKey : Option String := none
  named : table ≠ ""
  inhabited : fields ≠ []
  distinct : (fields.map FieldSpec.member).Nodup
  keyed : ∀ k ∈ primaryKey, k ∈ fields.map FieldSpec.member

/-- What is wrong with a descriptor or a record type. -/
inductive MappingIssue where
  | noTable
  | noFields (table : String)
  | repeatedAttribute (table : String)
  | foreignKey (key table : String)
  | notRecord (typeName : String)
  | notMapped (typeName : String)
  deriving DecidableEq, Repr

def MappingIssue.message : MappingIssue → String
  | .noTable => "TableDescriptor needs a table name"
  | .noFields table => "TableDescriptor for " ++ Text.quoted table ++ " has no fields"
  | .repeatedAttribute table =>
    "TableDescriptor for " ++ Text.quoted table ++ " repeats an attribute"
  | .foreignKey key table =>
    "Primary key " ++ Text.quoted key ++ " is not a field of " ++ Text.quoted table
  | .notRecord t => t ++ " is not a dataclass"
  | .notMapped t => t ++ " is not mapped; decorate it with @table"

def MappingIssue.toFailure (i : MappingIssue) : Failure := .make .invalidExpression i.message

namespace TableDescriptor

/-- A descriptor whose parts fit together. -/
def make (table : String) (fields : List FieldSpec) (primaryKey : Option String) :
    Except MappingIssue TableDescriptor :=
  if named : table ≠ "" then
    if inhabited : fields ≠ [] then
      if distinct : (fields.map FieldSpec.member).Nodup then
        if keyed : ∀ k ∈ primaryKey, k ∈ fields.map FieldSpec.member then
          .ok { table, fields, primaryKey, named, inhabited, distinct, keyed }
        else .error (.foreignKey (primaryKey.getD "") table)
      else .error (.repeatedAttribute table)
    else .error (.noFields table)
  else .error .noTable

def columns (d : TableDescriptor) : List String := d.fields.map FieldSpec.column

/-- The field of an attribute. -/
def field? (d : TableDescriptor) (member : String) : Option FieldSpec :=
  d.fields.find? fun f => f.member == member

/-- The field of an attribute, which must be there. -/
def field (d : TableDescriptor) (member : String) : Except Failure FieldSpec :=
  match d.field? member with
  | some f => .ok f
  | none => .error (.primitive .key member)

/-- The failure of an operation that needs a primary key. -/
def noKey (table : String) : Failure :=
  .make (.missingKey table) ("Table " ++ Text.quoted table ++ " has no primary key")

/-- The field of the primary key. -/
def keyField (d : TableDescriptor) : Except Failure FieldSpec :=
  match d.primaryKey with
  | none => .error (noKey d.table)
  | some k => d.field k

end TableDescriptor

end SqlGateway
