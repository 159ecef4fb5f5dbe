import SqlGateway.Mapping.Descriptor
import SqlGateway.Text.Case
import SqlGateway.Value.Convert
set_option autoImplicit false

/-!
# Mapping: records

A record type lists its attributes with their annotations; a descriptor and a
mapper are derived from it.  The mapper turns a record into values by column and a
row of values into a record.
-/

namespace SqlGateway

/-- The types an attribute may be annotated with. -/
inductive AttributeType where
  | bool | int | float | decimal | text | bytes | dateTime | uuid
  /-- A type of no value kind, by name. -/
  | other (name : String)
  /-- Nothing as a type. -/
  | null
  deriving DecidableEq, Repr

/-- The value kind of a type. -/
def AttributeType.kind? : AttributeType → Option ValueKind
  | .bool => some .bool
  | .int => some .int64
  | .float => some .float64
  | .decimal => some .decimal
  | .text => some .text
  | .bytes => some .bytes
  | .dateTime => some .timestamp
  | .uuid => some .uuid
  | .other _ | .null => none

/-- An annotation: the alternatives of a union, or one type. -/
abbrev Annotation := List AttributeType

namespace Annotation

/-- The alternatives without repetitions. -/
def alternatives (a : Annotation) : List AttributeType := a.eraseDups

/-- The kind of an annotation and whether it allows nothing.  A union with nothing is nullable;
one of several other types has no kind. -/
def kindAndNull (a : Annotation) : Option ValueKind × Bool :=
  match alternatives a with
  | [t] => (t.kind?, false)
  | ts =>
    let nullable := ts.contains .null
    match ts.filter (· != .null) with
    | [t] => (t.kind?, nullable)
    | _ => (none, nullable)

end Annotation

/-- One attribute of a record type. -/
structure RecordField where
  name : String
  annotation : Annotation
  /-- The column, if it has another name. -/
  column : Option String := none
  /-- The name of a kind in place of the one that follows from the annotation. -/
  kind : Option String := none
  /-- The attribute is not mapped. -/
  skip : Bool := false
  default : Option Native := none
  deriving Repr

/-- A type of records.  A mapped one names its table and primary key. -/
structure RecordType where
  name : String
  fields : List RecordField
  table : Option String := none
  primaryKey : Option String := none
  mapped : Bool := true
  deriving Repr

/-- A record: the name of its type and its attributes in order. -/
structure Record where
  typeName : String
  attributes : List (String × Native)
  deriving Repr, Inhabited

namespace RecordType

/-- The object can be changed in place, so records that shared it would change together. -/
def isChangeable : Native → Bool
  | .list _ | .dict _ | .bytes .buffer _ | .columnHandle _ => true
  | _ => false

/-- A type of records whose defaults can be shared by all of them. -/
def checked (t : RecordType) : Except Failure RecordType :=
  match t.fields.find? fun f => (f.default.map isChangeable).getD false with
  | some f => .error (.primitive .value ("mutable default for field " ++ f.name))
  | none => .ok t

/-- The kind of a name, if there is one. -/
def kindNamed : Option String → Except Failure (Option ValueKind)
  | none => .ok none
  | some name =>
    match ValueKind.ofName? name with
    | some k => .ok (some k)
    | none => .error (Breakdown.noKind (Text.quoted name)).toFailure

/-- The field spec of an attribute; a kind that is named goes before the one of the
annotation. -/
def specOf (f : RecordField) : Except Failure FieldSpec := do
  let (inferred, nullable) := Annotation.kindAndNull f.annotation
  let named ← kindNamed f.kind
  return { member := f.name, column := f.column.getD f.name, kind := named.or inferred, nullable }

/-- A table name that is given and not empty, or the type's name in lower case. -/
def tableName (t : RecordType) (table : Option String) : String :=
  match table with
  | some "" | none => Text.toLower t.name
  | some name => name

/-- The descriptor that follows from a type. -/
def describe (t : RecordType) (table primaryKey : Option String) :
    Except Failure TableDescriptor := do
  let specs ← (t.fields.filter fun f => !f.skip).mapM specOf
  (TableDescriptor.make (t.tableName table) specs primaryKey).mapError MappingIssue.toFailure

/-- The descriptor of a mapped type. -/
def descriptor (t : RecordType) : Except Failure TableDescriptor :=
  if t.mapped then t.describe t.table t.primaryKey
  else .error (MappingIssue.notMapped t.name).toFailure

/-- The attributes of a new record, in order: given ones and defaults.  Nothing else may be
given, and nothing without a default may be missing. -/
def construct (t : RecordType) (given : List (String × Native)) : Except Failure Record := do
  match given.find? fun g => !t.fields.any fun f => f.name == g.1 with
  | some (name, _) =>
    .error (.primitive .type
      (t.name ++ ".__init__() got an unexpected keyword argument " ++ Text.quoted name))
  | none =>
    let attributes ← t.fields.mapM fun f =>
      match (given.find? fun g => g.1 == f.name).map Prod.snd |>.or f.default with
      | some n => .ok (f.name, n)
      | none =>
        .error (.primitive .type
          (t.name ++ ".__init__() missing a required argument: " ++ Text.quoted f.name))
    return { typeName := t.name, attributes }

end RecordType

/-- The mapper of a record type. -/
structure RecordMapper where
  type : RecordType
  deriving Repr

namespace RecordMapper

/-- The mapper in one line. -/
def shown (m : RecordMapper) : String := "DataclassMapper(" ++ m.type.name ++ ")"

/-- The mapper of a mapped type. -/
def of (t : RecordType) : Except Failure RecordMapper :=
  if t.mapped then .ok ⟨t⟩ else .error (MappingIssue.notMapped t.name).toFailure

/-- An attribute of a record. -/
def member (r : Record) (name : String) : Except Failure Native :=
  match r.attributes.find? fun a => a.1 == name with
  | some (_, n) => .ok n
  | none =>
    .error (.primitive .attribute
      (Text.quoted r.typeName ++ " object has no attribute " ++ Text.quoted name))

/-- A record as values by column, in the order of the descriptor. -/
def encodeRecord (_ : RecordMapper) (r : Record) (d : TableDescriptor) :
    Except Failure (List (String × Value)) :=
  d.fields.mapM fun f => do
    let n ← member r f.member
    let v ← (Value.coerce n f.kind).mapError ConversionFault.toFailure
    return (f.column, v)

/-- The failure of a column without a value for an attribute that needs one. -/
def nullFailure (d : TableDescriptor) (f : FieldSpec) : Failure :=
  .make (.conversion (f.kind.map ValueKind.name) none)
    ("Column " ++ d.table ++ "." ++ f.column ++ " is NULL but " ++ f.member ++
      " is not optional")

/-- The attributes that a row gives. -/
def decodeAttributes (row : List (String × Value)) (d : TableDescriptor) :
    Except Failure (List (String × Native)) :=
  d.fields.mapM fun f => do
    match row.find? fun c => c.1 == f.column with
    | none => .error (.primitive .key f.column)
    | some (_, v) =>
      if v.isNull && !f.nullable then .error (nullFailure d f)
      else .ok (f.member, .ofValue v)

/-- A row as a record. -/
def decodeRow (m : RecordMapper) (row : List (String × Value)) (d : TableDescriptor) :
    Except Failure Record := do
  let attributes ← decodeAttributes row d
  m.type.construct attributes

end RecordMapper

end SqlGateway
