import SqlGateway.Interchange.Failures
import SqlGateway.Mapping.Record
set_option autoImplicit false

/-!
# Interchange: records

Descriptors, record types and records as documents.
-/

namespace SqlGateway.Interchange

def writeDescriptor (d : TableDescriptor) : Document :=
  .object [("table", .text d.table), ("primary_key", .orNull .text d.primaryKey),
    ("columns", .texts d.columns),
    ("fields", .list (d.fields.map fun f => .list [.text f.member, .text f.column,
      .orNull (fun k => .text (ValueKind.name k)) f.kind, .bool f.nullable])),
    ("pk", writeAttempt (d.keyField.map fun f => .text f.member))]

def readFieldSpec (d : Document) : Attempt FieldSpec := do
  return {
    member := d.textAt "attribute"
    column := d.textAt "column"
    kind := ← RecordType.kindNamed (d.text? "kind")
    nullable := ((d.field? "nullable").map Document.asBool).getD true }

def readDescriptor (d : Document) : Attempt TableDescriptor := do
  let fields ← (d.itemsAt "fields").mapM readFieldSpec
  (TableDescriptor.make (d.textAt "table") fields
    (d.text? "primary_key")).mapError MappingIssue.toFailure

def attributeType : String → AttributeType
  | "bool" => .bool
  | "int" => .int
  | "float" => .float
  | "decimal" => .decimal
  | "str" => .text
  | "bytes" => .bytes
  | "datetime" => .dateTime
  | "uuid" => .uuid
  | "None" => .null
  | name => .other name

/-- Alternatives between bars; an optional type has one more. -/
def readAnnotation (s : String) : Annotation :=
  let wrapper := "Optional[".toList
  let cs := s.toList
  if wrapper.isPrefixOf cs then
    ((String.ofList (cs.drop wrapper.length).dropLast).splitOn "|").map attributeType ++ [.null]
  else (s.splitOn "|").map attributeType

def readRecordField (d : Document) : Attempt RecordField := do
  let default ← (d.field? "default").mapM readNative
  return {
    name := d.textAt "name"
    annotation := readAnnotation (d.textAt "type")
    column := d.text? "column"
    kind := d.text? "kind"
    skip := d.flagAt "skip"
    default }

def readRecordType (d : Document) : Attempt RecordType := do
  let fields ← (d.itemsAt "fields").mapM readRecordField
  RecordType.checked {
    name := d.textAt "class"
    fields
    table := d.text? "table"
    primaryKey := d.text? "primary_key"
    mapped := ((d.field? "mapped").map Document.asBool).getD true }

def writeRecord (r : Record) : Document :=
  .object [("class", .text r.typeName), ("fields", .list (r.attributes.map fun a =>
    .list [.text a.1, writeNative a.2]))]

end SqlGateway.Interchange
