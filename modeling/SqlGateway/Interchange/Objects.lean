import SqlGateway.Interchange.Document
import SqlGateway.Query.Column
set_option autoImplicit false

/-!
# Interchange: objects

Truth values, texts, integers, lists and nothing are documents as they are; an
object of any other type is a document with one part, whose name tells the type.
-/

namespace SqlGateway.Interchange

/-- A failure of a builder, as it surfaces. -/
def query {α : Type} (e : Except QueryError α) : Attempt α := e.mapError QueryError.toFailure

/-- A failure of a conversion, as it surfaces. -/
def conversion {α : Type} (e : Except ConversionFault α) : Attempt α :=
  e.mapError ConversionFault.toFailure

/-- A refusal of an object, as it surfaces. -/
def refusal {α : Type} (e : Except Refusal α) : Attempt α := e.mapError Refusal.toFailure

/-! ## Bytes and doubles -/

/-- Bytes of pairs of digits. -/
def pairBytes : List Char → List UInt8
  | a :: b :: rest =>
    .ofNat ((Text.hexValue? a).getD 0 * 16 + (Text.hexValue? b).getD 0) :: pairBytes rest
  | _ => []

def bytesOf (s : String) : List UInt8 := pairBytes s.toList

def hexOf (bs : List UInt8) : String :=
  String.ofList (bs.flatMap fun b => Text.hexDigits 2 b.toNat)

/-- A double from its bits. -/
def doubleOf (s : String) : Binary64 :=
  ⟨.ofNat (s.toList.foldl (fun n c => n * 16 + (Text.hexValue? c).getD 0) 0)⟩

/-! ## Reading -/

/-- An object that is written with a tag, from the text under the tag. -/
def readTagged (tag text : String) : Attempt Native :=
  match tag with
  | "int" => orMalformed text (text.toInt?.map .int)
  | "float" => .ok (.float (doubleOf text))
  | "dec" => orMalformed text ((Decimal.ofText? text).map .decimal)
  | "bytes" => .ok (.bytes .plain (bytesOf text))
  | "bytearray" => .ok (.bytes .buffer (bytesOf text))
  | "memoryview" => .ok (.bytes .view (bytesOf text))
  | "ts" => orMalformed text ((Time.DateTime.ofText? text).map .timestamp)
  | "date" => orMalformed text ((Time.Date.ofText? text).map .date)
  | "uuid" => orMalformed text ((Uuid.ofText? text).map .uuid)
  | "obj" => .ok (.other "object")
  | "kind" => orMalformed text ((ValueKind.ofName? text).map .kind)
  | "column" => .ok (.column text)
  | "asc" => (query (Column.of (.text text))).map fun c => c.sortTerm .asc
  | "desc" => (query (Column.of (.text text))).map fun c => c.sortTerm .desc
  | "direction" =>
    .ok (.direction (if text == Direction.desc.keyword then .desc else .asc))
  | tag => malformed tag

mutual

/-- An object. -/
def readNative : Document → Attempt Native
  | .null => .ok .null
  | .bool b => .ok (.bool b)
  | .text s => .ok (.text s)
  | .integer n => .ok (.int n)
  | .fraction r => .ok (.float (.ofRat r))
  | .list items => do return .list (← readNatives items)
  | .object [("tuple", .list items)] => do return .tuple (← readNatives items)
  | .object [("dict", .list items)] => do return .dict (← readPairs items)
  | .object [("col", d)] => do
    let c ← query (Column.of (← readNative d))
    return c.handle
  | .object [("val", .object entries)] => do
    let data ← readPart "data" entries
    let v ← conversion (Value.makeNamed (kindPart entries) data)
    return .value v
  | .object [(tag, d)] => readTagged tag d.asText
  | .object _ => malformed "object"

/-- Objects in order. -/
def readNatives : List Document → Attempt (List Native)
  | [] => .ok []
  | d :: rest => do
    let n ← readNative d
    return n :: (← readNatives rest)

/-- The object under a name. -/
def readPart (key : String) : List (String × Document) → Attempt Native
  | [] => .ok .null
  | (k, d) :: rest => if k == key then readNative d else readPart key rest

/-- A mapping: the last object under a name counts, at the place of the first. -/
def readPairs : List Document → Attempt (List (String × Native))
  | [] => .ok []
  | d :: rest => do
    let entry ← readPair d
    let entries ← readPairs rest
    match entry with
    | none => return entries
    | some (key, n) =>
      match entries.find? fun e => e.1 == key with
      | some (_, later) => return (key, later) :: entries.filter fun e => e.1 != key
      | none => return (key, n) :: entries

/-- A name and an object. -/
def readPair : Document → Attempt (Option (String × Native))
  | .list [key, d] => do return some (key.asText, ← readNative d)
  | _ => .ok none

/-- The name of a kind among the parts of a value. -/
def kindPart : List (String × Document) → String
  | [] => ""
  | (k, d) :: rest => if k == "kind" then d.asText else kindPart rest

end

def nativeAt (d : Document) (key : String) : Attempt Native := readNative (d.field key)

def nativesAt (d : Document) (key : String) : Attempt (List Native) := readNatives (d.itemsAt key)

def pairsAt (d : Document) (key : String) : Attempt (List (String × Native)) :=
  readPairs (d.itemsAt key)

/-- Named objects: the parts of a document, or a list of names and objects. -/
def readFields (d : Document) : Attempt (List (String × Native)) :=
  match d with
  | .object entries => entries.mapM fun e => do return (e.1, ← readNative e.2)
  | d => readPairs d.asItems

def fieldsAt (d : Document) (key : String) : Attempt (List (String × Native)) :=
  readFields (d.field key)

/-! ## Writing -/

/-- A double by its bits; undefined results are alike. -/
def writeDouble (x : Binary64) : Document :=
  let shown := if x.isNaN then Binary64.nan else x
  .tagged "float" (.text (String.ofList (Text.hexDigits 16 shown.bits.toNat)))

/-- An integer, as a text where a double could not hold it. -/
def writeInt (n : Int) : Document :=
  if n.natAbs ≤ Number.twoTo 53 then .integer n else .tagged "int" (.text (toString n))

mutual

/-- An object. -/
def writeNative : Native → Document
  | .null => .null
  | .bool b => .bool b
  | .int i => writeInt i
  | .float x => writeDouble x
  | .decimal d => .tagged "dec" (.text d.toText)
  | .text s => .text s
  | .bytes .plain b => .tagged "bytes" (.text (hexOf b))
  | .bytes h b => .tagged "obj" (.text (Native.bytes h b).typeName)
  | .timestamp t => .tagged "ts" (.text t.toText)
  | .uuid u => .tagged "uuid" (.text u.toText)
  | .list items => .list (writeNatives items)
  | .tuple items => .list (writeNatives items)
  | .dict entries => .object (writeEntries entries)
  | .kind k => .text k.name
  | .direction d => .text d.keyword
  | .date d => .tagged "obj" (.text (Native.date d).typeName)
  | .value v => .tagged "obj" (.text (Native.value v).typeName)
  | .column name => .tagged "obj" (.text (Native.column name).typeName)
  | .columnHandle name => .tagged "obj" (.text (Native.columnHandle name).typeName)
  | .other t => .tagged "obj" (.text (Native.other t).typeName)

def writeNatives : List Native → List Document
  | [] => []
  | n :: rest => writeNative n :: writeNatives rest

def writeEntries : List (String × Native) → List (String × Document)
  | [] => []
  | (key, n) :: rest => (key, writeNative n) :: writeEntries rest

end

/-- Named objects as an object. -/
def writeFields (fields : List (String × Native)) : Document := writeNative (.dict fields)

/-- A value: its kind and its payload. -/
def writeValue (v : Value) : Document :=
  .object [("kind", .text v.kind.name), ("data", writeNative (.ofValue v))]

end SqlGateway.Interchange
