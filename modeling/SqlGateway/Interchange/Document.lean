import SqlGateway.Failure
set_option autoImplicit false

/-!
# Interchange: documents

A document is what can be sent between processes: texts, numbers, lists and named
parts.  The other modules of this area read the gateway's objects from documents
and write them back.
-/

namespace SqlGateway

/-- A step that may fail. -/
abbrev Attempt := Except Failure

/-- A tree of texts and numbers. -/
inductive Document where
  | null
  | bool (b : Bool)
  | integer (n : Int)
  /-- A number that is written with a fraction. -/
  | fraction (r : Rat)
  | text (s : String)
  | list (items : List Document)
  | object (entries : List (String × Document))
  deriving Repr

namespace Document

instance : Inhabited Document := ⟨.null⟩

/-! ## Reading -/

/-- A part that is there, be it null. -/
def field? (d : Document) (key : String) : Option Document :=
  match d with
  | .object entries => (entries.find? fun e => e.1 == key).map Prod.snd
  | _ => none

/-- A part, or null. -/
def field (d : Document) (key : String) : Document := (d.field? key).getD .null

/-- A part that is there and not null. -/
def present? (d : Document) (key : String) : Option Document :=
  match d.field? key with
  | some .null => none
  | v => v

def asText : Document → String
  | .text s => s
  | _ => ""

def text? (d : Document) (key : String) : Option String := (d.present? key).map asText

def textAt (d : Document) (key : String) : String := (d.text? key).getD ""

def asItems : Document → List Document
  | .list items => items
  | _ => []

def itemsAt (d : Document) (key : String) : List Document := (d.field key).asItems

def textsAt (d : Document) (key : String) : List String := (d.itemsAt key).map asText

/-- A number, or zero. -/
def asNumber : Document → Rat
  | .integer n => n
  | .fraction r => r
  | _ => 0

def asInt (d : Document) : Int := d.asNumber.floor

def asBool : Document → Bool
  | .bool b => b
  | _ => false

def flagAt (d : Document) (key : String) : Bool := (d.field key).asBool

/-- The double nearest to a number, exactly. -/
def asDouble (d : Document) : Rat := ((Binary64.ofRat d.asNumber).toRat?).getD d.asNumber

/-- A number that is there. -/
def double? (d : Document) (key : String) : Option Rat := (d.present? key).map asDouble

mutual

/-- How many parts a document has, itself among them. -/
def size : Document → Nat
  | .list items => 1 + sizeAll items
  | .object entries => 1 + sizeEntries entries
  | _ => 1

def sizeAll : List Document → Nat
  | [] => 0
  | d :: rest => d.size + sizeAll rest

def sizeEntries : List (String × Document) → Nat
  | [] => 0
  | (_, d) :: rest => d.size + sizeEntries rest

end

/-! ## Writing -/

def texts (items : List String) : Document := .list (items.map .text)

/-- An object with one part. -/
def tagged (key : String) (d : Document) : Document := .object [(key, d)]

/-- A thing that may be absent, as null. -/
def orNull {α : Type} (write : α → Document) : Option α → Document
  | some a => write a
  | none => .null

/-- A part that may be left out. -/
def part? (key : String) : Option Document → List (String × Document)
  | some d => [(key, d)]
  | none => []

/-- A part that is left out when it is an empty list. -/
def unlessEmpty (key : String) : List Document → List (String × Document)
  | [] => []
  | items => [(key, .list items)]

end Document

/-- The failure to read a document. -/
def malformed {α : Type} (what : String) : Attempt α := .error (.primitive .value what)

/-- Read or fail. -/
def orMalformed {α : Type} (what : String) : Option α → Attempt α
  | some a => .ok a
  | none => malformed what

end SqlGateway
