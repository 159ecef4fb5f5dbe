import SqlGateway.Failure
set_option autoImplicit false

/-!
# Rehearsal: loosely typed fields

A stand-in for the library that reads the fields of a configuration.  A setting may be
given as a number, as a truth value or as text.  Reading a field takes any spelling that
loses nothing: a whole number for an integer, a text of digits for a number, a word for
a truth value.  `FieldRule` says what is wrong with anything else.
-/

namespace SqlGateway

/-- The rule a field breaks. -/
inductive FieldRule where
  | intType | intParsing | intFromFloat | intSize | finite
  | floatType | floatParsing
  | boolType | boolParsing
  | textType | textEncoding
  | positive | notNegative
  /-- A field that does not exist. -/
  | extra
  | frozen
  /-- A rule of its own, in words. -/
  | own (message : String)
  deriving DecidableEq, Repr

namespace FieldRule

def name : FieldRule → String
  | .intType => "int_type"
  | .intParsing => "int_parsing"
  | .intFromFloat => "int_from_float"
  | .intSize => "int_parsing_size"
  | .finite => "finite_number"
  | .floatType => "float_type"
  | .floatParsing => "float_parsing"
  | .boolType => "bool_type"
  | .boolParsing => "bool_parsing"
  | .textType => "string_type"
  | .textEncoding => "string_unicode"
  | .positive => "greater_than"
  | .notNegative => "greater_than_equal"
  | .extra => "extra_forbidden"
  | .frozen => "frozen_instance"
  | .own _ => "value_error"

def message : FieldRule → String
  | .intType => "Input should be a valid integer"
  | .intParsing => "Input should be a valid integer, unable to parse string as an integer"
  | .intFromFloat => "Input should be a valid integer, got a number with a fractional part"
  | .intSize => "Unable to parse input string as an integer, exceeded maximum size"
  | .finite => "Input should be a finite number"
  | .floatType => "Input should be a valid number"
  | .floatParsing => "Input should be a valid number, unable to parse string as a number"
  | .boolType => "Input should be a valid boolean"
  | .boolParsing => "Input should be a valid boolean, unable to interpret input"
  | .textType => "Input should be a valid string"
  | .textEncoding => "Input should be a valid string, unable to parse raw data as a unicode string"
  | .positive => "Input should be greater than 0"
  | .notNegative => "Input should be greater than or equal to 0"
  | .extra => "Extra inputs are not permitted"
  | .frozen => "Instance is frozen"
  | .own message => "Value error, " ++ message

/-- The issue of a field that breaks the rule. -/
def issue (r : FieldRule) (field : String) : FieldIssue := ⟨field, r.name, r.message⟩

end FieldRule

namespace Field

/-! ## Text of numbers -/

/-- White space around a number. -/
def isSpace (c : Char) : Bool :=
  let n := c.toNat
  (0x09 ≤ n && n ≤ 0x0d) || n == 0x20 || n == 0x85 || n == 0xa0 || n == 0x1680 ||
    (0x2000 ≤ n && n ≤ 0x200a) || n == 0x2028 || n == 0x2029 || n == 0x202f || n == 0x205f ||
    n == 0x3000

def trimmed (s : String) : List Char := Text.trimWhere isSpace s.toList

/-- Digits with single underscores between them. -/
def groupedDigits? : List Char → Option (List Char)
  | [] => none
  | [c] => if c.isDigit then some [c] else none
  | c :: '_' :: rest => if c.isDigit then (groupedDigits? rest).map (c :: ·) else none
  | c :: rest => if c.isDigit then (groupedDigits? rest).map (c :: ·) else none

/-- The number that digits denote. -/
def digitsValue (ds : List Char) : Nat := ds.foldl (fun n c => n * 10 + (c.toNat - 48)) 0

/-- Digits behind a sign. -/
def signed (negative : Bool) (ds : List Char) : Int :=
  if negative then -(digitsValue ds : Int) else digitsValue ds

/-- Most digits of an integer. -/
def maxDigits : Nat := 4300

/-- The integer a text denotes: digits in groups, which may end in a point and zeros.  A
negative one has no leading zeros. -/
def parseInt (s : String) : Except FieldRule Int :=
  let cs := trimmed s
  let (negative, body) := match cs with
    | '-' :: rest => (true, rest)
    | '+' :: rest => (false, rest)
    | rest => (false, rest)
  let whole := body.takeWhile (· != '.')
  let zeros := (body.drop whole.length).drop 1
  if !zeros.all (· == '0') then .error .intParsing
  else
    match groupedDigits? whole with
    | none => .error .intParsing
    | some ds =>
      if negative && ds.head? == some '0' && ds != ['0'] then .error .intParsing
      else if maxDigits < ds.length then .error .intSize
      else
        .ok (signed negative ds)

/-- An exponent, with its letter already read. -/
def exponent? (cs : List Char) : Option Int :=
  let (negative, ds) := match cs with
    | '-' :: rest => (true, rest)
    | '+' :: rest => (false, rest)
    | rest => (false, rest)
  if ds.isEmpty || !ds.all Char.isDigit then none
  else some (signed negative ds)

/-- A number with a point and an exponent, or the name of an infinity or of NaN. -/
def float? (cs : List Char) : Option Binary64 :=
  let (negative, body) := match cs with
    | '-' :: rest => (true, rest)
    | '+' :: rest => (false, rest)
    | rest => (false, rest)
  let word := String.ofList (body.map Char.toLower)
  if word == "inf" || word == "infinity" then some (.infinity negative)
  else if word == "nan" then some .nan
  else
    let whole := body.takeWhile Char.isDigit
    let rest := body.drop whole.length
    let (fraction, rest) := match rest with
      | '.' :: more =>
        let ds := more.takeWhile Char.isDigit
        (ds, more.drop ds.length)
      | rest => ([], rest)
    let digits := whole ++ fraction
    let exponent := match rest with
      | [] => some 0
      | c :: more => if c == 'e' || c == 'E' then exponent? more else none
    match exponent with
    | none => none
    | some e =>
      if digits.isEmpty then none
      else
        (Decimal.finite negative (digitsValue digits) (e - fraction.length)).toBinary64?

/-- A text without its underscores, where each stands between two other characters. -/
def withoutUnderscores? (cs : List Char) : Option (List Char) :=
  let doubled := (cs.zip cs.tail).any fun p => p.1 == '_' && p.2 == '_'
  if cs.head? == some '_' || cs.getLast? == some '_' || !cs.contains '_' || doubled then none
  else some (cs.filter (· != '_'))

def parseFloat (s : String) : Except FieldRule Binary64 :=
  match float? (trimmed s) with
  | some x => .ok x
  | none =>
    match (withoutUnderscores? s.toList).bind float? with
    | some x => .ok x
    | none => .error .floatParsing

def parseBool (s : String) : Except FieldRule Bool :=
  let word := String.ofList (s.toList.map Char.toLower)
  if ["0", "f", "n", "no", "off", "false"].contains word then .ok false
  else if ["1", "t", "y", "on", "yes", "true"].contains word then .ok true
  else .error .boolParsing

/-! ## Objects -/

/-- The text of an object that is one, also as bytes; a byte string that is no text breaks the
given rule. -/
def textOf (rule : FieldRule) (n : Native) : Except FieldRule (Option String) :=
  match n with
  | .bytes .view _ => .ok none
  | .bytes _ b =>
    match String.fromUTF8? ⟨b.toArray⟩ with
    | some s => .ok (some s)
    | none => .error rule
  | n => .ok n.asText?

/-- A whole double as an integer. -/
def wholeFloat (x : Binary64) : Except FieldRule Int :=
  match x.toRat? with
  | none => .error .finite
  | some r => if r.den == 1 then .ok r.num else .error .intFromFloat

def asInt (n : Native) : Except FieldRule Int := do
  match ← textOf .intParsing n with
  | some s => parseInt s
  | none =>
    match n with
    | .int i => .ok i
    | .bool b => .ok (if b then 1 else 0)
    | .float x => wholeFloat x
    | .decimal d =>
      match d with
      | .finite .. =>
        if d.isWhole then .ok ((d.toInt? maxDigits).getD 0) else .error .intFromFloat
      | _ => .error .finite
    | _ => .error .intType

def asFloat (n : Native) : Except FieldRule Binary64 := do
  match ← textOf .floatParsing n with
  | some s => parseFloat s
  | none =>
    match n with
    | .float x => .ok x
    | .int i => ((Binary64.ofInt? i).map Except.ok).getD (.error .floatType)
    | .bool b => ((Binary64.ofInt? (if b then 1 else 0)).map Except.ok).getD (.error .floatType)
    | .decimal d => (d.toBinary64?.map Except.ok).getD (.error .floatType)
    | _ => .error .floatType

/-- The truth value of a number: one or zero. -/
def boolOfInt (n : Int) : Except FieldRule Bool :=
  if n = 0 then .ok false else if n = 1 then .ok true else .error .boolParsing

/-- The truth value of a whole double. -/
def boolOfFloat (x : Binary64) : Except FieldRule Bool :=
  match wholeFloat x with
  | .ok n => boolOfInt n
  | .error _ => .error .boolType

def asBool (n : Native) : Except FieldRule Bool := do
  match ← textOf .boolParsing n with
  | some s => parseBool s
  | none =>
    match n with
    | .bool b => .ok b
    | .int i => boolOfInt i
    | .float x => boolOfFloat x
    | .decimal d =>
      match d.toBinary64? with
      | some x => boolOfFloat x
      | none => .error .boolType
    | _ => .error .boolType

def asText (n : Native) : Except FieldRule String := do
  match ← textOf .textEncoding n with
  | some s => .ok s
  | none => .error .textType

/-- A field that may be nothing. -/
def orNothing {α : Type} (read : Native → Except FieldRule α) (n : Native) :
    Except FieldRule (Option α) :=
  match n with
  | .null => .ok none
  | n => (read n).map some

/-! ## Bounds -/

/-- An integer that is not negative. -/
def natOf (n : Native) : Except FieldRule Nat := do
  let i ← asInt n
  if i < 0 then .error .notNegative else .ok i.toNat

/-- A number above zero; NaN is not below it either. -/
def positiveOf (n : Native) : Except FieldRule Binary64 := do
  let x ← asFloat n
  if !x.isNaN && (x.negative || x.numEq (.zero false)) then .error .positive else .ok x

/-- A number that is not below zero. -/
def notNegativeOf (n : Native) : Except FieldRule Binary64 := do
  let x ← asFloat n
  if !x.isNaN && x.negative && !x.numEq (.zero false) then .error .notNegative else .ok x

end Field

/-! ## Records of fields -/

/-- What comes of reading a field: its value, or what is wrong with it. -/
structure Checked (α : Type) where
  value : Option α
  issues : List FieldIssue

namespace Checked

/-- Read a field, which has a value of its own when it is not given. -/
def read {α : Type} (fields : List (String × Native)) (name : String) (fallback : α)
    (reader : Native → Except FieldRule α) : Checked α :=
  match fields.find? fun f => f.1 == name with
  | none => ⟨some fallback, []⟩
  | some (_, n) =>
    match reader n with
    | .ok a => ⟨some a, []⟩
    | .error r => ⟨none, [r.issue name]⟩

end Checked

end SqlGateway
