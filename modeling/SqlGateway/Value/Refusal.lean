import SqlGateway.Value.Shown
set_option autoImplicit false

/-!
# Values: why a conversion fails

A conversion is *refused* when an object is not what was asked for; the refusal
keeps the facts and words them in one place.  A conversion *breaks* when one of
the number primitives it leans on has no answer: an integer past the largest
double, a whole number asked of an infinity, a NaN that signals, a digit without
place value, or an integer too long to be written.
-/

namespace SqlGateway

/-- Why an object cannot be converted. -/
inductive Refusal where
  /-- The object is not a payload of the kind. -/
  | notPayload (object : Native) (kind : ValueKind)
  /-- A literal that is no decimal, as shown. -/
  | notDecimal (shown : String)
  /-- A literal that is no identifier, as shown. -/
  | notUuid (shown : String)
  | outOfRange (n : Int)
  /-- A calendar date without a clock. -/
  | bareDate
  | unsupported (typeName : String)
  /-- A cell that cannot be read as its declared kind. -/
  | undecodable (typeName : String) (kind : ValueKind) (codec : String)
  /-- A cell whose kind cannot be inferred, and why. -/
  | undecodableColumn (typeName codec : String) (inner : Refusal)
  /-- A time with an offset, for an engine that stores none. -/
  | offsetTimestamp
  /-- An engine without a codec; the tag as shown. -/
  | noCodec (tag : String)
  deriving Repr

namespace Refusal

def message : Refusal → String
  | .notPayload n k => n.typeName ++ " " ++ n.shown ++ " is not a valid " ++ k.name ++ " value"
  | .notDecimal s => s ++ " is not a decimal literal"
  | .notUuid s => s ++ " is not a UUID"
  | .outOfRange n => "integer " ++ toString n ++ " is outside the 64-bit range"
  | .bareDate => "datetime.date is not supported; pass a datetime.datetime"
  | .unsupported t => "Unsupported type " ++ t
  | .undecodable t k c => "Cannot decode " ++ t ++ " as " ++ k.name ++ " for " ++ c
  | .undecodableColumn t c _ => "Cannot decode column of type " ++ t ++ " for " ++ c
  | .offsetTimestamp =>
    "MySQL DATETIME cannot store a timezone offset; convert to naive UTC first"
  | .noCodec tag => "No value codec for dialect " ++ tag

/-- The kind that was asked for. -/
def kind? : Refusal → Option String
  | .notPayload _ k => some k.name
  | .notDecimal _ => some "decimal"
  | .notUuid _ => some "uuid"
  | .undecodable _ k _ => some k.name
  | .offsetTimestamp => some "timestamp"
  | _ => none

/-- The type of the object that was given. -/
def nativeType? : Refusal → Option String
  | .notPayload n _ => some n.typeName
  | .notDecimal _ => some "str"
  | .notUuid _ => some "str"
  | .outOfRange _ => some "int"
  | .bareDate => some "date"
  | .unsupported t => some t
  | .undecodable t _ _ => some t
  | .undecodableColumn t _ _ => some t
  | .offsetTimestamp => some "datetime"
  | .noCodec _ => none

end Refusal

/-- A number primitive without an answer. -/
inductive Breakdown where
  /-- An integer past the largest double. -/
  | intTooLarge
  /-- A whole number asked of an infinity, as it is called. -/
  | infiniteInt (name : String)
  /-- A whole number asked of a NaN, as it is called. -/
  | notANumber (name : String)
  /-- A whole number asked of an object that is no number, by its type. -/
  | notNumber (typeName : String)
  /-- A NaN that signals, used in arithmetic. -/
  | signalling
  /-- A NaN that signals, asked for a double. -/
  | signallingDouble
  /-- A literal that denotes no integer, as shown. -/
  | notInteger (shown : String)
  /-- More digits than an integer literal may have. -/
  | tooManyDigits (count : Nat)
  /-- More digits than an integer may have in a message. -/
  | noLiteral
  /-- A kind that does not exist, as shown. -/
  | noKind (shown : String)
  deriving Repr

/-- Why a conversion gives no value. -/
inductive ConversionFault where
  | refused (r : Refusal)
  | broke (b : Breakdown)
  deriving Repr

end SqlGateway
