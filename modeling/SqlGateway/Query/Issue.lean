import SqlGateway.Failure
set_option autoImplicit false

/-!
# Queries: why a query is refused

Everything that can be checked without a database is checked while a query is
built or rendered.  An *issue* is a query that makes no sense; a *misuse* is an
argument that the builder cannot even look into; and a value may be refused, or a
construct be missing from the dialect.
-/

namespace SqlGateway

/-- What is wrong with a query. -/
inductive QueryIssue where
  | columnNotText (typeName : String)
  | columnEmpty
  | columnComponent (name : String)
  /-- Null where a condition needs a value. -/
  | nullOperand (place : String)
  /-- A single text or byte string where a collection is expected. -/
  | notCollection
  | notCondition (typeName : String)
  /-- A junction of nothing. -/
  | noConditions (builder : String)
  | fragmentEmpty
  | fragmentBinds (markers binds : Nat)
  | tableEmpty
  | notCount (what shown : String)
  | unknownDirection (shown : String)
  | projectionEmpty
  | havingWithoutGroup
  | groupEmpty
  | insertEmpty
  | insertKeys (row : Nat)
  | insertWidth (row width columns : Nat)
  | updateEmpty
  /-- The text of a statement and its values disagree. -/
  | placeholders (found binds : Nat)
  | sqlEmpty
  | sqlBinds (markers binds : Nat)
  | countDistinct
  | notRenderable (typeName : String)
  | notRenderableCondition (typeName : String)
  deriving DecidableEq, Repr

/-- The wording of an issue. -/
def QueryIssue.message : QueryIssue → String
  | .columnNotText t => "Column name must be a string, got " ++ t
  | .columnEmpty => "Column name must not be empty"
  | .columnComponent name => "Column name " ++ Text.quoted name ++ " has an empty component"
  | .nullOperand place => place ++ " cannot be NULL; use is_null()/is_not_null()"
  | .notCollection => "in_set() expects a collection of values, not a single string"
  | .notCondition t => "Expected a condition, got " ++ t
  | .noConditions builder => builder ++ "() needs at least one condition"
  | .fragmentEmpty => "Raw fragment must be a non-empty string"
  | .fragmentBinds markers binds =>
    s!"Raw fragment has {markers} bind marker(s) but {binds} bind value(s) were given"
  | .tableEmpty => "Table name must be a non-empty string"
  | .notCount what shown => what ++ " must be a non-negative integer, got " ++ shown
  | .unknownDirection shown => "Sort direction must be ASC or DESC, got " ++ shown
  | .projectionEmpty => "Projection must name at least one column; omit it to select all"
  | .havingWithoutGroup => "having() requires group_by()"
  | .groupEmpty => "group_by() needs at least one column"
  | .insertEmpty => "Insert data cannot be empty"
  | .insertKeys row => s!"Insert row {row} does not have the same columns as row 0"
  | .insertWidth row width columns =>
    s!"Insert row {row} has {width} values for {columns} columns"
  | .updateEmpty => "Update needs at least one assignment"
  | .placeholders found binds =>
    s!"Statement has {found} placeholder(s) but {binds} bind value(s)"
  | .sqlEmpty => "Raw SQL must be a non-empty string"
  | .sqlBinds markers binds => s!"Raw SQL has {markers} bind marker(s) but {binds} bind value(s)"
  | .countDistinct => "count() with distinct() takes exactly one column"
  | .notRenderable t => "Cannot render " ++ t
  | .notRenderableCondition t => "Cannot render " ++ t ++ " as a condition"

/-- An argument that cannot be used at all. -/
inductive Misuse where
  /-- An object without members where a collection is expected. -/
  | notIterable (typeName : String)
  /-- A pair of another length. -/
  | notPair (length : Nat)
  /-- An operator of conditions on something else. -/
  | noOperator (symbol : String)
  /-- Too few or too many arguments. -/
  | arity (function : String)
  | noMethod (typeName method : String)
  /-- A negation of nothing. -/
  | noOperand
  deriving DecidableEq, Repr

/-- Why a query is not built or not rendered. -/
inductive QueryError where
  | invalid (issue : QueryIssue)
  | refused (r : Refusal)
  | unsupported (dialect construct : String)
  | misused (m : Misuse)
  deriving Repr

/-- The failure a misuse surfaces as. -/
def Misuse.toFailure : Misuse → Failure
  | .notIterable t => .primitive .type (Text.quoted t ++ " object is not iterable")
  | .notPair n =>
    .primitive .value (if n < 2 then s!"not enough values to unpack (expected 2, got {n})"
      else "too many values to unpack (expected 2)")
  | .noOperator symbol => .primitive .type ("unsupported operand type(s) for " ++ symbol)
  | .arity f => .primitive .type (f ++ "() got an unexpected number of arguments")
  | .noMethod t m =>
    .primitive .attribute (Text.quoted t ++ " object has no attribute " ++ Text.quoted m)
  | .noOperand => .primitive .index "tuple index out of range"

/-- The failure an error of a query surfaces as. -/
def QueryError.toFailure : QueryError → Failure
  | .invalid issue => .make .invalidExpression issue.message
  | .refused r => r.toFailure
  | .unsupported dialect construct =>
    .make (.unsupported (some dialect) (some construct))
      (construct ++ " is not supported by the " ++ dialect ++ " dialect")
  | .misused m => m.toFailure

/-- A value of an argument. -/
def Query.valueOf (n : Native) : Except QueryError Value := (Value.of n).mapError .refused

end SqlGateway
