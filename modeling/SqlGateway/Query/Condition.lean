import SqlGateway.Query.Column
import SqlGateway.Query.Placeholder
set_option autoImplicit false

/-!
# Queries: conditions

A condition is a tree that records grouping exactly as it was written.  The
builders refuse what can be refused without a database: empty column names, Null
as an operand, and fragments whose markers do not match their values.
-/

namespace SqlGateway

/-- Operators between a column and an operand. -/
inductive Comparison where
  | eq | ne | gt | ge | lt | le | like | notLike | ilike
  deriving DecidableEq, Repr

namespace Comparison

def symbol : Comparison → String
  | .eq => "="
  | .ne => "<>"
  | .gt => ">"
  | .ge => ">="
  | .lt => "<"
  | .le => "<="
  | .like => "LIKE"
  | .notLike => "NOT LIKE"
  | .ilike => "ILIKE"

end Comparison

/-- Connectives between conditions. -/
inductive Connective where
  | and | or | not
  deriving DecidableEq, Repr

namespace Connective

def keyword : Connective → String
  | .and => "AND"
  | .or => "OR"
  | .not => "NOT"

def ofKeyword? (s : String) : Option Connective :=
  [.and, .or, .not].find? fun c => c.keyword == s

end Connective

/-- The right side of a comparison. -/
inductive Operand where
  | literal (v : Value)
  | column (c : Column)
  deriving DecidableEq, Repr

/-- A condition. -/
inductive Condition where
  | compare (op : Comparison) (left : Column) (right : Operand)
  /-- A connective over its children; the builders give a negation exactly one. -/
  | logical (op : Connective) (children : List Condition)
  | between (column : Column) (low high : Value) (negated : Bool)
  | inSet (column : Column) (members : List Value) (negated : Bool)
  | isNull (column : Column) (negated : Bool)
  /-- A hand-written fragment with a marker for each value. -/
  | raw (fragment : String) (binds : List Value)
  /-- An object in the place of a condition, in a tree that no builder has checked. -/
  | stray (object : Native)
  deriving Repr

namespace Condition

instance : Inhabited Condition := ⟨.raw "" []⟩

end Condition

/-- What a caller passes where a condition is expected. -/
inductive Term where
  | condition (c : Condition)
  | object (n : Native)
  deriving Repr, Inhabited

namespace Term

/-- The condition that is passed, if it is one. -/
def toCondition : Term → Except QueryError Condition
  | .condition (.stray n) => .error (.invalid (.notCondition n.typeName))
  | .condition c => .ok c
  | .object n => .error (.invalid (.notCondition n.typeName))

/-- The term as the child of an unchecked tree. -/
def unchecked : Term → Condition
  | .condition c => c
  | .object n => .stray n

end Term

/-! ## Members of a collection -/

/-- The members of an object, in order: of a text its characters, of a byte string its
numbers, of a dictionary its keys. -/
def Native.members : Native → Except QueryError (List Native)
  | .list items | .tuple items => .ok items
  | .dict entries => .ok (entries.map fun e => .text e.1)
  | .bytes _ b => .ok (b.map fun x => .int x.toNat)
  | n =>
    match n.asText? with
    | some s => .ok (s.toList.map fun c => .text (String.singleton c))
    | none => .error (.misused (.notIterable n.typeName))

namespace Condition

/-! ## Builders -/

/-- A value that is not Null. -/
def literalOf (place : String) (n : Native) : Except QueryError Value := do
  let v ← Query.valueOf n
  if v.isNull then .error (.invalid (.nullOperand place)) else .ok v

/-- The right side of a comparison: a column stays one, anything else is a value. -/
def operandOf (op : Comparison) (n : Native) : Except QueryError Operand :=
  match n with
  | .column name | .columnHandle name => .ok (.column ⟨name⟩)
  | n => (literalOf ("Right side of " ++ op.symbol) n).map .literal

def comparing (op : Comparison) (name right : Native) : Except QueryError Condition := do
  let c ← Column.of name
  let r ← operandOf op right
  return .compare op c r

def within (name low high : Native) (negated : Bool) : Except QueryError Condition := do
  let c ← Column.of name
  let l ← literalOf "BETWEEN bound" low
  let h ← literalOf "BETWEEN bound" high
  return .between c l h negated

/-- The members of a set: a collection that is not a single text or byte string. -/
def setMembers (n : Native) : Except QueryError (List Value) := do
  let single := match n with
    | .bytes .plain _ => true
    | n => n.asText?.isSome
  if single then .error (.invalid .notCollection)
  else (← n.members).mapM (literalOf "IN member")

def memberOf (name members : Native) (negated : Bool) : Except QueryError Condition := do
  let c ← Column.of name
  let vs ← setMembers members
  return .inSet c vs negated

def nullity (name : Native) (negated : Bool) : Except QueryError Condition := do
  let c ← Column.of name
  return .isNull c negated

/-- Several conditions under one connective; grouping is kept. -/
def junction (builder : String) (op : Connective) (terms : List Term) :
    Except QueryError Condition := do
  if terms.isEmpty then .error (.invalid (.noConditions builder))
  else
    let children ← terms.mapM Term.toCondition
    return .logical op children

def all (terms : List Term) : Except QueryError Condition := junction "and_" .and terms

def any (terms : List Term) : Except QueryError Condition := junction "or_" .or terms

def negation (term : Term) : Except QueryError Condition := do
  let c ← term.toCondition
  return .logical .not [c]

/-- A hand-written fragment; its markers must match the values one to one. -/
def fragmentOf (fragment : Native) (binds : Native) : Except QueryError Condition := do
  match fragment.asText? with
  | none => .error (.invalid .fragmentEmpty)
  | some text =>
    if Text.allBlank text then .error (.invalid .fragmentEmpty)
    else
      let values ← (← binds.members).mapM Query.valueOf
      let markers := (Query.splitMarkers text).length - 1
      if markers ≠ values.length then
        .error (.invalid (.fragmentBinds markers values.length))
      else .ok (.raw text values)

/-- A condition and another one, when there is one already. -/
def conjoin (current : Option Condition) (term : Term) : Except QueryError Condition := do
  let new ← term.toCondition
  match current with
  | none => return new
  | some old => all [.condition old, .condition new]

/-! ## Operators -/

/-- Operators are those of conditions and columns; other objects have none. -/
def operatorLeft (symbol : String) (left : Term) : Except QueryError Unit :=
  match left with
  | .condition _ | .object (.column _) => .ok ()
  | .object _ => .error (.misused (.noOperator symbol))

/-- The binary operators: the left side decides whether there is an operator at all. -/
def both (left right : Term) : Except QueryError Condition := do
  operatorLeft "&" left
  all [left, right]

def either (left right : Term) : Except QueryError Condition := do
  operatorLeft "|" left
  any [left, right]

def complement (term : Term) : Except QueryError Condition := do
  operatorLeft "~" term
  negation term

end Condition

end SqlGateway
