import SqlGateway.Query.Statement
import SqlGateway.Value.Convert
set_option autoImplicit false

/-!
# Queries: equality

Two queries are equal when they have the same shape and equal values in it.
Values are compared from left to right up to the first difference, because a
NaN that signals cannot be compared at all.
-/

namespace SqlGateway

namespace Query

/-- Go on comparing only while nothing has differed. -/
def andThen (a b : Except ConversionFault Bool) : Except ConversionFault Bool := do
  if ← a then b else return false

/-- Members are compared in order as long as both lists have some. -/
def equalLists {α : Type} (eq : α → α → Except ConversionFault Bool) :
    List α → List α → Except ConversionFault Bool
  | [], [] => .ok true
  | a :: as, b :: bs => andThen (eq a b) (equalLists eq as bs)
  | _, _ => .ok false

def equalOptions {α : Type} (eq : α → α → Except ConversionFault Bool) :
    Option α → Option α → Except ConversionFault Bool
  | none, none => .ok true
  | some a, some b => eq a b
  | _, _ => .ok false

end Query

open Query

def Operand.equal : Operand → Operand → Except ConversionFault Bool
  | .literal v, .literal w => v.equal w
  | .column c, .column d => .ok (c == d)
  | _, _ => .ok false

mutual

def Condition.equal : Condition → Condition → Except ConversionFault Bool
  | .compare op c r, .compare op' c' r' => andThen (.ok (op == op' && c == c')) (r.equal r')
  | .logical op cs, .logical op' cs' =>
    andThen (.ok (op == op')) (Condition.equalAll cs cs')
  | .between c l h n, .between c' l' h' n' =>
    andThen (.ok (c == c')) (andThen (l.equal l') (andThen (h.equal h') (.ok (n == n'))))
  | .inSet c vs n, .inSet c' vs' n' =>
    andThen (.ok (c == c')) (andThen (equalLists Value.equal vs vs') (.ok (n == n')))
  | .isNull c n, .isNull c' n' => .ok (c == c' && n == n')
  | .raw f bs, .raw f' bs' => andThen (.ok (f == f')) (equalLists Value.equal bs bs')
  | .stray (.column c), .stray (.column d) => .ok (c == d)
  | _, _ => .ok false

/-- The children of two connectives, in order. -/
def Condition.equalAll : List Condition → List Condition → Except ConversionFault Bool
  | [], [] => .ok true
  | c :: cs, d :: ds => andThen (Condition.equal c d) (Condition.equalAll cs ds)
  | _, _ => .ok false

end

/-- An object that is an operand rather than a condition is equal only to a column of the same
name; other objects are not compared as queries. -/
def Term.equal : Term → Term → Except ConversionFault Bool
  | .condition c, .condition d => c.equal d
  | .object (.column c), .object (.column d) => .ok (c == d)
  | _, _ => .ok false

def Join.equal (a b : Join) : Except ConversionFault Bool :=
  andThen (.ok (a.kind == b.kind && a.table == b.table)) (a.on.equal b.on)

def Statement.equal : Statement → Statement → Except ConversionFault Bool
  | .select a, .select b =>
    andThen (.ok (a.table == b.table && a.columns == b.columns))
      (andThen (equalOptions Condition.equal a.filter b.filter)
        (andThen (.ok (a.order == b.order && a.group == b.group))
          (andThen (equalOptions Condition.equal a.having b.having)
            (andThen (.ok (a.limit == b.limit && a.offset == b.offset))
              (andThen (equalLists Join.equal a.joins b.joins)
                (.ok (a.distinct == b.distinct && a.count == b.count)))))))
  | .insert a, .insert b =>
    andThen (.ok (a.table == b.table && a.columns == b.columns))
      (andThen (equalLists (equalLists Value.equal) a.rows b.rows)
        (.ok (a.returning == b.returning)))
  | .update a, .update b =>
    andThen (.ok (a.table == b.table))
      (andThen
        (equalLists (fun x y => andThen (.ok (x.1 == y.1)) (x.2.equal y.2))
          a.assignments b.assignments)
        (equalOptions Condition.equal a.filter b.filter))
  | .delete a, .delete b =>
    andThen (.ok (a.table == b.table)) (equalOptions Condition.equal a.filter b.filter)
  | _, _ => .ok false

/-- Bound statements are equal whatever dialect they were rendered for. -/
def BoundStatement.equal (a b : BoundStatement) : Except ConversionFault Bool :=
  andThen (.ok (a.sql == b.sql))
    (andThen (equalLists Value.equal a.binds b.binds) (.ok (a.style == b.style)))

def Request.equal : Request → Request → Except ConversionFault Bool
  | .statement a, .statement b => a.equal b
  | .bound a, .bound b => a.equal b
  | _, _ => .ok false

end SqlGateway
