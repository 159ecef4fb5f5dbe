import SqlGateway.Dialect.Basic
set_option autoImplicit false

/-!
# Dialects: fragments

Rendered SQL is a list of fragments.  Its text and its values are two views of one
list, so they cannot come apart: a value contributes a placeholder to the text and
itself to the values, and everything else contributes text only.
-/

namespace SqlGateway

/-- A fragment of rendered SQL. -/
inductive Fragment where
  /-- The dialect's own words and punctuation. -/
  | words (text : String)
  /-- A table or column by its name. -/
  | name (name : String)
  /-- Hand-written text. -/
  | written (text : String)
  /-- A bound value. -/
  | bind (v : Value)
  deriving Repr

namespace Fragment

/-- A fragment as text of a dialect. -/
def text (d : Dialect) : Fragment → String
  | .words s => s
  | .name n => d.quoteName n
  | .written s => String.ofList (d.verbatim s.toList)
  | .bind _ => d.style.placeholder

/-- The value of a fragment. -/
def value? : Fragment → Option Value
  | .bind v => some v
  | _ => none

/-- The text of all fragments. -/
def sql (d : Dialect) (fs : List Fragment) : String :=
  String.ofList (fs.flatMap fun f => (f.text d).toList)

/-- The values of all fragments, in order. -/
def binds (fs : List Fragment) : List Value := fs.filterMap value?

/-- Groups of fragments with words between them. -/
def joinWith (separator : String) : List (List Fragment) → List Fragment
  | [] => []
  | [g] => g
  | g :: rest => g ++ .words separator :: joinWith separator rest

/-- Names with commas between them. -/
def names (cs : List Column) : List Fragment := joinWith ", " (cs.map fun c => [.name c.name])

/-- Values with commas between them. -/
def values (vs : List Value) : List Fragment := joinWith ", " (vs.map fun v => [.bind v])

/-- Fragments in brackets. -/
def bracketed (fs : List Fragment) : List Fragment := .words "(" :: fs ++ [.words ")"]

end Fragment

end SqlGateway
