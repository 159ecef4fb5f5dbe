import SqlGateway.Query.Condition
set_option autoImplicit false

/-!
# Queries: what a condition means

The *reading* of a condition is its tree without what leaves no trace in SQL: a junction of
one condition is that condition, and membership in an empty set is a constant.  Truth has
three values; the atoms are given theirs, and connectives work as in SQL.  A condition and
its reading are equally true.
-/

namespace SqlGateway

/-! ## Three-valued truth -/

/-- A truth value, or none where it is unknown. -/
abbrev Truth := Option Bool

namespace Truth

def negation : Truth → Truth
  | some b => some (!b)
  | none => none

def conjunction : Truth → Truth → Truth
  | some false, _ => some false
  | _, some false => some false
  | some true, some true => some true
  | _, _ => none

def disjunction : Truth → Truth → Truth
  | some true, _ => some true
  | _, some true => some true
  | some false, some false => some false
  | _, _ => none

/-- All of several; of none, true. -/
def all : List Truth → Truth := List.foldr conjunction (some true)

/-- Any of several; of none, false. -/
def any : List Truth → Truth := List.foldr disjunction (some false)

theorem all_singleton (t : Truth) : all [t] = t := by
  rcases t with _ | _ | _ <;> rfl

theorem any_singleton (t : Truth) : any [t] = t := by
  rcases t with _ | _ | _ <;> rfl

theorem all_pair (s t : Truth) : all [s, t] = conjunction s t := by
  rcases s with _ | _ | _ <;> rcases t with _ | _ | _ <;> rfl

end Truth

/-! ## Readings -/

/-- Condition text with its grouping: atoms and constants under connectives. -/
inductive Reading where
  | atom (c : Condition)
  | constant (b : Bool)
  | not (r : Reading)
  | and (rs : List Reading)
  | or (rs : List Reading)

namespace Reading

/-- Several readings under a connective; one alone needs none. -/
def joined (op : List Reading → Reading) : List Reading → Reading
  | [r] => r
  | rs => op rs

/-- Readings under a connective of conditions. -/
def ofConnective : Connective → List Reading → Reading
  | .and, rs => joined .and rs
  | .or, rs => joined .or rs
  | .not, rs => .not (joined .and rs)

mutual

/-- The truth of a reading under the truth of its atoms. -/
def truth (ρ : Condition → Truth) : Reading → Truth
  | .atom c => ρ c
  | .constant b => some b
  | .not r => (r.truth ρ).negation
  | .and rs => .all (truths ρ rs)
  | .or rs => .any (truths ρ rs)

/-- The truth of several readings. -/
def truths (ρ : Condition → Truth) : List Reading → List Truth
  | [] => []
  | r :: rs => truth ρ r :: truths ρ rs

end

theorem truths_eq_map (ρ : Condition → Truth) (rs : List Reading) :
    truths ρ rs = rs.map (truth ρ) := by
  induction rs with
  | nil => rfl
  | cons r rs ih => rw [truths, ih, List.map_cons]

theorem truth_joined_and (ρ : Condition → Truth) (rs : List Reading) :
    (joined .and rs).truth ρ = .all (rs.map (truth ρ)) := by
  match rs with
  | [] => rfl
  | [r] => rw [joined, List.map_singleton, Truth.all_singleton]
  | r :: s :: rs => rw [joined, truth, truths_eq_map]; nofun

theorem truth_joined_or (ρ : Condition → Truth) (rs : List Reading) :
    (joined .or rs).truth ρ = .any (rs.map (truth ρ)) := by
  match rs with
  | [] => rfl
  | [r] => rw [joined, List.map_singleton, Truth.any_singleton]
  | r :: s :: rs => rw [joined, truth, truths_eq_map]; nofun

end Reading

namespace Condition

mutual

/-- What a condition says: junctions of one condition are dropped, and membership in an empty
set is a constant. -/
def reading : Condition → Reading
  | .logical op cs => .ofConnective op (readings cs)
  | .inSet _ [] negated => .constant negated
  | c => .atom c

/-- The readings of several conditions. -/
def readings : List Condition → List Reading
  | [] => []
  | c :: cs => reading c :: readings cs

end

mutual

/-- The truth of a condition under the truth of its leaves; nothing is in an empty set. -/
def truth (ρ : Condition → Truth) : Condition → Truth
  | .logical .and cs => .all (truths ρ cs)
  | .logical .or cs => .any (truths ρ cs)
  | .logical .not cs => (Truth.all (truths ρ cs)).negation
  | .inSet _ [] negated => some negated
  | c => ρ c

/-- The truth of several conditions. -/
def truths (ρ : Condition → Truth) : List Condition → List Truth
  | [] => []
  | c :: cs => truth ρ c :: truths ρ cs

end

theorem readings_eq_map (cs : List Condition) : readings cs = cs.map reading := by
  induction cs with
  | nil => rfl
  | cons c cs ih => rw [readings, ih, List.map_cons]

theorem reading_logical (op : Connective) (cs : List Condition) :
    (Condition.logical op cs).reading = .ofConnective op (cs.map reading) := by
  rw [reading, readings_eq_map]

mutual

/-- A condition and its reading are equally true. -/
theorem truth_reading (ρ : Condition → Truth) : ∀ c : Condition, c.reading.truth ρ = c.truth ρ
  | .logical op cs => by
    have hcs := truths_readings ρ cs
    rw [Reading.truths_eq_map] at hcs
    cases op with
    | and => rw [reading, Reading.ofConnective, Reading.truth_joined_and, hcs, truth]
    | or => rw [reading, Reading.ofConnective, Reading.truth_joined_or, hcs, truth]
    | not =>
      rw [reading, Reading.ofConnective, Reading.truth, Reading.truth_joined_and, hcs, truth]
  | .inSet column [] negated => by rw [reading, truth, Reading.truth]
  | .inSet column (v :: vs) negated => by rw [reading, truth, Reading.truth] <;> nofun
  | .compare _ _ _ => by rw [reading, truth, Reading.truth] <;> nofun
  | .between _ _ _ _ => by rw [reading, truth, Reading.truth] <;> nofun
  | .isNull _ _ => by rw [reading, truth, Reading.truth] <;> nofun
  | .raw _ _ => by rw [reading, truth, Reading.truth] <;> nofun
  | .stray _ => by rw [reading, truth, Reading.truth] <;> nofun

theorem truths_readings (ρ : Condition → Truth) :
    ∀ cs : List Condition, Reading.truths ρ (readings cs) = truths ρ cs
  | [] => rfl
  | c :: cs => by
    rw [readings, Reading.truths, truth_reading ρ c, truths_readings ρ cs, truths]

end

end Condition

end SqlGateway
