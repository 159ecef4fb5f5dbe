import Mathlib.Data.List.Find
import SqlGateway.Proofs.Executor.Calls
import SqlGateway.Proofs.Steps
set_option autoImplicit false

/-!
# Executor: rows by the names of their columns

Where the columns of a result have different names and its rows are as wide as they are, reading
it comes down to the cells under the columns of the fields.  If a column is missing, nothing is
read; otherwise each row is decoded on its own and goes to a mapper by column.
-/

namespace SqlGateway

namespace TableDescriptor

/-- The first field whose column is not among these. -/
def lacking? (d : TableDescriptor) (columns : List String) : Option FieldSpec :=
  d.fields.find? fun f => !columns.contains f.column

variable {d : TableDescriptor} {columns : List String}

theorem lacking?_eq_none : d.lacking? columns = none ↔ ∀ f ∈ d.fields, f.column ∈ columns := by
  simp [lacking?]

/-- Whether a column is there decides for the fields which one lacks its column. -/
theorem lacking?_congr {columns' : List String}
    (h : d.columns.map columns.contains = d.columns.map columns'.contains) :
    d.lacking? columns = d.lacking? columns' := by
  refine List.find?_congr fun f hf => ?_
  rw [List.map_inj_left.1 h f.column (List.mem_map_of_mem hf)]

end TableDescriptor

namespace DriverResult

/-! ## Cells -/

/-- The columns have different names, and every row is as wide as they are. -/
structure Rectangular (r : DriverResult) : Prop where
  distinct : r.columns.Nodup
  even : ∀ row ∈ r.rows, row.length = r.columns.length

/-- The cell of a row under a column. -/
def cell (columns : List String) (row : List Native) (name : String) : Native :=
  (row[columns.idxOf name]?).getD .null

/-- The failure of a result without the column of a field. -/
def absence (engine : String) (d : TableDescriptor) (f : FieldSpec) (columns : List String) :
    Failure :=
  ((missingColumn f.column columns).withContext "engine" (.text engine)).withContext "table"
    (.text d.table)

/-- The cells of a row under the columns of the fields, each decoded with the kind of its field. -/
def fieldValues (c : Codec) (columns : List String) (fields : List FieldSpec) (row : List Native) :
    Except Failure (List (String × Value)) :=
  fields.mapM fun f =>
    (decodeCell c f.kind (cell columns row f.column)).map fun v => (f.column, v)

/-- Values by column; the last of equal names counts. -/
def byColumn (values : List (String × Value)) : List (String × Value) :=
  values.foldl (fun es e => putEntry es e.1 e.2) []

/-- Values that have columns of their own are by column as they are. -/
theorem byColumn_of_nodup {values : List (String × Value)} (h : (values.map Prod.fst).Nodup) :
    byColumn values = values :=
  foldl_putEntry (by simpa using h)

section

variable {columns : List String} {row : List Native} {name : String} {i : Nat}

theorem idxOf_of_getElem? (hcolumns : columns.Nodup) (hi : columns[i]? = some name) :
    columns.idxOf name = i := by
  obtain ⟨hlt, rfl⟩ := List.getElem?_eq_some_iff.1 hi
  exact hcolumns.idxOf_getElem i hlt

theorem cell_of_getElem? (hcolumns : columns.Nodup) (hi : columns[i]? = some name) :
    cell columns row name = row[i]?.getD .null := by
  rw [cell, idxOf_of_getElem? hcolumns hi]

/-- Nothing stands under a column that is not there. -/
theorem cell_of_not_mem (hrow : row.length = columns.length) (hname : name ∉ columns) :
    cell columns row name = .null := by
  rw [cell, List.idxOf_eq_length hname, ← hrow, List.getElem?_eq_none (Nat.le_refl _)]
  rfl

/-- A column stands where its name does, if no other column has it. -/
theorem position?_of_getElem? (hcolumns : columns.Nodup) (hi : columns[i]? = some name) :
    position? columns name = some i := by
  have hmem : (name, i) ∈ columns.zipIdx.reverse := by
    rw [List.mem_reverse, List.mem_zipIdx_iff_getElem?]
    exact hi
  unfold position?
  cases hfind : columns.zipIdx.reverse.find? fun e => e.1 == name with
  | none =>
    have hnone := List.find?_eq_none.1 hfind _ hmem
    simp at hnone
  | some e =>
    have hname : e.1 = name := by simpa using List.find?_some hfind
    have hat : columns[e.2]? = some name := by
      rw [← hname, ← List.mem_zipIdx_iff_getElem?, ← List.mem_reverse]
      exact List.mem_of_find?_eq_some hfind
    obtain ⟨hlt, -⟩ := List.getElem?_eq_some_iff.1 hi
    have hsame : i = e.2 := (List.getElem?_inj hlt hcolumns).1 (hi.trans hat.symm)
    rw [Option.map_some, hsame]

/-- A column stands at its place, and nowhere if it is not there. -/
theorem position?_eq (hcolumns : columns.Nodup) (name : String) :
    position? columns name = if columns.contains name then some (columns.idxOf name) else none := by
  by_cases hmem : name ∈ columns
  · have hat : columns[columns.idxOf name]? = some name := by
      rw [List.getElem?_eq_getElem (List.idxOf_lt_length_iff.2 hmem), List.getElem_idxOf]
    rw [position?_of_getElem? hcolumns hat]
    simp [hmem]
  · have hnone : columns.zipIdx.reverse.find? (fun e => e.1 == name) = none := by
      refine List.find?_eq_none.2 fun e he hsame => hmem ?_
      rw [← beq_iff_eq.1 hsame]
      exact List.mem_of_getElem? (List.mem_zipIdx_iff_getElem?.1 (List.mem_reverse.1 he))
    simp [position?, hnone, hmem]

/-- Each field is at the place of its column, or the first that has none is refused. -/
theorem positions_eq (hcolumns : columns.Nodup) (fields : List FieldSpec) :
    positions columns fields =
      match fields.find? fun f => !columns.contains f.column with
      | some f => .error (missingColumn f.column columns)
      | none => .ok (fields.map fun f => (f, columns.idxOf f.column)) := by
  unfold positions
  induction fields with
  | nil => rfl
  | cons f fs ih =>
    rw [List.mapM_cons, ih, position?_eq hcolumns, List.find?_cons]
    cases columns.contains f.column with
    | false => rfl
    | true =>
      simp only [Bool.not_true]
      cases fs.find? fun f => !columns.contains f.column <;> rfl

theorem fieldValues_cons (c : Codec) (f : FieldSpec) (fs : List FieldSpec) (row : List Native) :
    fieldValues c columns (f :: fs) row = do
      let v ← decodeCell c f.kind (cell columns row f.column)
      let values ← fieldValues c columns fs row
      return (f.column, v) :: values := by
  rw [fieldValues, List.mapM_cons]
  cases decodeCell c f.kind (cell columns row f.column) <;> rfl

/-- The mapped cells of a row are the values of the fields by column. -/
theorem mappedCells_eq {c : Codec} {row : List Native} (hrow : row.length = columns.length)
    {fields : List FieldSpec} (hfields : ∀ f ∈ fields, f.column ∈ columns) :
    mappedCells c (fields.map fun f => (f, columns.idxOf f.column)) row =
      (fieldValues c columns fields row).map byColumn := by
  unfold mappedCells byColumn
  generalize ([] : List (String × Value)) = es
  induction fields generalizing es with
  | nil => rfl
  | cons f fs ih =>
    have hlt : columns.idxOf f.column < row.length := by
      rw [hrow]
      exact List.idxOf_lt_length_iff.2 (hfields f List.mem_cons_self)
    have hcell : row[columns.idxOf f.column]? = some (cell columns row f.column) := by
      rw [cell, List.getElem?_eq_getElem hlt]
      rfl
    have hrest := ih fun g hg => hfields g (List.mem_cons_of_mem f hg)
    rw [List.map_cons, List.foldlM_cons, hcell, fieldValues_cons]
    cases hdecode : decodeCell c f.kind (cell columns row f.column) with
    | error e => simp [hdecode, bind, Except.bind, Except.map]
    | ok v =>
      simp only [hdecode, bind, Except.bind, pure, Except.pure] at hrest ⊢
      rw [hrest]
      cases fieldValues c columns fs row <;> rfl

end

/-! ## Rows -/

/-- Whoever makes something of the values of a row. -/
abbrev Mapper (m : Type → Type) (α : Type) := List (String × Value) → TableDescriptor → m α

section

variable {m : Type → Type} [Monad m] [MonadExceptOf Failure m] {α : Type}

/-- What a mapper makes of a row: each field's cell is decoded, and the values go to the mapper by
column. -/
def readRow (read : Mapper m α) (c : Codec) (d : TableDescriptor) (columns : List String)
    (row : List Native) : m α := do
  let values ← MonadExcept.ofExcept (fieldValues c columns d.fields row)
  read (byColumn values) d

variable {read : Mapper m α} {c : Codec} {engine : String} {d : TableDescriptor}
  {r : DriverResult}

/-- A row is read by the cells under the columns of the descriptor. -/
theorem readRow_congr {columns columns' : List String} {row row' : List Native}
    (h : d.columns.map (cell columns row) = d.columns.map (cell columns' row')) :
    readRow read c d columns row = readRow read c d columns' row' := by
  have hvalues : fieldValues c columns d.fields row = fieldValues c columns' d.fields row' := by
    refine mapM_eq_of_forall₂ (List.forall₂_same.2 fun f hf => ?_)
    rw [List.map_inj_left.1 h f.column (List.mem_map_of_mem hf)]
  rw [readRow, hvalues]
  rfl

variable (hstops : Runner.Stops m)

include hstops

/-- Without a mapped column nothing is read. -/
theorem readRows_lacking (hr : r.Rectangular) {f : FieldSpec}
    (h : d.lacking? r.columns = some f) :
    readRows read c engine d r = throw (absence engine d f r.columns) := by
  unfold readRows
  rw [positions_eq hr.distinct, ← TableDescriptor.lacking?, h]
  exact hstops _ _

variable [LawfulMonad m]

/-- The rows are read one after the other, by the names of the columns. -/
theorem readRows_found (hr : r.Rectangular) (h : d.lacking? r.columns = none) :
    readRows read c engine d r = r.rows.mapM (readRow read c d r.columns) := by
  unfold readRows
  rw [positions_eq hr.distinct, ← TableDescriptor.lacking?, h]
  dsimp only [Except.mapError, MonadExcept.ofExcept]
  rw [pure_bind]
  refine mapM_eq_of_forall₂ (List.forall₂_same.2 fun row hrow => ?_)
  rw [mappedCells_eq (hr.even row hrow) (TableDescriptor.lacking?_eq_none.1 h), readRow]
  cases fieldValues c r.columns d.fields row with
  | error e => exact (hstops _ _).trans (hstops _ _).symm
  | ok values => simp [Except.map, MonadExcept.ofExcept]

end

theorem except_stops : Runner.Stops (Except Failure) := fun _ _ => rfl

end DriverResult

end SqlGateway
