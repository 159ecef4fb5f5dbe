import Mathlib.Logic.Relation
import SqlGateway.Proofs.Executor.RowsByName
import SqlGateway.Proofs.Mapping.RecordRoundTrip
set_option autoImplicit false

/-!
# Executor: how a result is laid out

Rows are read by the names of their columns.  A result may have its columns in another order, or
have more of them than a descriptor maps, and the same is read from it.  Where a mapped column is
not there nothing is read at all.  Otherwise a row is the cells under the columns of the fields,
each decoded with the kind of its field, and a mapper makes of them what it will.

A mapper is given one value for each column.  If several fields are mapped to one column, that is
the value that the last of them reads there.
-/

namespace SqlGateway

/-! ## Columns of a descriptor -/

namespace TableDescriptor

/-- The last field that is mapped to the column of a field. -/
def decider (d : TableDescriptor) (f : FieldSpec) : FieldSpec :=
  (d.fields.reverse.find? fun g => g.column == f.column).getD f

variable {d : TableDescriptor} {f : FieldSpec}

theorem find?_decider (hf : f ∈ d.fields) :
    (d.fields.reverse.find? fun g => g.column == f.column) = some (d.decider f) := by
  unfold decider
  cases hfind : d.fields.reverse.find? fun g => g.column == f.column with
  | some g => rfl
  | none => exact absurd (List.find?_eq_none.1 hfind f (List.mem_reverse.2 hf)) (by simp)

theorem decider_mem (hf : f ∈ d.fields) : d.decider f ∈ d.fields :=
  List.mem_reverse.1 (List.mem_of_find?_eq_some (find?_decider hf))

/-- A field that has a column for itself decides what is read there. -/
theorem decider_eq_self (hf : f ∈ d.fields)
    (halone : ∀ g ∈ d.fields, g.column = f.column → g = f) : d.decider f = f := by
  refine halone _ (decider_mem hf) ?_
  simpa using List.find?_some (find?_decider hf)

end TableDescriptor

/-! ## Who misses a column -/

/-- The failure says that a result has no such column. -/
def Failure.lacksColumn : Failure → Bool
  | .fault (.missingColumn ..) _ _ _ => true
  | _ => false

/-- If this fails, it is not for a missing column. -/
abbrev MissesNoColumn {α : Type} (x : Except Failure α) : Prop :=
  Gives (fun e : Failure => e.lacksColumn = false) (fun _ => True) x

theorem MissesNoColumn.mapM {α β : Type} {f : α → Except Failure β} {as : List α}
    (h : ∀ a ∈ as, MissesNoColumn (f a)) : MissesNoColumn (as.mapM f) :=
  (Gives.mapM (R := fun _ _ => True) h).mono_ok fun _ _ => trivial

theorem ConversionFault.lacksColumn_toFailure (e : ConversionFault) :
    e.toFailure.lacksColumn = false := by
  cases e with
  | refused r =>
    rw [toFailure, Refusal.toFailure]
    split <;> rfl
  | broke b => cases b <;> rfl

/-- The mapper of a record type never says that a column is missing. -/
theorem RecordMapper.missesNoColumn_decodeRow (t : RecordMapper) (values : List (String × Value))
    (d : TableDescriptor) : MissesNoColumn (t.decodeRow values d) := by
  refine Gives.bind (P := fun _ => True) (MissesNoColumn.mapM fun f _ => ?_) fun given _ => ?_
  · split
    · exact .error rfl
    · split
      · exact .error rfl
      · exact .ok trivial
  · unfold RecordType.construct
    split
    · exact .error rfl
    · refine Gives.bind (P := fun _ => True) (MissesNoColumn.mapM fun g _ => ?_)
        fun _ _ => .ok trivial
      split
      · exact .ok trivial
      · exact .error rfl

namespace DriverResult

/-! ## Layouts -/

/-- What stands at some places, in their order. -/
def taken {α : Type} (places : List Nat) (xs : List α) : List α := places.filterMap (xs[·]?)

/-- The columns at some places, and the cells of every row there. -/
def pick (r : DriverResult) (places : List Nat) : DriverResult :=
  { r with columns := taken places r.columns, rows := r.rows.map (taken places) }

/-- The columns of a result are put into another order, and some that nothing is mapped to are left
out. -/
inductive Rearranged (d : TableDescriptor) : DriverResult → DriverResult → Prop where
  | pick {r : DriverResult} {places : List Nat} (hr : r.Rectangular) (once : places.Nodup)
      (inside : ∀ i ∈ places, i < r.columns.length)
      (mapped : ∀ i name, r.columns[i]? = some name → name ∈ d.columns → i ∈ places) :
      Rearranged d r (r.pick places)

/-- One result becomes the other by putting columns into another order, with the cells of the rows,
and by leaving out or adding columns that nothing is mapped to. -/
def Relaid (d : TableDescriptor) : DriverResult → DriverResult → Prop :=
  Relation.EqvGen (Rearranged d)

/-- What a result has under the columns of a descriptor: which of them there are, and their cells in
each row. -/
def mappedPart (d : TableDescriptor) (r : DriverResult) : List Bool × List (List Native) :=
  (d.columns.map r.columns.contains, r.rows.map fun row => d.columns.map (cell r.columns row))

section

variable {columns : List String} {row : List Native} {name : String} {i : Nat}
  {places : List Nat}

theorem getElem?_taken {α : Type} {xs : List α} (h : ∀ i ∈ places, i < xs.length) (j : Nat) :
    (taken places xs)[j]? = places[j]?.bind (xs[·]?) := by
  unfold taken
  induction places generalizing j with
  | nil => rfl
  | cons i is ih =>
    obtain ⟨x, hi⟩ : ∃ x, xs[i]? = some x := ⟨_, List.getElem?_eq_getElem (h i List.mem_cons_self)⟩
    rw [List.filterMap_cons_some hi]
    cases j with
    | zero => simp [hi]
    | succ j =>
      rw [List.getElem?_cons_succ, List.getElem?_cons_succ]
      exact ih (fun i hi => h i (List.mem_cons_of_mem _ hi)) j

theorem length_taken {α : Type} {xs : List α} (h : ∀ i ∈ places, i < xs.length) :
    (taken places xs).length = places.length := by
  unfold taken
  induction places with
  | nil => rfl
  | cons i is ih =>
    obtain ⟨x, hi⟩ : ∃ x, xs[i]? = some x := ⟨_, List.getElem?_eq_getElem (h i List.mem_cons_self)⟩
    rw [List.filterMap_cons_some hi, List.length_cons, List.length_cons,
      ih fun i hi => h i (List.mem_cons_of_mem _ hi)]

section

variable (inside : ∀ i ∈ places, i < columns.length)
  (hname : ∀ i, columns[i]? = some name → i ∈ places)

include inside hname

/-- A column whose place is taken has a place among those that are. -/
theorem taken_at (hi : columns[i]? = some name) :
    ∃ j : Nat, places[j]? = some i ∧ (taken places columns)[j]? = some name := by
  obtain ⟨j, hj⟩ := List.getElem?_of_mem (hname i hi)
  refine ⟨j, hj, ?_⟩
  rw [getElem?_taken inside, hj]
  exact hi

theorem mem_taken : name ∈ taken places columns ↔ name ∈ columns := by
  constructor
  · intro hmem
    obtain ⟨i, -, hi⟩ := List.mem_filterMap.1 hmem
    exact List.mem_of_getElem? hi
  · intro hmem
    obtain ⟨i, hi⟩ := List.getElem?_of_mem hmem
    obtain ⟨j, -, hj⟩ := taken_at inside hname hi
    exact List.mem_of_getElem? hj

/-- The cells of a row move with their columns. -/
theorem cell_taken (hcolumns : columns.Nodup) (htaken : (taken places columns).Nodup)
    (hrow : row.length = columns.length) :
    cell (taken places columns) (taken places row) name = cell columns row name := by
  have hinside : ∀ i ∈ places, i < row.length := fun i hi => hrow ▸ inside i hi
  by_cases hmem : name ∈ columns
  · obtain ⟨i, hi⟩ := List.getElem?_of_mem hmem
    obtain ⟨j, hj, hat⟩ := taken_at inside hname hi
    rw [cell_of_getElem? htaken hat, cell_of_getElem? hcolumns hi, getElem?_taken hinside, hj]
    rfl
  · have hwidth : (taken places row).length = (taken places columns).length := by
      rw [length_taken hinside, length_taken inside]
    rw [cell_of_not_mem hwidth fun h => hmem ((mem_taken inside hname).1 h),
      cell_of_not_mem hrow hmem]

end

end

variable {d : TableDescriptor} {r r' : DriverResult} {places : List Nat}

theorem Rectangular.picked (hr : r.Rectangular) (once : places.Nodup)
    (inside : ∀ i ∈ places, i < r.columns.length) : (r.pick places).Rectangular := by
  refine ⟨once.filterMap fun i i' name hi hi' => ?_, ?_⟩
  · exact (idxOf_of_getElem? hr.distinct hi).symm.trans (idxOf_of_getElem? hr.distinct hi')
  · intro row hrow
    obtain ⟨whole, hwhole, rfl⟩ := List.mem_map.1 hrow
    have hwidth := hr.even whole hwhole
    rw [length_taken (hwidth ▸ inside), pick, length_taken inside]

/-- What is picked has the same under the columns of a descriptor. -/
theorem Rearranged.mappedPart_eq (h : Rearranged d r r') : mappedPart d r = mappedPart d r' := by
  obtain @⟨places, hr, once, inside, mapped⟩ := h
  have hdistinct : (taken places r.columns).Nodup := (hr.picked once inside).distinct
  have hcolumns : ∀ name ∈ d.columns,
      r.columns.contains name = (taken places r.columns).contains name := by
    intro name hname
    rw [Bool.eq_iff_iff, List.contains_iff_mem, List.contains_iff_mem]
    exact (mem_taken inside fun i hi => mapped i name hi hname).symm
  have hcells : ∀ row ∈ r.rows, ∀ name ∈ d.columns,
      cell r.columns row name = cell (taken places r.columns) (taken places row) name := by
    intro row hrow name hname
    exact (cell_taken inside (fun i hi => mapped i name hi hname) hr.distinct hdistinct
      (hr.even row hrow)).symm
  unfold mappedPart DriverResult.pick
  refine Prod.ext (List.map_congr_left hcolumns) ?_
  rw [List.map_map]
  exact List.map_congr_left fun row hrow => List.map_congr_left (hcells row hrow)

/-- Layouts of the same have the same under the columns of a descriptor. -/
theorem Relaid.mappedPart_eq (h : Relaid d r r') :
    mappedPart d r = mappedPart d r' ∧ (r.Rectangular ↔ r'.Rectangular) := by
  induction h with
  | rel r r' h =>
    refine ⟨h.mappedPart_eq, ?_⟩
    obtain ⟨hr, once, inside, -⟩ := h
    exact ⟨fun hr => hr.picked once inside, fun _ => hr⟩
  | refl r => exact ⟨rfl, Iff.rfl⟩
  | symm r r' _ ih => exact ⟨ih.1.symm, ih.2.symm⟩
  | trans r s t _ _ ih ih' => exact ⟨ih.1.trans ih'.1, ih.2.trans ih'.2⟩

/-! ## What is read -/

/-- The value that is found under the column of a field is the one that its decider reads. -/
theorem find?_byColumn {d : TableDescriptor} (value : FieldSpec → Value) {f : FieldSpec}
    (hf : f ∈ d.fields) :
    (byColumn (d.fields.map fun g => (g.column, value g))).find? (fun e => e.1 == f.column) =
      some (f.column, value (d.decider f)) := by
  unfold byColumn
  rw [find?_foldl_putEntry, ← List.map_reverse, List.find?_map]
  have hfind := TableDescriptor.find?_decider hf
  simp only [Function.comp_def] at hfind ⊢
  rw [hfind]
  rfl

/-- From another layout the same is read, or the same column is missing. -/
theorem readRows_relaid {m : Type → Type} [Monad m] [LawfulMonad m] [MonadExceptOf Failure m]
    {α : Type} {read : Mapper m α} {c : Codec} {engine : String} (hstops : Runner.Stops m)
    (hr : r.Rectangular) (h : Relaid d r r') :
    (d.lacking? r.columns = none ∧
      r'.readRows read c engine d = r.readRows read c engine d) ∨
    ∃ f, d.lacking? r.columns = some f ∧
      r.readRows read c engine d = throw (absence engine d f r.columns) ∧
      r'.readRows read c engine d = throw (absence engine d f r'.columns) := by
  obtain ⟨hpart, hrectangular⟩ := h.mappedPart_eq
  obtain ⟨hcolumns, hrows⟩ := Prod.mk.inj hpart
  have hr' := hrectangular.1 hr
  have hlacking := TableDescriptor.lacking?_congr hcolumns
  cases hfound : d.lacking? r.columns with
  | some f =>
    exact .inr ⟨f, rfl, readRows_lacking hstops hr hfound,
      readRows_lacking hstops hr' (hlacking.symm.trans hfound)⟩
  | none =>
    refine .inl ⟨rfl, ?_⟩
    rw [readRows_found hstops hr hfound, readRows_found hstops hr' (hlacking.symm.trans hfound)]
    rw [← List.forall₂_eq_eq_eq, List.forall₂_map_left_iff, List.forall₂_map_right_iff] at hrows
    exact (mapM_eq_of_forall₂ (hrows.imp fun _ _ hcells => readRow_congr hcells)).symm

section

variable {α : Type} {read : Mapper (Except Failure) α} {c : Codec} {engine : String}
  {d : TableDescriptor} {r : DriverResult}

/-- There is a record for each row, in order, where every mapped column is there and each row is
read. -/
theorem readRows_eq_ok_iff (hr : r.Rectangular) {records : List α} :
    readRows read c engine d r = .ok records ↔ d.lacking? r.columns = none ∧
      List.Forall₂ (fun row record => readRow read c d r.columns row = .ok record) r.rows
        records := by
  cases h : d.lacking? r.columns with
  | some f =>
    rw [readRows_lacking except_stops hr h]
    exact ⟨fun h => (nomatch h), fun h => (nomatch h.1)⟩
  | none =>
    rw [readRows_found except_stops hr h, Except.mapM_eq_ok_iff]
    exact ⟨fun hall => ⟨rfl, hall⟩, fun hall => hall.2⟩

theorem missesNoColumn_fieldValues (c : Codec) (columns : List String) (fields : List FieldSpec)
    (row : List Native) : MissesNoColumn (fieldValues c columns fields row) := by
  refine MissesNoColumn.mapM fun f _ => ?_
  rw [decodeCell]
  cases c.decode (cell columns row f.column) f.kind with
  | error e => exact .error e.lacksColumn_toFailure
  | ok v => exact .ok trivial

/-- A column is missing exactly where a mapped one is, if the mapper does not say so itself. -/
theorem readRows_lacks_iff (hr : r.Rectangular)
    (hread : ∀ values, MissesNoColumn (read values d)) :
    (∃ e, readRows read c engine d r = .error e ∧ e.lacksColumn = true) ↔
      ∃ f ∈ d.fields, f.column ∉ r.columns := by
  cases h : d.lacking? r.columns with
  | some f =>
    rw [readRows_lacking except_stops hr h]
    have hf : f.column ∉ r.columns := by simpa using List.find?_some h
    exact ⟨fun _ => ⟨f, List.mem_of_find?_eq_some h, hf⟩, fun _ => ⟨_, rfl, rfl⟩⟩
  | none =>
    have hrows : MissesNoColumn (readRows read c engine d r) := by
      rw [readRows_found except_stops hr h]
      refine MissesNoColumn.mapM fun row _ => ?_
      rw [readRow]
      cases hvalues : fieldValues c r.columns d.fields row with
      | error e =>
        exact .error ((missesNoColumn_fieldValues c r.columns d.fields row).of_eq_error hvalues)
      | ok values => exact hread (byColumn values)
    constructor
    · intro hlacks
      obtain ⟨e, he, hlacks⟩ := hlacks
      rw [hrows.of_eq_error he] at hlacks
      cases hlacks
    · intro hmissing
      obtain ⟨f, hf, hmissing⟩ := hmissing
      exact absurd (TableDescriptor.lacking?_eq_none.1 h f hf) hmissing

/-- Where every cell is decoded and no attribute that needs a value lacks one, there is a record for
each row, with the values under the columns of its fields. -/
theorem toRecords_eq_ok (hr : r.Rectangular) (engine : String) {t : RecordMapper}
    {value : List Native → FieldSpec → Value} (htype : t.type.Admits d)
    (hcolumns : d.lacking? r.columns = none)
    (hcells : ∀ row ∈ r.rows, ∀ f ∈ d.fields,
      decodeCell c f.kind (cell r.columns row f.column) = .ok (value row f))
    (hvalues : ∀ row ∈ r.rows, ∀ f ∈ d.fields,
      (value row (d.decider f)).isNull = true → f.nullable = true) :
    ∃ records, r.toRecords c engine d t = .ok records ∧
      List.Forall₂ (fun row record => ∀ f ∈ d.fields,
        RecordMapper.member record f.member = .ok (.ofValue (value row (d.decider f))))
        r.rows records := by
  have hrow : ∀ row ∈ r.rows, ∃ record, readRow t.decodeRow c d r.columns row = .ok record ∧
      ∀ f ∈ d.fields,
        RecordMapper.member record f.member = .ok (.ofValue (value row (d.decider f))) := by
    intro row hrow
    have hread : fieldValues c r.columns d.fields row =
        .ok (d.fields.map fun f => (f.column, value row f)) := by
      refine Except.mapM_eq_ok fun f hf => ?_
      rw [hcells row hrow f hf]
      rfl
    have hattributes := RecordMapper.decodeAttributes_of_found
      (fun f => value row (d.decider f)) (fun f hf => find?_byColumn (value row) hf)
      (hvalues row hrow)
    obtain ⟨record, hrecord, hmembers⟩ :=
      htype.construct_mapped fun f => .ofValue (value row (d.decider f))
    refine ⟨record, ?_, hmembers⟩
    rw [readRow, hread]
    simp only [MonadExcept.ofExcept, pure, Except.pure, bind, Except.bind, RecordMapper.decodeRow]
    rw [hattributes]
    exact hrecord
  choose! record hrecord hmembers using hrow
  refine ⟨r.rows.map record, (readRows_eq_ok_iff hr).2 ⟨hcolumns, ?_⟩, ?_⟩
  · exact List.forall₂_map_right_iff.2 (List.forall₂_same.2 hrecord)
  · exact List.forall₂_map_right_iff.2 (List.forall₂_same.2 hmembers)

end

/-! ## The whole of it -/

/-- What is read from a result follows from the names of its columns. -/
structure ReadsByName (c : Codec) (engine : String) (d : TableDescriptor) (r : DriverResult) :
    Prop where
  /-- Without a mapped column nothing is read, whatever the rows and the mapper: the first field
  that lacks its column is named. -/
  lacking : ∀ {m : Type → Type} [Monad m] [MonadExceptOf Failure m] {α : Type}
    (read : Mapper m α) {f : FieldSpec}, Runner.Stops m → d.lacking? r.columns = some f →
      r.readRows read c engine d = throw (absence engine d f r.columns)
  /-- Otherwise the rows are read one after the other. -/
  found : ∀ {m : Type → Type} [Monad m] [LawfulMonad m] [MonadExceptOf Failure m] {α : Type}
    (read : Mapper m α), Runner.Stops m → d.lacking? r.columns = none →
      r.readRows read c engine d = r.rows.mapM (readRow read c d r.columns)
  /-- Another layout is read the same, or lacks the same column. -/
  relaid : ∀ {m : Type → Type} [Monad m] [LawfulMonad m] [MonadExceptOf Failure m] {α : Type}
    (read : Mapper m α) {r' : DriverResult}, Runner.Stops m → Relaid d r r' →
      (d.lacking? r.columns = none ∧
        r'.readRows read c engine d = r.readRows read c engine d) ∨
      ∃ f, d.lacking? r.columns = some f ∧
        r.readRows read c engine d = throw (absence engine d f r.columns) ∧
        r'.readRows read c engine d = throw (absence engine d f r'.columns)
  /-- A mapper that does not say so itself never fails for a missing column but where a mapped
  column is missing. -/
  misses_iff : ∀ {α : Type} (read : Mapper (Except Failure) α),
    (∀ values, MissesNoColumn (read values d)) →
      ((∃ e, r.readRows read c engine d = .error e ∧ e.lacksColumn = true) ↔
        ∃ f ∈ d.fields, f.column ∉ r.columns)
  /-- Neither does the mapper of a record type. -/
  records_miss_iff : ∀ t : RecordMapper,
    (∃ e, r.toRecords c engine d t = .error e ∧ e.lacksColumn = true) ↔
      ∃ f ∈ d.fields, f.column ∉ r.columns
  /-- There is a result for each row, in order, or none at all. -/
  one_each : ∀ {α : Type} (read : Mapper (Except Failure) α) (results : List α),
    r.readRows read c engine d = .ok results ↔ d.lacking? r.columns = none ∧
      List.Forall₂ (fun row result => readRow read c d r.columns row = .ok result) r.rows results
  /-- Under the column of a field the mapper finds what the last field with that column reads. -/
  given : ∀ row (value : FieldSpec → Value),
    (∀ f ∈ d.fields, decodeCell c f.kind (cell r.columns row f.column) = .ok (value f)) →
      ∃ values, fieldValues c r.columns d.fields row = .ok values ∧ ∀ f ∈ d.fields,
        (byColumn values).find? (fun e => e.1 == f.column) =
          some (f.column, value (d.decider f))
  /-- A field that has a column for itself is that field. -/
  alone : ∀ f ∈ d.fields, (∀ g ∈ d.fields, g.column = f.column → g = f) → d.decider f = f
  /-- Records are made of rows that are decoded and lack no value that an attribute needs. -/
  records : ∀ (t : RecordMapper) (value : List Native → FieldSpec → Value),
    t.type.Admits d → d.lacking? r.columns = none →
    (∀ row ∈ r.rows, ∀ f ∈ d.fields,
      decodeCell c f.kind (cell r.columns row f.column) = .ok (value row f) ∧
        ((value row (d.decider f)).isNull = true → f.nullable = true)) →
    ∃ records, r.toRecords c engine d t = .ok records ∧
      List.Forall₂ (fun row record => ∀ f ∈ d.fields,
        RecordMapper.member record f.member = .ok (.ofValue (value row (d.decider f))))
        r.rows records

/-- What is read from a result does not depend on its layout: it follows from the names of the
columns and the cells under them. -/
theorem Rectangular.readsByName {r : DriverResult} (hr : r.Rectangular) (c : Codec)
    (engine : String) (d : TableDescriptor) : r.ReadsByName c engine d where
  lacking _ _ hstops h := readRows_lacking hstops hr h
  found _ hstops h := readRows_found hstops hr h
  relaid _ _ hstops h := readRows_relaid hstops hr h
  misses_iff _ hread := readRows_lacks_iff hr hread
  records_miss_iff t := readRows_lacks_iff hr fun values => t.missesNoColumn_decodeRow values d
  one_each _ _ := readRows_eq_ok_iff hr
  given row value h := by
    refine ⟨_, Except.mapM_eq_ok fun f hf => ?_, fun f hf => find?_byColumn value hf⟩
    rw [h f hf]
    rfl
  alone _ hf h := TableDescriptor.decider_eq_self hf h
  records t value htype hcolumns h :=
    toRecords_eq_ok hr engine htype hcolumns (fun row hrow f hf => (h row hrow f hf).1)
      fun row hrow f hf => (h row hrow f hf).2

/-- Parts with a number, which they need, and a label. -/
def partType : RecordType where
  name := "Part"
  fields := [{ name := "number", annotation := [.int], column := some "code" },
    { name := "label", annotation := [.text, .null] }]

def partTable : TableDescriptor where
  table := "parts"
  fields := [⟨"number", "code", some .int64, false⟩, ⟨"label", "label", some .text, true⟩]
  named := by decide
  inhabited := by decide
  distinct := by decide
  keyed := by simp

/-- Two parts, and a column that nothing is mapped to. -/
def parts : DriverResult where
  columns := ["label", "note", "code"]
  rows := [[.text "bolt", .text "M8", .int 5], [.null, .text "spare", .int 6]]

/-- Parts are read by the names of their columns, and read the same without the notes and with the
other columns the other way round. -/
theorem readsByName_parts :
    parts.Rectangular ∧ parts.pick [2, 0] =
        { columns := ["code", "label"],
          rows := [[.int 5, .text "bolt"], [.int 6, .null]] } ∧
      (parts.pick [2, 0]).toRecords .sqlite "sqlite" partTable ⟨partType⟩ =
        .ok [⟨"Part", [("number", .int 5), ("label", .text "bolt")]⟩,
          ⟨"Part", [("number", .int 6), ("label", .null)]⟩] := by
  have hr : parts.Rectangular := ⟨by decide, by decide⟩
  have hrelaid : Relaid partTable parts (parts.pick [2, 0]) := by
    refine .rel _ _ (.pick hr (by decide) (by decide) fun i name hi hname => ?_)
    match i, hi with
    | 0, _ => exact List.mem_cons_of_mem _ List.mem_cons_self
    | 1, hi =>
      cases hi
      exact absurd hname (by decide)
    | 2, _ => exact List.mem_cons_self
  refine ⟨hr, rfl, ?_⟩
  obtain ⟨-, hsame⟩ | ⟨f, hlacking, -⟩ :=
    (Rectangular.readsByName hr .sqlite "sqlite" partTable).relaid
      (⟨partType⟩ : RecordMapper).decodeRow except_stops hrelaid
  · exact hsame.trans rfl
  · cases hlacking

/-- Prices whose text is read from the column of the amount. -/
def priceType : RecordType where
  name := "Price"
  fields := [{ name := "amount", annotation := [.decimal] },
    { name := "shown", annotation := [.text], column := some "amount" }]

def priceTable : TableDescriptor where
  table := "prices"
  fields := [⟨"amount", "amount", some .decimal, false⟩, ⟨"shown", "amount", some .text, false⟩]
  named := by decide
  inhabited := by decide
  distinct := by decide
  keyed := by simp

/-- A part of which nothing is known. -/
def blankPart : DriverResult where
  columns := ["code", "label"]
  rows := [[.null, .null]]

def price : DriverResult where
  columns := ["amount"]
  rows := [[.text "5.00"]]

/-- With every mapped column there, a row still need not become a record of what its cells are
decoded as.  A part without a number is refused, though its cells are decoded.  A price has the text
for an amount, though the amount is a decimal and its cell is decoded as one. -/
theorem cells_overruled :
    blankPart.Rectangular ∧ partTable.lacking? blankPart.columns = none ∧
      fieldValues .sqlite blankPart.columns partTable.fields [.null, .null] =
        .ok [("code", .null), ("label", .null)] ∧
      blankPart.toRecords .sqlite "sqlite" partTable ⟨partType⟩ =
        .error (RecordMapper.nullFailure partTable ⟨"number", "code", some .int64, false⟩) ∧
    price.Rectangular ∧ priceTable.lacking? price.columns = none ∧
      (∃ v, decodeCell .sqlite (some .decimal) (.text "5.00") = .ok (.decimal v)) ∧
      price.toRecords .sqlite "sqlite" priceTable ⟨priceType⟩ =
        .ok [⟨"Price", [("amount", .text "5.00"), ("shown", .text "5.00")]⟩] :=
  ⟨⟨by decide, by decide⟩, rfl, rfl, rfl, ⟨by decide, by decide⟩, rfl, ⟨_, rfl⟩, rfl⟩

end DriverResult

end SqlGateway
