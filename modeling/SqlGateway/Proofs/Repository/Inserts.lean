import SqlGateway.Proofs.Executor.AllOrNothing
import SqlGateway.Proofs.Query.NewRows
import SqlGateway.Proofs.Repository.Plan
import SqlGateway.Proofs.Repository.Rows
set_option autoImplicit false

/-!
# Repositories: insertions

New records go into one statement, row by row as they were given, or nothing is sent.
The columns are those of the descriptor, in its order.  The column of the key is left out
if no record brings a key, and the engine makes the keys; records of both sorts at once
are refused.
-/

namespace SqlGateway

/-! ## Names -/

theorem Column.ofAll_gives (fields : List FieldSpec) :
    Gives (fun e => ∃ g ∈ fields, Column.of (.text g.column) = .error e)
      (fun cs => cs = fields.map fun g => ⟨g.column⟩)
      (Column.ofAll ((fields.map FieldSpec.column).map .text)) := by
  refine (Column.ofAll_texts _).mono ?_ ?_
  · intro e he
    obtain ⟨front, key, back, hkeys, -, hkey, rfl⟩ := he
    obtain ⟨g, hg, rfl⟩ := List.mem_map.1
      (hkeys ▸ List.mem_append_right front List.mem_cons_self)
    refine ⟨g, hg, ?_⟩
    rw [Column.of_text, hkey]
    rfl
  · intro cs hcs
    rw [hcs.2, List.map_map]
    rfl

namespace Insert

/-! ## Building -/

/-- New rows of records in the same fields. -/
def ofRecords (table : String) (fields : List FieldSpec) (records : List Record) : Insert where
  table
  columns := fields.map fun g => ⟨g.column⟩
  rows := records.map fun record => fields.map record.valueAt

/-- The arguments of the builder for a record. -/
def entriesOf (fields : List FieldSpec) (record : Record) : List (String × Native) :=
  fields.map fun g => (g.column, .value (record.valueAt g))

variable {fields : List FieldSpec}

theorem entriesOf_keys (record : Record) :
    (entriesOf fields record).map Prod.fst = fields.map FieldSpec.column := by
  rw [entriesOf, List.map_map]
  rfl

/-- The value of a record is under its column. -/
theorem holds_entriesOf (hcolumns : (fields.map FieldSpec.column).Nodup) (record : Record)
    {g : FieldSpec} (hg : g ∈ fields) {v : Value}
    (h : Holds (entriesOf fields record) g.column v) : v = record.valueAt g := by
  obtain ⟨n, hn, hv⟩ := h
  have hfound : (entriesOf fields record).find? (fun e => e.1 == g.column) =
      some (g.column, .value (record.valueAt g)) := find?_entries hcolumns hg
  rw [lookup_eq, hfound] at hn
  cases hn
  exact (Except.ok.inj hv).symm

/-- The statement for rows of records is that of the records. -/
theorem OfRows.eq_ofRecords (hcolumns : (fields.map FieldSpec.column).Nodup) {first : Record}
    {rest : List Record} {s : Insert}
    (h : OfRows (entriesOf fields first) (rest.map (entriesOf fields)) s) :
    s = ofRecords s.table fields (first :: rest) := by
  have hcs := h.columns
  have hrows := h.rows
  rw [entriesOf_keys] at hcs hrows
  rw [← List.map_cons, InOrder, List.forall₂_map_left_iff] at hrows
  have hvalues : s.rows = (first :: rest).map fun record => fields.map record.valueAt := by
    refine eq_map_of_forall₂ hrows fun record _ vs hvs => ?_
    rw [List.forall₂_map_left_iff] at hvs
    exact eq_map_of_forall₂ hvs fun g hg _ => holds_entriesOf hcolumns record hg
  have hreturning := h.returning
  rw [List.map_map] at hcs
  obtain ⟨table, columns, rows, returning⟩ := s
  cases hcs
  cases hvalues
  cases hreturning
  rfl

/-- Records in the same fields make new rows, unless a name is none or there is no field. -/
theorem records_gives (table : String) (hcolumns : (fields.map FieldSpec.column).Nodup)
    {records : List Record} (hsome : records ≠ []) :
    Gives (fun e => Query.tableOf (.text table) = .error e ∨
        (∃ g ∈ fields, Column.of (.text g.column) = .error e) ∨
        fields = [] ∧ e = .invalid .insertEmpty)
      (fun s => s = ofRecords table fields records ∧ fields ≠ [])
      (Insert.start (.text table) (records.map (entriesOf fields))) := by
  obtain ⟨first, rest, rfl⟩ := List.exists_cons_of_ne_nil hsome
  have haccepted : ∀ row ∈ (first :: rest).map (entriesOf fields), ∀ e ∈ row,
      ∃ v, Value.of e.2 = .ok v := by
    intro row hrow e he
    obtain ⟨record, -, rfl⟩ := List.mem_map.1 hrow
    obtain ⟨g, -, rfl⟩ := List.mem_map.1 he
    exact ⟨record.valueAt g, rfl⟩
  have halike : ∀ row ∈ rest.map (entriesOf fields),
      keySet row = keySet (entriesOf fields first) := by
    intro row hrow
    obtain ⟨record, -, rfl⟩ := List.mem_map.1 hrow
    rw [keySet, keySet, entriesOf_keys, entriesOf_keys]
  refine (start_gives haccepted).mono ?_ ?_
  · intro e he
    rcases he with htable | ⟨issue, hmisfit, rfl⟩
    · exact .inl htable
    · generalize rest.map (entriesOf fields) = rows at hmisfit halike
      cases hmisfit with
      | keys _ hrow =>
        exact absurd (halike _ (List.mem_append_right _ List.mem_cons_self)) hrow
      | @unnamed _ _ front key back hkeys _ hkey =>
        rw [entriesOf_keys] at hkeys
        obtain ⟨g, hg, rfl⟩ := List.mem_map.1
          (hkeys ▸ List.mem_append_right front List.mem_cons_self)
        refine .inr (.inl ⟨g, hg, ?_⟩)
        rw [Column.of_text, hkey]
        rfl
      | empty _ hempty => exact .inr (.inr ⟨List.map_eq_nil_iff.1 hempty, rfl⟩)
  · intro s hs
    obtain ⟨htable, hfits, hrows⟩ := hs
    obtain ⟨hsame, -⟩ := Query.tableOf_eq_ok.1 htable
    obtain rfl := Option.some.inj hsame
    refine ⟨hrows.eq_ofRecords hcolumns, ?_⟩
    rintro rfl
    exact hfits.filled rfl

end Insert

namespace Repository

variable (r : Repository)

/-! ## New records -/

/-- A record leaves its key to the engine. -/
def leavesKey (record : Record) : Bool :=
  match r.descriptor.keyField with
  | .ok f => (record.valueAt f).isNull
  | .error _ => false

/-- The fields of new records: all of them, but that of the key if it is left to the engine. -/
def newFields (leaves : Bool) : List FieldSpec :=
  match r.descriptor.keyField with
  | .ok f => if leaves then r.others f else r.descriptor.fields
  | .error _ => r.descriptor.fields

/-- The statement for new records. -/
def inserting (leaves : Bool) (records : List Record) : Insert :=
  .ofRecords r.table (r.newFields leaves) records

/-- Some records bring a key, and some leave it. -/
def Mixes (records : List Record) : Prop :=
  (∃ record ∈ records, r.leavesKey record = true) ∧ ∃ record ∈ records, r.leavesKey record = false

/-- The failure of records of both sorts. -/
def mixed : Failure :=
  .make .invalidExpression
    ("insert_many into " ++ Text.quoted r.table ++
      " mixes records with and without primary keys")

/-- A name of the descriptor names no table or no column. -/
def Misnamed (f : Failure) : Prop :=
  built (Query.tableOf (.text r.table)) = .error f ∨
    ∃ g ∈ r.descriptor.fields, built (Column.of (.text g.column)) = .error f

/-- There is no column to be written. -/
def Columnless (leaves : Bool) (f : Failure) : Prop :=
  r.newFields leaves = [] ∧ f = (QueryError.invalid .insertEmpty).toFailure

/-- What is sent for new records, and what the answer is read from. -/
inductive Inserted (returning : Bool) : (w : Write) → Move w.Gain → Prop where
  /-- A table without a key gives none. -/
  | keyless {record : Record} (hencodes : r.Encodes record)
      (hkey : r.descriptor.primaryKey = none) :
      Inserted returning (.insert record)
        (.send (.insert (r.inserting false [record])) fun _ => .null)
  /-- The answer is the key that the record brings. -/
  | ownKey {record : Record} {f : FieldSpec} (hencodes : r.Encodes record)
      (hkey : r.descriptor.keyField = .ok f) (hbrings : (record.valueAt f).isNull = false) :
      Inserted returning (.insert record)
        (.send (.insert (r.inserting false [record])) fun _ => .ofValue (record.valueAt f))
  /-- A key that the engine makes is returned by the statement where the dialect can do that, -/
  | returnedKey {record : Record} {f : FieldSpec} (hencodes : r.Encodes record)
      (hkey : r.descriptor.keyField = .ok f) (hleaves : (record.valueAt f).isNull = true)
      (hreturning : returning = true) :
      Inserted returning (.insert record)
        (.send (.insert { r.inserting true [record] with returning := [⟨f.column⟩] })
          ResultSet.scalar)
  /-- and is reported by the driver where it cannot. -/
  | reportedKey {record : Record} {f : FieldSpec} (hencodes : r.Encodes record)
      (hkey : r.descriptor.keyField = .ok f) (hleaves : (record.valueAt f).isNull = true)
      (hreturning : returning = false) :
      Inserted returning (.insert record)
        (.send (.insert (r.inserting true [record])) reportedKey)
  | none : Inserted returning (.insertMany []) (.rest 0)
  /-- All records bring their keys, or all leave them. -/
  | many {records : List Record} {leaves : Bool} (hsome : records ≠ [])
      (hencodes : ∀ record ∈ records, r.Encodes record)
      (hkeys : ∀ record ∈ records, r.leavesKey record = leaves) :
      Inserted returning (.insertMany records)
        (.send (.insert (r.inserting leaves records)) ResultSet.rowcount)

/-- Why new records are refused. -/
def Uninsertable (records : List Record) (f : Failure) : Prop :=
  (∃ record ∈ records, r.Unencodable record f) ∨ r.Mixes records ∧ f = r.mixed ∨ r.Misnamed f ∨
    ∃ record ∈ records, r.Columnless (r.leavesKey record) f

variable {r} {record : Record}

theorem built_gives {α : Type} {E : QueryError → Prop} {P : α → Prop} {x : Except QueryError α}
    (h : Gives E P x) : Gives (fun f => ∃ e, E e ∧ f = e.toFailure) P (built x) :=
  h.mapError fun e he => ⟨e, he, rfl⟩

theorem newFields_sublist (leaves : Bool) :
    (r.newFields leaves).Sublist r.descriptor.fields := by
  unfold newFields
  split
  · split
    · exact List.filter_sublist
    · exact List.Sublist.refl _
  · exact List.Sublist.refl _

/-- Without a key all fields are written. -/
theorem newFields_of_keyless (hkey : r.descriptor.primaryKey = none) (leaves : Bool) :
    r.newFields leaves = r.descriptor.fields := by
  unfold newFields TableDescriptor.keyField
  rw [hkey]

theorem leavesKey_of_keyless (hkey : r.descriptor.primaryKey = none) (record : Record) :
    r.leavesKey record = false := by
  unfold leavesKey TableDescriptor.keyField
  rw [hkey]

theorem leavesKey_of_keyField {f : FieldSpec} (hf : r.descriptor.keyField = .ok f)
    (record : Record) : r.leavesKey record = (record.valueAt f).isNull := by
  unfold leavesKey
  rw [hf]

theorem newFields_false : r.newFields false = r.descriptor.fields := by
  unfold newFields
  split <;> rfl

theorem newFields_true {f : FieldSpec} (hf : r.descriptor.keyField = .ok f) :
    r.newFields true = r.others f := by
  unfold newFields
  rw [hf]
  rfl

theorem encodeNew_gives (hcolumns : r.descriptor.columns.Nodup) (record : Record) :
    Gives (r.Unencodable record)
      (fun row => r.Encodes record ∧ row = record.row (r.newFields (r.leavesKey record)))
      (r.encodeNew record) := by
  unfold encodeNew
  refine (encode_gives hcolumns record).bind ?_
  rintro row ⟨hencodes, rfl⟩
  by_cases hkey : r.descriptor.primaryKey = none
  · rw [if_pos (by rw [hkey]; rfl), newFields_of_keyless hkey]
    exact .ok ⟨hencodes, rfl⟩
  · obtain ⟨f, hf⟩ := TableDescriptor.exists_keyField hkey
    have hvalue : valueIn? (record.row r.descriptor.fields) f.column = some (record.valueAt f) :=
      valueIn?_row hcolumns (List.Sublist.refl _) (TableDescriptor.mem_of_keyField hf)
    rw [if_neg (by simpa using hkey), leavesKey_of_keyField hf]
    refine (Gives.of_ok hf).bind ?_
    rintro _ rfl
    rw [hvalue]
    cases record.valueAt f with
    | null =>
      refine .ok ⟨hencodes, ?_⟩
      rw [without_row, ← newFields_true hf]
      rfl
    | _ => exact .ok ⟨hencodes, congrArg record.row newFields_false.symm⟩

/-- New records of one sort make one statement, unless a name is none or there is no column. -/
theorem insertion_gives (hcolumns : r.descriptor.columns.Nodup) (leaves : Bool)
    {records : List Record} (hsome : records ≠ []) :
    Gives (fun f => r.Misnamed f ∨ r.Columnless leaves f)
      (fun s => s = r.inserting leaves records)
      (r.insertion (records.map fun record => record.row (r.newFields leaves))) := by
  have hkeys : ((r.newFields leaves).map FieldSpec.column).Nodup :=
    hcolumns.sublist ((newFields_sublist leaves).map _)
  have hrows : (records.map fun record => record.row (r.newFields leaves)).map arguments =
      records.map (Insert.entriesOf (r.newFields leaves)) := by
    rw [List.map_map]
    exact List.map_congr_left fun record _ => arguments_row _
  unfold insertion
  rw [hrows]
  refine (built_gives (Insert.records_gives r.table hkeys hsome)).mono ?_ fun s hs => hs.1
  rintro f ⟨e, htable | ⟨g, hg, hcolumn⟩ | ⟨hnone, rfl⟩, rfl⟩
  · exact .inl (.inl (by rw [built, htable]; rfl))
  · exact .inl (.inr ⟨g, (newFields_sublist leaves).subset hg, by rw [built, hcolumn]; rfl⟩)
  · exact .inr ⟨hnone, rfl⟩

/-- A statement can ask for the key that the engine makes, unless its name is none. -/
theorem returning_gives {f : FieldSpec} (hf : f ∈ r.descriptor.fields) (s : Insert) :
    Gives r.Misnamed (fun t => t = { s with returning := [⟨f.column⟩] })
      (built (s.withReturning [.text f.column])) := by
  have hreturning : Gives (fun e => ∃ g ∈ [f], Column.of (.text g.column) = .error e)
      (fun t => t = { s with returning := [⟨f.column⟩] }) (s.withReturning [.text f.column]) :=
    (Column.ofAll_gives [f]).bind fun cs hcs => .ok (by rw [hcs]; rfl)
  refine (built_gives hreturning).mono_error ?_
  rintro _ ⟨e, ⟨g, hg, hcolumn⟩, rfl⟩
  obtain rfl := List.mem_singleton.1 hg
  exact .inr ⟨g, hf, by rw [built, hcolumn]; rfl⟩

/-- What the insertion of a record comes to. -/
theorem insertPlan_gives (hcolumns : r.descriptor.columns.Nodup) (returning : Bool)
    (record : Record) :
    Gives (r.Uninsertable [record]) (r.Inserted returning (.insert record))
      (r.insertPlan returning record) := by
  unfold insertPlan
  refine ((encodeNew_gives hcolumns record).mono_error
    fun f hf => .inl ⟨record, List.mem_singleton_self record, hf⟩).bind ?_
  rintro row ⟨hencodes, rfl⟩
  have hinsertion := insertion_gives hcolumns (r.leavesKey record) (List.cons_ne_nil record [])
  refine (hinsertion.mono_error fun f hf => .inr (.inr (hf.imp_right fun hnone =>
    ⟨record, List.mem_singleton_self record, hnone⟩))).bind ?_
  rintro s rfl
  by_cases hkey : r.descriptor.primaryKey = none
  · rw [if_pos (by rw [hkey]; rfl), leavesKey_of_keyless hkey]
    exact .ok (.keyless hencodes hkey)
  · obtain ⟨f, hf⟩ := TableDescriptor.exists_keyField hkey
    rw [if_neg (by simpa using hkey), leavesKey_of_keyField hf]
    refine (Gives.of_ok hf).bind ?_
    rintro _ rfl
    cases hnull : (record.valueAt f).isNull with
    | false =>
      rw [newFields_false,
        valueIn?_row hcolumns (List.Sublist.refl _) (TableDescriptor.mem_of_keyField hf)]
      exact .ok (.ownKey hencodes hf hnull)
    | true =>
      rw [newFields_true hf, valueIn?_row_others]
      cases returning with
      | false => exact .ok (.reportedKey hencodes hf hnull rfl)
      | true =>
        have hmem := TableDescriptor.mem_of_keyField hf
        refine ((returning_gives hmem _).mono_error fun e he => .inr (.inr (.inl he))).bind ?_
        rintro s rfl
        exact .ok (.returnedKey hencodes hf hnull rfl)

/-! ### Several records -/

/-- A record that leaves its key belongs to a table with one. -/
theorem exists_keyField_of_leavesKey (hleaves : r.leavesKey record = true) :
    ∃ f, r.descriptor.keyField = .ok f := by
  refine TableDescriptor.exists_keyField fun hkey => ?_
  rw [leavesKey_of_keyless hkey] at hleaves
  cases hleaves

/-- The column of the key is one of all columns, and none of the others. -/
theorem newFields_columns_ne (hleaves : r.leavesKey record = true) :
    ∃ key, key ∉ (r.newFields true).map FieldSpec.column ∧
      key ∈ (r.newFields false).map FieldSpec.column := by
  obtain ⟨f, hf⟩ := exists_keyField_of_leavesKey hleaves
  refine ⟨f.column, ?_, ?_⟩
  · rw [newFields_true hf, List.mem_map]
    rintro ⟨g, hg, hsame⟩
    simpa [hsame] using (List.mem_filter.1 hg).2
  · rw [newFields_false]
    exact List.mem_map_of_mem (TableDescriptor.mem_of_keyField hf)

/-- The row of a new record. -/
def newRow (r : Repository) (record : Record) : List (String × Value) :=
  record.row (r.newFields (r.leavesKey record))

theorem newRow_keys (record : Record) : (arguments (r.newRow record)).map Prod.fst =
    (r.newFields (r.leavesKey record)).map FieldSpec.column := by
  rw [newRow, arguments_row, List.map_map]
  rfl

/-- Two rows name the same columns just if both records bring their keys or both leave them. -/
theorem sameKeys_newRow (a b : Record) :
    Insert.sameKeys (arguments (r.newRow a)) (arguments (r.newRow b)) = true ↔
      r.leavesKey a = r.leavesKey b := by
  rw [Insert.sameKeys_iff, Insert.keySet_eq_iff, newRow_keys, newRow_keys]
  cases ha : r.leavesKey a <;> cases hb : r.leavesKey b
  · simp
  · obtain ⟨key, hnot, hmem⟩ := newFields_columns_ne hb
    exact iff_of_false (fun h => hnot ((h key).2 hmem)) nofun
  · obtain ⟨key, hnot, hmem⟩ := newFields_columns_ne ha
    exact iff_of_false (fun h => hnot ((h key).1 hmem)) nofun
  · simp

/-- Rows are uniform just if all records bring their keys or all leave them. -/
theorem uniform_newRows {first : Record} {rest : List Record} :
    uniform ((first :: rest).map r.newRow) = true ↔
      ∀ record ∈ first :: rest, r.leavesKey record = r.leavesKey first := by
  rw [List.map_cons, uniform, List.all_eq_true, List.forall_mem_map, List.forall_mem_cons]
  simp only [sameKeys_newRow, true_and]
  exact ⟨fun h record hrecord => (h record hrecord).symm,
    fun h record hrecord => (h record hrecord).symm⟩

/-- Records of which some differ from the first are of both sorts. -/
theorem mixes_iff {first : Record} {rest : List Record} :
    r.Mixes (first :: rest) ↔
      ¬ ∀ record ∈ first :: rest, r.leavesKey record = r.leavesKey first := by
  constructor
  · rintro ⟨⟨a, ha, hleaves⟩, b, hb, hbrings⟩ hsame
    rw [hsame a ha] at hleaves
    rw [hsame b hb, hleaves] at hbrings
    cases hbrings
  · intro hdiffers
    simp only [not_forall] at hdiffers
    obtain ⟨record, hrecord, hother⟩ := hdiffers
    cases hfirst : r.leavesKey first with
    | true =>
      exact ⟨⟨first, List.mem_cons_self, hfirst⟩, record, hrecord, by simpa [hfirst] using hother⟩
    | false =>
      exact ⟨⟨record, hrecord, by simpa [hfirst] using hother⟩, first, List.mem_cons_self, hfirst⟩

theorem Encodes.encodeNew (hcolumns : r.descriptor.columns.Nodup) (h : r.Encodes record) :
    r.encodeNew record = .ok (r.newRow record) := by
  have hencoded := encodeNew_gives hcolumns record
  cases hrow : r.encodeNew record with
  | ok row => rw [(hencoded.of_eq_ok hrow).2, newRow]
  | error f =>
    obtain ⟨g, hg, hf⟩ := hencoded.of_eq_error hrow
    rw [h g hg] at hf
    cases hf

/-- Records of both sorts are refused, wherever they stand. -/
theorem insertionOf_mixed (hcolumns : r.descriptor.columns.Nodup) {records : List Record}
    (hencodes : ∀ record ∈ records, r.Encodes record) (hmixes : r.Mixes records) :
    r.insertionOf records = .error r.mixed := by
  rcases records with _ | ⟨first, rest⟩
  · obtain ⟨⟨_, hnone, _⟩, _⟩ := hmixes
    cases hnone
  have huniform : uniform ((first :: rest).map r.newRow) = false :=
    Bool.eq_false_iff.2 fun huniform => mixes_iff.1 hmixes (uniform_newRows.1 huniform)
  unfold insertionOf
  rw [Except.mapM_eq_ok fun record hrecord => (hencodes record hrecord).encodeNew hcolumns]
  simp only [bind, Except.bind, List.map_cons, List.isEmpty_cons, Bool.false_eq_true, if_false]
  rw [← List.map_cons, huniform]
  rfl

/-- What the insertion of several records comes to. -/
theorem insertionOf_gives (hcolumns : r.descriptor.columns.Nodup) (returning : Bool)
    (records : List Record) :
    Gives (r.Uninsertable records)
      (fun s => r.Inserted returning (.insertMany records) (moveOf 0 ResultSet.rowcount .insert s))
      (r.insertionOf records) := by
  have hrows : ∀ record ∈ records, Gives (r.Uninsertable records)
      (fun row => r.Encodes record ∧ row = r.newRow record) (r.encodeNew record) :=
    fun record hrecord => (encodeNew_gives hcolumns record).mono_error
      fun f hf => .inl ⟨record, hrecord, hf⟩
  unfold insertionOf
  refine (Gives.mapM_map hrows).bind ?_
  rintro rows ⟨hencodes, rfl⟩
  rcases records with _ | ⟨first, rest⟩
  · exact .ok .none
  rw [if_neg (by simp)]
  split
  next huniform =>
    have hkeys := uniform_newRows.1 huniform
    have hall : (first :: rest).map r.newRow =
        (first :: rest).map fun record => record.row (r.newFields (r.leavesKey first)) :=
      List.map_congr_left fun record hrecord => by rw [newRow, hkeys record hrecord]
    have hinsertion := insertion_gives hcolumns (r.leavesKey first) (List.cons_ne_nil first rest)
    rw [hall]
    refine (hinsertion.mono_error fun f hf => .inr (.inr (hf.imp_right fun hnone =>
      ⟨first, List.mem_cons_self, hnone⟩))).bind ?_
    rintro s rfl
    exact .ok (.many (List.cons_ne_nil first rest) hencodes hkeys)
  next hmixed =>
    exact .error (.inr (.inl ⟨mixes_iff.2 fun hkeys => hmixed (uniform_newRows.2 hkeys), rfl⟩))

/-! ## Insertions wherever statements run -/

/-- The insertion of records. -/
inductive Write.Inserts : Write → List Record → Prop where
  | one (record : Record) : Inserts (.insert record) [record]
  | many (records : List Record) : Inserts (.insertMany records) records

/-- A driver that carries out every statement, and makes the key 7. -/
def servingCalls : DriverCalls Desk where
  begin _ := pure ()
  commit _ := pure ()
  rollback _ := pure ()
  execute _ _ _ _ _ := pure (false, .ok { rowcount := 1, lastRowId := some 7 })
  interrupt _ := pure true

/-- A host at an office that nobody else visits, with a driver that carries out every statement. -/
def servingHost : Host Desk :=
  Transaction.quietOffice.host Transaction.plainDriver servingCalls none

/-- What comes of a write on connections of their own, and what the driver was sent for it. -/
def served (r : Repository) (w : Write) : Except Failure w.Gain × Desk × List Dispatch :=
  (w.on r servingHost.recorded.executor).run (Office.quietDesk, [])

/-- What is served is what a plan says that is followed. -/
theorem Write.Follows.served {w : Write} {plan : Except Failure (Move w.Gain)}
    (hfollows : w.Follows r servingHost plan) :
    Sent servingHost servingHost.Unlent servingHost.Unreturned plan (r.served w).1
      (r.served w).2.2 := by
  obtain ⟨news, hnews, hsent⟩ := hfollows.sends Office.quietDesk []
  rw [List.nil_append] at hnews
  subst hnews
  exact hsent

/-- Statements as they were sent, where every parameter is a text or a number. -/
def shownSent (sent : List Dispatch) : List (String × List (Option String)) :=
  sent.map fun d => (d.sql, d.params.map Native.asText?)

/-- The whole number that was answered. -/
def answered? : Except Failure Native → Option Int
  | .ok (.int i) => some i
  | _ => none

theorem answered?_eq_some {answer : Except Failure Native} {i : Int}
    (h : answered? answer = some i) : answer = .ok (.int i) := by
  unfold answered? at h
  split at h <;> cases h
  rfl

end Repository

end SqlGateway
