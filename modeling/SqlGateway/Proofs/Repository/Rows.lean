import SqlGateway.Proofs.Dialect.Fragments
import SqlGateway.Proofs.Mapping.RecordRoundTrip
import SqlGateway.Repository.Statements
set_option autoImplicit false

/-!
# Repositories: the row of a record

Where the columns of a descriptor are told apart by their names, a record is one value for
each field, in order.  What is written of it names some of these fields: all of them, or
all but the key.
-/

namespace SqlGateway

/-! ## Descriptors -/

namespace TableDescriptor

variable {d : TableDescriptor} {f : FieldSpec}

/-- The field of the key is one of the fields, and there is one unless there is no key. -/
theorem keyField_gives (d : TableDescriptor) :
    Gives (fun e => d.primaryKey = none ∧ e = noKey d.table)
      (fun f => f ∈ d.fields ∧ d.primaryKey = some f.member) d.keyField := by
  unfold keyField
  cases hkey : d.primaryKey with
  | none => exact .error ⟨rfl, rfl⟩
  | some k =>
    obtain ⟨f, hf, hmember⟩ := List.mem_map.1 (d.keyed k hkey)
    dsimp only
    unfold field field?
    cases hfind : d.fields.find? fun f => f.member == k with
    | none =>
      have hnone := List.find?_eq_none.1 hfind f hf
      simp [hmember] at hnone
    | some g =>
      have hname : g.member = k := by simpa using List.find?_some hfind
      exact .ok ⟨List.mem_of_find?_eq_some hfind, by rw [hname]⟩

theorem mem_of_keyField (hf : d.keyField = .ok f) : f ∈ d.fields :=
  (d.keyField_gives.of_eq_ok hf).1

/-- Where there is a key, it has a field. -/
theorem exists_keyField (hkey : d.primaryKey ≠ none) : ∃ f, d.keyField = .ok f := by
  cases hf : d.keyField with
  | ok f => exact ⟨f, rfl⟩
  | error e => exact absurd (d.keyField_gives.of_eq_error hf).1 hkey

end TableDescriptor

/-! ## Records -/

namespace Record

/-- What a record has in a field, as a value of the field's kind. -/
def cell (record : Record) (g : FieldSpec) : Except Failure Value := do
  let n ← RecordMapper.member record g.member
  (Value.coerce n g.kind).mapError ConversionFault.toFailure

/-- The value that a record has in a field, where it has one. -/
def valueAt (record : Record) (g : FieldSpec) : Value := (record.cell g).toOption.getD .null

theorem cell_gives (record : Record) (g : FieldSpec) :
    Gives (fun e => record.cell g = .error e)
      (fun v => record.cell g = .ok (record.valueAt g) ∧ v = record.valueAt g)
      (record.cell g) := by
  unfold valueAt
  cases record.cell g with
  | error e => exact .error rfl
  | ok v => exact .ok ⟨rfl, rfl⟩

/-- The values of a record by column, in some of its fields. -/
def row (record : Record) (fields : List FieldSpec) : List (String × Value) :=
  fields.map fun g => (g.column, record.valueAt g)

end Record

namespace Repository

variable (r : Repository)

/-- Each mapped attribute of a record can be taken as a value of the kind of its field. -/
def Encodes (record : Record) : Prop :=
  ∀ g ∈ r.descriptor.fields, record.cell g = .ok (record.valueAt g)

/-- Some mapped attribute of a record cannot. -/
def Unencodable (record : Record) (f : Failure) : Prop :=
  ∃ g ∈ r.descriptor.fields, record.cell g = .error f

/-- The fields beside a field. -/
def others (f : FieldSpec) : List FieldSpec :=
  r.descriptor.fields.filter fun g => g.column != f.column

variable {r} {record : Record}

theorem row_columns (record : Record) (fields : List FieldSpec) :
    (record.row fields).map Prod.fst = fields.map FieldSpec.column := by
  rw [Record.row, List.map_map]
  rfl

theorem encode_gives (hcolumns : r.descriptor.columns.Nodup) (record : Record) :
    Gives (r.Unencodable record)
      (fun row => r.Encodes record ∧ row = record.row r.descriptor.fields) (r.encode record) := by
  have hcells : ∀ g ∈ r.descriptor.fields, Gives (r.Unencodable record)
      (fun e => record.cell g = .ok (record.valueAt g) ∧ e = (g.column, record.valueAt g))
      (do
        let n ← RecordMapper.member record g.member
        let v ← (Value.coerce n g.kind).mapError ConversionFault.toFailure
        return (g.column, v)) := by
    intro g hg
    have hcell := (record.cell_gives g).bind (f := fun v => .ok (g.column, v))
      (Q := fun e => record.cell g = .ok (record.valueAt g) ∧ e = (g.column, record.valueAt g))
      fun v hv => .ok ⟨hv.1, by rw [hv.2]⟩
    unfold Record.cell at hcell
    rw [bind_assoc] at hcell
    exact hcell.mono (fun f hf => ⟨g, hg, hf⟩) fun _ he => he
  unfold encode RecordMapper.encodeRecord
  refine (Gives.mapM_map hcells).bind fun entries ⟨hencodes, hentries⟩ => ?_
  have hkeys : (entries.map Prod.fst).Nodup := by
    rw [hentries]
    exact (row_columns record _).symm ▸ hcolumns
  refine .ok ⟨hencodes, ?_⟩
  rw [foldl_putEntry (by simpa using hkeys), hentries]
  rfl

/-- A record that can be encoded is. -/
theorem Encodes.encode (hcolumns : r.descriptor.columns.Nodup) (h : r.Encodes record) :
    r.encode record = .ok (record.row r.descriptor.fields) := by
  have hencoded := encode_gives hcolumns record
  cases hrow : r.encode record with
  | ok row =>
    rw [((hencoded.of_eq_ok hrow)).2]
  | error f =>
    obtain ⟨g, hg, hf⟩ := hencoded.of_eq_error hrow
    rw [h g hg] at hf
    cases hf

theorem valueIn?_row (hcolumns : r.descriptor.columns.Nodup) {fields : List FieldSpec}
    (hfields : fields.Sublist r.descriptor.fields) {f : FieldSpec} (hf : f ∈ fields) :
    valueIn? (record.row fields) f.column = some (record.valueAt f) := by
  have hkeys : (fields.map FieldSpec.column).Nodup := hcolumns.sublist (hfields.map _)
  rw [valueIn?, Record.row, find?_entries hkeys hf]
  rfl

theorem valueIn?_row_others (f : FieldSpec) :
    valueIn? (record.row (r.others f)) f.column = none := by
  have hnone : (record.row (r.others f)).find? (fun e => e.1 == f.column) = none := by
    refine List.find?_eq_none.2 fun e he => ?_
    obtain ⟨g, hg, rfl⟩ := List.mem_map.1 he
    simpa [others] using (List.mem_filter.1 hg).2
  rw [valueIn?, hnone]
  rfl

theorem without_row (f : FieldSpec) :
    without (record.row r.descriptor.fields) f.column = record.row (r.others f) := by
  rw [without, Record.row, List.filter_map]
  rfl

theorem arguments_row (fields : List FieldSpec) :
    arguments (record.row fields) =
      fields.map fun g => (g.column, .value (record.valueAt g)) := by
  rw [arguments, Record.row, List.map_map]
  rfl

/-! ## A table of parcels -/

/-- Parcels have a number and a label. -/
def parcels : Repository where
  typeName := "Parcel"
  descriptor := {
    table := "parcels"
    fields := [⟨"id", "parcel_id", some .int64, true⟩, ⟨"label", "label", some .text, true⟩]
    primaryKey := some "id"
    named := by decide
    inhabited := by decide
    distinct := by decide
    keyed := by decide }
  mapper := ⟨{ name := "Parcel", fields := [] }⟩

/-- A parcel with or without a number. -/
def parcel (id : Native) (label : String) : Record :=
  { typeName := "Parcel", attributes := [("id", id), ("label", .text label)] }

theorem parcel_encodes {id : Native} {v : Value} (hid : Value.coerce id (some .int64) = .ok v)
    (label : String) : parcels.Encodes (parcel id label) := by
  intro g hg
  simp only [parcels, List.mem_cons, List.not_mem_nil, or_false] at hg
  rcases hg with rfl | rfl
  · have hcell : (parcel id label).cell ⟨"id", "parcel_id", some .int64, true⟩ = .ok v := by
      change (Value.coerce id (some .int64)).mapError ConversionFault.toFailure = _
      rw [hid]
      rfl
    rw [Record.valueAt, hcell]
    rfl
  · rfl

end Repository

end SqlGateway
