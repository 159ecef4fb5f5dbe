import Mathlib.Data.List.Nodup
import Mathlib.Tactic.Choose
import SqlGateway.Proofs.Executor.RowsByName
import SqlGateway.Proofs.Value.RoundTrip
set_option autoImplicit false

/-!
# Mapping: records there and back

A record is written as values by column, the codec hands them to a driver, and the driver's row
is read back into a record.  Where the columns of a descriptor are told apart by their names and
every attribute is nothing or a payload of its field's kind, each mapped attribute comes back
with what the codec keeps of its value.  Nothing stays nothing; in a field that needs a value it
is a fault of conversion.
-/

namespace SqlGateway

/-- An entry is found under its key where keys are told apart. -/
theorem find?_entries {α β : Type} {key : α → String} {val : α → β} {as : List α} {a : α}
    (hkeys : (as.map key).Nodup) (ha : a ∈ as) :
    (as.map fun b => (key b, val b)).find? (fun e => e.1 == key a) = some (key a, val a) := by
  induction as with
  | nil => cases ha
  | cons b as ih =>
    rw [List.map_cons, List.nodup_cons] at hkeys
    rw [List.map_cons, List.find?_cons]
    rcases List.mem_cons.1 ha with rfl | ha
    · simp
    · have hother : (key b == key a) = false := by
        refine beq_false_of_ne fun hsame => hkeys.1 ?_
        rw [hsame]
        exact List.mem_map_of_mem ha
      simp only [hother]
      exact ih hkeys.2 ha

/-! ## Payloads -/

namespace Value

/-- A payload of a kind is the object of its value; a text may also be one that names a kind or a
direction. -/
theorem make_eq_ok {k : ValueKind} {n : Native} {v : Value} (h : make k n = .ok v) :
    v.kind = k ∧ (n = .ofValue v ∨ ∃ s, v = .text s ∧ n.asText? = some s) := by
  unfold make at h
  split at h
  case h_3 i =>
    split at h
    next hword =>
      cases h
      rw [Codec.inInt64_iff] at hword
      have hback : (Int64.ofInt i).toInt = i :=
        Int64.toInt_ofInt_of_le (by omega) (by omega)
      exact ⟨rfl, .inl (by rw [Native.ofValue, hback])⟩
    · cases h
  case h_4 i =>
    split at h
    next hword =>
      cases h
      rw [Codec.inUInt64_iff] at hword
      have hback : ((UInt64.ofNat i.toNat).toNat : Int) = i := by
        rw [UInt64.toNat_ofNat_of_lt' (by simp [UInt64.size]; omega)]
        omega
      exact ⟨rfl, .inl (by rw [Native.ofValue, hback])⟩
    · cases h
  case h_7 =>
    split at h
    next s hs =>
      cases h
      exact ⟨rfl, .inr ⟨s, rfl, hs⟩⟩
    · cases h
  case h_11 => cases h
  all_goals
    cases h
    exact ⟨rfl, .inl rfl⟩

/-- Only a text is a text. -/
theorem asText?_of_make {k : ValueKind} {n : Native} {v : Value} (h : make k n = .ok v)
    (hk : k ≠ .text) : n.asText? = none := by
  obtain ⟨rfl, rfl | ⟨s, rfl, -⟩⟩ := make_eq_ok h
  · cases v with
    | text s => exact absurd rfl hk
    | _ => rfl
  · exact absurd rfl hk

/-- A payload of a kind is taken as it is: no other spelling applies to it. -/
theorem ofKind_of_make {k : ValueKind} {n : Native} {v : Value} (h : make k n = .ok v) :
    ofKind k n = .ok v := by
  have hdirect : (make k n).mapError ConversionFault.refused = .ok v := by
    rw [h]
    rfl
  unfold ofKind
  dsimp only
  split
  · simp [make] at h
  · simp [make] at h
  · rw [asText?_of_make h (by decide)]
    exact hdirect
  next holder b =>
    cases holder with
    | plain => cases h; rfl
    | _ => simp [make] at h
  · rw [asText?_of_make h (by decide)]
    exact hdirect
  · exact hdirect

/-- A kind takes its payloads, and nothing. -/
theorem coerce_of_make {k : ValueKind} {n : Native} {v : Value} (h : make k n = .ok v) :
    coerce n (some k) = .ok v := by
  cases n with
  | value w => cases k <;> simp [make, Native.asText?] at h
  | null =>
    obtain ⟨-, hn | ⟨s, -, hs⟩⟩ := make_eq_ok h
    · cases v with
      | null => rfl
      | _ => cases hn
    · cases hs
  | _ => exact ofKind_of_make h

end Value

/-- A record has a value in a field: nothing, or a payload of the kind of the field. -/
def Record.Holds (r : Record) (f : FieldSpec) (v : Value) : Prop :=
  ∃ n k, RecordMapper.member r f.member = .ok n ∧ f.kind = some k ∧
    (n = .null ∧ v = .null ∨ Value.make k n = .ok v)

/-- The codec writes a value: there is one, and MySQL stores no offset. -/
structure Codec.Writes (c : Codec) (v : Value) : Prop where
  bounded : v.Bounded
  storable : c = .mysql → ∀ t o, v = .timestamp t → t.offset ≠ some o

/-- Records of a type can be made of the attributes that a descriptor maps. -/
structure RecordType.Admits (t : RecordType) (d : TableDescriptor) : Prop where
  known : ∀ f ∈ d.fields, ∃ g ∈ t.fields, g.name = f.member
  complete : ∀ g ∈ t.fields, (∃ f ∈ d.fields, f.member = g.name) ∨ g.default ≠ none

/-- A row as it was written, as a driver presents it. -/
def DriverResult.ofCells (c : Codec) (cells : List (String × Value)) :
    Except Refusal DriverResult := do
  let row ← cells.mapM fun e => c.encode e.2
  return { columns := cells.map Prod.fst, rows := [row] }

namespace Record.Holds

variable {r : Record} {f : FieldSpec} {v w : Value}

theorem coerce (h : r.Holds f v) :
    ∃ n, RecordMapper.member r f.member = .ok n ∧ Value.coerce n f.kind = .ok v := by
  obtain ⟨n, k, hn, hk, ⟨rfl, rfl⟩ | hmake⟩ := h
  · exact ⟨.null, hn, by rw [hk]; rfl⟩
  · exact ⟨n, hn, by rw [hk]; exact Value.coerce_of_make hmake⟩

theorem unique (hv : r.Holds f v) (hw : r.Holds f w) : v = w := by
  obtain ⟨n, hn, hcoerce⟩ := hv.coerce
  obtain ⟨n', hn', hcoerce'⟩ := hw.coerce
  rw [hn] at hn'
  cases hn'
  rw [hcoerce] at hcoerce'
  cases hcoerce'
  rfl

/-- A value in a field has the field's kind, or is nothing. -/
theorem kind (h : r.Holds f v) : v = .null ∨ f.kind = some v.kind := by
  obtain ⟨n, k, -, hk, ⟨-, rfl⟩ | hmake⟩ := h
  · exact .inl rfl
  · exact .inr (by rw [hk, (Value.make_eq_ok hmake).1])

end Record.Holds

namespace Codec

variable {c : Codec} {v : Value}

theorem kept_isNull (c : Codec) (v : Value) : (c.kept v).isNull = v.isNull := by
  cases v <;> rfl

/-- What a codec writes is read back as what it keeps, for the kind of the value; nothing is read
back as nothing for every kind. -/
theorem Writes.decode (h : c.Writes v) {kind : Option ValueKind}
    (hkind : v = .null ∨ kind = some v.kind) :
    ∃ n, c.encode v = .ok n ∧ c.decode n kind = .ok (c.kept v) := by
  cases hencode : c.encode v with
  | error e =>
    obtain ⟨hmysql, ⟨t, o, ht, ho⟩, -⟩ := (encode_eq_error_iff c v e).1 hencode
    exact absurd ho (h.storable hmysql t o ht)
  | ok n =>
    refine ⟨n, rfl, ?_⟩
    rcases hkind with rfl | rfl
    · cases c <;> (cases hencode; rfl)
    · exact decode_encode c h.bounded hencode

end Codec

/-! ## Rows -/

namespace DriverResult

/-- Under its column stands what a field was written as. -/
theorem cell_of_field {fields : List FieldSpec} {native : FieldSpec → Native}
    (hcolumns : (fields.map FieldSpec.column).Nodup) {f : FieldSpec} (hf : f ∈ fields) :
    cell (fields.map FieldSpec.column) (fields.map native) f.column = native f := by
  obtain ⟨i, hi⟩ := List.getElem?_of_mem hf
  have hcolumn : (fields.map FieldSpec.column)[i]? = some f.column := by
    rw [List.getElem?_map, hi]
    rfl
  rw [cell_of_getElem? hcolumns hcolumn, List.getElem?_map, hi]
  rfl

end DriverResult

namespace RecordMapper

variable {d : TableDescriptor} (value : FieldSpec → Value)

/-- Where each column has a value, and every field that needs one has one, each attribute is given
the value of its column. -/
theorem decodeAttributes_of_found {row : List (String × Value)}
    (hfound : ∀ f ∈ d.fields, row.find? (fun e => e.1 == f.column) = some (f.column, value f))
    (hvalues : ∀ f ∈ d.fields, (value f).isNull = true → f.nullable = true) :
    decodeAttributes row d = .ok (d.fields.map fun f => (f.member, .ofValue (value f))) := by
  refine Except.mapM_eq_ok fun f hf => ?_
  rw [hfound f hf]
  by_cases hnull : (value f).isNull = true
  · simp [hvalues f hf hnull]
  · simp [hnull]

/-- Where every field that needs a value has one, each attribute is given its own. -/
theorem decodeAttributes_eq_ok (hcolumns : d.columns.Nodup)
    (hvalues : ∀ f ∈ d.fields, (value f).isNull = true → f.nullable = true) :
    decodeAttributes (d.fields.map fun f => (f.column, value f)) d =
      .ok (d.fields.map fun f => (f.member, .ofValue (value f))) :=
  decodeAttributes_of_found value (fun _ hf => find?_entries hcolumns hf) hvalues

/-- A field that needs a value and has none is a fault of conversion. -/
theorem decodeAttributes_eq_error (hcolumns : d.columns.Nodup)
    (hmissing : ∃ f ∈ d.fields, (value f).isNull = true ∧ f.nullable = false) :
    ∃ f ∈ d.fields, ((value f).isNull = true ∧ f.nullable = false) ∧
      decodeAttributes (d.fields.map fun f => (f.column, value f)) d =
        .error (nullFailure d f) := by
  refine Except.mapM_eq_error (g := fun f => (f.member, .ofValue (value f))) ?_ ?_ hmissing
  · intro f hf hbad
    rw [find?_entries hcolumns hf]
    simp [hbad.1, hbad.2]
  · intro f hf hgood
    rw [find?_entries hcolumns hf]
    have hkept : ((value f).isNull && !f.nullable) = false := by
      cases hnull : (value f).isNull <;> cases hnullable : f.nullable <;> simp_all
    simp [hkept]

end RecordMapper

namespace RecordType

variable {t : RecordType}

/-- What a new record has in a field: what is given for it, or the default. -/
def given? (entries : List (String × Native)) (g : RecordField) : Option Native :=
  ((entries.find? fun e => e.1 == g.name).map Prod.snd).or g.default

/-- A record is made where all that is given is known and no field is left without a value. -/
theorem construct_eq_ok {entries : List (String × Native)} {value : RecordField → Native}
    (hknown : ∀ e ∈ entries, ∃ g ∈ t.fields, g.name = e.1)
    (hcomplete : ∀ g ∈ t.fields, given? entries g = some (value g)) :
    t.construct entries = .ok ⟨t.name, t.fields.map fun g => (g.name, value g)⟩ := by
  have hnone : entries.find? (fun e => !t.fields.any fun g => g.name == e.1) = none := by
    refine List.find?_eq_none.2 fun e he => ?_
    obtain ⟨g, hg, hname⟩ := hknown e he
    have hany : (t.fields.any fun g => g.name == e.1) = true :=
      List.any_eq_true.2 ⟨g, hg, by simp [hname]⟩
    simp [hany]
  unfold construct
  rw [hnone]
  dsimp only
  rw [Except.mapM_eq_ok (g := fun g => (g.name, value g))]
  · rfl
  · intro g hg
    have hgiven := hcomplete g hg
    unfold given? at hgiven
    rw [hgiven]

/-- An attribute of a record whose attributes of one name are the same. -/
theorem member_of_fields {typeName name : String} {fields : List RecordField}
    {value : RecordField → Native} {n : Native} (hknown : ∃ g ∈ fields, g.name = name)
    (hvalue : ∀ g ∈ fields, g.name = name → value g = n) :
    RecordMapper.member ⟨typeName, fields.map fun g => (g.name, value g)⟩ name = .ok n := by
  obtain ⟨g, hg, hname⟩ := hknown
  unfold RecordMapper.member
  cases hfind : (fields.map fun g => (g.name, value g)).find? fun a => a.1 == name with
  | none =>
    have hnone := List.find?_eq_none.1 hfind _ (List.mem_map_of_mem hg)
    simp [hname] at hnone
  | some e =>
    have hkey : e.1 = name := by simpa using List.find?_some hfind
    obtain ⟨g', hg', rfl⟩ := List.mem_map.1 (List.mem_of_find?_eq_some hfind)
    simp only [hvalue g' hg' hkey]

/-- A record is made of the mapped attributes and defaults, and has each mapped attribute. -/
theorem Admits.construct_mapped {d : TableDescriptor} (h : t.Admits d)
    (value : FieldSpec → Native) :
    ∃ r, t.construct (d.fields.map fun f => (f.member, value f)) = .ok r ∧
      ∀ f ∈ d.fields, RecordMapper.member r f.member = .ok (value f) := by
  have hmapped : ∀ g : RecordField, ∀ f ∈ d.fields, g.name = f.member →
      given? (d.fields.map fun f => (f.member, value f)) g = some (value f) := by
    intro g f hf hname
    rw [given?, hname, find?_entries d.distinct hf]
    rfl
  have hcomplete : ∀ g ∈ t.fields, given? (d.fields.map fun f => (f.member, value f)) g =
      some ((given? (d.fields.map fun f => (f.member, value f)) g).getD .null) := by
    intro g hg
    rcases h.complete g hg with ⟨f, hf, hname⟩ | hdefault
    · rw [hmapped g f hf hname.symm]
      rfl
    · obtain ⟨n, hn⟩ := Option.ne_none_iff_exists'.1 hdefault
      unfold given?
      cases (d.fields.map fun f => (f.member, value f)).find? fun e => e.1 == g.name <;> simp [hn]
  have hknown : ∀ e ∈ d.fields.map (fun f => (f.member, value f)),
      ∃ g ∈ t.fields, g.name = e.1 := by
    intro e he
    obtain ⟨f, hf, rfl⟩ := List.mem_map.1 he
    exact h.known f hf
  refine ⟨_, construct_eq_ok hknown hcomplete, fun f hf => ?_⟩
  refine member_of_fields (h.known f hf) fun g _ hname => ?_
  rw [hmapped g f hf hname]
  rfl

end RecordType

/-! ## Round trips -/

namespace DriverResult

variable {c : Codec} {d : TableDescriptor} {m : RecordMapper} {r : Record}

/-- What is written of a record that has a value in each field: its cells, and the driver's row. -/
theorem written {value : FieldSpec → Value} {native : FieldSpec → Native}
    (hholds : ∀ f ∈ d.fields, r.Holds f (value f))
    (hwrites : ∀ f ∈ d.fields, c.encode (value f) = .ok (native f)) :
    m.encodeRecord r d = .ok (d.fields.map fun f => (f.column, value f)) ∧
      ofCells c (d.fields.map fun f => (f.column, value f)) =
        .ok { columns := d.columns, rows := [d.fields.map native] } := by
  refine ⟨Except.mapM_eq_ok fun f hf => ?_, ?_⟩
  · obtain ⟨n, hn, hcoerce⟩ := (hholds f hf).coerce
    simp only [hn, hcoerce, bind, Except.bind, Except.mapError, pure, Except.pure]
  · have hrow : (d.fields.map fun f => (f.column, value f)).mapM (fun e => c.encode e.2) =
        .ok (d.fields.map native) := by
      rw [List.mapM_map]
      exact Except.mapM_eq_ok hwrites
    rw [ofCells, hrow]
    simp [TableDescriptor.columns, bind, Except.bind, pure, Except.pure, Function.comp_def]

/-- The driver's row is read cell by cell into what the codec keeps. -/
theorem toRecords_row (engine : String) {value : FieldSpec → Value} {native : FieldSpec → Native}
    (hcolumns : d.columns.Nodup)
    (hreads : ∀ f ∈ d.fields, c.decode (native f) f.kind = .ok (value f)) :
    toRecords c engine d m { columns := d.columns, rows := [d.fields.map native] } =
      (m.decodeRow (d.fields.map fun f => (f.column, value f)) d).map fun r => [r] := by
  let result : DriverResult := { columns := d.columns, rows := [d.fields.map native] }
  have hr : result.Rectangular := by
    refine ⟨hcolumns, fun row hrow => ?_⟩
    rw [List.mem_singleton.1 hrow, List.length_map]
    exact (List.length_map _).symm
  have hfound : d.lacking? result.columns = none :=
    TableDescriptor.lacking?_eq_none.2 fun f hf => List.mem_map_of_mem hf
  have hvalues : fieldValues c d.columns d.fields (d.fields.map native) =
      .ok (d.fields.map fun f => (f.column, value f)) := by
    refine Except.mapM_eq_ok fun f hf => ?_
    rw [TableDescriptor.columns, cell_of_field hcolumns hf, decodeCell, hreads f hf]
    rfl
  have hkept : byColumn (d.fields.map fun f => (f.column, value f)) =
      d.fields.map fun f => (f.column, value f) := by
    apply byColumn_of_nodup
    rw [List.map_map]
    exact hcolumns
  rw [toRecords, readRows_found except_stops hr hfound, List.mapM_cons, List.mapM_nil, readRow,
    hvalues]
  simp only [MonadExcept.ofExcept, pure_bind, hkept]
  cases m.decodeRow (d.fields.map fun f => (f.column, value f)) d <;> rfl

end DriverResult

namespace Record

/-- Nothing is kept of a field's value exactly where the field has none. -/
theorem Holds.kept_isNull_iff {r : Record} {f : FieldSpec} {v : Value} (h : r.Holds f v)
    (c : Codec) : (c.kept v).isNull = true ↔ r.Holds f .null := by
  rw [Codec.kept_isNull]
  constructor
  · intro hnull
    cases v with
    | null => exact h
    | _ => cases hnull
  · intro hnull
    rw [h.unique hnull]
    rfl

/-- A record that was written comes back from the driver's row.  If a field that needs a value has
none, that is a fault of conversion.  Otherwise there is one record, in which each mapped attribute
is what the codec keeps of its value: the value itself, but for a time that SQLite was given at less
than a second from universal time. -/
theorem roundTrip_record (c : Codec) (engine : String) {d : TableDescriptor} {m : RecordMapper}
    {r : Record} (hcolumns : d.columns.Nodup)
    (hr : ∀ f ∈ d.fields, ∃ v, r.Holds f v ∧ c.Writes v) :
    ∃ cells result, m.encodeRecord r d = .ok cells ∧ DriverResult.ofCells c cells = .ok result ∧
      result.columns = d.columns ∧
      ((∃ f ∈ d.fields, f.nullable = false ∧ r.Holds f .null) →
        ∃ f ∈ d.fields, f.nullable = false ∧ r.Holds f .null ∧
          result.toRecords c engine d m = .error (RecordMapper.nullFailure d f)) ∧
      ((∀ f ∈ d.fields, r.Holds f .null → f.nullable = true) → m.type.Admits d →
        ∃ back, result.toRecords c engine d m = .ok [back] ∧
          ∀ f ∈ d.fields, ∀ v, r.Holds f v →
            RecordMapper.member back f.member = .ok (.ofValue (c.kept v)) ∧
              (c.kept v = v ↔ ¬ (c = .sqlite ∧ v.HasSplitSecondOffset))) := by
  have : Nonempty Value := ⟨.null⟩
  have : Nonempty Native := ⟨.null⟩
  choose! value hholds hwrites using hr
  have hnative : ∀ f ∈ d.fields, ∃ n, c.encode (value f) = .ok n ∧
      c.decode n f.kind = .ok (c.kept (value f)) :=
    fun f hf => (hwrites f hf).decode (hholds f hf).kind
  choose! native hencode hdecode using hnative
  obtain ⟨hcells, hresult⟩ := DriverResult.written (m := m) hholds hencode
  have hread := DriverResult.toRecords_row (m := m) engine hcolumns hdecode
  have hnull : ∀ f ∈ d.fields, (c.kept (value f)).isNull = true ↔ r.Holds f .null :=
    fun f hf => (hholds f hf).kept_isNull_iff c
  refine ⟨_, _, hcells, hresult, rfl, ?_, ?_⟩
  · rintro ⟨f, hf, hneeds, hmissing⟩
    obtain ⟨g, hg, ⟨hgnull, hgneeds⟩, hfails⟩ :=
      RecordMapper.decodeAttributes_eq_error (fun f => c.kept (value f)) hcolumns
        ⟨f, hf, (hnull f hf).2 hmissing, hneeds⟩
    refine ⟨g, hg, hgneeds, (hnull g hg).1 hgnull, ?_⟩
    rw [hread, RecordMapper.decodeRow, hfails]
    rfl
  · intro hvalues hadmits
    have hattributes := RecordMapper.decodeAttributes_eq_ok (fun f => c.kept (value f))
      hcolumns fun f hf hmissing => hvalues f hf ((hnull f hf).1 hmissing)
    obtain ⟨back, hconstruct, hback⟩ :=
      hadmits.construct_mapped fun f => .ofValue (c.kept (value f))
    refine ⟨back, ?_, ?_⟩
    · rw [hread, RecordMapper.decodeRow, hattributes]
      simp only [bind, Except.bind, hconstruct]
      rfl
    · intro f hf v hv
      rw [hv.unique (hholds f hf)]
      exact ⟨hback f hf, Codec.kept_eq_self_iff c (value f)⟩

/-- Tickets with a renamed column and one that may be empty. -/
def ticketType : RecordType where
  name := "Ticket"
  fields := [{ name := "id", annotation := [.int] },
    { name := "opened", annotation := [.dateTime], column := some "opened_at" },
    { name := "owner", annotation := [.text, .null] },
    { name := "draft", annotation := [.bool], skip := true, default := some (.bool false) }]

def ticketId : FieldSpec := ⟨"id", "id", some .int64, false⟩

def ticketOpened : FieldSpec := ⟨"opened", "opened_at", some .timestamp, false⟩

def ticketOwner : FieldSpec := ⟨"owner", "owner", some .text, true⟩

def ticketTable : TableDescriptor where
  table := "tickets"
  fields := [ticketId, ticketOpened, ticketOwner]
  named := by decide
  inhabited := by decide
  distinct := by decide
  keyed := by simp

/-- Midnight, half an hour west of universal time. -/
def westerly : Time.DateTime :=
  ⟨⟨2024, 2, 29, by decide⟩, .midnight, some ⟨-1800000000, by decide⟩⟩

/-- A ticket of no owner, which may lack its number. -/
def ticket (id : Native) : Record where
  typeName := "Ticket"
  attributes := [("id", id), ("opened", .timestamp westerly), ("owner", .null),
    ("draft", .bool true)]

theorem ticketType_admits : ticketType.Admits ticketTable := by
  refine ⟨?_, ?_⟩ <;> decide

section

variable {id : Native} {v : Value}

theorem ticket_id (hid : id = .null ∧ v = .null ∨ Value.make .int64 id = .ok v) :
    (ticket id).Holds ticketId v :=
  ⟨id, .int64, rfl, rfl, hid⟩

theorem ticket_opened : (ticket id).Holds ticketOpened (.timestamp westerly) :=
  ⟨_, .timestamp, rfl, rfl, .inr rfl⟩

theorem ticket_owner : (ticket id).Holds ticketOwner .null := ⟨_, .text, rfl, rfl, .inl ⟨rfl, rfl⟩⟩

theorem ticket_written (hid : (ticket id).Holds ticketId v) (hv : v.Bounded) :
    ∀ f ∈ ticketTable.fields, ∃ w, (ticket id).Holds f w ∧ Codec.sqlite.Writes w := by
  have hwrites : ∀ w : Value, w.Bounded → Codec.sqlite.Writes w :=
    fun w hw => ⟨hw, fun hmysql => nomatch hmysql⟩
  intro f hf
  simp only [ticketTable, List.mem_cons, List.not_mem_nil, or_false] at hf
  rcases hf with rfl | rfl | rfl
  · exact ⟨v, hid, hwrites v hv⟩
  · exact ⟨.timestamp westerly, ticket_opened, hwrites _ trivial⟩
  · exact ⟨.null, ticket_owner, hwrites _ trivial⟩

end

/-- A ticket comes back from SQLite, time and offset and all; one without a number does not. -/
theorem roundTrip_record_ticket :
    (∃ cells result back, (⟨ticketType⟩ : RecordMapper).encodeRecord (ticket (.int 7)) ticketTable =
        .ok cells ∧ DriverResult.ofCells .sqlite cells = .ok result ∧
        result.columns = ["id", "opened_at", "owner"] ∧
        result.toRecords .sqlite "sqlite" ticketTable ⟨ticketType⟩ = .ok [back] ∧
        RecordMapper.member back "id" = .ok (.int 7) ∧
        RecordMapper.member back "opened" = .ok (.timestamp westerly) ∧
        RecordMapper.member back "owner" = .ok .null) ∧
      ∃ cells result f, (⟨ticketType⟩ : RecordMapper).encodeRecord (ticket .null) ticketTable =
        .ok cells ∧ DriverResult.ofCells .sqlite cells = .ok result ∧
        result.toRecords .sqlite "sqlite" ticketTable ⟨ticketType⟩ =
          .error (RecordMapper.nullFailure ticketTable f) := by
  have hcolumns : ticketTable.columns.Nodup := by decide
  refine ⟨?_, ?_⟩
  · have hid : (ticket (.int 7)).Holds ticketId (.int64 7) := ticket_id (.inr rfl)
    obtain ⟨cells, result, hcells, hresult, hnames, -, hback⟩ :=
      roundTrip_record .sqlite "sqlite" (m := ⟨ticketType⟩) hcolumns (ticket_written hid trivial)
    have hvalues : ∀ f ∈ ticketTable.fields, (ticket (.int 7)).Holds f .null →
        f.nullable = true := by
      intro f hf hnull
      simp only [ticketTable, List.mem_cons, List.not_mem_nil, or_false] at hf
      rcases hf with rfl | rfl | rfl
      · exact nomatch hnull.unique hid
      · exact nomatch hnull.unique ticket_opened
      · rfl
    obtain ⟨back, hrecords, hmembers⟩ := hback hvalues ticketType_admits
    have htime : Codec.sqlite.kept (.timestamp westerly) = .timestamp westerly := by
      refine (hmembers ticketOpened (by decide) _ ticket_opened).2.2 ?_
      rintro ⟨-, t, o, ht, ho, -, hshort⟩
      cases ht
      cases ho
      exact absurd hshort (by decide)
    have hopened := (hmembers ticketOpened (by decide) _ ticket_opened).1
    rw [htime] at hopened
    exact ⟨cells, result, back, hcells, hresult, hnames, hrecords,
      (hmembers ticketId (by decide) _ hid).1, hopened,
      (hmembers ticketOwner (by decide) _ ticket_owner).1⟩
  · have hid : (ticket .null).Holds ticketId .null := ticket_id (.inl ⟨rfl, rfl⟩)
    obtain ⟨cells, result, hcells, hresult, -, hfails, -⟩ :=
      roundTrip_record .sqlite "sqlite" (m := ⟨ticketType⟩) hcolumns (ticket_written hid trivial)
    obtain ⟨f, -, -, -, hfault⟩ := hfails ⟨ticketId, by decide, rfl, hid⟩
    exact ⟨cells, result, f, hcells, hresult, hfault⟩

/-- A type of records with nothing but a time. -/
def stampType : RecordType where
  name := "Stamp"
  fields := [{ name := "at", annotation := [.dateTime] }]

def stampTable : TableDescriptor where
  table := "stamps"
  fields := [⟨"at", "at", some .timestamp, false⟩]
  named := by decide
  inhabited := by decide
  distinct := by decide
  keyed := by simp

open Codec (splitSecond)

/-- A record with a time at a microsecond from universal time comes back from SQLite with another
one. -/
theorem stamp_changed :
    ∃ cells result back, (⟨stampType⟩ : RecordMapper).encodeRecord
        ⟨"Stamp", [("at", .timestamp splitSecond)]⟩ stampTable = .ok cells ∧
      DriverResult.ofCells .sqlite cells = .ok result ∧
      result.toRecords .sqlite "sqlite" stampTable ⟨stampType⟩ = .ok [back] ∧
      RecordMapper.member back "at" = .ok (.timestamp { splitSecond with offset := some .utc }) ∧
      Native.timestamp { splitSecond with offset := some .utc } ≠ .timestamp splitSecond := by
  have hcolumns : stampTable.columns.Nodup := by decide
  have hholds : ∀ f ∈ stampTable.fields,
      (⟨"Stamp", [("at", .timestamp splitSecond)]⟩ : Record).Holds f (.timestamp splitSecond) := by
    intro f hf
    cases List.mem_singleton.1 hf
    exact ⟨_, .timestamp, rfl, rfl, .inr rfl⟩
  have hread : ∀ f ∈ stampTable.fields, Codec.sqlite.decode (.text splitSecond.toText) f.kind =
      .ok (.timestamp splitSecond.asRead) := by
    intro f hf
    cases List.mem_singleton.1 hf
    exact Codec.decodeTimestamp_text .sqlite splitSecond
  obtain ⟨hcells, hresult⟩ := DriverResult.written (m := ⟨stampType⟩) hholds
    fun _ _ => (rfl : Codec.sqlite.encode (.timestamp splitSecond) = .ok (.text splitSecond.toText))
  have hrecords := DriverResult.toRecords_row (m := ⟨stampType⟩) "sqlite" hcolumns hread
  exact ⟨_, _, ⟨"Stamp", [("at", .timestamp splitSecond.asRead)]⟩, hcells, hresult, hrecords, rfl,
    fun hsame => absurd (Native.timestamp.inj hsame) (by decide)⟩

end Record

end SqlGateway
