import SqlGateway.Proofs.Repository.Inserts
import SqlGateway.Proofs.Value.Exact
set_option autoImplicit false

/-!
# Repositories: changes are keyed

What changes or deletes rows has a filter, whatever it is asked for: the key of a record,
keys, or a condition that the caller gave.  Nothing that a caller can pass in the place of
a key or a condition leads to a change of every row.  A key that is given is taken as a
value of the declared kind, unless it is a value already: then it keeps its own kind.
-/

namespace SqlGateway

/-! ## Builders -/

/-- A term that is a condition is the filter of a statement without one. -/
theorem Condition.conjoin_none_gives (term : Term) :
    Gives (fun e => term.toCondition = .error e) (fun c => term = .condition c)
      (Condition.conjoin none term) := by
  unfold Condition.conjoin
  refine (Gives.self term.toCondition).bind fun c hc => ?_
  exact .ok (Term.toCondition_eq_ok hc)

/-- An operand that is not Null. -/
theorem Condition.literalOf_gives (place : String) (v : Value) :
    Gives (fun e => v.isNull = true ∧ e = .invalid (.nullOperand place))
      (fun w => w = v ∧ v.isNull = false) (Condition.literalOf place (.value v)) := by
  have hvalue : Query.valueOf (.value v) = .ok v := rfl
  unfold Condition.literalOf
  rw [hvalue]
  change Gives _ _ (if v.isNull = true then _ else _)
  split
  next hnull => exact .error ⟨hnull, rfl⟩
  next hsome => exact .ok ⟨rfl, Bool.eq_false_iff.2 hsome⟩

namespace Update

/-- An entry of a dictionary is an assignment to a column. -/
def Assigns (entry : String × Native) (a : Column × Value) : Prop :=
  Column.of (.text entry.1) = .ok a.1 ∧ Query.valueOf entry.2 = .ok a.2

theorem start_gives (table : String) (entries : List (String × Native)) :
    Gives (fun e => Query.tableOf (.text table) = .error e ∨
        (∃ entry ∈ entries, assignment (.text entry.1) entry.2 = .error e) ∨
        entries = [] ∧ e = .invalid .updateEmpty)
      (fun s => ∃ assignments, s = { table, assignments } ∧
        List.Forall₂ Assigns entries assignments ∧ entries ≠ [])
      (start (.text table) entries) := by
  have hassigns : ∀ entry ∈ entries, Gives (fun e => Query.tableOf (.text table) = .error e ∨
        (∃ entry ∈ entries, assignment (.text entry.1) entry.2 = .error e) ∨
        entries = [] ∧ e = .invalid .updateEmpty)
      (Assigns entry) (assignment (.text entry.1) entry.2) := by
    intro entry hentry
    refine (Gives.self _).mono (fun e he => .inr (.inl ⟨entry, hentry, he⟩)) fun a ha => ?_
    obtain ⟨c, hc, ha⟩ := Except.bind_eq_ok.1 ha
    obtain ⟨v, hv, ha⟩ := Except.bind_eq_ok.1 ha
    cases ha
    exact ⟨hc, hv⟩
  unfold start
  refine ((Query.tableOf_gives table).mono_error fun _ => .inl).bind ?_
  rintro t ⟨rfl, htable⟩
  refine (Gives.mapM hassigns).bind fun assignments hall => ?_
  unfold checked
  refine (Gives.of_ok htable).bind ?_
  rintro _ rfl
  split
  next hempty =>
    obtain rfl := List.isEmpty_iff.1 hempty
    exact .error (.inr (.inr ⟨List.forall₂_nil_right_iff.1 hall, rfl⟩))
  next hfull =>
    refine .ok ⟨assignments, rfl, hall, ?_⟩
    rintro rfl
    exact hfull (by rw [List.forall₂_nil_left_iff.1 hall]; rfl)

theorem filtered_gives {s : Update} (hfilter : s.filter = none) (term : Term) :
    Gives (fun e => term.toCondition = .error e)
      (fun t => ∃ c, term = .condition c ∧ t = { s with filter := some c }) (s.filtered term) := by
  unfold filtered
  rw [hfilter]
  exact (Condition.conjoin_none_gives term).bind fun c hc => .ok ⟨c, hc, rfl⟩

/-- The assignments are to columns with these names, each once. -/
structure Sets (s : Update) (columns : List String) : Prop where
  nodup : (s.assignments.map Prod.fst).Nodup
  mem : ∀ column, ⟨column⟩ ∈ s.assignments.map Prod.fst ↔ column ∈ columns

end Update

theorem Delete.filtered_gives {s : Delete} (hfilter : s.filter = none) (term : Term) :
    Gives (fun e => term.toCondition = .error e)
      (fun t => ∃ c, term = .condition c ∧ t = { s with filter := some c }) (s.filtered term) := by
  unfold filtered
  rw [hfilter]
  exact (Condition.conjoin_none_gives term).bind fun c hc => .ok ⟨c, hc, rfl⟩

/-- A statement that changes or deletes rows has a filter. -/
def Statement.Filtered : Statement → Prop
  | .update s => s.filter ≠ none
  | .delete s => s.filter ≠ none
  | _ => True

namespace Repository

variable (r : Repository)

/-! ## What is sent -/

/-- The key of a row is a value. -/
def keyed (f : FieldSpec) (key : Value) : Condition := .compare .eq ⟨f.column⟩ (.literal key)

/-- The statement that writes all of a record but its key to the row with its key. -/
def rewriting (f : FieldSpec) (record : Record) : Update where
  table := r.table
  assignments := (r.others f).map fun g => (⟨g.column⟩, record.valueAt g)
  filter := some (keyed f (record.valueAt f))

/-- How a key is taken: what is a value already keeps its own kind, and anything else becomes a
value of the declared kind, or of the kind that it has by itself where none is declared. -/
inductive Taken (g : FieldSpec) : Native → Value → Prop where
  | own (v : Value) : Taken g (.value v) v
  | declared {k : ValueKind} {key : Native} {v : Value} (hdeclared : g.kind = some k)
      (hobject : ∀ w, key ≠ .value w) (hvalue : Value.ofKind k key = .ok v) (hkind : v.kind = k) :
      Taken g key v
  | inferred {key : Native} {v : Value} (hdeclared : g.kind = none)
      (hobject : ∀ w, key ≠ .value w) (hvalue : Value.of key = .ok v) : Taken g key v

/-- What is sent for a write, and what the answer is read from. -/
inductive Keyed (returning : Bool) : (w : Write) → Move w.Gain → Prop where
  | inserted {w : Write} {move : Move w.Gain} (hinserted : r.Inserted returning w move) :
      Keyed returning w move
  | saved {record : Record} {f : FieldSpec} (hencodes : r.Encodes record)
      (hkey : r.descriptor.keyField = .ok f) (hbrings : (record.valueAt f).isNull = false)
      (hothers : r.others f ≠ []) :
      Keyed returning (.save record) (.send (.update (r.rewriting f record)) ResultSet.rowcount)
  /-- There is nothing to write of a record that is only a key. -/
  | unsaved {record : Record} {f : FieldSpec} (hencodes : r.Encodes record)
      (hkey : r.descriptor.keyField = .ok f) (hbrings : (record.valueAt f).isNull = false)
      (hothers : r.others f = []) : Keyed returning (.save record) (.rest 0)
  /-- A record that leaves its key is new, -/
  | new {record : Record} {f : FieldSpec} {move : Move Native}
      (hkey : r.descriptor.keyField = .ok f) (hleaves : (record.valueAt f).isNull = true)
      (hinserted : r.Inserted returning (.insert record) move) :
      Keyed returning (.saveOrUpdate record) move
  /-- and any other is not. -/
  | old {record : Record} {f : FieldSpec} (hencodes : r.Encodes record)
      (hkey : r.descriptor.keyField = .ok f) (hbrings : (record.valueAt f).isNull = false)
      (hothers : r.others f ≠ []) :
      Keyed returning (.saveOrUpdate record)
        (.send (.update (r.rewriting f record)) fun _ => .ofValue (record.valueAt f))
  | unchanged {record : Record} {f : FieldSpec} (hencodes : r.Encodes record)
      (hkey : r.descriptor.keyField = .ok f) (hbrings : (record.valueAt f).isNull = false)
      (hothers : r.others f = []) :
      Keyed returning (.saveOrUpdate record) (.rest (.ofValue (record.valueAt f)))
  | updatedWhere {values : List (String × Native)} {assignments : List (Column × Value)}
      {c : Condition} (hassigns : List.Forall₂ Update.Assigns values assignments)
      (hsome : values ≠ []) :
      Keyed returning (.updateWhere values (.condition c))
        (.send (.update { table := r.table, assignments, filter := some c }) ResultSet.rowcount)
  | deleted {key : Native} {f : FieldSpec} {v : Value} (hkey : r.descriptor.keyField = .ok f)
      (htaken : Taken f key v) (hsome : v.isNull = false) :
      Keyed returning (.delete key)
        (.send (.delete { table := r.table, filter := some (keyed f v) }) ResultSet.rowcount)
  | deletedNone {f : FieldSpec} (hkey : r.descriptor.keyField = .ok f) :
      Keyed returning (.deleteMany []) (.rest 0)
  | deletedMany {keys : List Native} {f : FieldSpec} {vs : List Value}
      (hkey : r.descriptor.keyField = .ok f)
      (htaken : List.Forall₂ (Taken f) keys vs)
      (hnotNull : ∀ v ∈ vs, v.isNull = false) (hsome : keys ≠ []) :
      Keyed returning (.deleteMany keys)
        (.send (.delete { table := r.table, filter := some (.inSet ⟨f.column⟩ vs false) })
          ResultSet.rowcount)
  | deletedWhere {c : Condition} :
      Keyed returning (.deleteWhere (.condition c))
        (.send (.delete { table := r.table, filter := some c }) ResultSet.rowcount)

/-! ## What is refused -/

/-- The table has no key. -/
def Keyless (f : Failure) : Prop :=
  r.descriptor.primaryKey = none ∧ f = TableDescriptor.noKey r.table

/-- A key cannot be taken as a value of the key's kind, or is Null. -/
def Unkeyed (place : String) (g : FieldSpec) (key : Native) (f : Failure) : Prop :=
  keyValue g key = .error f ∨ ∃ v, Value.coerce key g.kind = .ok v ∧ v.isNull = true ∧
    f = (QueryError.invalid (.nullOperand place)).toFailure

/-- The table or the condition that a caller gave is none. -/
def Unfiltered (filter : Term) (f : Failure) : Prop :=
  built (Query.tableOf (.text r.table)) = .error f ∨ built filter.toCondition = .error f

/-- Why a write is refused before anything is sent. -/
def Refused : Write → Failure → Prop
  | .insert record, f => r.Uninsertable [record] f
  | .insertMany records, f => r.Uninsertable records f
  | .save record, f => r.Keyless f ∨ r.Unencodable record f ∨ r.Misnamed f ∨
    r.leavesKey record = true ∧ f = .make .invalidExpression
      ("Cannot update a " ++ r.typeName ++ " without a primary key value")
  | .saveOrUpdate record, f => r.Keyless f ∨ r.Uninsertable [record] f
  | .updateWhere values filter, f => r.Unfiltered filter f ∨
    (∃ e ∈ values, built (Update.assignment (.text e.1) e.2) = .error f) ∨
    values = [] ∧ f = (QueryError.invalid .updateEmpty).toFailure
  | .delete key, f => r.Keyless f ∨ r.Misnamed f ∨
    ∃ g, r.descriptor.keyField = .ok g ∧ Unkeyed "Right side of =" g key f
  | .deleteMany keys, f => r.Keyless f ∨ r.Misnamed f ∨
    ∃ g, r.descriptor.keyField = .ok g ∧ ∃ key ∈ keys, Unkeyed "IN member" g key f
  | .deleteWhere filter, f => r.Unfiltered filter f

/-- A value that a key becomes is taken from it. -/
theorem taken_of_coerce {g : FieldSpec} {key : Native} {v : Value}
    (hvalue : Value.coerce key g.kind = .ok v) (hsome : v.isNull = false) : Taken g key v := by
  cases hkind : g.kind with
  | none =>
    rw [hkind] at hvalue
    have hof : (Value.of key).mapError ConversionFault.refused = .ok v := hvalue
    have hplain : Value.of key = .ok v := by
      cases hof' : Value.of key with
      | error e => rw [hof'] at hof; cases hof
      | ok w => rw [hof'] at hof; cases hof; rfl
    cases key with
    | value w => cases hplain; exact .own v
    | _ => exact .inferred hkind (fun w hw => by cases hw) hplain
  | some k =>
    rw [hkind] at hvalue
    cases key with
    | value w => cases hvalue; exact .own v
    | null => cases hvalue; cases hsome
    | _ => exact .declared hkind (fun w hw => by cases hw) hvalue (Value.kind_of_ofKind hvalue)

variable {r} {record : Record}

/-! ## What the statements are -/

theorem keyField_gives : Gives r.Keyless (fun f => r.descriptor.keyField = .ok f)
    r.descriptor.keyField :=
  (Gives.self _).mono_error fun _ he => r.descriptor.keyField_gives.of_eq_error he

theorem columnIs_gives {f : FieldSpec} (hf : f ∈ r.descriptor.fields) (v : Value) :
    Gives (fun e => r.Misnamed e ∨
        v.isNull = true ∧ e = (QueryError.invalid (.nullOperand "Right side of =")).toFailure)
      (fun c => c = keyed f v ∧ v.isNull = false) (columnIs f.column v) := by
  have hoperand : Gives
      (fun e => v.isNull = true ∧ e = .invalid (.nullOperand "Right side of ="))
      (fun o => o = .literal v ∧ v.isNull = false) (Condition.operandOf .eq (.value v)) :=
    (Condition.literalOf_gives "Right side of =" v).map fun _ h => ⟨by rw [h.1], h.2⟩
  unfold columnIs built Condition.comparing
  refine Gives.mapError (E := fun e => Column.of (.text f.column) = .error e ∨
    v.isNull = true ∧ e = .invalid (.nullOperand "Right side of =")) ?_ ?_
  · refine ((Column.of_gives f.column).mono_error fun _ => .inl).bind ?_
    rintro _ rfl
    refine (hoperand.mono_error fun _ => .inr).bind ?_
    rintro _ ⟨rfl, hsome⟩
    exact .ok ⟨rfl, hsome⟩
  · rintro e (hcolumn | ⟨hnull, rfl⟩)
    · exact .inl (.inr ⟨f, hf, by rw [built, hcolumn]; rfl⟩)
    · exact .inr ⟨hnull, rfl⟩

theorem keyValue_gives (g : FieldSpec) (key : Native) :
    Gives (fun e => keyValue g key = .error e) (fun v => Value.coerce key g.kind = .ok v)
      (keyValue g key) := by
  refine (Gives.self _).mono_ok fun v hv => ?_
  unfold keyValue at hv
  cases hcoerced : Value.coerce key g.kind with
  | error e => rw [hcoerced] at hv; cases hv
  | ok w => rw [hcoerced] at hv; cases hv; rfl

/-- A statement that changes rows has the filter that it was given. -/
theorem updating_gives {values : List (String × Native)} {filter : Except Failure Term}
    {F : Failure → Prop} {T : Term → Prop} (hfilter : Gives F T filter) :
    Gives (fun e => built (Query.tableOf (.text r.table)) = .error e ∨
        (∃ entry ∈ values, built (Update.assignment (.text entry.1) entry.2) = .error e) ∨
        values = [] ∧ e = (QueryError.invalid .updateEmpty).toFailure ∨ F e ∨
        ∃ term, T term ∧ built term.toCondition = .error e)
      (fun s => ∃ assignments c, T (.condition c) ∧ values ≠ [] ∧
        List.Forall₂ Update.Assigns values assignments ∧
        s = { table := r.table, assignments, filter := some c })
      (r.updating values filter) := by
  unfold updating
  refine ((built_gives (Update.start_gives r.table values)).mono_error ?_).bind ?_
  · rintro f ⟨e, htable | ⟨entry, hentry, hassign⟩ | ⟨hempty, rfl⟩, rfl⟩
    · exact .inl (by rw [built, htable]; rfl)
    · exact .inr (.inl ⟨entry, hentry, by rw [built, hassign]; rfl⟩)
    · exact .inr (.inr (.inl ⟨hempty, rfl⟩))
  · rintro s ⟨assignments, rfl, hassigns, hsome⟩
    refine (hfilter.mono_error fun _ he => .inr (.inr (.inr (.inl he)))).bind ?_
    intro term hterm
    refine (built_gives (Update.filtered_gives rfl term)).mono ?_ ?_
    · rintro f ⟨e, hcondition, rfl⟩
      exact .inr (.inr (.inr (.inr ⟨term, hterm, by rw [built, hcondition]; rfl⟩)))
    · rintro s ⟨c, rfl, rfl⟩
      exact ⟨assignments, c, hterm, hsome, hassigns, rfl⟩

/-- A statement that deletes rows has the filter that it was given. -/
theorem deleting_gives {filter : Except Failure Term}
    {F : Failure → Prop} {T : Term → Prop} (hfilter : Gives F T filter) :
    Gives (fun e => built (Query.tableOf (.text r.table)) = .error e ∨ F e ∨
        ∃ term, T term ∧ built term.toCondition = .error e)
      (fun s => ∃ c, T (.condition c) ∧ s = { table := r.table, filter := some c })
      (r.deleting filter) := by
  have hstart : Gives (fun e => Query.tableOf (.text r.table) = .error e)
      (fun s => s = ({ table := r.table } : Delete)) (Delete.start (.text r.table)) := by
    unfold Delete.start
    refine (Query.tableOf_gives r.table).bind ?_
    rintro _ ⟨rfl, -⟩
    exact .ok rfl
  unfold deleting
  refine ((built_gives hstart).mono_error ?_).bind ?_
  · rintro f ⟨e, htable, rfl⟩
    exact .inl (by rw [built, htable]; rfl)
  · rintro s rfl
    refine (hfilter.mono_error fun _ he => .inr (.inl he)).bind ?_
    intro term hterm
    refine (built_gives (Delete.filtered_gives rfl term)).mono ?_ ?_
    · rintro f ⟨e, hcondition, rfl⟩
      exact .inr (.inr ⟨term, hterm, by rw [built, hcondition]; rfl⟩)
    · rintro s ⟨c, rfl, rfl⟩
      exact ⟨c, hterm, rfl⟩

/-- The arguments of the builder for a record are assignments of its values. -/
theorem assignments_eq {fields : List FieldSpec} {assignments : List (Column × Value)}
    (h : List.Forall₂ Update.Assigns (arguments (record.row fields)) assignments) :
    assignments = fields.map fun g => (⟨g.column⟩, record.valueAt g) := by
  rw [arguments_row, List.forall₂_map_left_iff] at h
  induction h with
  | nil => rfl
  | @cons g a _ _ ha _ ih =>
    have hcolumn : a.1 = ⟨g.column⟩ := (Column.of_gives g.column).of_eq_ok ha.1
    have hvalue : record.valueAt g = a.2 := Except.ok.inj ha.2
    rw [List.map_cons, ← ih, hvalue, ← hcolumn]

/-- The rewriting of a record that brings its key, unless a name is none. -/
theorem rewriting_gives {f : FieldSpec} (hf : f ∈ r.descriptor.fields)
    (hbrings : (record.valueAt f).isNull = false) (hothers : r.others f ≠ []) :
    Gives r.Misnamed (fun s => s = r.rewriting f record)
      (r.updating (arguments (record.row (r.others f)))
        ((columnIs f.column (record.valueAt f)).map .condition)) := by
  have hfilter := (columnIs_gives (r := r) hf (record.valueAt f)).map (f := Term.condition)
    (Q := fun t => t = .condition (keyed f (record.valueAt f))) fun c hc => by rw [hc.1]
  refine (updating_gives hfilter).mono ?_ ?_
  · rintro e (htable | ⟨entry, hentry, hassign⟩ | ⟨hempty, -⟩ | (hname | ⟨hnull, -⟩) |
      ⟨_, rfl, hnone⟩)
    · exact .inl htable
    · rw [arguments_row] at hentry
      obtain ⟨g, hg, rfl⟩ := List.mem_map.1 hentry
      refine .inr ⟨g, (List.mem_filter.1 hg).1, ?_⟩
      cases hcolumn : Column.of (.text g.column) with
      | error e => rw [Update.assignment, hcolumn] at hassign; cases hassign; rfl
      | ok c => rw [Update.assignment, hcolumn] at hassign; cases hassign
    · rw [arguments_row] at hempty
      exact absurd (List.map_eq_nil_iff.1 hempty) hothers
    · exact hname
    · rw [hbrings] at hnull
      cases hnull
    · cases hnone
  · rintro s ⟨assignments, c, hc, -, hassigns, rfl⟩
    cases hc
    rw [assignments_eq hassigns]
    rfl

/-- Nothing is written of a record that is only a key; any other is rewritten. -/
inductive Rewrites (r : Repository) (record : Record) : Option Update → Prop where
  | none {f : FieldSpec} (hencodes : r.Encodes record)
      (hkey : r.descriptor.keyField = .ok f) (hbrings : (record.valueAt f).isNull = false)
      (hothers : r.others f = []) : Rewrites r record none
  | some {f : FieldSpec} (hencodes : r.Encodes record)
      (hkey : r.descriptor.keyField = .ok f) (hbrings : (record.valueAt f).isNull = false)
      (hothers : r.others f ≠ []) : Rewrites r record (some (r.rewriting f record))

theorem update_gives (hcolumns : r.descriptor.columns.Nodup) (record : Record) :
    Gives (r.Refused (.save record)) (Rewrites r record) (r.update record) := by
  unfold update
  refine ((encode_gives hcolumns record).mono_error fun _ he => .inr (.inl he)).bind ?_
  rintro row ⟨hencodes, rfl⟩
  refine (keyField_gives.mono_error fun _ => .inl).bind ?_
  intro f hf
  have hmem := TableDescriptor.mem_of_keyField hf
  rw [valueIn, valueIn?_row hcolumns (List.Sublist.refl _) hmem]
  refine (Gives.of_ok rfl).bind ?_
  rintro _ rfl
  split
  next hleaves => exact .error (.inr (.inr (.inr ⟨by rw [leavesKey_of_keyField hf, hleaves], rfl⟩)))
  next hbrings =>
    rw [Bool.not_eq_true] at hbrings
    rw [without_row]
    by_cases hothers : r.others f = []
    · rw [hothers]
      exact .ok (.none hencodes hf hbrings hothers)
    · obtain ⟨g, rest, hrest⟩ := List.exists_cons_of_ne_nil hothers
      have hsplit : record.row (r.others f) = (g.column, record.valueAt g) :: record.row rest := by
        rw [hrest]
        rfl
      have hrewriting := rewriting_gives hmem hbrings hothers
      rw [hsplit] at hrewriting ⊢
      refine (hrewriting.mono_error fun _ he => .inr (.inr (.inl he))).bind ?_
      rintro _ rfl
      exact .ok (.some hencodes hf hbrings hothers)

/-- The operands of a set, none of them Null. -/
theorem memberOf_gives {f : FieldSpec} (hf : f ∈ r.descriptor.fields) (vs : List Value) :
    Gives (fun e => r.Misnamed e ∨ ∃ v ∈ vs, v.isNull = true ∧
        e = (QueryError.invalid (.nullOperand "IN member")).toFailure)
      (fun c => c = .inSet ⟨f.column⟩ vs false ∧ ∀ v ∈ vs, v.isNull = false)
      (built (Condition.memberOf (.text f.column) (.list (vs.map .value)) false)) := by
  have hmembers : Gives
      (fun e => ∃ v ∈ vs, v.isNull = true ∧ e = .invalid (.nullOperand "IN member"))
      (fun ws => (∀ v ∈ vs, v.isNull = false) ∧ ws = vs.map id)
      (Condition.setMembers (.list (vs.map .value))) := by
    have hlist : Condition.setMembers (.list (vs.map .value)) =
        (vs.map Native.value).mapM (Condition.literalOf "IN member") := rfl
    rw [hlist, List.mapM_map]
    refine Gives.mapM_map fun v hv => ?_
    exact (Condition.literalOf_gives "IN member" v).mono (fun _ he => ⟨v, hv, he⟩)
      fun _ h => ⟨h.2, h.1⟩
  unfold built Condition.memberOf
  refine Gives.mapError (E := fun e => Column.of (.text f.column) = .error e ∨
    ∃ v ∈ vs, v.isNull = true ∧ e = .invalid (.nullOperand "IN member")) ?_ ?_
  · refine ((Column.of_gives f.column).mono_error fun _ => .inl).bind ?_
    rintro _ rfl
    refine (hmembers.mono_error fun _ => .inr).bind ?_
    rintro _ ⟨hsome, rfl⟩
    exact .ok ⟨by rw [List.map_id], hsome⟩
  · rintro e (hcolumn | ⟨v, hv, hnull, rfl⟩)
    · exact .inl (.inr ⟨f, hf, by rw [built, hcolumn]; rfl⟩)
    · exact .inr ⟨v, hv, hnull, rfl⟩

/-- A key is a condition on the column of the key, as a value of its kind that is not Null. -/
theorem keyIs_gives (key : Native) :
    Gives (r.Refused (.delete key))
      (fun c => ∃ f v, r.descriptor.keyField = .ok f ∧ Value.coerce key f.kind = .ok v ∧
        v.isNull = false ∧ c = keyed f v) (r.keyIs key) := by
  unfold keyIs
  refine (keyField_gives.mono_error fun _ => .inl).bind ?_
  intro f hf
  refine ((keyValue_gives f key).mono_error fun _ he => .inr (.inr ⟨f, hf, .inl he⟩)).bind ?_
  intro v hv
  refine (columnIs_gives (TableDescriptor.mem_of_keyField hf) v).mono ?_ ?_
  · rintro e (hname | ⟨hnull, rfl⟩)
    · exact .inr (.inl hname)
    · exact .inr (.inr ⟨f, hf, .inr ⟨v, hv, hnull, rfl⟩⟩)
  · rintro c ⟨rfl, hsome⟩
    exact ⟨f, v, hf, hv, hsome, rfl⟩

/-- The deletion of a row by its key. -/
theorem deletion_gives (key : Native) :
    Gives (r.Refused (.delete key))
      (fun s => ∃ f v, r.descriptor.keyField = .ok f ∧ Value.coerce key f.kind = .ok v ∧
        v.isNull = false ∧ s = { table := r.table, filter := some (keyed f v) })
      (r.deletion key) := by
  have hfilter : Gives (r.Refused (.delete key))
      (fun t => ∃ f v, r.descriptor.keyField = .ok f ∧ Value.coerce key f.kind = .ok v ∧
        v.isNull = false ∧ t = .condition (keyed f v)) ((r.keyIs key).map Term.condition) := by
    refine (keyIs_gives key).map ?_
    rintro _ ⟨f, v, hf, hv, hsome, rfl⟩
    exact ⟨f, v, hf, hv, hsome, rfl⟩
  unfold deletion
  refine (deleting_gives hfilter).mono ?_ ?_
  · rintro e (htable | hrefused | ⟨_, ⟨f, v, -, -, -, rfl⟩, hnone⟩)
    · exact .inr (.inl (.inl htable))
    · exact hrefused
    · cases hnone
  · rintro s ⟨c, ⟨f, v, hf, hv, hsome, hc⟩, rfl⟩
    cases hc
    exact ⟨f, v, hf, hv, hsome, rfl⟩

/-- The deletion of rows by their keys, if there are any. -/
theorem deletionOf_gives (returning : Bool) (keys : List Native) :
    Gives (r.Refused (.deleteMany keys))
      (fun s => r.Keyed returning (.deleteMany keys) (moveOf 0 ResultSet.rowcount .delete s))
      (r.deletionOf keys) := by
  unfold deletionOf
  refine (keyField_gives.mono_error fun _ => .inl).bind ?_
  intro f hf
  have hvalues : ∀ key ∈ keys, Gives (r.Refused (.deleteMany keys))
      (fun v => Value.coerce key f.kind = .ok v) (keyValue f key) := fun key hkey =>
    (keyValue_gives f key).mono_error fun _ he => .inr (.inr ⟨f, hf, key, hkey, .inl he⟩)
  refine (Gives.mapM hvalues).bind ?_
  intro vs hvs
  split
  next hempty =>
    obtain rfl := List.isEmpty_iff.1 hempty
    obtain rfl := List.forall₂_nil_right_iff.1 hvs
    exact .ok (.deletedNone hf)
  next hfull =>
    have hsome : keys ≠ [] := by
      rintro rfl
      rw [List.forall₂_nil_left_iff.1 hvs] at hfull
      exact hfull rfl
    have hmembers := memberOf_gives (r := r) (TableDescriptor.mem_of_keyField hf) vs
    have hfilter := hmembers.map (f := Term.condition) (Q := fun t =>
      t = .condition (.inSet ⟨f.column⟩ vs false) ∧ ∀ v ∈ vs, v.isNull = false)
      fun c hc => ⟨by rw [hc.1], hc.2⟩
    refine ((deleting_gives hfilter).mono_error ?_).bind ?_
    · rintro e (htable | (hname | ⟨v, hv, hnull, rfl⟩) | ⟨_, ⟨rfl, -⟩, hnone⟩)
      · exact .inr (.inl (.inl htable))
      · exact .inr (.inl hname)
      · obtain ⟨key, hkey, hcoerced⟩ := exists_of_forall₂ hvs hv
        exact .inr (.inr ⟨f, hf, key, hkey, .inr ⟨v, hcoerced, hnull, rfl⟩⟩)
      · cases hnone
    · rintro _ ⟨c, ⟨hc, hnotNull⟩, rfl⟩
      cases hc
      have htaken := ((List.forall₂_and_left vs keys).2 ⟨hnotNull, hvs.flip⟩).imp
        fun v key h => taken_of_coerce h.2 h.1
      exact .ok (.deletedMany hf htaken.flip hnotNull hsome)

/-! ## Every write is keyed -/

/-- A record that leaves its key is inserted, and any other is rewritten. -/
theorem saveOrUpdate_gives (hcolumns : r.descriptor.columns.Nodup) (returning : Bool)
    (record : Record) :
    Gives (r.Refused (.saveOrUpdate record)) (r.Keyed returning (.saveOrUpdate record))
      ((Write.saveOrUpdate record).plan r returning) := by
  unfold Write.plan
  refine (keyField_gives.mono_error fun _ => .inl).bind ?_
  intro f hf
  have hvalue : valueIn (record.row r.descriptor.fields) f.column = .ok (record.valueAt f) := by
    rw [valueIn, valueIn?_row hcolumns (List.Sublist.refl _) (TableDescriptor.mem_of_keyField hf)]
  refine ((encode_gives hcolumns record).mono_error
    fun _ he => .inr (.inl ⟨record, List.mem_singleton_self record, he⟩)).bind ?_
  rintro row ⟨-, rfl⟩
  refine (Gives.of_ok hvalue).bind ?_
  rintro _ rfl
  split
  next hleaves =>
    exact (insertPlan_gives hcolumns returning record).mono (fun _ => .inr)
      fun _ h => .new hf hleaves h
  next hbrings =>
    refine ((update_gives hcolumns record).mono_error ?_).map ?_
    · rintro e (hkeyless | hunencodable | hname | ⟨hleaves, -⟩)
      · exact .inl hkeyless
      · exact .inr (.inl ⟨record, List.mem_singleton_self record, hunencodable⟩)
      · exact .inr (.inr (.inr (.inl hname)))
      · exact absurd (leavesKey_of_keyField hf record ▸ hleaves) hbrings
    · rintro _ (⟨hencodes, hkey, hbrings, hothers⟩ | ⟨hencodes, hkey, hbrings, hothers⟩)
      · obtain rfl := Except.ok.inj (hf.symm.trans hkey)
        exact .unchanged hencodes hkey hbrings hothers
      · obtain rfl := Except.ok.inj (hf.symm.trans hkey)
        exact .old hencodes hkey hbrings hothers

/-- What the change of the rows that satisfy a condition comes to. -/
theorem updateWhere_gives (returning : Bool) (values : List (String × Native)) (filter : Term) :
    Gives (r.Refused (.updateWhere values filter)) (r.Keyed returning (.updateWhere values filter))
      ((Write.updateWhere values filter).plan r returning) := by
  have hgiven : Gives (fun _ => False) (fun t => filter = t) (.ok filter : Except Failure Term) :=
    .of_ok rfl
  refine ((updating_gives hgiven).mono_error ?_).map ?_
  · rintro e (htable | hassign | hempty | hnone | ⟨_, rfl, hcondition⟩)
    · exact .inl (.inl htable)
    · exact .inr (.inl hassign)
    · exact .inr (.inr hempty)
    · exact hnone.elim
    · exact .inl (.inr hcondition)
  · rintro _ ⟨assignments, c, rfl, hsome, hassigns, rfl⟩
    exact .updatedWhere hassigns hsome

/-- What the deletion of the rows that satisfy a condition comes to. -/
theorem deleteWhere_gives (returning : Bool) (filter : Term) :
    Gives (r.Refused (.deleteWhere filter)) (r.Keyed returning (.deleteWhere filter))
      ((Write.deleteWhere filter).plan r returning) := by
  have hgiven : Gives (fun _ => False) (fun t => filter = t) (.ok filter : Except Failure Term) :=
    .of_ok rfl
  refine ((deleting_gives hgiven).mono_error ?_).map ?_
  · rintro e (htable | hnone | ⟨_, rfl, hcondition⟩)
    · exact .inl htable
    · exact hnone.elim
    · exact .inr hcondition
  · rintro _ ⟨c, rfl, rfl⟩
    exact .deletedWhere

/-- What a write comes to. -/
theorem plan_gives (hcolumns : r.descriptor.columns.Nodup) (returning : Bool) (w : Write) :
    Gives (r.Refused w) (r.Keyed returning w) (w.plan r returning) := by
  cases w with
  | insert record =>
    exact (insertPlan_gives hcolumns returning record).mono_ok fun _ h => .inserted h
  | insertMany records =>
    exact (insertionOf_gives hcolumns returning records).map fun _ h => .inserted h
  | save record =>
    refine (update_gives hcolumns record).map ?_
    rintro _ (⟨hencodes, hkey, hbrings, hothers⟩ | ⟨hencodes, hkey, hbrings, hothers⟩)
    · exact .unsaved hencodes hkey hbrings hothers
    · exact .saved hencodes hkey hbrings hothers
  | saveOrUpdate record => exact saveOrUpdate_gives hcolumns returning record
  | updateWhere values filter => exact updateWhere_gives returning values filter
  | delete key =>
    refine (deletion_gives key).map ?_
    rintro _ ⟨f, v, hf, hv, hsome, rfl⟩
    exact .deleted hf (taken_of_coerce hv hsome) hsome
  | deleteMany keys => exact (deletionOf_gives returning keys).map fun _ h => h
  | deleteWhere filter => exact deleteWhere_gives returning filter

/-- What is sent to change or delete rows has a filter. -/
theorem Keyed.filtered {returning : Bool} {w : Write} {s : Statement} {read : ResultSet → w.Gain}
    (h : r.Keyed returning w (.send s read)) : s.Filtered := by
  have hinsert : ∀ {w : Write} {move : Move w.Gain}, r.Inserted returning w move →
      ∀ {s read}, move = .send s read → s.Filtered := by
    intro w move hinserted s read hsend
    cases hinserted <;> cases hsend <;> trivial
  cases h with
  | inserted hinserted => exact hinsert hinserted rfl
  | new _ _ hinserted => exact hinsert hinserted rfl
  | _ => exact Option.some_ne_none _

/-- A rewriting sets each mapped column but the key, once, and the key never. -/
theorem rewriting_sets (hcolumns : r.descriptor.columns.Nodup) (f : FieldSpec) (record : Record) :
    (r.rewriting f record).Sets (r.descriptor.columns.filter (· != f.column)) := by
  have hset : (r.rewriting f record).assignments.map Prod.fst =
      (r.descriptor.columns.filter (· != f.column)).map Column.mk := by
    rw [rewriting, TableDescriptor.columns, List.filter_map, List.map_map, List.map_map]
    rfl
  have hnodup : ((r.rewriting f record).assignments.map Prod.fst).Nodup := by
    rw [hset]
    exact (hcolumns.filter _).map fun _ _ h => Column.mk.inj h
  refine ⟨hnodup, fun column => ?_⟩
  rw [hset, List.mem_map]
  constructor
  · rintro ⟨_, hcolumn, hsame⟩
    exact Column.mk.inj hsame ▸ hcolumn
  · exact fun hcolumn => ⟨column, hcolumn, rfl⟩

/-- Wherever statements run, a write sends nothing or one statement, and one that changes or
deletes rows has a filter.  A record is written to the row with its key, and all of its
columns but the key are set. -/
theorem writes_keyed {σ : Type} (h : Host σ) (hcolumns : r.descriptor.columns.Nodup) (w : Write) :
    ∃ plan : Except Failure (Move w.Gain),
      w.Follows r h plan ∧
      Gives (r.Refused w) (r.Keyed h.dialect.returning w) plan ∧
      (∀ s read, plan = .ok (.send s read) → s.Filtered) ∧
      ∀ f record, (r.rewriting f record).Sets (r.descriptor.columns.filter (· != f.column)) := by
  have hgives := plan_gives hcolumns h.dialect.returning w
  refine ⟨w.plan r h.dialect.returning, w.follows r h, hgives, ?_, rewriting_sets hcolumns⟩
  intro s read hplan
  exact (hgives.of_eq_ok hplan).filtered

/-- The field of the number of a parcel. -/
def parcelNumber : FieldSpec := ⟨"id", "parcel_id", some .int64, true⟩

/-- A parcel with a number is written to its row, and one without is inserted.  A deletion by a key
that is Null is refused, and nothing is sent. -/
theorem writes_keyed_parcels :
    parcels.descriptor.columns.Nodup ∧
      (∃ read, Sent servingHost servingHost.Unlent servingHost.Unreturned
        (.ok (.send (.update (parcels.rewriting parcelNumber (parcel (.int 1) "a"))) read))
        (served parcels (.saveOrUpdate (parcel (.int 1) "a"))).1
        (served parcels (.saveOrUpdate (parcel (.int 1) "a"))).2.2) ∧
      shownSent (served parcels (.saveOrUpdate (parcel (.int 1) "a"))).2.2 =
        [("UPDATE parcels SET label = ? WHERE parcel_id = ?", [some "a", none])] ∧
      (served parcels (.saveOrUpdate (parcel (.int 1) "a"))).1 = .ok (.int 1) ∧
      shownSent (served parcels (.saveOrUpdate (parcel .null "a"))).2.2 =
        [("INSERT INTO parcels (label) VALUES (?)", [some "a"])] ∧
      (served parcels (.saveOrUpdate (parcel .null "a"))).1 = .ok (.int 7) ∧
      ∃ f, parcels.Refused (.delete .null) f ∧ (served parcels (.delete .null)).1 = .error f ∧
        (served parcels (.delete .null)).2.2 = [] := by
  have hcolumns : parcels.descriptor.columns.Nodup := by decide
  have hnumber : parcels.descriptor.keyField = .ok parcelNumber := rfl
  have hkey : (served parcels (.saveOrUpdate (parcel (.int 1) "a"))).1 = .ok (.int 1) :=
    answered?_eq_some (by decide +kernel)
  refine ⟨hcolumns, ?_, by decide +kernel, hkey, by decide +kernel,
    answered?_eq_some (by decide +kernel), ?_⟩
  · obtain ⟨plan, hfollows, hgives, -⟩ :=
      writes_keyed servingHost hcolumns (.saveOrUpdate (parcel (.int 1) "a"))
    have hsent := hfollows.served
    cases hgives with
    | error hrefused => cases hkey.symm.trans hsent.of_refusal.1
    | ok hkeyed =>
      cases hkeyed with
      | inserted hinserted => cases hinserted
      | new hfield hleaves _ =>
        cases hfield
        cases hleaves
      | old _ hfield _ _ =>
        obtain rfl := Except.ok.inj (hnumber.symm.trans hfield)
        exact ⟨_, hsent⟩
      | unchanged _ hfield _ hothers =>
        obtain rfl := Except.ok.inj (hnumber.symm.trans hfield)
        exact absurd (congrArg List.length hothers) (by decide)
  · obtain ⟨plan, hfollows, hgives, -⟩ := writes_keyed servingHost hcolumns (.delete .null)
    cases hgives with
    | error hrefused => exact ⟨_, hrefused, hfollows.served.of_refusal⟩
    | ok hkeyed =>
      cases hkeyed with
      | inserted hinserted => cases hinserted
      | deleted hfield htaken _ =>
        obtain rfl := Except.ok.inj (hnumber.symm.trans hfield)
        cases htaken with
        | declared hdeclared _ hvalue _ =>
          cases hdeclared
          cases hvalue
        | inferred hdeclared _ _ => cases hdeclared

/-- Prices by their amounts. -/
def prices : Repository where
  typeName := "Price"
  descriptor := {
    table := "price_list"
    fields := [⟨"amount", "amount", some .decimal, true⟩]
    primaryKey := some "amount"
    named := by decide
    inhabited := by decide
    distinct := by decide
    keyed := by decide }
  mapper := ⟨{ name := "Price", fields := [] }⟩

/-- The number 5 becomes a decimal, which the driver takes as a text; the value 5 stays a word,
which it takes as a number. -/
theorem delete_keeps_kind :
    prices.descriptor.keyField = .ok ⟨"amount", "amount", some .decimal, true⟩ ∧
      (∃ s, prices.deletion (.value (.int64 5)) = .ok s ∧
        s.filter = some (keyed ⟨"amount", "amount", some .decimal, true⟩ (.int64 5))) ∧
      (Value.int64 5).kind ≠ .decimal ∧
      shownSent (served prices (.delete (.int 5))).2.2 =
        [("DELETE FROM price_list WHERE amount = ?", [some "5"])] ∧
      shownSent (served prices (.delete (.value (.int64 5)))).2.2 =
        [("DELETE FROM price_list WHERE amount = ?", [none])] := by
  exact ⟨rfl, ⟨_, rfl, rfl⟩, by decide, by decide +kernel, by decide +kernel⟩

end Repository

end SqlGateway
