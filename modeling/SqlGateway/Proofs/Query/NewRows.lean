import Mathlib.Data.Set.Basic
import SqlGateway.Proofs.Dialect.Placeholders
import SqlGateway.Proofs.Query.Names
set_option autoImplicit false

/-!
# Queries: new rows from mappings

Each new row is a mapping, which may list its columns in an order of its own.  Rows *fit* if the
first one names columns and the others have the same keys.  Then a statement is built: its columns
are the keys of the first row in their order, and each value is looked up by the name of its
column.  Rendered, row `i` and column `j` have the value at place `i * width + j`.  Rows that do
not fit are refused, in words that say which row is the first that has other keys.
-/

namespace SqlGateway.Insert

variable {first : List (String × Native)} {rest : List (List (String × Native))}

/-! ## Keys -/

/-- The keys of a mapping, without their order. -/
def keySet (row : List (String × Native)) : Set String := {key | key ∈ row.map Prod.fst}

theorem keySet_eq_iff {a b : List (String × Native)} :
    keySet a = keySet b ↔ ∀ key, key ∈ a.map Prod.fst ↔ key ∈ b.map Prod.fst := Set.ext_iff

/-- Two rows name the same columns if each column of either is one of the other. -/
theorem sameKeys_iff (a b : List (String × Native)) :
    sameKeys a b = true ↔ keySet b = keySet a := by
  simp only [sameKeys, Bool.and_eq_true, List.all_eq_true, List.any_eq_true, beq_iff_eq,
    keySet_eq_iff, List.mem_map]
  constructor
  · intro h key
    constructor
    · intro hkey
      obtain ⟨e, he, rfl⟩ := hkey
      exact h.2 e he
    · intro hkey
      obtain ⟨e, he, rfl⟩ := hkey
      exact h.1 e he
  · intro h
    exact ⟨fun e he => (h e.1).2 ⟨e, he, rfl⟩, fun e he => (h e.1).1 ⟨e, he, rfl⟩⟩

/-- The first row with other keys is found, if there is one. -/
theorem firstMismatch?_cases (row : List (String × Native)) (i : Nat)
    (rows : List (List (String × Native))) :
    (firstMismatch? row i rows = none ∧ ∀ r ∈ rows, keySet r = keySet row) ∨
      ∃ front r back, rows = front ++ r :: back ∧ (∀ x ∈ front, keySet x = keySet row) ∧
        keySet r ≠ keySet row ∧ firstMismatch? row i rows = some (i + front.length) := by
  induction rows generalizing i with
  | nil => exact .inl ⟨rfl, nofun⟩
  | cons r rows ih =>
    rw [firstMismatch?]
    by_cases hsame : sameKeys row r = true
    · have hr : keySet r = keySet row := (sameKeys_iff row r).1 hsame
      rw [if_pos hsame]
      rcases ih (i + 1) with ⟨hnone, hall⟩ | ⟨front, r', back, rfl, hfront, hother, hsome⟩
      · exact .inl ⟨hnone, List.forall_mem_cons.2 ⟨hr, hall⟩⟩
      · refine .inr ⟨r :: front, r', back, rfl, List.forall_mem_cons.2 ⟨hr, hfront⟩, hother, ?_⟩
        rw [hsome, List.length_cons, Nat.add_assoc, Nat.add_comm 1]
    · rw [if_neg hsame]
      exact .inr ⟨[], r, rows, rfl, nofun, fun hr => hsame ((sameKeys_iff row r).2 hr), rfl⟩

/-! ## Rows that fit -/

/-- The first row names columns, and the others have the same keys. -/
structure Fits (first : List (String × Native)) (rest : List (List (String × Native))) : Prop where
  filled : first ≠ []
  named : ∀ key ∈ first.map Prod.fst, Query.isColumnName key = true
  alike : ∀ row ∈ rest, keySet row = keySet first

/-- What is found wrong with rows that do not fit. -/
inductive Misfit (first : List (String × Native)) :
    List (List (String × Native)) → QueryIssue → Prop where
  /-- The first row with other keys is told by its number; the first of all rows has number 0. -/
  | keys {front : List (List (String × Native))} {row : List (String × Native)}
      {back : List (List (String × Native))} (hfront : ∀ r ∈ front, keySet r = keySet first)
      (hrow : keySet row ≠ keySet first) :
      Misfit first (front ++ row :: back) (.insertKeys (front.length + 1))
  /-- Of keys that are the same in all rows, the first that names no column is told. -/
  | unnamed {rest : List (List (String × Native))}
      (halike : ∀ row ∈ rest, keySet row = keySet first) {front : List String} {key : String}
      {back : List String} (hkeys : first.map Prod.fst = front ++ key :: back)
      (hfront : ∀ k ∈ front, Query.isColumnName k = true)
      (hkey : Query.isColumnName key = false) : Misfit first rest (Column.issueOf key)
  /-- There is no key in any row. -/
  | empty {rest : List (List (String × Native))}
      (halike : ∀ row ∈ rest, keySet row = keySet first) (hempty : first = []) :
      Misfit first rest .insertEmpty

theorem Misfit.not_fits {issue : QueryIssue} (h : Misfit first rest issue) : ¬ Fits first rest := by
  intro hfits
  cases h with
  | keys _ hrow => exact hrow (hfits.alike _ (List.mem_append_right _ List.mem_cons_self))
  | unnamed _ hkeys _ hkey =>
    have hnamed := hfits.named _ (hkeys ▸ List.mem_append_right _ List.mem_cons_self)
    rw [hkey] at hnamed
    cases hnamed
  | empty _ hempty => exact hfits.filled hempty

/-! ## Values -/

/-- The mapping gives the key an argument of this value. -/
def Holds (row : List (String × Native)) (key : String) (v : Value) : Prop :=
  ∃ n, row.lookup key = some n ∧ Value.of n = .ok v

theorem lookup_eq (row : List (String × Native)) (key : String) :
    row.lookup key = (row.find? fun e => e.1 == key).map Prod.snd := by
  induction row with
  | nil => rfl
  | cons e row ih =>
    rw [List.lookup_cons, List.find?_cons, BEq.comm]
    cases e.1 == key with
    | true => rfl
    | false => exact ih

/-- In a mapping whose arguments all have values, each of its keys has one. -/
theorem valuesOf_gives {row : List (String × Native)}
    (haccepted : ∀ e ∈ row, ∃ v, Value.of e.2 = .ok v) {keys : List String}
    (hkeys : ∀ key ∈ keys, key ∈ keySet row) (E : QueryError → Prop) :
    Gives E (fun vs => List.Forall₂ (Holds row) keys vs) (valuesOf keys row) := by
  refine Gives.mapM fun key hkey => ?_
  obtain ⟨e, he, rfl⟩ := List.mem_map.1 (hkeys key hkey)
  cases hfound : row.find? fun f => f.1 == e.1 with
  | none => exact absurd (List.find?_eq_none.1 hfound e he) (by simp)
  | some f =>
    obtain ⟨v, hv⟩ := haccepted f (List.mem_of_find?_eq_some hfound)
    dsimp only
    rw [Query.valueOf, hv]
    exact .ok ⟨f.2, by rw [lookup_eq, hfound]; rfl, hv⟩

/-- Each row has its values in the order of the keys. -/
abbrev InOrder (keys : List String) (rows : List (List (String × Native)))
    (values : List (List Value)) : Prop :=
  List.Forall₂ (fun row vs => List.Forall₂ (Holds row) keys vs) rows values

theorem InOrder.width {keys : List String} {rows : List (List (String × Native))}
    {values : List (List Value)} (h : InOrder keys rows values) :
    ∀ vs ∈ values, vs.length = keys.length := by
  intro vs hvs
  obtain ⟨row, -, hrow⟩ := exists_of_forall₂ h hvs
  exact hrow.length_eq.symm

/-- Rows with the same keys have their values in the order of the first. -/
theorem inOrder_gives (haccepted : ∀ row ∈ first :: rest, ∀ e ∈ row, ∃ v, Value.of e.2 = .ok v)
    (halike : ∀ row ∈ rest, keySet row = keySet first) (E : QueryError → Prop) :
    Gives E (InOrder (first.map Prod.fst) (first :: rest))
      ((first :: rest).mapM (valuesOf (first.map Prod.fst))) := by
  refine Gives.mapM fun row hrow => valuesOf_gives (haccepted row hrow) (fun key hkey => ?_) E
  cases hrow with
  | head => exact hkey
  | tail _ hrow =>
    rw [halike row hrow]
    exact hkey

/-! ## Building -/

/-- A statement for the rows: each value is under the column of its key. -/
structure OfRows (first : List (String × Native)) (rest : List (List (String × Native)))
    (s : Insert) : Prop where
  columns : s.columns = (first.map Prod.fst).map Column.mk
  returning : s.returning = []
  rows : InOrder (first.map Prod.fst) (first :: rest) s.rows

/-- A descriptor is made of rows that are as wide as there are columns, unless there is none. -/
theorem checked_gives {t : String} (htable : Query.tableOf (.text t) = .ok t)
    {columns : List Column} {rows : List (List Value)} (hrows : rows ≠ [])
    (hwidths : ∀ row ∈ rows, row.length = columns.length) :
    Gives (fun e => columns = [] ∧ e = .invalid .insertEmpty)
      (fun s => columns ≠ [] ∧ s = { table := t, columns, rows })
      (checked (.text t) columns rows) := by
  have hfits : rows.zipIdx.find? (fun row => row.1.length != columns.length) = none := by
    refine List.find?_eq_none.2 fun row hrow => ?_
    simp [hwidths row.1 (List.fst_mem_of_mem_zipIdx hrow)]
  unfold checked
  rw [htable]
  change Gives _ _ (if _ then _ else _)
  split
  next hempty =>
    have hcolumns : columns = [] := by simpa [hrows] using hempty
    exact .error ⟨hcolumns, rfl⟩
  next hfull =>
    have hcolumns : columns ≠ [] := by simpa [hrows] using hfull
    rw [hfits]
    exact .ok ⟨hcolumns, rfl⟩

/-- Rows whose arguments have values make a statement exactly if they fit and the table is
named. -/
theorem start_gives {table : Native}
    (haccepted : ∀ row ∈ first :: rest, ∀ e ∈ row, ∃ v, Value.of e.2 = .ok v) :
    Gives (fun e => Query.tableOf table = .error e ∨
        ∃ issue, Misfit first rest issue ∧ e = .invalid issue)
      (fun s => Query.tableOf table = .ok s.table ∧ Fits first rest ∧ OfRows first rest s)
      (start table (first :: rest)) := by
  unfold start
  dsimp only
  -- Keys are compared before any name is looked at, so other keys are told before bad names.
  rcases firstMismatch?_cases first 1 rest with
    ⟨hnone, halike⟩ | ⟨front, row, back, rfl, hfront, hrow, hsome⟩
  · rw [hnone]
    dsimp only
    refine ((Gives.self _).mono_error fun _ => .inl).bind fun t ht => ?_
    have htable : Query.tableOf (.text t) = .ok t :=
      Query.tableOf_eq_ok.2 ⟨rfl, (Query.tableOf_eq_ok.1 ht).2⟩
    refine ((Column.ofAll_texts _).mono_error fun e he => ?_).bind fun cs hcs => ?_
    · obtain ⟨before, key, behind, hkeys, hbefore, hkey, rfl⟩ := he
      exact .inr ⟨_, .unnamed halike hkeys hbefore hkey, rfl⟩
    obtain ⟨hnamed, rfl⟩ := hcs
    refine (inOrder_gives haccepted halike _).bind fun values hrows => ?_
    have hsome : values ≠ [] := by
      intro hnone
      rw [hnone] at hrows
      cases hrows
    have hwidths : ∀ vs ∈ values, vs.length = ((first.map Prod.fst).map Column.mk).length := by
      rw [List.length_map]
      exact hrows.width
    refine (checked_gives htable hsome hwidths).mono ?_ ?_
    · intro e he
      obtain ⟨hempty, rfl⟩ := he
      have hfirst : first = [] := by simpa using hempty
      exact .inr ⟨_, .empty halike hfirst, rfl⟩
    · intro s hs
      obtain ⟨hfull, rfl⟩ := hs
      have hfilled : first ≠ [] := by simpa using hfull
      exact ⟨ht, ⟨hfilled, hnamed, halike⟩, rfl, rfl, hrows⟩
  · rw [hsome, Nat.add_comm]
    exact .error (.inr ⟨_, .keys hfront hrow, rfl⟩)

/-! ## Rendering -/

/-- Behind one another, rows of one width keep each member at the place of its row and column. -/
theorem getElem?_flatten {α : Type} {width : Nat} {rows : List (List α)}
    (hwidth : ∀ row ∈ rows, row.length = width) {i j : Nat} (hj : j < width) :
    rows.flatten[i * width + j]? = rows[i]?.bind (·[j]?) := by
  induction rows generalizing i with
  | nil => rfl
  | cons row rows ih =>
    have hrow : row.length = width := hwidth row List.mem_cons_self
    rw [List.flatten_cons]
    cases i with
    | zero =>
      rw [Nat.zero_mul, Nat.zero_add, List.getElem?_append_left (hrow ▸ hj)]
      rfl
    | succ i =>
      have hplace : (i + 1) * width + j = row.length + (i * width + j) := by
        rw [hrow, Nat.succ_mul]
        omega
      rw [hplace, List.getElem?_append_right (Nat.le_add_right _ _), Nat.add_sub_cancel_left]
      exact ih fun row' hrow' => hwidth row' (List.mem_cons_of_mem row hrow')

/-- The values of a rendered insertion are those of its rows, one row behind the other. -/
theorem binds_of_render {d : Dialect} {s : Insert} {b : BoundStatement}
    (h : d.render (.insert s) = .ok b) : b.binds = s.rows.flatten := by
  obtain ⟨fs, hfs, hb⟩ := Dialect.render_eq_ok h
  have hrendered : Dialect.Renders [] True s.rows.flatten (d.insert s) := Dialect.insert_renders s
  rw [(Dialect.bound_eq_ok hb).2.1]
  exact (hrendered.of_eq_ok hfs).binds trivial

/-- Insertions that ask for nothing back are rendered by every dialect. -/
theorem exists_render {d : Dialect} (hd : d.Scannable) {s : Insert} (hs : s.returning = []) :
    ∃ b, d.render (.insert s) = .ok b := by
  have hgives := Dialect.render_aligned hd (s := .insert s) trivial nofun (fun _ _ => nofun)
  cases hrender : d.render (.insert s) with
  | ok b => exact ⟨b, rfl⟩
  | error e =>
    have hfails : d.insert s = .error e := (hgives.of_eq_error hrender).1
    unfold Dialect.insert at hfails
    rw [hs] at hfails
    cases hfails

/-! ## No value in another column -/

/-- A statement in which each value lands in its column. -/
structure Lands (name : String) (first : List (String × Native))
    (rest : List (List (String × Native))) (s : Insert) : Prop where
  table : s.table = name
  /-- The columns are the keys of the first row, in their order. -/
  columns : s.columns = (first.map Prod.fst).map Column.mk
  /-- Each row has a value for each column, and there is no other. -/
  length : ∀ (d : Dialect) (b : BoundStatement), d.render (.insert s) = .ok b →
    b.binds.length = (first :: rest).length * s.columns.length
  /-- A row and a column have, at their place, the value of the argument that the row gives under
  the name of the column. -/
  binds : ∀ (d : Dialect) (b : BoundStatement), d.render (.insert s) = .ok b →
    ∀ i j row column, (first :: rest)[i]? = some row → s.columns[j]? = some column →
      ∃ v, Holds row column.name v ∧ b.binds[i * s.columns.length + j]? = some v
  rendered : ∀ d : Dialect, d.Scannable → ∃ b, d.render (.insert s) = .ok b

theorem OfRows.width {s : Insert} (h : OfRows first rest s) :
    ∀ vs ∈ s.rows, vs.length = s.columns.length := by
  rw [h.columns, List.length_map]
  exact h.rows.width

theorem length_flatten {α : Type} {width : Nat} {rows : List (List α)}
    (hwidth : ∀ row ∈ rows, row.length = width) : rows.flatten.length = rows.length * width := by
  rw [List.length_flatten, List.map_congr_left hwidth, List.map_const', List.sum_replicate_nat]

theorem OfRows.lands {name : String} {s : Insert} (h : OfRows first rest s)
    (htable : s.table = name) : Lands name first rest s where
  table := htable
  columns := h.columns
  length d b hb := by
    rw [binds_of_render hb, length_flatten h.width, h.rows.length_eq]
  binds d b hb i j row column hrow hcolumn := by
    have hj : j < s.columns.length := (List.getElem?_eq_some_iff.1 hcolumn).1
    have hkey : (first.map Prod.fst)[j]? = some column.name := by
      rw [h.columns, List.getElem?_map] at hcolumn
      obtain ⟨key, hkey, rfl⟩ := Option.map_eq_some_iff.1 hcolumn
      exact hkey
    obtain ⟨vs, hvs, hvalues⟩ := exists_getElem?_of_forall₂ h.rows hrow
    obtain ⟨v, hv, hholds⟩ := exists_getElem?_of_forall₂ hvalues hkey
    refine ⟨v, hholds, ?_⟩
    rw [binds_of_render hb, getElem?_flatten h.width hj, hvs]
    exact hv
  rendered _ hd := exists_render hd h.returning

/-- Where a row has other keys, nothing else is found wrong. -/
theorem Misfit.eq_keys {front : List (List (String × Native))} {row : List (String × Native)}
    {back : List (List (String × Native))} {issue : QueryIssue}
    (h : Misfit first (front ++ row :: back) issue) (hfront : ∀ r ∈ front, keySet r = keySet first)
    (hrow : keySet row ≠ keySet first) : issue = .insertKeys (front.length + 1) := by
  have hmem : row ∈ front ++ row :: back := List.mem_append_right front List.mem_cons_self
  generalize hrest : front ++ row :: back = rest at h hmem
  cases h with
  | unnamed halike => exact absurd (halike row hmem) hrow
  | empty halike => exact absurd (halike row hmem) hrow
  | @keys front' row' back' hfront' hrow' =>
    -- Of two rows with other keys, the later would be behind the first that is told.
    rcases List.append_eq_append_iff.1 hrest with ⟨between, rfl, hrows⟩ | ⟨between, rfl, hrows⟩
    · cases between with
      | nil => rw [List.append_nil]
      | cons r between =>
        obtain ⟨rfl, -⟩ := List.cons.inj hrows
        exact absurd (hfront' row (List.mem_append_right front List.mem_cons_self)) hrow
    · cases between with
      | nil => rw [List.append_nil]
      | cons r between =>
        obtain ⟨rfl, -⟩ := List.cons.inj hrows
        exact absurd (hfront row' (List.mem_append_right front' List.mem_cons_self)) hrow'

/-- New rows from mappings whose arguments have values, for a table that is named: they make a
statement exactly if they fit, each value lands in its column, and rows that do not fit are
refused with what is wrong with them, the first row that has other keys if there is one. -/
theorem values_under_their_columns {table : Native} {name : String}
    (htable : table.asText? = some name) (hname : Text.allBlank name = false)
    (haccepted : ∀ row ∈ first :: rest, ∀ e ∈ row, ∃ v, Value.of e.2 = .ok v) :
    (Fits first rest → ∃ s, start table (first :: rest) = .ok s ∧ Lands name first rest s) ∧
      (¬ Fits first rest → ∃ issue, start table (first :: rest) = .error (.invalid issue) ∧
        (QueryError.invalid issue).toFailure = .make .invalidExpression issue.message ∧
        Misfit first rest issue) ∧
      ∀ front row back, rest = front ++ row :: back → (∀ r ∈ front, keySet r = keySet first) →
        keySet row ≠ keySet first →
        (start table (first :: rest)).mapError QueryError.toFailure =
          .error (.make .invalidExpression
            s!"Insert row {front.length + 1} does not have the same columns as row 0") := by
  have htableOf : Query.tableOf table = .ok name := Query.tableOf_eq_ok.2 ⟨htable, hname⟩
  have hmisfit : ¬ Fits first rest → ∃ issue,
      start table (first :: rest) = .error (.invalid issue) ∧ Misfit first rest issue := by
    intro hfits
    cases hstart : start table (first :: rest) with
    | ok s => exact absurd ((start_gives haccepted).of_eq_ok hstart).2.1 hfits
    | error e =>
      rcases (start_gives haccepted).of_eq_error hstart with hunnamed | ⟨issue, hissue, rfl⟩
      · rw [htableOf] at hunnamed
        cases hunnamed
      · exact ⟨issue, rfl, hissue⟩
  refine ⟨?_, ?_, ?_⟩
  · intro hfits
    cases hstart : start table (first :: rest) with
    | ok s =>
      obtain ⟨hsame, -, hrows⟩ := (start_gives haccepted).of_eq_ok hstart
      rw [htableOf] at hsame
      exact ⟨s, rfl, hrows.lands (Except.ok.inj hsame).symm⟩
    | error e =>
      rcases (start_gives haccepted).of_eq_error hstart with hunnamed | ⟨issue, hissue, -⟩
      · rw [htableOf] at hunnamed
        cases hunnamed
      · exact absurd hfits hissue.not_fits
  · intro hfits
    obtain ⟨issue, hstart, hissue⟩ := hmisfit hfits
    exact ⟨issue, hstart, rfl, hissue⟩
  · rintro front row back rfl hfront hrow
    obtain ⟨issue, hstart, hissue⟩ := hmisfit (Misfit.keys hfront hrow).not_fits
    rw [hstart, hissue.eq_keys hfront hrow]
    rfl

/-- A row of two columns. -/
def entered : List (String × Native) := [("id", .int 1), ("a?%s", .text "x")]

/-- A row that lists the same columns the other way round. -/
def turned : List (String × Native) := [("a?%s", .text "y"), ("id", .null)]

/-- A row in which a column is missing. -/
def lacking : List (String × Native) := [("a?%s", .bool true)]

theorem values_under_their_columns_turned :
    ((Native.text "t").asText? = some "t" ∧ Text.allBlank "t" = false ∧
      ∀ row ∈ [entered, turned, lacking], ∀ e ∈ row, ∃ v, Value.of e.2 = .ok v) ∧
      Fits entered [turned] ∧
      (∃ s b, start (.text "t") [entered, turned] = .ok s ∧
        Dialect.mysql.render (.insert s) = .ok b ∧ b.binds.length = 4 ∧
        b.binds[1 * 2 + 0]? = some .null ∧ b.binds[1 * 2 + 1]? = some (.text "y")) ∧
      keySet lacking ≠ keySet entered ∧
      (start (.text "t") [entered, turned, lacking]).mapError QueryError.toFailure =
        .error (.make .invalidExpression
          "Insert row 2 does not have the same columns as row 0") := by
  have haccepted : ∀ row ∈ [entered, turned, lacking], ∀ e ∈ row,
      ∃ v, Value.of e.2 = .ok v := by
    have hall : ∀ row ∈ [entered, turned, lacking], ∀ e ∈ row,
        (Value.of e.2).isOk = true := by decide
    intro row hrow e he
    have hvalue := hall row hrow e he
    cases hof : Value.of e.2 with
    | ok v => exact ⟨v, rfl⟩
    | error r =>
      rw [hof] at hvalue
      cases hvalue
  have hsome : ∀ row ∈ [entered, turned], ∀ e ∈ row, ∃ v, Value.of e.2 = .ok v :=
    fun row hrow => haccepted row (List.mem_append_left [lacking] hrow)
  have halike : keySet turned = keySet entered := (sameKeys_iff entered turned).1 (by decide)
  have hother : keySet lacking ≠ keySet entered := fun h =>
    absurd ((sameKeys_iff entered lacking).2 h) (by decide)
  have hfits : Fits entered [turned] :=
    ⟨List.cons_ne_nil _ _, by decide, List.forall_mem_singleton.2 halike⟩
  have hname : Text.allBlank "t" = false := by decide
  obtain ⟨s, hs, hlands⟩ :=
    (@values_under_their_columns entered [turned] (.text "t") "t" rfl hname hsome).1 hfits
  obtain ⟨b, hb⟩ := hlands.rendered .mysql Dialect.scannable_mysql
  have hcolumns : s.columns = [⟨"id"⟩, ⟨"a?%s"⟩] := hlands.columns
  have hbound : ∀ j name n v, s.columns[j]? = some ⟨name⟩ → turned.lookup name = some n →
      Value.of n = .ok v → b.binds[1 * 2 + j]? = some v := by
    intro j name n v hj hn hv
    obtain ⟨v', ⟨n', hn', hv'⟩, hbind⟩ := hlands.binds .mysql b hb 1 j turned ⟨name⟩ rfl hj
    obtain rfl := Option.some.inj (hn.symm.trans hn')
    obtain rfl := Except.ok.inj (hv.symm.trans hv')
    rw [hcolumns] at hbind
    exact hbind
  have hid : b.binds[1 * 2 + 0]? = some .null :=
    hbound 0 "id" .null .null (by rw [hcolumns]; rfl) rfl rfl
  have htext : b.binds[1 * 2 + 1]? = some (.text "y") :=
    hbound 1 "a?%s" (.text "y") (.text "y") (by rw [hcolumns]; rfl) rfl rfl
  have hlength : b.binds.length = 4 := by
    rw [hlands.length .mysql b hb, hcolumns]
    rfl
  have hrefused := (@values_under_their_columns entered [turned, lacking] (.text "t") "t" rfl hname
    haccepted).2.2 [turned] lacking [] rfl (List.forall_mem_singleton.2 halike) hother
  exact ⟨⟨rfl, hname, haccepted⟩, hfits, ⟨s, b, hs, hb, hlength, hid, htext⟩, hother, hrefused⟩

end SqlGateway.Insert
