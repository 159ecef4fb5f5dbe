import SqlGateway.Proofs.Dialect.Placeholders
set_option autoImplicit false

/-!
# Dialects: percent formatting

A driver may apply percent formatting to the whole text of a statement, quoted or not.  On
PostgreSQL rendering prepares for it: every percent sign that is not a placeholder's is
doubled.  So formatting takes one argument for each value, in order, and gives back what
would have been written had the arguments stood in the place of the values and no percent
sign been doubled.  A hand-written statement comes back as it was.
-/

namespace SqlGateway

open Fragment Query

/-- Percent formatting: a doubled percent sign is one, `%s` takes the next argument, nothing
else may follow a percent sign, and no argument may be left over. -/
def percentFormat : List Char → List (List Char) → Option (List Char)
  | [], [] => some []
  | [], _ :: _ => none
  | '%' :: '%' :: rest, args => (percentFormat rest args).map ('%' :: ·)
  | '%' :: 's' :: rest, a :: args => (percentFormat rest args).map (a ++ ·)
  | '%' :: _, _ => none
  | c :: rest, args => (percentFormat rest args).map (c :: ·)

/-- Fragments as text, with arguments in the place of the values. -/
def Fragment.fill (d : Dialect) : List Fragment → List (List Char) → Option (List Char)
  | [], [] => some []
  | [], _ :: _ => none
  | .bind _ :: _, [] => none
  | .bind _ :: fs, a :: args => (fill d fs args).map (a ++ ·)
  | f :: fs, args => (fill d fs args).map ((f.text d).toList ++ ·)

namespace Dialect

variable {d : Dialect}

/-- The dialect with question marks as placeholders, and percent signs as they are. -/
def unescaped (d : Dialect) : Dialect := { d with style := .qmark, escapePercent := false }

/-! ## Fragments do not depend on how they are written -/

theorem condition_congr {d' : Dialect} (hname : d'.name = d.name) (hilike : d'.ilike = d.ilike)
    (nested : Bool) (c : Condition) : d'.condition nested c = d.condition nested c := by
  refine (condition.mutual_induct d
    (fun nested c => d'.condition nested c = d.condition nested c)
    (fun cs => d'.conditions cs = d.conditions cs)
    ?_ ?_ ?_ ?_ ?_ ?_ ?_ ?_ ?_ ?_ ?_ ?_ ?_ ?_).1 nested c
  all_goals
    intros
    simp only [condition, conditions, lacks, *]

theorem fragments_unescaped (s : Statement) : d.unescaped.fragments s = d.fragments s := by
  have hcondition : d.unescaped.condition = d.condition := by
    funext nested c
    exact @condition_congr d d.unescaped rfl rfl nested c
  have hclause : d.unescaped.clause = d.clause := by
    funext keyword o
    cases o with
    | none => rfl
    | some c => rw [clause, hcondition]; rfl
  have hselect : d.unescaped.select = d.select := by
    funext s
    have hjoin : d.unescaped.join = d.join := by
      funext j
      unfold join
      rw [hcondition]
      rfl
    have hgrouping : d.unescaped.grouping = d.grouping := by
      funext s
      unfold grouping
      rw [hclause]
    have hwindow : d.unescaped.window = d.window := rfl
    unfold select
    rw [hjoin, hgrouping, hclause, hwindow]
  have hfiltered : d.unescaped.filtered = d.filtered := by
    funext base filter
    unfold filtered
    rw [hclause]
  cases s with
  | select s => exact congrFun hselect s
  | insert s => rfl
  | update s => exact congrFun (congrFun hfiltered _) s.filter
  | delete s => exact congrFun (congrFun hfiltered _) s.filter

/-! ## Texts that formatting gives back -/

/-- Formatting gives the second text where it is given the first, and takes no argument. -/
def Restores (cs cs' : List Char) : Prop :=
  ∀ rest args, percentFormat (cs ++ rest) args = (percentFormat rest args).map (cs' ++ ·)

theorem Restores.nil : Restores [] [] := by
  intro rest args
  simp

theorem Restores.append {cs cs' ds ds' : List Char} (h : Restores cs cs')
    (k : Restores ds ds') : Restores (cs ++ ds) (cs' ++ ds') := by
  intro rest args
  rw [List.append_assoc, h, k, Option.map_map]
  simp only [Function.comp_def, List.append_assoc]

theorem restores_singleton {c : Char} (h : c ≠ '%') : Restores [c] [c] := by
  intro rest args
  rw [List.singleton_append, percentFormat]
  · rfl
  all_goals simp [h]

theorem restores_of_not_mem {cs : List Char} (h : '%' ∉ cs) : Restores cs cs := by
  induction cs with
  | nil => exact .nil
  | cons c cs ih =>
    have hc : c ≠ '%' := fun hc => h (hc ▸ List.mem_cons_self)
    exact (restores_singleton hc).append (ih fun hcs => h (List.mem_cons_of_mem c hcs))

/-- Formatting undoes the doubling of percent signs. -/
theorem restores_doublePercent (cs : List Char) : Restores (doublePercent cs) cs := by
  induction cs with
  | nil => exact .nil
  | cons c cs ih =>
    by_cases hc : c = '%'
    · subst hc
      have hpair : Restores ['%', '%'] ['%'] := by
        intro rest args
        rw [List.cons_append, List.singleton_append, percentFormat]
        rfl
      exact hpair.append ih
    · rw [doublePercent, if_neg (by simpa using hc)]
      exact (restores_singleton hc).append ih

theorem not_mem_of_isPlainChar {cs : List Char} (h : cs.all isPlainChar = true) : '%' ∉ cs := by
  intro hmem
  exact absurd (List.all_eq_true.1 h _ hmem) (by decide)

theorem restores_writePart (hescape : d.escapePercent = true) (part : List Char) :
    Restores (d.writePart part) (d.unescaped.writePart part) := by
  unfold writePart
  have hbare : d.unescaped.standsBare part = d.standsBare part := rfl
  rw [hbare]
  split
  · next h => exact restores_of_not_mem (not_mem_of_isPlainChar (isPlainChar_of_standsBare h))
  · have hquoted : d.unescaped.verbatim (d.unescaped.quotedPart part) = d.quotedPart part := rfl
    rw [hquoted, verbatim, if_pos hescape]
    exact restores_doublePercent _

theorem restores_quoteName (hescape : d.escapePercent = true) (name : String) :
    Restores (d.quoteName name).toList (d.unescaped.quoteName name).toList := by
  rw [quoteName, quoteName, String.toList_ofList, String.toList_ofList]
  generalize nameParts name.toList = parts
  induction parts with
  | nil => exact .nil
  | cons part rest ih =>
    have hpart := restores_writePart hescape part
    have hdot : Restores ['.'] ['.'] := restores_singleton (by decide)
    cases rest with
    | nil => exact hpart
    | cons part' rest => exact hpart.append (hdot.append ih)

/-- A fragment without a value comes back as it is written without doubling. -/
theorem restores_text (hescape : d.escapePercent = true) {f : Fragment} {texts : List String}
    (hfrom : f.From texts) (hvalue : f.value? = none) :
    Restores (f.text d).toList (f.text d.unescaped).toList := by
  cases f with
  | words s => exact restores_of_not_mem (not_mem_of_isPlainChar hfrom)
  | name n => exact restores_quoteName hescape n
  | written p =>
    rw [toList_text_written, toList_text_written, verbatim, if_pos hescape]
    exact restores_doublePercent p.toList
  | bind v => cases hvalue

/-! ## Formatting rendered text -/

theorem percentFormat_sql (hescape : d.escapePercent = true) (hstyle : d.style = .format)
    {texts : List String} {fs : List Fragment} (h : ∀ f ∈ fs, f.From texts)
    (args : List (List Char)) :
    percentFormat (sql d fs).toList args = fill d.unescaped fs args := by
  rw [toList_sql]
  induction fs generalizing args with
  | nil => cases args <;> rfl
  | cons f fs ih =>
    have hrest := ih fun g hg => h g (List.mem_cons_of_mem f hg)
    rw [List.flatMap_cons]
    cases hvalue : f.value? with
    | none =>
      rw [restores_text hescape (h f List.mem_cons_self) hvalue, hrest]
      cases f with
      | bind v => cases hvalue
      | _ => rfl
    | some v =>
      cases f with
      | bind v =>
        have htext : ((Fragment.bind v).text d).toList = ['%', 's'] := by
          rw [text, hstyle]
          rfl
        rw [htext]
        cases args with
        | nil => rfl
        | cons a args =>
          rw [fill, ← hrest]
          rfl
      | _ => cases hvalue

/-- Filling takes as many arguments as there are values. -/
theorem isSome_fill (fs : List Fragment) (args : List (List Char)) :
    (fill d fs args).isSome = true ↔ args.length = (binds fs).length := by
  induction fs generalizing args with
  | nil => cases args <;> simp [fill, binds]
  | cons f fs ih =>
    cases f with
    | bind v =>
      cases args with
      | nil => simp [fill, binds, value?]
      | cons a args => simpa [fill, binds, value?] using ih args
    | words _ | name _ | written _ =>
      exact (iff_of_eq (congrArg (· = true) Option.isSome_map)).trans (ih args)

/-- With its own placeholders for arguments, a text is as it is written. -/
theorem fill_placeholders (fs : List Fragment) :
    fill d fs (List.replicate (binds fs).length d.style.placeholder.toList) =
      some (sql d fs).toList := by
  rw [toList_sql]
  induction fs with
  | nil => rfl
  | cons f fs ih =>
    rw [List.flatMap_cons]
    cases f with
    | bind v =>
      have hlength : (binds (.bind v :: fs)).length = (binds fs).length + 1 := rfl
      rw [hlength, List.replicate_succ, fill, ih]
      rfl
    | words s => exact (congrArg (Option.map _) ih).trans rfl
    | name n => exact (congrArg (Option.map _) ih).trans rfl
    | written p => exact (congrArg (Option.map _) ih).trans rfl

/-! ## Hand-written statements -/

/-- Without doubling, a fragment with all its values is written as it was given. -/
theorem sql_weave {text : String} {vs : List Value}
    (hcount : (splitMarkers text).length - 1 = vs.length) :
    sql d.unescaped (weave (splitMarkers text) vs) = text := by
  obtain ⟨piece, more, hsplit, hrejoin, -⟩ := exists_pieces text
  rw [hsplit] at hcount ⊢
  rw [← String.toList_inj, ← hrejoin, toList_sql]
  clear hrejoin hsplit
  induction more generalizing piece vs with
  | nil =>
    obtain rfl := List.length_eq_zero_iff.1 hcount.symm
    rw [weave_singleton]
    simp [Fragment.text, verbatim, unescaped, rejoin]
  | cons next more ih =>
    cases vs with
    | nil => simp at hcount
    | cons v vs =>
      have hrest := @ih vs next (by simpa using hcount)
      rw [weave_cons, List.flatMap_cons, List.flatMap_cons, hrest]
      simp [Fragment.text, verbatim, unescaped, rejoin, ParamStyle.placeholder]

/-- Only the last piece of a fragment can end inside quotes, so no placeholder is hidden. -/
theorem placeholderPlaces_weave (hd : d.Scannable) (hescape : d.escapePercent = true)
    {text : String} {vs : List Value} (hcount : (splitMarkers text).length - 1 = vs.length) :
    placeholderPlaces (sql d (weave (splitMarkers text) vs)) d.style =
      (placed d 0 (weave (splitMarkers text) vs)).map Prod.fst := by
  obtain ⟨piece, more, hsplit, -, hpieces⟩ := exists_pieces text
  rw [hsplit] at hcount ⊢
  clear hsplit
  rw [placeholderPlaces]
  generalize 0 = i
  have hpasses : ∀ piece : List Char, Passes d.style none (QuoteState.after none piece)
      ((Fragment.written (String.ofList piece)).text d).toList := by
    intro piece
    rw [toList_text_written, String.toList_ofList]
    exact passes_verbatim hd QuoteState.valid_none
      fun h => absurd (h.symm.trans hescape) Bool.false_ne_true
  induction more generalizing piece vs i with
  | nil =>
    obtain rfl := List.length_eq_zero_iff.1 hcount.symm
    rw [weave_singleton, toList_sql_cons, hpasses piece i]
    cases d.style <;> rfl
  | cons next more ih =>
    cases vs with
    | nil => simp at hcount
    | cons v vs =>
      have hneutral := hpasses piece
      rw [hpieces.2.1] at hneutral
      rw [weave_cons]
      refine placesFrom_cons (neutral_of_passes rfl hneutral)
        (placesFrom_cons (neutral_bind v) ?_)
      exact ih next (by simpa using hcount) hpieces.2.2 _

/-! ## Main statement -/

/-- Formatting the SQL takes one argument for each value, in order, and writes the fragments
with the arguments in the place of the values; with question marks for arguments, the SQL is
the one without doubling. -/
structure Undone (b : BoundStatement) (fs : List Fragment) : Prop where
  formatted : ∀ args, percentFormat b.sql.toList args = fill postgresql.unescaped fs args
  consumed : ∀ args, (percentFormat b.sql.toList args).isSome = true ↔
    args.length = b.binds.length
  marked : percentFormat b.sql.toList (List.replicate b.binds.length ['?']) =
    some (sql postgresql.unescaped fs).toList

theorem undone_of_bound {fs : List Fragment} {texts : List String}
    (hfrom : ∀ f ∈ fs, f.From texts) {b : BoundStatement} (h : postgresql.bound fs = .ok b) :
    Undone b fs := by
  obtain ⟨hsql, hbinds, -⟩ := bound_eq_ok h
  have hformatted : ∀ args,
      percentFormat b.sql.toList args = fill postgresql.unescaped fs args := by
    intro args
    rw [hsql]
    exact percentFormat_sql rfl rfl hfrom args
  refine ⟨hformatted, fun args => ?_, ?_⟩
  · rw [hformatted, isSome_fill, hbinds]
  · rw [hformatted, hbinds]
    exact fill_placeholders fs

/-- What a hand-written statement is rendered from. -/
theorem renderRaw_eq {text args : Native} {s : String} (htext : text.asText? = some s)
    (hblank : Text.allBlank s = false) {ns : List Native} (hmembers : args.members = .ok ns)
    {vs : List Value} (hvalues : ns.mapM valueOf = .ok vs) :
    d.renderRaw text args = (raw s vs >>= d.bound) := by
  have hparts : d.renderRaw text args =
      (args.members >>= fun ns => ns.mapM valueOf >>= fun vs => raw s vs >>= d.bound) := by
    rw [renderRaw, htext]
    simp only [hblank, Bool.false_eq_true, if_false]
  rw [hparts, hmembers]
  exact congrArg (· >>= fun vs => raw s vs >>= d.bound) hvalues

theorem renderRaw_eq_ok {text args : Native} {b : BoundStatement}
    (h : d.renderRaw text args = .ok b) :
    ∃ s vs fs, text.asText? = some s ∧ raw s vs = .ok fs ∧ d.bound fs = .ok b := by
  unfold renderRaw at h
  split at h
  · cases h
  · next s hs =>
    split at h
    · cases h
    · obtain ⟨ns, -, h⟩ := Except.bind_eq_ok.1 h
      obtain ⟨vs, -, h⟩ := Except.bind_eq_ok.1 h
      obtain ⟨fs, hfs, h⟩ := Except.bind_eq_ok.1 h
      exact ⟨s, vs, fs, hs, hfs, h⟩

/-- Percent formatting undoes what PostgreSQL's rendering does to percent signs, for
statements and for hand-written SQL; and hand-written SQL with a value for each marker is
always rendered, and comes back as it was. -/
theorem postgresql_percentFormat :
    (∀ s b, postgresql.render s = .ok b →
      ∃ fs, postgresql.unescaped.fragments s = .ok fs ∧ Undone b fs) ∧
    (∀ text args b, postgresql.renderRaw text args = .ok b →
      ∃ s fs, text.asText? = some s ∧ raw s b.binds = .ok fs ∧ Undone b fs ∧
        sql postgresql.unescaped fs = s) ∧
    ∀ text args s ns vs, text.asText? = some s → Text.allBlank s = false →
      args.members = .ok ns → ns.mapM valueOf = .ok vs →
      (splitMarkers s).length - 1 = vs.length →
      ∃ b, postgresql.renderRaw text args = .ok b ∧ b.binds = vs ∧
        percentFormat b.sql.toList (List.replicate vs.length ['?']) = some s.toList := by
  refine ⟨fun s b hb => ?_, fun text args b hb => ?_,
    fun text args s ns vs htext hblank hmembers hvalues hcount => ?_⟩
  · obtain ⟨fs, hfs, hbound⟩ := render_eq_ok hb
    have hrendered := (fragments_renders scannable_postgresql.limit s).of_eq_ok hfs
    exact ⟨fs, (fragments_unescaped s).trans hfs, undone_of_bound hrendered.origin hbound⟩
  · obtain ⟨s, vs, fs, htext, hraw, hbound⟩ := renderRaw_eq_ok hb
    obtain ⟨hcount, rfl⟩ := raw_eq_ok hraw
    have hrendered := @weave_splitMarkers_rendered True _ _ hcount
    have hbinds : b.binds = vs := by
      rw [(bound_eq_ok hbound).2.1, hrendered.binds trivial]
    exact ⟨s, _, htext, hbinds ▸ hraw, undone_of_bound hrendered.origin hbound, sql_weave hcount⟩
  · obtain ⟨b, hbound, -, hbinds, -⟩ :=
      bound_of_places (placeholderPlaces_weave scannable_postgresql rfl hcount)
    have hrendered := @weave_splitMarkers_rendered True _ _ hcount
    have hundone := undone_of_bound hrendered.origin hbound
    rw [hrendered.binds trivial] at hbinds
    refine ⟨b, ?_, hbinds, ?_⟩
    · rw [renderRaw_eq htext hblank hmembers hvalues]
      exact Except.bind_eq_ok.2 ⟨_, raw_of_count hcount, hbound⟩
    · rw [← hbinds, hundone.marked, sql_weave hcount]

theorem postgresql_percentFormat_mixed :
    (∃ b fs, postgresql.render (.select crowdedQuery) = .ok b ∧
      postgresql.unescaped.fragments (.select crowdedQuery) = .ok fs ∧ Undone b fs) ∧
    ∃ b, postgresql.renderRaw (.text "100% '%s ?' %%? %?") (.list [.int 1, .null]) = .ok b ∧
      b.binds = [.int64 1, .null] ∧
      percentFormat b.sql.toList [['?'], ['?']] = some "100% '%s ?' %%? %?".toList ∧
      ∃ s fs, raw s b.binds = .ok fs ∧ Undone b fs ∧ sql postgresql.unescaped fs = s := by
  obtain ⟨hstatement, hwritten, hraw⟩ := postgresql_percentFormat
  constructor
  · cases hrender : postgresql.render (.select crowdedQuery) with
    | ok b =>
      obtain ⟨fs, hfs, hundone⟩ := hstatement _ b hrender
      exact ⟨b, fs, rfl, hfs, hundone⟩
    | error e =>
      have hfails := (render_aligned scannable_postgresql crowdedQuery_built.wellFormed
        (s := .select crowdedQuery) (by decide) nofun).of_eq_error hrender
      exact nomatch hfails.1
  · obtain ⟨b, hb, hbinds, hmarked⟩ := hraw (.text "100% '%s ?' %%? %?") (.list [.int 1, .null])
      "100% '%s ?' %%? %?" [.int 1, .null] [.int64 1, .null] rfl (by decide) rfl rfl (by decide)
    obtain ⟨s, fs, -, hfs, hundone, hs⟩ := hwritten _ _ b hb
    exact ⟨b, hb, hbinds, hmarked, s, fs, hfs, hundone, hs⟩

end Dialect

end SqlGateway
