import Mathlib.Data.List.Nodup
import SqlGateway.Proofs.Logging.Scopes
set_option autoImplicit false

/-!
# Failures: what their contexts report

The context of a fault takes facts under names that callers choose, one after the other.  It
reports under each name what it was given last, and nothing that it is given under one name changes
what it reports under another.  There are three exceptions.  What a context answers to beyond its
facts are reserved names: a fact under one of them is kept but not reported, and one that takes the
place of the report itself makes every report fail.  A few names no fault takes at all.  And an
entry that was among the other facts from the start stands over the named fact of its name for
good.
-/

namespace SqlGateway

open Logging (given?)

/-! ## Dictionaries -/

section

variable (entries facts : List (String × Native)) (key name : String) (v : Native)

theorem given?_cons (e : String × Native) :
    given? (e :: facts) name = (given? facts name).or (if e.1 = name then some e.2 else none) := by
  unfold given?
  rw [List.reverse_cons, List.find?_append]
  cases facts.reverse.find? fun f => f.1 == name with
  | some f => rfl
  | none => by_cases he : e.1 = name <;> simp [he]

/-- Of a dictionary, what is put under a name is read under it. -/
theorem given?_putEntry :
    given? (putEntry entries key v) name = if key = name then some v else given? entries name := by
  unfold given? putEntry
  split
  next hany =>
    -- An entry that is overwritten keeps its place, from whichever end one looks for it.
    have hfound := find?_putEntry entries.reverse key v name
    rw [putEntry, List.any_reverse, if_pos hany] at hfound
    rw [← List.map_reverse, hfound]
    split <;> rfl
  next =>
    rw [List.reverse_append, List.reverse_singleton, List.singleton_append, List.find?_cons]
    by_cases hkey : key = name
    · simp [hkey]
    · rw [if_neg hkey, beq_eq_false_iff_ne.2 hkey]

/-- Putting an entry keeps the names of a dictionary apart. -/
theorem nodup_putEntry (h : (entries.map Prod.fst).Nodup) :
    ((putEntry entries key v).map Prod.fst).Nodup := by
  by_cases hkey : key ∈ entries.map Prod.fst
  · have hany : entries.any (fun e => e.1 == key) = true := by
      obtain ⟨e, he, hname⟩ := List.mem_map.1 hkey
      exact List.any_eq_true.2 ⟨e, he, beq_iff_eq.2 hname⟩
    have hsame : (entries.map fun e => if e.1 == key then (key, v) else e).map Prod.fst =
        entries.map Prod.fst := by
      rw [List.map_map]
      refine List.map_congr_left fun e _ => ?_
      by_cases he : e.1 = key <;> simp [he]
    rw [putEntry, if_pos hany, hsame]
    exact h
  · rw [putEntry_of_new hkey, List.map_append]
    refine List.nodup_append.2 ⟨h, List.nodup_singleton key, fun a ha b hb hab => hkey ?_⟩
    rw [hab, List.mem_singleton.1 hb] at ha
    exact ha

theorem nodup_foldl_putEntry (puts : List (String × Native)) (h : (entries.map Prod.fst).Nodup) :
    ((puts.foldl (fun es e => putEntry es e.1 e.2) entries).map Prod.fst).Nodup := by
  induction puts generalizing entries with
  | nil => exact h
  | cons e puts ih => exact ih _ (nodup_putEntry entries e.1 e.2 h)

end

/-! ## Contexts -/

namespace ErrorContext

/-- The names of the facts that a context has a place of their own for. -/
def fieldNames : List String := ["engine", "table", "operation", "statement"]

/-- What stands at the place of a named fact. -/
def field? (c : ErrorContext) : String → Option Native
  | "engine" => some c.engine
  | "table" => some c.table
  | "operation" => some c.operation
  | "statement" => some c.statement
  | _ => none

/-- What a context reports under a name. -/
def reported? (c : ErrorContext) (name : String) : Option Native :=
  (c.entries.find? fun e => e.1 == name).map Prod.snd

/-- Record facts one after the other. -/
def putAll (c : ErrorContext) (facts : List (String × Native)) : ErrorContext :=
  facts.foldl (fun c e => c.put e.1 e.2) c

/-- Something is kept under a name that is not reported. -/
def hides (c : ErrorContext) (name : String) : Bool := c.hidden.any fun e => e.1 == name

variable (c : ErrorContext) (facts : List (String × Native)) (key name : String) (v : Native)

theorem mem_fieldNames : name ∈ fieldNames ↔
    name = "engine" ∨ name = "table" ∨ name = "operation" ∨ name = "statement" := by
  simp only [fieldNames, List.mem_cons, List.not_mem_nil, or_false]

theorem not_reserved_of_field {name : String} (h : name ∈ fieldNames) : name ∉ contextReserved := by
  revert name
  decide

theorem field?_of_other {name : String} (h : name ∉ fieldNames) : c.field? name = none := by
  simp only [mem_fieldNames, not_or] at h
  simp [field?, h]

/-- The other facts stand over the named ones, of which only those are reported that are set. -/
theorem reported?_eq :
    c.reported? name =
      (given? c.metadata name).or ((c.field? name).filter fun v => !isUnset v) := by
  unfold reported? entries
  dsimp only
  rw [find?_foldl_putEntry _ Prod.fst Prod.snd, Option.map_or, Option.map_map, List.find?_filter]
  congr 1
  by_cases hfield : name ∈ fieldNames
  · obtain rfl | rfl | rfl | rfl := (mem_fieldNames name).1 hfield
    · cases h : isUnset c.engine <;> simp [field?, h, Option.filter]
    · cases h : isUnset c.table <;> simp [field?, h, Option.filter]
    · cases h : isUnset c.operation <;> simp [field?, h, Option.filter]
    · cases h : isUnset c.statement <;> simp [field?, h, Option.filter]
  · rw [field?_of_other c hfield]
    rw [mem_fieldNames, not_or, not_or, not_or] at hfield
    obtain ⟨hengine, htable, hoperation, hstatement⟩ := hfield
    simp [Ne.symm hengine, Ne.symm htable, Ne.symm hoperation, Ne.symm hstatement]

/-- The report names nothing twice. -/
theorem entries_distinct : (c.entries.map Prod.fst).Nodup := by
  refine nodup_foldl_putEntry _ _ (List.Nodup.sublist (List.filter_sublist.map Prod.fst) ?_)
  show fieldNames.Nodup
  decide

/-! ### One fact -/

/-- A named fact goes to its own place. -/
theorem put_of_field {key : String} (h : key ∈ fieldNames) :
    (∀ name, (c.put key v).field? name = if key = name then some v else c.field? name) ∧
      (c.put key v).metadata = c.metadata ∧ (c.put key v).hidden = c.hidden := by
  obtain rfl | rfl | rfl | rfl := (mem_fieldNames key).1 h
  all_goals
    refine ⟨fun name => ?_, rfl, rfl⟩
    split_ifs with hname
    · subst hname
      rfl
    · unfold field?
      split <;> first | rfl | exact absurd rfl hname

/-- A fact under a reserved name is hidden. -/
theorem put_of_reserved {key : String} (h : key ∈ contextReserved) :
    c.put key v = { c with hidden := putEntry c.hidden key v } := by
  have hother : key ∉ fieldNames := fun hfield => not_reserved_of_field hfield h
  rw [mem_fieldNames, not_or, not_or, not_or] at hother
  simp [put, hother, h]

/-- Any other fact goes to the others. -/
theorem put_of_other {key : String} (hfield : key ∉ fieldNames) (h : key ∉ contextReserved) :
    c.put key v = { c with metadata := putEntry c.metadata key v } := by
  rw [mem_fieldNames, not_or, not_or, not_or] at hfield
  simp [put, hfield, h]

/-- Everything one fact can do to a context. -/
theorem put_cases :
    (key ∈ fieldNames ∧
      (∀ name, (c.put key v).field? name = if key = name then some v else c.field? name) ∧
      (c.put key v).metadata = c.metadata ∧ (c.put key v).hidden = c.hidden) ∨
    (key ∈ contextReserved ∧ c.put key v = { c with hidden := putEntry c.hidden key v }) ∨
    (key ∉ fieldNames ∧ key ∉ contextReserved ∧
      c.put key v = { c with metadata := putEntry c.metadata key v }) := by
  by_cases hfield : key ∈ fieldNames
  · exact .inl ⟨hfield, put_of_field c v hfield⟩
  · by_cases hreserved : key ∈ contextReserved
    · exact .inr (.inl ⟨hreserved, put_of_reserved c v hreserved⟩)
    · exact .inr (.inr ⟨hfield, hreserved, put_of_other c v hfield hreserved⟩)

/-- A named fact is what it was given last. -/
theorem field?_put {name : String} (h : name ∈ fieldNames) :
    (c.put key v).field? name = if key = name then some v else c.field? name := by
  obtain ⟨-, hplace, -⟩ | ⟨hreserved, hput⟩ | ⟨hfield, -, hput⟩ := put_cases c key v
  · exact hplace name
  · rw [if_neg fun hkey : key = name => not_reserved_of_field h (hkey ▸ hreserved), hput]
    rfl
  · rw [if_neg fun hkey : key = name => hfield (hkey ▸ h), hput]
    rfl

/-- So is a fact of the others. -/
theorem given?_metadata_put {name : String} (hname : name ∉ fieldNames)
    (h : name ∉ contextReserved) :
    given? (c.put key v).metadata name =
      if key = name then some v else given? c.metadata name := by
  obtain ⟨hfield, -, hsame, -⟩ | ⟨hreserved, hput⟩ | ⟨-, -, hput⟩ := put_cases c key v
  · rw [hsame, if_neg fun hkey : key = name => hname (hkey ▸ hfield)]
  · rw [hput, if_neg fun hkey : key = name => h (hkey ▸ hreserved)]
  · rw [hput, given?_putEntry]

/-- The others take nothing under the name of a place or under a reserved one. -/
theorem given?_metadata_put_of_placed {name : String}
    (h : name ∈ fieldNames ∨ name ∈ contextReserved) :
    given? (c.put key v).metadata name = given? c.metadata name := by
  obtain ⟨-, -, hsame, -⟩ | ⟨-, hput⟩ | ⟨hfield, hreserved, hput⟩ := put_cases c key v
  · rw [hsame]
  · rw [hput]
  · have hkey : key ≠ name := by
      intro hkey
      rw [← hkey] at h
      exact h.elim hfield hreserved
    rw [hput, given?_putEntry, if_neg hkey]

theorem hides_eq : c.hides name = (c.hidden.find? fun e => e.1 == name).isSome :=
  List.isSome_find?.symm

theorem hides_put {name : String} (h : name ∈ contextReserved) :
    (c.put key v).hides name = true ↔ key = name ∨ c.hides name = true := by
  obtain ⟨hfield, -, -, hsame⟩ | ⟨-, hput⟩ | ⟨-, hreserved, hput⟩ := put_cases c key v
  · rw [or_iff_right fun hkey : key = name => not_reserved_of_field (hkey ▸ hfield) h, hides, hsame]
    rfl
  · rw [hput, hides_eq, find?_putEntry, hides_eq]
    by_cases hkey : key = name <;> simp [hkey]
  · rw [or_iff_right fun hkey : key = name => hreserved (hkey ▸ h), hput]
    rfl

/-! ### All facts -/

variable {c facts name}

/-- What a fact sets under its name is what the last fact under that name says. -/
theorem view_putAll (view : ErrorContext → Option Native)
    (h : ∀ (c : ErrorContext) (key : String) (v : Native),
      view (c.put key v) = if key = name then some v else view c) :
    view (c.putAll facts) = (given? facts name).or (view c) := by
  -- Each fact leaves another context to the facts behind it, which may set the same name again.
  induction facts generalizing c with
  | nil => rfl
  | cons e facts ih =>
    have hfirst : view (c.putAll (e :: facts)) = (given? facts name).or (view (c.put e.1 e.2)) := ih
    rw [hfirst, given?_cons, h, Option.or_assoc]
    split <;> rfl

/-- What no fact touches stays. -/
theorem view_putAll_of_untouched {β : Type} (view : ErrorContext → β)
    (h : ∀ (c : ErrorContext) (key : String) (v : Native), view (c.put key v) = view c) :
    view (c.putAll facts) = view c := by
  induction facts generalizing c with
  | nil => rfl
  | cons e facts ih => exact ih.trans (h c e.1 e.2)

theorem field?_putAll (h : name ∈ fieldNames) :
    (c.putAll facts).field? name = (given? facts name).or (c.field? name) :=
  view_putAll (fun c => c.field? name) fun c key v => field?_put c key v h

theorem given?_metadata_putAll (hname : name ∉ fieldNames) (h : name ∉ contextReserved) :
    given? (c.putAll facts).metadata name = (given? facts name).or (given? c.metadata name) :=
  view_putAll (fun c => given? c.metadata name) fun c key v => given?_metadata_put c key v hname h

theorem given?_metadata_putAll_of_placed (h : name ∈ fieldNames ∨ name ∈ contextReserved) :
    given? (c.putAll facts).metadata name = given? c.metadata name :=
  view_putAll_of_untouched (fun c => given? c.metadata name) fun c key v =>
    given?_metadata_put_of_placed c key v h

theorem hides_putAll (h : name ∈ contextReserved) :
    (c.putAll facts).hides name = true ↔ name ∈ facts.map Prod.fst ∨ c.hides name = true := by
  induction facts generalizing c with
  | nil => simp [putAll]
  | cons e facts ih =>
    have hfirst : (c.putAll (e :: facts)).hides name = true ↔
        name ∈ facts.map Prod.fst ∨ (c.put e.1 e.2).hides name = true := ih
    rw [hfirst, hides_put c e.1 e.2 h, List.map_cons, List.mem_cons, eq_comm, or_left_comm,
      or_assoc]

end ErrorContext

/-! ## Accumulation -/

/-- What a context reports, `after`, once it took facts, by what it reported `before`. -/
structure Accumulates (before : ErrorContext) (facts : List (String × Native))
    (after : ErrorContext) : Prop where
  /-- A named fact is what it was given last, and left out when that is nothing. -/
  named : ∀ name ∈ ErrorContext.fieldNames, given? before.metadata name = none →
    after.reported? name = match given? facts name with
      | some v => if ErrorContext.isUnset v then none else some v
      | none => before.reported? name
  /-- Any other fact is what it was given last. -/
  other : ∀ name ∉ ErrorContext.fieldNames, name ∉ contextReserved →
    after.reported? name = (given? facts name).or (before.reported? name)
  /-- An entry among the other facts stands over the named fact of its name. -/
  overridden : ∀ name ∈ ErrorContext.fieldNames, ∀ v, given? before.metadata name = some v →
    after.reported? name = some v
  /-- A fact under a reserved name is not reported. -/
  lost : ∀ name ∈ contextReserved, after.reported? name = before.reported? name
  /-- Nothing is reported twice. -/
  distinct : (after.entries.map Prod.fst).Nodup

theorem ErrorContext.accumulates_putAll (c : ErrorContext) (facts : List (String × Native)) :
    Accumulates c facts (c.putAll facts) where
  named name hname hfree := by
    rw [reported?_eq, given?_metadata_putAll_of_placed (.inl hname), field?_putAll hname,
      reported?_eq, hfree]
    cases given? facts name with
    | none => rfl
    | some v => cases h : isUnset v <;> simp [h]
  other name hname hfree := by
    rw [reported?_eq, given?_metadata_putAll hname hfree, field?_of_other _ hname, reported?_eq,
      field?_of_other _ hname, Option.or_assoc]
  overridden name hname v hv := by
    rw [reported?_eq, given?_metadata_putAll_of_placed (.inl hname), hv]
    rfl
  lost name hname := by
    have hother : name ∉ fieldNames := fun hfield => not_reserved_of_field hfield hname
    rw [reported?_eq, given?_metadata_putAll_of_placed (.inr hname), field?_of_other _ hother,
      reported?_eq, field?_of_other _ hother]
  distinct := entries_distinct _

/-! ## Faults -/

namespace Failure

/-- The names that no fact can be recorded under. -/
def barredNames : List String := ["self", "__class__", "__weakref__", "__dict__"]

/-- A fact that is refused: the dictionary of a context takes only another one. -/
def Unfit (e : String × Native) : Prop :=
  e.1 = "self" ∨ e.1 = "__class__" ∨ e.1 = "__weakref__" ∨
    e.1 = "__dict__" ∧ ∀ entries, e.2 ≠ .dict entries

/-- Record facts, as many at a time as they come. -/
def recordAll (f : Failure) (calls : List (List (String × Native))) : Except Failure Failure :=
  calls.foldlM (fun f facts => facts.foldlM (fun f e => f.recording e.1 e.2) f) f

/-! ### Recording -/

variable (f : Failure) (calls : List (List (String × Native)))

theorem recordAll_eq :
    f.recordAll calls = calls.flatten.foldlM (fun f e => f.recording e.1 e.2) f := by
  unfold recordAll
  induction calls generalizing f with
  | nil => rfl
  | cons facts calls ih =>
    rw [List.foldlM_cons, List.flatten_cons, List.foldlM_append]
    exact congrArg _ (funext ih)

theorem recording_of_unfit {e : String × Native} (h : Unfit e) :
    ∃ refusal, f.recording e.1 e.2 = .error refusal := by
  obtain ⟨key, v⟩ := e
  obtain h | h | h | ⟨h, hdict⟩ := h <;> cases h
  · exact ⟨_, rfl⟩
  · exact ⟨_, rfl⟩
  · exact ⟨_, rfl⟩
  · cases v with
    | dict entries => exact absurd rfl (hdict entries)
    | _ => exact ⟨_, rfl⟩

theorem recording_of_fit {key : String} (h : key ∉ barredNames) (v : Native) :
    f.recording key v = .ok (f.withContext key v) := by
  simp only [barredNames, List.mem_cons, List.not_mem_nil, or_false, not_or] at h
  unfold recording
  split <;> simp_all

/-- One fact that is refused is enough. -/
theorem recordAll_of_unfit (h : ∃ e ∈ calls.flatten, Unfit e) :
    ∃ refusal, f.recordAll calls = .error refusal := by
  obtain ⟨e, he, hunfit⟩ := h
  rw [recordAll_eq]
  obtain ⟨first, later, hsplit⟩ := List.append_of_mem he
  rw [hsplit, List.foldlM_append]
  cases List.foldlM (fun f e => f.recording e.1 e.2) f first with
  | error refusal => exact ⟨refusal, rfl⟩
  | ok f =>
    obtain ⟨refusal, hrefusal⟩ := recording_of_unfit f hunfit
    refine ⟨refusal, ?_⟩
    show List.foldlM (fun f e => f.recording e.1 e.2) f (e :: later) = _
    rw [List.foldlM_cons, hrefusal]
    rfl

variable (k : FaultKind) (d : FaultDetails) (cause rollback : Option Failure)

/-- Facts that are not refused go to the context of a fault, one after the other. -/
theorem recordAll_of_fit (h : ∀ e ∈ calls.flatten, e.1 ∉ barredNames) :
    (fault k d cause rollback).recordAll calls =
      .ok (fault k { d with context := d.context.putAll calls.flatten } cause rollback) := by
  rw [recordAll_eq]
  generalize calls.flatten = facts at h
  induction facts generalizing d with
  | nil => rfl
  | cons e facts ih =>
    rw [List.foldlM_cons, recording_of_fit _ (h e List.mem_cons_self)]
    exact ih { d with context := d.context.put e.1 e.2 } fun e he => h e (List.mem_cons_of_mem _ he)

/-! ### Reporting -/

theorem reportedContext_of_hidden {c : ErrorContext} (h : c.hides "to_dict" = true) :
    ∃ text, reportedContext c = .error (.primitive .type text) :=
  ⟨_, if_pos h⟩

/-- Facts that leave the report of a context in place do not make it fail. -/
theorem reportedContext_putAll (c : ErrorContext) {facts : List (String × Native)}
    (hreport : "to_dict" ∉ facts.map Prod.fst) (hfacts : "__dict__" ∉ facts.map Prod.fst) :
    reportedContext (c.putAll facts) =
      (reportedContext c).map fun _ => (c.putAll facts).entries := by
  have hsame : ∀ name ∈ contextReserved, name ∉ facts.map Prod.fst →
      (c.putAll facts).hides name = c.hides name := by
    intro name hname hnone
    rw [Bool.eq_iff_iff, ErrorContext.hides_putAll hname, or_iff_right hnone]
  have hreport := hsame "to_dict" (by decide) hreport
  have hfacts := hsame "__dict__" (by decide) hfacts
  unfold ErrorContext.hides at hreport hfacts
  unfold reportedContext
  rw [hreport, hfacts]
  split_ifs <;> rfl

/-- What a report says besides the context does not depend on it. -/
theorem report_fault (c : ErrorContext) :
    (fault k { d with context := c } cause rollback).report = (reportedContext c).map fun es =>
      heading k d ++ contextEntry es ++ causeEntry cause ++ particulars k rollback := by
  rw [report]
  cases reportedContext c <;> rfl

/-- The context is one entry of a report. -/
theorem context_once :
    "context" ∉ (heading k d ++ causeEntry cause ++ particulars k rollback).map Prod.fst := by
  have hheading : "context" ∉ (heading k d).map Prod.fst := by
    unfold heading
    split <;> simp
  have hcause : "context" ∉ (causeEntry cause).map Prod.fst := by
    cases cause <;> simp [causeEntry]
  have hoptional : ∀ key, "context" ≠ key → ∀ text : Option String,
      "context" ∉ (particulars.unlessEmpty key text).map Prod.fst := by
    intro key hkey text
    cases text with
    | none => simp [particulars.unlessEmpty]
    | some s => cases hs : s.isEmpty <;> simp [particulars.unlessEmpty, hs, hkey]
  have hparticulars : "context" ∉ (particulars k rollback).map Prod.fst := by
    unfold particulars
    split
    · simp [hoptional "kind" (by decide), hoptional "native_type" (by decide)]
    case h_5 => exact List.not_mem_nil
    all_goals
      rw [List.map_append, List.mem_append, not_or]
      constructor <;> split <;> simp
  simp only [List.map_append, List.mem_append, hheading, hcause, hparticulars, or_self,
    not_false_iff]

/-- **Facts accumulate, and reports tell them.**  Facts that callers record in any fault, as many
at a time as they like, are refused if one of them is unfit, and otherwise accumulate in its
context.  The context reports them all unless one took the place of the report itself.  The report
of the fault fails where that of its context does, has it as one entry unless it is empty, and is
the same in everything else, whatever the context. -/
theorem facts_accumulate :
    ((∃ e ∈ calls.flatten, Unfit e) →
      ∃ refusal, (fault k d cause rollback).recordAll calls = .error refusal) ∧
    ((∀ e ∈ calls.flatten, e.1 ∉ barredNames) →
      ∃ c, (fault k d cause rollback).recordAll calls =
          .ok (fault k { d with context := c } cause rollback) ∧
        Accumulates d.context calls.flatten c ∧
        ("to_dict" ∉ calls.flatten.map Prod.fst →
          reportedContext c = (reportedContext d.context).map fun _ => c.entries) ∧
        ("to_dict" ∈ calls.flatten.map Prod.fst →
          ∃ text, reportedContext c = .error (.primitive .type text))) ∧
    (∀ c : ErrorContext, (fault k { d with context := c } cause rollback).report =
      (reportedContext c).map fun es =>
        heading k d ++ contextEntry es ++ causeEntry cause ++ particulars k rollback) ∧
    "context" ∉ (heading k d ++ causeEntry cause ++ particulars k rollback).map Prod.fst := by
  refine ⟨recordAll_of_unfit _ calls, fun hfit => ?_, report_fault k d cause rollback,
    context_once k d cause rollback⟩
  refine ⟨_, recordAll_of_fit calls k d cause rollback hfit,
    ErrorContext.accumulates_putAll d.context calls.flatten, fun hreport => ?_, fun hreport => ?_⟩
  · refine reportedContext_putAll d.context hreport fun hfacts => ?_
    obtain ⟨e, he, hname⟩ := List.mem_map.1 hfacts
    exact hfit e he (hname ▸ by decide)
  · exact reportedContext_of_hidden ((ErrorContext.hides_putAll (by decide)).2 (.inl hreport))

/-- A lock that timed out on one table, whose context came with the table among its other
facts. -/
def lockTimeout : FaultDetails where
  message := "lock wait timeout"
  category := .database
  retryable := true
  context := { operation := .text "update", metadata := [("table", .text "orders")] }

/-- What two callers record of it. -/
def lockFacts : List (List (String × Native)) :=
  [[("engine", .text "mysql"), ("attempt", .int 1), ("statement", .text "UPDATE")],
    [("attempt", .int 2), ("table", .text "users"), ("statement", .null), ("__eq__", .int 5)]]

/-- The last attempt counts, no statement is left, and the table of the beginning stands. -/
theorem facts_accumulate_lock :
    (∀ e ∈ lockFacts.flatten, e.1 ∉ barredNames) ∧ "to_dict" ∉ lockFacts.flatten.map Prod.fst ∧
    ∃ c, (fault .connection lockTimeout none none).recordAll lockFacts =
        .ok (fault .connection { lockTimeout with context := c } none none) ∧
      reportedContext c = .ok c.entries ∧ c.reported? "attempt" = some (.int 2) ∧
      c.reported? "engine" = some (.text "mysql") ∧ c.reported? "statement" = none ∧
      c.reported? "table" = some (.text "orders") ∧ c.reported? "__eq__" = none := by
  have hfit : ∀ e ∈ lockFacts.flatten, e.1 ∉ barredNames := by
    have hnames : ∀ name ∈ lockFacts.flatten.map Prod.fst, name ∉ barredNames := by decide
    exact fun e he => hnames e.1 (List.mem_map_of_mem he)
  have hreport : "to_dict" ∉ lockFacts.flatten.map Prod.fst := by decide
  obtain ⟨c, hrecorded, hfacts, htold, -⟩ :=
    (facts_accumulate lockFacts .connection lockTimeout none none).2.1 hfit
  refine ⟨hfit, hreport, c, hrecorded, htold hreport, ?_, ?_, ?_, ?_, ?_⟩
  · exact hfacts.other "attempt" (by decide) (by decide)
  · exact hfacts.named "engine" (by decide) rfl
  · exact hfacts.named "statement" (by decide) rfl
  · exact hfacts.overridden "table" (by decide) _ rfl
  · exact hfacts.lost "__eq__" (by decide)

/-- A fault whose context came with an engine among its other facts. -/
def overridden : Failure :=
  let context : ErrorContext := { metadata := [("engine", .text "override")] }
  fault .internal ⟨"m", .internal, false, none, context⟩ none none

/-- A fact can take the place of the report, it can be lost, and an entry from the start can stand
over it. -/
theorem fact_overshadows :
    (∃ f, (make .internal "m").recordAll [[("to_dict", .int 1)]] = .ok f ∧
      ∃ text, f.report = .error (.primitive .type text)) ∧
    (∃ f, (make .internal "m").recordAll [[("__eq__", .int 5)]] = .ok f ∧
      f.report = (make .internal "m").report) ∧
    (∃ f, overridden.recordAll [[("engine", .text "first")]] = .ok f ∧
      f.report = overridden.report) :=
  ⟨⟨_, rfl, _, rfl⟩, ⟨_, rfl, rfl⟩, ⟨_, rfl, rfl⟩⟩

end Failure

end SqlGateway
