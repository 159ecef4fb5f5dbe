import SqlGateway.Rehearsal.Logging
set_option autoImplicit false

/-!
# Logging: what a scope leaves behind

A scope binds its fields when it is entered and unbinds their names when it is left.  Scopes
that are properly nested therefore act on a context as one unbinding of all names that occur in
them.  Inside a scope its fields stand over what was bound before; behind it the context is
what it was without those names, and so the same again exactly if none of them was bound.

Of the logging library this assumes that binding puts fields over what is bound, that unbinding
takes the fields of some names out, and that neither changes any other field (`Library.Binds`).
-/

namespace SqlGateway.Logging

/-- The value that fields give a name; the last one counts. -/
def given? (fields : Record) (key : String) : Option Native :=
  (fields.reverse.find? fun f => f.1 == key).map Prod.snd

/-- What a name is bound to. -/
def Context.bound? (c : Context) (key : String) : Option Native :=
  (c.fields.find? fun f => f.1 == key).map Prod.snd

/-- The fields of a record under names that are not among some. -/
def without (keys : List String) (r : Record) : Record := r.filter fun f => !keys.contains f.1

/-! ## What is assumed of the logging library -/

/-- The bound context of a logging library is a dictionary that fields are put into and taken out
of by name. -/
structure Library.Binds (lib : Library) : Prop where
  /-- Bound fields stand over what was bound before. -/
  bound : ∀ (c : Context) (fields : Record) (key : String),
    (lib.bindContext c fields).bound? key = (given? fields key).or (c.bound? key)
  /-- Of the fields under other names, binding changes none. -/
  others : ∀ (fields context : Record) (keys : List String), (∀ f ∈ fields, f.1 ∈ keys) →
    without keys (lib.bind fields context) = without keys context
  /-- Unbinding takes out the fields under its names. -/
  unbind : ∀ (keys : List String) (context : Record), lib.unbind keys context = without keys context

/-- The bound context of the stand-in is such a dictionary. -/
theorem rehearsed_binds : rehearsed.Binds where
  bound c fields key := by
    have hfind := find?_foldl_putEntry c.fields Prod.fst Prod.snd fields key
    unfold Context.bound? given? Library.bindContext rehearsed merge
    rw [hfind]
    cases fields.reverse.find? fun f => f.1 == key <;> rfl
  others fields context keys h := by
    induction fields generalizing context with
    | nil => rfl
    | cons f fields ih =>
      have hkey : (!keys.contains f.1) = false := by simp [h f List.mem_cons_self]
      have hlater := ih (putEntry context f.1 f.2) fun g hg => h g (List.mem_cons_of_mem f hg)
      have hfirst : without keys (putEntry context f.1 f.2) = without keys context :=
        filter_putEntry context f.1 f.2 (p := fun key => !keys.contains key) hkey
      exact hlater.trans hfirst
  unbind _ _ := rfl

/-! ## Binding and unbinding -/

/-- A context without the fields under some names. -/
def Context.without (c : Context) (keys : List String) : Context :=
  { c with fields := Logging.without keys c.fields }

namespace Context

variable (c : Context) (fields : Record)

/-- A name that is taken out is bound to nothing. -/
theorem bound?_without (keys : List String) (key : String) :
    (c.without keys).bound? key = if key ∈ keys then none else c.bound? key := by
  unfold bound? without Logging.without
  dsimp only
  rw [List.find?_filter]
  by_cases hkey : key ∈ keys
  · rw [if_pos hkey, Option.map_eq_none_iff, List.find?_eq_none]
    intro f _ hf
    simp only [decide_eq_true_eq, beq_iff_eq] at hf
    simp [hf.2, hkey] at hf
  · rw [if_neg hkey]
    congr 2
    funext f
    by_cases hf : f.1 = key <;> simp [hf, hkey]

theorem without_without (keys others : List String) :
    (c.without keys).without others = c.without (keys ++ others) := by
  unfold without Logging.without
  dsimp only
  rw [List.filter_filter]
  congr 2
  funext f
  simp [Bool.and_comm]

theorem bound?_ne_none {f : String × Native} (hf : f ∈ c.fields) : c.bound? f.1 ≠ none := by
  intro hnone
  exact List.find?_eq_none.1 (Option.map_eq_none_iff.1 hnone) f hf (beq_iff_eq.2 rfl)

/-- To take names out changes nothing exactly if none of them is bound. -/
theorem without_eq_self_iff (keys : List String) :
    c.without keys = c ↔ ∀ key ∈ keys, c.bound? key = none := by
  constructor
  · intro hsame key hkey
    rw [← hsame, bound?_without, if_pos hkey]
  · intro hnone
    have hkept : c.fields.filter (fun f => !keys.contains f.1) = c.fields := by
      apply List.filter_eq_self.2
      intro f hf
      rw [Bool.not_eq_true', List.contains_eq_mem, decide_eq_false_iff_not]
      intro hkey
      exact absurd (hnone f.1 hkey) (c.bound?_ne_none hf)
    unfold without Logging.without
    rw [hkept]

theorem without_nil : c.without [] = c :=
  (c.without_eq_self_iff []).2 fun _ hkey => absurd hkey List.not_mem_nil

end Context

/-! ## Scopes -/

/-- Scopes that are entered and left one inside the other or one after the other: none, or a scope
with those inside it, and others behind it. -/
inductive Scopes where
  | none
  | scope (fields : Record) (inside behind : Scopes)

namespace Scopes

/-- Enter and leave scopes in order. -/
def run (lib : Library) : Scopes → Context → Context
  | .none, c => c
  | .scope fields inside behind, c =>
    behind.run lib (lib.exit (inside.run lib (lib.enter c fields)))

/-- The names that occur in scopes. -/
def keys : Scopes → List String
  | .none => []
  | .scope fields inside behind => inside.keys ++ fields.map Prod.fst ++ behind.keys

end Scopes

section Nested

variable {lib : Library} (hlib : lib.Binds) (c : Context) (fields : Record)
include hlib

/-- What was bound leaves no trace where its names are taken out. -/
theorem Library.Binds.without_bind {keys : List String} (h : ∀ f ∈ fields, f.1 ∈ keys) :
    (lib.bindContext c fields).without keys = c.without keys :=
  congrArg (fun fields => { c with fields }) (hlib.others fields c.fields keys h)

/-- A scope that is left again without its names having been bound inside. -/
theorem Library.Binds.exit_enter (keys : List String) :
    lib.exit ((lib.enter c fields).without keys) = c.without (keys ++ fields.map Prod.fst) := by
  have hnames : ∀ f ∈ fields, f.1 ∈ keys ++ fields.map Prod.fst := by
    intro f hf
    exact List.mem_append_right keys (List.mem_map_of_mem hf)
  calc lib.exit ((lib.enter c fields).without keys)
      = lib.unbindContext ((lib.bindContext c fields).without keys) (fields.map Prod.fst) := rfl
    _ = ((lib.bindContext c fields).without keys).without (fields.map Prod.fst) :=
        congrArg (fun fields => { c with fields }) (hlib.unbind _ _)
    _ = (lib.bindContext c fields).without (keys ++ fields.map Prod.fst) :=
        Context.without_without _ _ _
    _ = c.without (keys ++ fields.map Prod.fst) := hlib.without_bind c fields hnames

/-- Properly nested scopes act as one unbinding of their names. -/
theorem Library.Binds.run_eq (s : Scopes) : s.run lib c = c.without s.keys := by
  induction s generalizing c with
  | none => exact c.without_nil.symm
  | scope fields inside behind hinside hbehind =>
    unfold Scopes.run Scopes.keys
    rw [hinside, hlib.exit_enter, hbehind, Context.without_without]

/-- **A scope and those inside it.**  When a scope is entered, its fields stand over the context;
between the scopes that run inside it, they stand so for all names but those of these scopes.
Behind it the context is bound as before, but for the names that occur in any of them, which are
bound to nothing.  So the context is the same again exactly if it bound none of these names, and
inside the fields stand over it unchanged exactly if none of the names of scopes inside is bound
there. -/
theorem Context.scope_clears (inside : Scopes) :
    (∀ key, (lib.enter c fields).bound? key = (given? fields key).or (c.bound? key)) ∧
      (∀ key, (inside.run lib (lib.enter c fields)).bound? key =
        if key ∈ inside.keys then none else (given? fields key).or (c.bound? key)) ∧
      (∀ key, (lib.exit (inside.run lib (lib.enter c fields))).bound? key =
        if key ∈ inside.keys ++ fields.map Prod.fst then none else c.bound? key) ∧
      (inside.run lib (lib.enter c fields) = lib.enter c fields ↔
        ∀ key ∈ inside.keys, (given? fields key).or (c.bound? key) = none) ∧
      (lib.exit (inside.run lib (lib.enter c fields)) = c ↔
        ∀ key ∈ inside.keys ++ fields.map Prod.fst, c.bound? key = none) := by
  have hentered : ∀ key, (lib.enter c fields).bound? key = (given? fields key).or (c.bound? key) :=
    hlib.bound c fields
  have hexit : lib.exit (inside.run lib (lib.enter c fields)) =
      c.without (inside.keys ++ fields.map Prod.fst) := by
    rw [hlib.run_eq, hlib.exit_enter]
  refine ⟨hentered, ?_, ?_, ?_, ?_⟩
  · intro key
    rw [hlib.run_eq, Context.bound?_without, hentered]
  · intro key
    rw [hexit, Context.bound?_without]
  · rw [hlib.run_eq, Context.without_eq_self_iff]
    simp only [hentered]
  · rw [hexit, Context.without_eq_self_iff]

end Nested

/-- A request in whose scope another is opened. -/
theorem Context.scope_clears_request :
    let c : Context := { fields := [("engine", .text "mysql")] }
    let inside : Scopes := .scope [("table", .text "users")] .none .none
    let fields : Record := [("request_id", .text "r-1")]
    rehearsed.Binds ∧
      (inside.run rehearsed (rehearsed.enter c fields)).bound? "request_id" = some (.text "r-1") ∧
      rehearsed.exit (inside.run rehearsed (rehearsed.enter c fields)) = c := by
  have hclears := Context.scope_clears rehearsed_binds { fields := [("engine", .text "mysql")] }
    [("request_id", .text "r-1")] (.scope [("table", .text "users")] .none .none)
  obtain ⟨-, hinside, -, -, hsame⟩ := hclears
  exact ⟨rehearsed_binds, (hinside "request_id").trans rfl, hsame.2 (by decide)⟩

/-- A scope that binds a name anew leaves it bound to nothing. -/
theorem Context.exit_forgets :
    let c := ({} : Context).bind [("request_id", .text "r-1")]
    c.bound? "request_id" = some (.text "r-1") ∧
      (c.enter [("request_id", .text "r-2")]).bound? "request_id" = some (.text "r-2") ∧
      (c.enter [("request_id", .text "r-2")]).exit.bound? "request_id" = none := by
  exact ⟨rfl, rfl, rfl⟩

end SqlGateway.Logging
