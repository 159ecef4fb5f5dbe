import SqlGateway.Proofs.Steps
import SqlGateway.Query.Column
set_option autoImplicit false

/-!
# Queries: names of columns and tables

A text names a column if each of its dot-separated parts has a character that is not blank, and
a table if it has such a character itself.  What is named has that text for its name.
-/

namespace SqlGateway

namespace Query

/-! ## Parts -/

/-- Parts of a name hold no other characters than the name. -/
theorem mem_of_mem_nameParts {cs part : List Char} (h : part ∈ nameParts cs) :
    part ⊆ cs := by
  induction cs generalizing part with
  | nil =>
    rw [List.mem_singleton.1 h]
    exact List.nil_subset _
  | cons c cs ih =>
    rw [nameParts] at h
    split at h
    · rcases List.mem_cons.1 h with rfl | h
      · exact List.nil_subset _
      · exact List.subset_cons_of_subset c (ih h)
    · split at h
      · next first more hparts =>
        have hfirst := @ih first (hparts ▸ List.mem_cons_self)
        rcases List.mem_cons.1 h with rfl | h
        · exact List.cons_subset_cons c hfirst
        · exact List.subset_cons_of_subset c (ih (hparts ▸ List.mem_cons_of_mem first h))
      · rw [List.mem_singleton.1 h]
        exact List.cons_subset_cons c (List.nil_subset _)

theorem nameParts_ne_nil (cs : List Char) : nameParts cs ≠ [] := by
  cases cs with
  | nil => simp [nameParts]
  | cons c cs =>
    rw [nameParts]
    split
    · simp
    · split <;> simp

/-- A column name has a character that is not blank. -/
theorem allBlank_eq_false {name : String} (h : isColumnName name = true) :
    Text.allBlank name = false := by
  obtain ⟨part, hpart⟩ := List.exists_mem_of_ne_nil _ (nameParts_ne_nil name.toList)
  have hsolid := List.all_eq_true.1 h part hpart
  refine Bool.eq_false_iff.2 fun hblank => ?_
  have hall : part.all Text.isBlank = true := List.all_eq_true.2 fun c hc =>
    List.all_eq_true.1 hblank c (mem_of_mem_nameParts hpart hc)
  rw [hall] at hsolid
  cases hsolid

/-! ## Tables -/

/-- A text that is not blank names a table, and nothing else does. -/
theorem tableOf_eq_ok {n : Native} {name : String} :
    tableOf n = .ok name ↔ n.asText? = some name ∧ Text.allBlank name = false := by
  unfold tableOf
  constructor
  · intro h
    split at h
    next text htext =>
      split at h <;> cases h
      next hblank => exact ⟨htext, Bool.eq_false_iff.2 hblank⟩
    next => cases h
  · intro h
    rw [h.1]
    dsimp only
    rw [h.2]
    rfl

/-- A text names the table of that name, if it names one. -/
theorem tableOf_gives (table : String) :
    Gives (fun e => tableOf (.text table) = .error e)
      (fun t => t = table ∧ tableOf (.text table) = .ok table) (tableOf (.text table)) := by
  refine (Gives.self _).mono_ok fun t ht => ?_
  obtain ⟨hsame, -⟩ := tableOf_eq_ok.1 ht
  obtain rfl := Option.some.inj hsame
  exact ⟨rfl, ht⟩

end Query

namespace Column

/-! ## Columns -/

/-- What is wrong with a text that names no column. -/
def issueOf (key : String) : QueryIssue :=
  if Text.allBlank key then .columnEmpty else .columnComponent key

/-- A text names the column of that name, or none. -/
theorem of_text (key : String) :
    of (.text key) =
      if Query.isColumnName key then .ok ⟨key⟩ else .error (.invalid (issueOf key)) := by
  unfold of issueOf
  dsimp only [Native.asText?]
  by_cases hkey : Query.isColumnName key = true
  · rw [Query.allBlank_eq_false hkey]
    rfl
  · rw [if_neg hkey]
    split <;> rfl

/-- A text names the column of that name, if it names one. -/
theorem of_gives (name : String) :
    Gives (fun e => of (.text name) = .error e) (fun c => c = ⟨name⟩) (of (.text name)) := by
  refine (Gives.self _).mono_ok fun c hc => ?_
  rw [of_text] at hc
  split at hc <;> cases hc
  rfl

/-- Texts name the columns of those names, unless one of them names none; the first such is what
is wrong. -/
theorem ofAll_texts (keys : List String) :
    Gives (fun e => ∃ front key back, keys = front ++ key :: back ∧
        (∀ k ∈ front, Query.isColumnName k = true) ∧ Query.isColumnName key = false ∧
        e = .invalid (issueOf key))
      (fun cs => (∀ key ∈ keys, Query.isColumnName key = true) ∧ cs = keys.map mk)
      (ofAll (keys.map .text)) := by
  have hone : ∀ key ∈ keys,
      Gives (fun e => Query.isColumnName key = false ∧ e = .invalid (issueOf key))
        (fun c => Query.isColumnName key = true ∧ c = ⟨key⟩) (of (.text key)) := by
    intro key _
    rw [of_text]
    by_cases hkey : Query.isColumnName key = true
    · rw [if_pos hkey]
      exact .ok ⟨hkey, rfl⟩
    · rw [if_neg hkey]
      exact .error ⟨Bool.eq_false_iff.2 hkey, rfl⟩
  unfold ofAll
  rw [List.mapM_map]
  refine (Gives.mapM_first hone).mono ?_ fun _ => forall₂_and_eq_map.1
  intro e h
  obtain ⟨front, key, back, hkeys, hfront, hkey, he⟩ := h
  refine ⟨front, key, back, hkeys, fun k hk => ?_, hkey, he⟩
  obtain ⟨_, hnamed, -⟩ := hfront k hk
  exact hnamed

end Column

end SqlGateway
