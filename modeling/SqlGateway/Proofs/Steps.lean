import Mathlib.Data.List.Forall2
set_option autoImplicit false

/-!
# Steps that may fail

What a step gives is an error of one kind or a result of another.  Steps in sequence and lists of
steps give what their parts give, so a function that consists of them is taken apart step by step.
-/

namespace SqlGateway

/-! ## Lists side by side -/

/-- The second list is what a function makes of the first, of which each member is as said. -/
theorem forall₂_and_eq_map {α β : Type} {P : α → Prop} {g : α → β} {as : List α} {bs : List β} :
    List.Forall₂ (fun a b => P a ∧ b = g a) as bs ↔ (∀ a ∈ as, P a) ∧ bs = as.map g := by
  rw [List.forall₂_and_left, eq_comm, ← List.forall₂_eq_eq_eq, List.forall₂_map_left_iff]
  simp only [eq_comm]

/-- A relation that is a function on the first list makes the second of it. -/
theorem eq_map_of_forall₂ {α β : Type} {R : α → β → Prop} {g : α → β} {as : List α} {bs : List β}
    (h : List.Forall₂ R as bs) (hR : ∀ a ∈ as, ∀ b, R a b → b = g a) : bs = as.map g := by
  induction h with
  | nil => rfl
  | cons hab _ ih =>
    rw [hR _ List.mem_cons_self _ hab, ih fun a ha => hR a (List.mem_cons_of_mem _ ha)]
    rfl

/-- A member of the second list has a counterpart in the first. -/
theorem exists_of_forall₂ {α β : Type} {R : α → β → Prop} {as : List α} {bs : List β}
    (h : List.Forall₂ R as bs) {b : β} (hb : b ∈ bs) : ∃ a ∈ as, R a b := by
  induction h with
  | nil => cases hb
  | cons hab _ ih =>
    rcases List.mem_cons.1 hb with rfl | hb
    · exact ⟨_, List.mem_cons_self, hab⟩
    · obtain ⟨a, ha, hab⟩ := ih hb
      exact ⟨a, List.mem_cons_of_mem _ ha, hab⟩

/-- What stands at a place of the first list has a counterpart at that place of the second. -/
theorem exists_getElem?_of_forall₂ {α β : Type} {R : α → β → Prop} {as : List α} {bs : List β}
    (h : List.Forall₂ R as bs) {i : Nat} {a : α} (ha : as[i]? = some a) :
    ∃ b, bs[i]? = some b ∧ R a b := by
  induction h generalizing i with
  | nil => cases ha
  | cons hab _ ih =>
    cases i with
    | zero =>
      obtain rfl := Option.some.inj ha
      exact ⟨_, rfl, hab⟩
    | succ i => exact ih ha

/-! ## Outcomes -/

/-- What the second part of a sequence starts from, when the sequence succeeds. -/
theorem Except.bind_eq_ok {ε α β : Type} {x : Except ε α} {f : α → Except ε β} {b : β} :
    (x >>= f) = .ok b ↔ ∃ a, x = .ok a ∧ f a = .ok b := by
  cases x with
  | error e => exact ⟨fun h => by simp [bind, Except.bind] at h, fun ⟨_, h, _⟩ => by cases h⟩
  | ok a =>
    exact ⟨fun h => ⟨a, rfl, h⟩, fun ⟨_, ha, h⟩ => by cases ha; exact h⟩

/-- The outcome is an error of one kind or a result of another. -/
inductive Gives {ε α : Type} (E : ε → Prop) (P : α → Prop) : Except ε α → Prop where
  | error {e : ε} (h : E e) : Gives E P (.error e)
  | ok {a : α} (h : P a) : Gives E P (.ok a)

namespace Gives

variable {ε α β : Type} {E : ε → Prop} {P : α → Prop} {Q : β → Prop}

theorem bind {x : Except ε α} {f : α → Except ε β} (h : Gives E P x)
    (hf : ∀ a, P a → Gives E Q (f a)) : Gives E Q (x >>= f) := by
  cases h with
  | error h => exact .error h
  | ok h => exact hf _ h

theorem mono {x : Except ε α} {F : ε → Prop} {R : α → Prop} (h : Gives E P x)
    (hE : ∀ e, E e → F e) (hP : ∀ a, P a → R a) : Gives F R x := by
  cases h with
  | error h => exact .error (hE _ h)
  | ok h => exact .ok (hP _ h)

theorem of_eq_ok {x : Except ε α} (h : Gives E P x) {a : α} (hx : x = .ok a) : P a := by
  cases h with
  | error h => cases hx
  | ok h => cases hx; exact h

theorem of_eq_error {x : Except ε α} (h : Gives E P x) {e : ε} (hx : x = .error e) : E e := by
  cases h with
  | error h => cases hx; exact h
  | ok h => cases hx

theorem mono_error {x : Except ε α} {F : ε → Prop} (h : Gives E P x) (hE : ∀ e, E e → F e) :
    Gives F P x :=
  h.mono hE fun _ h => h

theorem mono_ok {x : Except ε α} {R : α → Prop} (h : Gives E P x) (hP : ∀ a, P a → R a) :
    Gives E R x :=
  h.mono (fun _ h => h) hP

theorem map {x : Except ε α} {f : α → β} (h : Gives E P x) (hf : ∀ a, P a → Q (f a)) :
    Gives E Q (x.map f) := by
  cases h with
  | error h => exact .error h
  | ok h => exact .ok (hf _ h)

theorem mapError {δ : Type} {x : Except ε α} {f : ε → δ} {D : δ → Prop} (h : Gives E P x)
    (hf : ∀ e, E e → D (f e)) : Gives D P (x.mapError f) := by
  cases h with
  | error h => exact .error (hf _ h)
  | ok h => exact .ok h

/-- Of a list of steps the first that fails decides, or each has a result. -/
theorem mapM_first {f : α → Except ε β} {F : α → ε → Prop} {R : α → β → Prop} {as : List α}
    (h : ∀ a ∈ as, Gives (F a) (R a) (f a)) :
    Gives (fun e => ∃ front a back, as = front ++ a :: back ∧ (∀ b ∈ front, ∃ c, R b c) ∧ F a e)
      (fun bs => List.Forall₂ R as bs) (as.mapM f) := by
  induction as with
  | nil => exact .ok .nil
  | cons a as ih =>
    rw [List.mapM_cons]
    refine ((h a List.mem_cons_self).mono_error fun e he => ⟨[], a, as, rfl, nofun, he⟩).bind ?_
    intro b hb
    refine ((ih fun a' ha' => h a' (List.mem_cons_of_mem a ha')).mono_error ?_).bind ?_
    · intro e hrest
      obtain ⟨front, a', back, rfl, hfront, he⟩ := hrest
      exact ⟨a :: front, a', back, rfl, List.forall_mem_cons.2 ⟨⟨b, hb⟩, hfront⟩, he⟩
    · intro bs hbs
      exact .ok (.cons hb hbs)

/-- Of a list of steps one fails, or each has a result. -/
theorem mapM {f : α → Except ε β} {R : α → β → Prop} {as : List α}
    (h : ∀ a ∈ as, Gives E (R a) (f a)) : Gives E (fun bs => List.Forall₂ R as bs) (as.mapM f) := by
  refine (mapM_first h).mono_error fun e he => ?_
  obtain ⟨_, _, _, _, _, he⟩ := he
  exact he

/-- Of a list of steps one fails, or each has the result that a function says. -/
theorem mapM_map {f : α → Except ε β} {g : α → β} {as : List α}
    (h : ∀ a ∈ as, Gives E (fun b => P a ∧ b = g a) (f a)) :
    Gives E (fun bs => (∀ a ∈ as, P a) ∧ bs = as.map g) (as.mapM f) := by
  exact (mapM h).mono_ok fun _ => forall₂_and_eq_map.1

/-- A step that is known gives what it gives. -/
theorem self (x : Except ε α) : Gives (fun e => x = .error e) (fun a => x = .ok a) x := by
  cases x with
  | error e => exact .error rfl
  | ok a => exact .ok rfl

/-- A step that succeeds has its result. -/
theorem of_ok {x : Except ε α} {a : α} (hx : x = .ok a) : Gives E (fun b => a = b) x := by
  rw [hx]
  exact .ok rfl

end Gives

/-! ## Lists of steps -/

/-- Steps that all succeed. -/
theorem Except.mapM_eq_ok {ε α β : Type} {f : α → Except ε β} {g : α → β} {as : List α}
    (h : ∀ a ∈ as, f a = .ok (g a)) : as.mapM f = .ok (as.map g) := by
  induction as with
  | nil => rfl
  | cons a as ih =>
    rw [List.mapM_cons, h a List.mem_cons_self, ih fun b hb => h b (List.mem_cons_of_mem a hb)]
    rfl

/-- Of steps of which some fail, one that fails decides. -/
theorem Except.mapM_eq_error {ε α β : Type} {f : α → Except ε β} {bad : α → Prop} {g : α → β}
    {e : α → ε} {as : List α} (hbad : ∀ a ∈ as, bad a → f a = .error (e a))
    (hgood : ∀ a ∈ as, ¬ bad a → f a = .ok (g a)) (hsome : ∃ a ∈ as, bad a) :
    ∃ a ∈ as, bad a ∧ as.mapM f = .error (e a) := by
  induction as with
  | nil => exact absurd hsome (by simp)
  | cons a as ih =>
    rw [List.mapM_cons]
    by_cases ha : bad a
    · refine ⟨a, List.mem_cons_self, ha, ?_⟩
      rw [hbad a List.mem_cons_self ha]
      rfl
    · obtain ⟨b, hb, hbbad⟩ := hsome
      have hlater : ∃ b ∈ as, bad b := by
        rcases List.mem_cons.1 hb with rfl | hb
        · exact absurd hbbad ha
        · exact ⟨b, hb, hbbad⟩
      obtain ⟨b, hb, hbbad, hfails⟩ := ih (fun b hb => hbad b (List.mem_cons_of_mem a hb))
        (fun b hb => hgood b (List.mem_cons_of_mem a hb)) hlater
      refine ⟨b, List.mem_cons_of_mem a hb, hbbad, ?_⟩
      rw [hgood a List.mem_cons_self ha, hfails]
      rfl

/-- Steps have results together where each has its own. -/
theorem Except.mapM_eq_ok_iff {ε α β : Type} {f : α → Except ε β} {as : List α} {bs : List β} :
    as.mapM f = .ok bs ↔ List.Forall₂ (fun a b => f a = .ok b) as bs := by
  constructor
  · intro h
    have hgives : Gives (fun _ => True) (List.Forall₂ (fun a b => f a = .ok b) as) (as.mapM f) :=
      Gives.mapM fun a _ => (Gives.self (f a)).mono_error fun _ _ => trivial
    rw [h] at hgives
    cases hgives with
    | ok hall => exact hall
  · intro h
    induction h with
    | nil => rfl
    | cons hhead _ ih =>
      rw [List.mapM_cons, hhead, ih]
      rfl

/-- Steps that are the same one by one are the same together. -/
theorem mapM_eq_of_forall₂ {m : Type → Type} [Monad m] [LawfulMonad m] {α β γ : Type}
    {f : α → m γ} {g : β → m γ} {as : List α} {bs : List β}
    (h : List.Forall₂ (fun a b => f a = g b) as bs) : as.mapM f = bs.mapM g := by
  induction h with
  | nil => rfl
  | cons hhead _ ih => rw [List.mapM_cons, List.mapM_cons, hhead, ih]

end SqlGateway
