import SqlGateway.Proofs.Executor.Outcome
set_option autoImplicit false

/-!
# Executor: two actions side by side

Two actions are coupled if from related states they give related values and come to
related states.  Actions that may fail are coupled if they also fail together, with the
same failure.  There is one rule for each way to build an action, as there is for what
one action ensures, so two runs of one program are compared call by call.
-/

namespace SqlGateway

/-- Two outcomes agree: both are values, and related, or both are the same failure. -/
inductive Agree {α β : Type} (Q : α → β → Prop) : Except Failure α → Except Failure β → Prop where
  | ok {a : α} {b : β} (h : Q a b) : Agree Q (.ok a) (.ok b)
  | error (f : Failure) : Agree Q (.error f) (.error f)

namespace Agree

variable {α : Type}

theorem refl (r : Except Failure α) : Agree Eq r r := by
  cases r with
  | ok a => exact .ok rfl
  | error f => exact .error f

theorem eq {r r' : Except Failure α} (h : Agree Eq r r') : r = r' := by
  cases h with
  | ok hab => rw [hab]
  | error f => rfl

end Agree

/-! ## Actions on a state -/

variable {σ α β γ δ : Type} {R : σ → σ → Prop}

/-- From related states two actions give related values and come to related states. -/
def Coupled (R : σ → σ → Prop) (Q : α → β → Prop) (m : StateM σ α) (m' : StateM σ β) : Prop :=
  ∀ s s', R s s' → Q (m s).1 (m' s').1 ∧ R (m s).2 (m' s').2

namespace Coupled

variable {Q P : α → β → Prop} {S : γ → δ → Prop} {m : StateM σ α} {m' : StateM σ β}

theorem imp (h : Coupled R Q m m') (himp : ∀ a b, Q a b → P a b) : Coupled R P m m' :=
  fun s s' hs => ⟨himp _ _ (h s s' hs).1, (h s s' hs).2⟩

theorem pure {a : α} {b : β} (h : Q a b) :
    Coupled R Q (Pure.pure a : StateM σ α) (Pure.pure b : StateM σ β) :=
  fun _ _ hs => ⟨h, hs⟩

theorem bind {k : α → StateM σ γ} {k' : β → StateM σ δ} (h : Coupled R Q m m')
    (hk : ∀ a b, Q a b → Coupled R S (k a) (k' b)) : Coupled R S (m >>= k) (m' >>= k') :=
  fun s s' hs => hk _ _ (h s s' hs).1 _ _ (h s s' hs).2

end Coupled

/-! ## Actions that may fail -/

namespace Task

/-- Two actions are coupled, and fail together. -/
def Coupled (R : σ → σ → Prop) (Q : α → β → Prop) (t : Task σ α) (t' : Task σ β) : Prop :=
  SqlGateway.Coupled R (Agree Q) t.run t'.run

variable {Q : α → β → Prop} {S : γ → δ → Prop} {t : Task σ α} {t' : Task σ β}

theorem coupled_pure {a : α} {b : β} (h : Q a b) :
    Coupled R Q (pure a : Task σ α) (pure b : Task σ β) :=
  .pure (.ok h)

theorem coupled_throw (f : Failure) : Coupled R Q (throw f : Task σ α) (throw f : Task σ β) :=
  .pure (.error f)

theorem coupled_ofExcept {e : Except Failure α} {e' : Except Failure β} (h : Agree Q e e') :
    Coupled R Q (ofExcept e : Task σ α) (ofExcept e' : Task σ β) :=
  .pure h

theorem coupled_state {m : StateM σ α} {m' : StateM σ β} (h : SqlGateway.Coupled R Q m m') :
    Coupled R Q (liftM m : Task σ α) (liftM m' : Task σ β) :=
  fun s s' hs => ⟨.ok (h s s' hs).1, (h s s' hs).2⟩

theorem coupled_mk {m m' : StateM σ (Except Failure α)} (h : SqlGateway.Coupled R Eq m m') :
    Coupled R Eq (ExceptT.mk m : Task σ α) (ExceptT.mk m') :=
  h.imp fun r _ hr => hr ▸ .refl r

theorem Coupled.outcome (h : Coupled R Q t t') :
    Coupled R (Agree Q) (outcome t) (Task.outcome t') :=
  fun s s' hs => ⟨.ok (h s s' hs).1, (h s s' hs).2⟩

theorem Coupled.bind {k : α → Task σ γ} {k' : β → Task σ δ} (h : Coupled R Q t t')
    (hk : ∀ a b, Q a b → Coupled R S (k a) (k' b)) : Coupled R S (t >>= k) (t' >>= k') := by
  unfold Coupled
  rw [ExceptT.run_bind, ExceptT.run_bind]
  refine SqlGateway.Coupled.bind h ?_
  rintro r r' hr
  cases hr with
  | ok hab => exact hk _ _ hab
  | error f => exact .pure (.error f)

theorem coupled_lift (e : Except Failure α) :
    Coupled R Eq (Runner.lift e : Task σ α) (Runner.lift e) := by
  cases e with
  | ok a => exact coupled_pure rfl
  | error f => exact coupled_throw f

end Task

/-! ## Actions within a transaction -/

namespace TransactionTask

/-- In one transaction two actions are coupled and fail together, and leave the transaction at the
same place. -/
def Coupled (R : σ → σ → Prop) (Q : α → β → Prop) (t : TransactionTask σ α)
    (t' : TransactionTask σ β) : Prop :=
  ∀ tx, SqlGateway.Coupled R (fun r r' => Agree Q r.1 r'.1 ∧ r.2 = r'.2) (t.runIn tx) (t'.runIn tx)

variable {Q : α → β → Prop} {S : γ → δ → Prop} {t : TransactionTask σ α}
  {t' : TransactionTask σ β}

theorem coupled_pure {a : α} {b : β} (h : Q a b) :
    Coupled R Q (pure a : TransactionTask σ α) (pure b : TransactionTask σ β) :=
  fun _ => .pure ⟨.ok h, rfl⟩

theorem coupled_throw (f : Failure) :
    Coupled R Q (throw f : TransactionTask σ α) (throw f : TransactionTask σ β) :=
  fun _ => .pure ⟨.error f, rfl⟩

theorem coupled_current :
    Coupled R Eq (current : TransactionTask σ Transaction) (current : TransactionTask σ _) :=
  fun _ => .pure ⟨.ok rfl, rfl⟩

theorem coupled_moveTo (st : TransactionState) :
    Coupled R Eq (moveTo st : TransactionTask σ Unit) (moveTo st : TransactionTask σ Unit) :=
  fun _ => .pure ⟨.ok rfl, rfl⟩

theorem coupled_task {t : Task σ α} {t' : Task σ β} (h : Task.Coupled R Q t t') :
    Coupled R Q (liftM t : TransactionTask σ α) (liftM t' : TransactionTask σ β) :=
  fun _ s s' hs => ⟨⟨(h s s' hs).1, rfl⟩, (h s s' hs).2⟩

theorem coupled_state {m : StateM σ α} {m' : StateM σ β} (h : SqlGateway.Coupled R Q m m') :
    Coupled R Q (liftM m : TransactionTask σ α) (liftM m' : TransactionTask σ β) :=
  fun _ s s' hs => ⟨⟨.ok (h s s' hs).1, rfl⟩, (h s s' hs).2⟩

theorem Coupled.outcome (h : Coupled R Q t t') :
    Coupled R (Agree Q) (outcome t) (TransactionTask.outcome t') :=
  fun tx s s' hs => ⟨⟨.ok (h tx s s' hs).1.1, (h tx s s' hs).1.2⟩, (h tx s s' hs).2⟩

theorem Coupled.bind {k : α → TransactionTask σ γ} {k' : β → TransactionTask σ δ}
    (h : Coupled R Q t t') (hk : ∀ a b, Q a b → Coupled R S (k a) (k' b)) :
    Coupled R S (t >>= k) (t' >>= k') := by
  intro tx
  unfold runIn
  rw [ExceptT.run_bind, ExceptT.run_bind, StateT.run_bind, StateT.run_bind]
  refine SqlGateway.Coupled.bind (h tx) ?_
  rintro ⟨r, tx₁⟩ ⟨r', _⟩ ⟨hr, rfl⟩
  cases hr with
  | ok hab => exact hk _ _ hab tx₁
  | error f => exact .pure ⟨.error f, rfl⟩

theorem coupled_lift (e : Except Failure α) :
    Coupled R Eq (Runner.lift e : TransactionTask σ α) (Runner.lift e) := by
  cases e with
  | ok a => exact coupled_pure rfl
  | error f => exact coupled_throw f

end TransactionTask

end SqlGateway
