import Mathlib.Order.Defs.Unbundled
import SqlGateway.Executor.Transaction
set_option autoImplicit false

/-!
# Executor: what an action ensures

An action has an outcome and leaves a state behind, and an action within a transaction
leaves the transaction behind too.  `Ensures` says what holds of all of them when the
action begins at a given state.  There is one rule for each way to build an action, so
the rules take an action apart down to the calls that it makes.
-/

namespace SqlGateway

/-! ## Actions -/

/-- An action that cannot fail goes on where its first part ended. -/
theorem StateM.bind_apply {σ α β : Type} (m : StateM σ α) (k : α → StateM σ β) (s : σ) :
    (m >>= k) s = k (m s).1 (m s).2 :=
  rfl

namespace Task

variable {σ α β : Type} {s : σ}

/-- What holds after an action, of its outcome and the state. -/
def Ensures (t : Task σ α) (s : σ) (Q : Except Failure α → σ → Prop) : Prop :=
  Q (t.run s).1 (t.run s).2

theorem Ensures.imp {t : Task σ α} {Q P : Except Failure α → σ → Prop}
    (h : t.Ensures s Q) (himp : ∀ r s', Q r s' → P r s') : t.Ensures s P :=
  himp _ _ h

theorem ensures_run {t : Task σ α} {r : Except Failure α} {s' : σ} (h : t.run s = (r, s'))
    (Q : Except Failure α → σ → Prop) : t.Ensures s Q ↔ Q r s' := by
  rw [Ensures, h]

theorem ensures_pure (a : α) (Q : Except Failure α → σ → Prop) :
    (pure a : Task σ α).Ensures s Q ↔ Q (.ok a) s :=
  Iff.rfl

theorem ensures_throw (f : Failure) (Q : Except Failure α → σ → Prop) :
    (throw f : Task σ α).Ensures s Q ↔ Q (.error f) s :=
  Iff.rfl

theorem ensures_ofExcept (e : Except Failure α) (Q : Except Failure α → σ → Prop) :
    (ofExcept e : Task σ α).Ensures s Q ↔ Q e s :=
  Iff.rfl

theorem ensures_outcome (t : Task σ α) (Q : Except Failure (Except Failure α) → σ → Prop) :
    (outcome t).Ensures s Q ↔ t.Ensures s fun r => Q (.ok r) :=
  Iff.rfl

theorem ensures_state (m : StateM σ α) (Q : Except Failure α → σ → Prop) :
    (liftM m : Task σ α).Ensures s Q ↔ Q (.ok (m s).1) (m s).2 :=
  Iff.rfl

/-- A sequence goes on where its first part ended, or fails with it. -/
theorem ensures_bind (t : Task σ α) (k : α → Task σ β) (Q : Except Failure β → σ → Prop) :
    (t >>= k).Ensures s Q ↔
      t.Ensures s fun r s' =>
        match r with
        | .ok a => (k a).Ensures s' Q
        | .error f => Q (.error f) s' := by
  unfold Ensures
  rcases ht : t.run s with ⟨f | a, s'⟩
  · have ht' : t s = _ := ht
    simp only [ExceptT.run, bind, ExceptT.bind, ExceptT.mk, StateT.bind, ExceptT.bindCont, ht']
    exact Iff.rfl
  · have ht' : t s = _ := ht
    simp only [ExceptT.run, bind, ExceptT.bind, ExceptT.mk, StateT.bind, ExceptT.bindCont, ht']

end Task

/-! ## Actions within a transaction -/

namespace TransactionTask

variable {σ α β : Type} {tx : Transaction} {s : σ}

/-- What holds after an action, of its outcome, the transaction and the state. -/
def Ensures (t : TransactionTask σ α) (tx : Transaction) (s : σ)
    (Q : Except Failure α → Transaction → σ → Prop) : Prop :=
  Q (t.runIn tx s).1.1 (t.runIn tx s).1.2 (t.runIn tx s).2

theorem Ensures.imp {t : TransactionTask σ α} {Q P : Except Failure α → Transaction → σ → Prop}
    (h : t.Ensures tx s Q) (himp : ∀ r tx' s', Q r tx' s' → P r tx' s') : t.Ensures tx s P :=
  himp _ _ _ h

theorem ensures_pure (a : α) (Q : Except Failure α → Transaction → σ → Prop) :
    (pure a : TransactionTask σ α).Ensures tx s Q ↔ Q (.ok a) tx s :=
  Iff.rfl

theorem ensures_throw (f : Failure) (Q : Except Failure α → Transaction → σ → Prop) :
    (throw f : TransactionTask σ α).Ensures tx s Q ↔ Q (.error f) tx s :=
  Iff.rfl

theorem ensures_current (Q : Except Failure Transaction → Transaction → σ → Prop) :
    (current : TransactionTask σ Transaction).Ensures tx s Q ↔ Q (.ok tx) tx s :=
  Iff.rfl

theorem ensures_moveTo (st : TransactionState)
    (Q : Except Failure Unit → Transaction → σ → Prop) :
    (moveTo st : TransactionTask σ Unit).Ensures tx s Q ↔
      Q (.ok ()) { tx with state := st } s :=
  Iff.rfl

theorem ensures_outcome (t : TransactionTask σ α)
    (Q : Except Failure (Except Failure α) → Transaction → σ → Prop) :
    (outcome t).Ensures tx s Q ↔ t.Ensures tx s fun r => Q (.ok r) :=
  Iff.rfl

theorem ensures_task (t : Task σ α) (Q : Except Failure α → Transaction → σ → Prop) :
    (liftM t : TransactionTask σ α).Ensures tx s Q ↔ t.Ensures s fun r s' => Q r tx s' :=
  Iff.rfl

theorem ensures_state (m : StateM σ α) (Q : Except Failure α → Transaction → σ → Prop) :
    (liftM m : TransactionTask σ α).Ensures tx s Q ↔ Q (.ok (m s).1) tx (m s).2 :=
  Iff.rfl

/-- A sequence goes on where its first part ended, or fails with it. -/
theorem ensures_bind (t : TransactionTask σ α) (k : α → TransactionTask σ β)
    (Q : Except Failure β → Transaction → σ → Prop) :
    (t >>= k).Ensures tx s Q ↔
      t.Ensures tx s fun r tx' s' =>
        match r with
        | .ok a => (k a).Ensures tx' s' Q
        | .error f => Q (.error f) tx' s' := by
  unfold Ensures
  rcases ht : t.runIn tx s with ⟨⟨f | a, tx'⟩, s'⟩
  · have ht' : t tx s = _ := ht
    simp only [runIn, ExceptT.run, StateT.run, bind, ExceptT.bind, ExceptT.mk, StateT.bind,
      ExceptT.bindCont, ht']
    exact Iff.rfl
  · have ht' : t tx s = _ := ht
    simp only [runIn, ExceptT.run, StateT.run, bind, ExceptT.bind, ExceptT.mk, StateT.bind,
      ExceptT.bindCont, ht']

/-! ## Actions that stay within a relation -/

/-- Whatever its outcome, an action leads from a transaction and a state only to such as are
related to them. -/
def Within (R : Transaction × σ → Transaction × σ → Prop) (t : TransactionTask σ α) : Prop :=
  ∀ tx s, t.Ensures tx s fun _ tx' s' => R (tx, s) (tx', s')

variable {R : Transaction × σ → Transaction × σ → Prop} [IsPreorder (Transaction × σ) R]

theorem within_pure (a : α) : Within R (pure a : TransactionTask σ α) :=
  fun tx s => refl_of R (tx, s)

theorem within_throw (f : Failure) : Within R (throw f : TransactionTask σ α) :=
  fun tx s => refl_of R (tx, s)

theorem within_bind {t : TransactionTask σ α} {k : α → TransactionTask σ β} (ht : Within R t)
    (hk : ∀ a, Within R (k a)) : Within R (t >>= k) := by
  intro tx s
  rw [ensures_bind]
  refine (ht tx s).imp ?_
  intro r tx' s' hR
  cases r with
  | error f => exact hR
  | ok a => exact (hk a tx' s').imp fun _ _ _ => trans_of R hR

/-! ### Runners

A runner does nothing but report and run one statement. -/

theorem within_lift (e : Except Failure α) :
    Within R (Runner.lift e : TransactionTask σ α) := by
  cases e with
  | ok a => exact within_pure a
  | error f => exact within_throw f

section

variable {r : Runner (TransactionTask σ)}

theorem within_runBound (hperform : ∀ b limits, Within R (r.perform b limits))
    (b : BoundStatement) (limits : CallLimits) : Within R (r.runBound b limits) :=
  within_bind (hperform b limits) fun _ => within_lift _

theorem within_executeRaw (hperform : ∀ b limits, Within R (r.perform b limits))
    (sql args : Native) (limits : CallLimits) : Within R (r.executeRaw sql args limits) :=
  within_bind (within_lift _) fun b =>
    within_bind (within_runBound hperform b limits) fun _ => within_pure _

variable (htell : ∀ n, Within R (r.tell n)) (hperform : ∀ b limits, Within R (r.perform b limits))

include htell

theorem within_render (q : Request) : Within R (r.render q) := by
  have hrender : Within R (do
      let b ← Runner.lift ((r.dialect.renderRequest q).mapError QueryError.toFailure)
      r.tell (.event "statement.render" [("sql", .text b.sql)])
      return b) :=
    within_bind (within_lift _) fun b => within_bind (htell _) fun _ => within_pure b
  cases q with
  | bound b => exact within_pure b
  | _ => exact hrender

include hperform

theorem within_run (q : Request) (limits : CallLimits) : Within R (r.run q limits) :=
  within_bind (within_render htell q) fun b => within_runBound hperform b limits

theorem within_execute (q : Request) (limits : CallLimits) : Within R (r.execute q limits) :=
  within_bind (within_run htell hperform q limits) fun _ => within_pure _

theorem within_fetch (q : Request) (target : FetchTarget) (mapper : Option RecordMapper)
    (limits : CallLimits) : Within R (r.fetch q target mapper limits) :=
  within_bind (within_lift _) fun _ =>
    within_bind (within_lift _) fun q =>
      within_bind (within_render htell q) fun b =>
        within_bind (hperform b limits) fun _ => within_lift _

theorem within_fetchOne (q : Request) (target : FetchTarget) (mapper : Option RecordMapper)
    (limits : CallLimits) : Within R (r.fetchOne q target mapper limits) :=
  within_bind (within_lift _) fun q =>
    within_bind (within_fetch htell hperform q target mapper limits) fun _ => within_pure _

end

end TransactionTask

end SqlGateway
