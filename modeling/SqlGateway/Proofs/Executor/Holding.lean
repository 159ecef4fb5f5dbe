import SqlGateway.Proofs.Executor.AllOrNothing
set_option autoImplicit false

/-!
# Executor: who holds a transaction's connection

Nothing is assumed here of the failures that a driver ends a control statement in: a driver
words those of its client library, but it lets any other pass.  Whatever it raises at a
commit or a rollback, a transaction that is not over still holds its lease, so that its
caller can try again, and one that is over has given it back.  Only the beginning has an
exit of which that is not true: where the statement that begins a transaction ends in a
failure that is not the driver's, there is no transaction, and the lease stays out.  Of
steps that are run in a transaction of their own the caller has only the failure that they
ended in: as long as he has it, a transaction that is not over keeps the lease.
-/

namespace SqlGateway

open TransactionTask

namespace Transaction

variable {σ : Type}

/-- A transaction holds its lease until it is over, and not longer. -/
def Holds (Has : Bool → Bool → σ → Prop) (lease : Nat) (tx : Transaction) (s : σ) : Prop :=
  tx.lease = lease ∧ ∃ healthy, Has healthy tx.state.isFinal s

/-- A transaction that holds its lease goes on to do so. -/
def Keeps (Has : Bool → Bool → σ → Prop) (lease : Nat) (a b : Transaction × σ) : Prop :=
  Holds Has lease a.1 a.2 → Holds Has lease b.1 b.2

instance (Has : Bool → Bool → σ → Prop) (lease : Nat) :
    IsPreorder (Transaction × σ) (Keeps Has lease) where
  refl _ hs := hs
  trans _ _ _ hab hbc hs := hbc (hab hs)

end Transaction

namespace Host

open Transaction

variable {α σ : Type} {h : Host σ} {lease : Nat} {Has : Bool → Bool → σ → Prop}
  {tx : Transaction} {s : σ} {healthy ended : Bool}

/-! ## Statements -/

theorem Custody.reportAll_has (hc : h.Custody lease Has) (notices : List Notice)
    (hs : Has healthy ended s) :
    (h.reportAll notices).Ensures s fun _ s' => Has healthy ended s' := by
  induction notices generalizing s with
  | nil => exact hs
  | cons n rest ih =>
    have hrest := ih (hc.tell n hs)
    exact (Task.ensures_bind _ _ _).2 hrest

/-- The end of a statement may spoil the connection, but gives nothing back. -/
theorem Custody.conclude_has (hc : h.Custody lease Has) (b : BoundStatement) (started : Seconds)
    (fired : Bool) (r : Except Failure DriverResult) (hs : Has healthy false s) :
    (h.conclude lease b started fired r).Ensures s fun _ s' => ∃ spoiled, Has spoiled false s' := by
  unfold Host.conclude
  cases r with
  | ok result =>
    cases fired with
    | false =>
      simp only [Bool.false_eq_true, if_false, Task.ensures_bind, Task.ensures_pure,
        Task.ensures_state]
      refine (hc.reportAll_has _ (hc.now hs)).imp ?_
      intro r s' hhas
      cases r <;> exact ⟨_, hhas⟩
    | true =>
      simp only [if_true, Task.ensures_bind, Task.ensures_pure, Task.ensures_state]
      refine (hc.reportAll_has _ (hc.now (hc.mark hs))).imp ?_
      intro r s' hhas
      cases r <;> exact ⟨_, hhas⟩
  | error f =>
    -- The connection is marked first, so that whatever is reported, it is no longer healthy.
    have hreported : ∀ notices g, (do h.reportAll notices; throw g : Task σ DriverResult).Ensures
        (h.markUnhealthy lease s).2 fun _ s' => ∃ spoiled, Has spoiled false s' := by
      intro notices g
      rw [Task.ensures_bind]
      refine (hc.reportAll_has notices (hc.mark hs)).imp ?_
      intro r s' hhas
      cases r <;> exact ⟨_, hhas⟩
    simp only [Task.ensures_bind, Task.ensures_state]
    split
    · split
      · exact ⟨_, hc.mark hs⟩
      · exact hreported _ _
    · exact hreported _ _

theorem Custody.runOn_has (hc : h.Custody lease Has) (conn : Nat) (b : BoundStatement)
    (limits : CallLimits) (hs : Has healthy false s) :
    (h.runOn lease conn b limits).Ensures s fun _ s' => ∃ spoiled, Has spoiled false s' := by
  unfold Host.runOn
  rw [Task.ensures_bind, Task.ensures_ofExcept]
  cases h.parameters b with
  | error f => exact ⟨_, hs⟩
  | ok params =>
    simp only [Task.ensures_bind, Task.ensures_state]
    split
    · exact ⟨_, hc.now hs⟩
    · simp only [Task.ensures_bind, Task.ensures_state]
      exact hc.conclude_has b _ _ _ (hc.execute conn b.sql params _ (hc.now hs))

/-- A statement may make its transaction fail, but not end. -/
theorem Custody.performIn_holds (hc : h.Custody lease Has) (b : BoundStatement)
    (limits : CallLimits) (hs : Holds Has lease tx s) :
    (h.performIn b limits).Ensures tx s fun _ tx' s' => Holds Has lease tx' s' := by
  unfold Host.performIn
  rw [ensures_bind, ensures_current]
  cases hstate : unusable? tx.state with
  | some f =>
    simp only [hstate]
    exact hs
  | none =>
    have hactive := (unusable?_eq_none tx.state).1 hstate
    have hopen : tx.state.isFinal = false := by rw [hactive]; rfl
    obtain ⟨rfl, healthy, hhas⟩ := hs
    rw [hopen] at hhas
    simp only [hstate, ensures_bind, ensures_outcome, ensures_task]
    refine (hc.runOn_has tx.conn b limits hhas).imp ?_
    rintro r s' ⟨spoiled, hhas'⟩
    rw [ensures_state, hc.healthy hhas']
    have hstays : Holds Has tx.lease tx s' := ⟨rfl, spoiled, by rwa [hopen]⟩
    have hfails : Holds Has tx.lease { tx with state := .failed } s' := ⟨rfl, spoiled, hhas'⟩
    cases spoiled <;> cases r <;> first | exact hstays | exact hfails

/-! ## The end -/

/-- A transaction that ends gives its lease back. -/
theorem Custody.ensures_end (hc : h.Custody tx.lease Has) (st : TransactionState)
    (hst : st.isFinal = true) (hs : Has healthy false s) :
    TransactionTask.Ensures (liftM (h.giveBack tx.lease)) { tx with state := st } s
      fun _ tx' s' => Holds Has tx.lease tx' s' ∧ tx'.state = st := by
  rw [ensures_task]
  refine (hc.release hs).imp ?_
  rintro r s' ⟨hover, -⟩
  exact ⟨⟨rfl, healthy, by rwa [← hst] at hover⟩, rfl⟩

/-- A rollback leaves everything as it was if it ends in a failure that is not the driver's, and
is the end otherwise. -/
theorem Custody.abort_holds (hc : h.Custody lease Has) (hs : Holds Has lease tx s) :
    h.abort.Ensures tx s fun _ tx' s' => Holds Has lease tx' s' ∧
      ((∀ f, ((h.calls.rollback tx.conn).run s).1 = .error f → f.isDriver) →
        tx'.state.isFinal) := by
  obtain ⟨rfl, healthy, hhas⟩ := hs
  unfold Host.abort
  rw [ensures_bind, ensures_current]
  cases hopen : tx.state.isFinal with
  | true =>
    have hholds : Holds Has tx.lease tx s := ⟨rfl, healthy, hhas⟩
    simp only [hopen, if_true]
    exact ⟨hholds, fun _ => hopen⟩
  | false =>
    rw [hopen] at hhas
    have hkeeps := hc.rollback tx.conn hhas
    -- It is the end whether the driver has rolled back or refused to.
    have hends : ∀ {spoiled s'} refusal, Has spoiled false s' →
        (do moveTo .rolledBack; h.giveBack tx.lease; return refusal :
          TransactionTask σ (Option Failure)).Ensures tx s' fun _ tx' s' =>
            Holds Has tx.lease tx' s' ∧ ((∀ f, ((h.calls.rollback tx.conn).run s).1 = .error f →
              f.isDriver) → tx'.state.isFinal) := by
      intro spoiled s' refusal hspoiled
      rw [ensures_bind, ensures_moveTo, ensures_bind]
      refine (hc.ensures_end .rolledBack rfl hspoiled).imp ?_
      rintro r tx' s'' ⟨hholds, hstate⟩
      have hfinal : tx'.state.isFinal = true := by rw [hstate]; rfl
      cases r <;> exact ⟨hholds, fun _ => hfinal⟩
    simp only [hopen, Bool.false_eq_true, if_false]
    rw [ensures_bind, ensures_outcome, ensures_task]
    rcases hr : (h.calls.rollback tx.conn).run s with ⟨f | u, s'⟩ <;>
      rw [hr] at hkeeps hends <;> rw [Task.ensures_run hr]
    · cases hf : f.isDriver with
      | true =>
        simp only [hf, if_true]
        rw [ensures_bind, ensures_state, ensures_bind, ensures_task]
        exact hends (some f) (hc.tell _ (hc.mark hkeeps))
      | false =>
        have hstays : Holds Has tx.lease tx s' := ⟨rfl, healthy, by rwa [hopen]⟩
        simp only [hf, Bool.false_eq_true, if_false]
        exact ⟨hstays, fun hdriver => absurd (hdriver f rfl) (by simp [hf])⟩
    · exact hends none hkeeps

theorem Custody.within_abort (hc : h.Custody lease Has) : Within (Keeps Has lease) h.abort :=
  fun _ _ hs => (hc.abort_holds hs).imp fun _ _ _ hholds => hholds.1

/-- The driver words every failure of the statements that end a transaction. -/
structure WordsEnds (h : Host σ) : Prop where
  commit : ∀ conn s f, ((h.calls.commit conn).run s).1 = .error f → f.isDriver
  rollback : ∀ conn s f, ((h.calls.rollback conn).run s).1 = .error f → f.isDriver

/-- A commit is the end, of a failed transaction too, if it does not fail or the driver words its
failures; whatever it raises, the lease is held or given back. -/
theorem Custody.commit_holds (hc : h.Custody lease Has) (hs : Holds Has lease tx s) :
    h.commit.Ensures tx s fun r tx' s' => Holds Has lease tx' s' ∧
      (r = .ok () ∨ h.WordsEnds → tx'.state.isFinal) := by
  have haborts : ∀ {tx s} (f : Option Failure → Failure), Holds Has lease tx s →
      (do let refusal ← h.abort; throw (f refusal) : TransactionTask σ Unit).Ensures tx s
        fun r tx' s' => Holds Has lease tx' s' ∧
          (r = .ok () ∨ h.WordsEnds → tx'.state.isFinal) := by
    intro tx s f hs
    rw [ensures_bind]
    refine (hc.abort_holds hs).imp ?_
    rintro r tx' s' ⟨hholds, hfinal⟩
    have hends : h.WordsEnds → tx'.state.isFinal := fun hwords =>
      hfinal (hwords.rollback tx.conn s)
    cases r <;> exact ⟨hholds, fun hor => hends (hor.resolve_left fun hok => by cases hok)⟩
  unfold Host.commit
  rw [ensures_bind, ensures_current]
  cases hstate : tx.state with
  | active =>
    obtain ⟨rfl, healthy, hhas⟩ := hs
    have hopen : tx.state.isFinal = false := by rw [hstate]; rfl
    rw [hopen] at hhas
    have hkeeps := hc.commit tx.conn hhas
    have hactive : (TransactionState.active == .failed) = false := rfl
    simp only [hstate, hactive, Bool.false_eq_true, if_false, unusable?]
    rw [ensures_bind, ensures_outcome, ensures_task]
    rcases hr : (h.calls.commit tx.conn).run s with ⟨f | u, s'⟩ <;>
      rw [hr] at hkeeps <;> rw [Task.ensures_run hr]
    · cases hf : f.isDriver with
      | true =>
        have hfails : Holds Has tx.lease { tx with state := .failed }
            (h.markUnhealthy tx.lease s').2 := ⟨rfl, false, hc.mark hkeeps⟩
        simp only [hf, if_true]
        rw [ensures_bind, ensures_state, ensures_bind, ensures_moveTo]
        exact haborts _ hfails
      | false =>
        have hstays : Holds Has tx.lease tx s' := ⟨rfl, healthy, by rwa [hopen]⟩
        have hforeign : h.WordsEnds → False := fun hwords => by
          have hdriver := hwords.commit tx.conn s f (by rw [hr])
          rw [hf] at hdriver
          cases hdriver
        simp only [hf, Bool.false_eq_true, if_false]
        exact ⟨hstays, fun hor => (hforeign (hor.resolve_left fun hok => by cases hok)).elim⟩
    · simp only [ensures_bind, ensures_moveTo]
      refine (hc.ensures_end .committed rfl hkeeps).imp ?_
      rintro r tx' s' ⟨hholds, hcommitted⟩
      exact ⟨hholds, fun _ => by rw [hcommitted]; rfl⟩
  | failed =>
    simp only [hstate, beq_self_eq_true, if_true]
    exact haborts _ hs
  | committed | rolledBack =>
    -- Nothing is done but to refuse.
    have hfinal : tx.state.isFinal = true := by rw [hstate]; rfl
    simp only [hstate]
    exact ⟨hs, fun _ => hfinal⟩

/-- A transaction can be rolled back as long as the driver words its failures. -/
theorem Custody.rollback_holds (hc : h.Custody lease Has) (hs : Holds Has lease tx s) :
    h.rollback.Ensures tx s fun _ tx' s' => Holds Has lease tx' s' ∧
      ((∀ f, ((h.calls.rollback tx.conn).run s).1 = .error f → f.isDriver) →
        tx'.state.isFinal) := by
  unfold Host.rollback
  rw [ensures_bind, ensures_current]
  cases hopen : tx.state.isFinal with
  | true =>
    simp only [hopen, if_true]
    exact ⟨hs, fun _ => hopen⟩
  | false =>
    simp only [hopen, Bool.false_eq_true, if_false]
    rw [ensures_bind]
    refine (hc.abort_holds hs).imp ?_
    intro r tx' s' hholds
    rcases r with f | _ | f <;> exact hholds

theorem Custody.leave_holds (hc : h.Custody lease Has) (failure : Option Failure)
    (hs : Holds Has lease tx s) :
    (h.leave failure).Ensures tx s fun _ tx' s' => Holds Has lease tx' s' := by
  unfold Host.leave
  rw [ensures_bind, ensures_current]
  cases hopen : tx.state.isFinal with
  | true =>
    simp only [hopen, if_true]
    exact hs
  | false =>
    cases failure with
    | none =>
      obtain ⟨rfl, healthy, hhas⟩ := hs
      have htold : Holds Has tx.lease tx (h.tell (.log .warning "transaction_unresolved"
          [("engine", .text h.tag), ("action", .text "rollback")]) s).2 :=
        ⟨rfl, healthy, hc.tell _ hhas⟩
      simp only [hopen, Bool.false_eq_true, if_false, Option.isNone_none, if_true]
      rw [ensures_bind]
      refine within_bind hc.within_abort (fun refusal => ?_) _ _ htold
      cases refusal with
      | none => exact within_pure ()
      | some f => exact within_throw f
    | some g =>
      simp only [hopen, Bool.false_eq_true, if_false, Option.isNone_some]
      exact within_bind hc.within_abort (fun _ => within_pure ()) _ _ hs

/-- A transaction that nobody has any more gives its lease back, whatever it has come to. -/
theorem Custody.abandon_over (hc : h.Custody lease Has) (hs : Holds Has lease tx s) :
    ∃ healthy, Has healthy true (h.abandon tx s).2 := by
  obtain ⟨rfl, healthy, hhas⟩ := hs
  unfold Host.abandon
  cases hopen : tx.state.isFinal with
  | true =>
    rw [hopen] at hhas
    simp only [if_true]
    exact ⟨healthy, hhas⟩
  | false =>
    rw [hopen] at hhas
    simp only [Bool.false_eq_true, if_false]
    exact ⟨false, hc.giveBack (hc.mark (hc.tell _ hhas))⟩

/-! ## Programs -/

/-- Programs that reach a lease only by way of its transaction.  They may make any of its calls, in
any order, after its end too, and do what they like with the outcomes. -/
inductive Uses (h : Host σ) (R : σ → σ → Prop) : {α : Type} → TransactionTask σ α → Prop where
  | give {α : Type} (a : α) : Uses h R (pure a)
  | raise {α : Type} (f : Failure) : Uses h R (throw f : TransactionTask σ α)
  | elsewhere {α : Type} (m : StateM σ α) (hm : ∀ s, R s (m s).2) :
    Uses h R (liftM m : TransactionTask σ α)
  | look : Uses h R current
  | run (q : Request) (limits : CallLimits) : Uses h R (h.inTransaction.run q limits)
  | execute (q : Request) (limits : CallLimits) : Uses h R (h.inTransaction.execute q limits)
  | executeRaw (sql args : Native) (limits : CallLimits) :
    Uses h R (h.inTransaction.executeRaw sql args limits)
  | fetch (q : Request) (target : FetchTarget) (mapper : Option RecordMapper)
      (limits : CallLimits) : Uses h R (h.inTransaction.fetch q target mapper limits)
  | fetchOne (q : Request) (target : FetchTarget) (mapper : Option RecordMapper)
      (limits : CallLimits) : Uses h R (h.inTransaction.fetchOne q target mapper limits)
  | commit : Uses h R h.commit
  | rollback : Uses h R h.rollback
  | leave (failure : Option Failure) : Uses h R (h.leave failure)
  | outcome {α : Type} {t : TransactionTask σ α} (ht : Uses h R t) :
    Uses h R (TransactionTask.outcome t)
  | bind {α β : Type} {t : TransactionTask σ α} {k : α → TransactionTask σ β} (ht : Uses h R t)
      (hk : ∀ a, Uses h R (k a)) : Uses h R (t >>= k)

/-- No program makes a transaction lose its lease, or keep it for too long. -/
theorem Custody.within_uses {R : σ → σ → Prop} (hc : h.Custody lease Has)
    (hR : ∀ {healthy ended s s'}, R s s' → Has healthy ended s → Has healthy ended s')
    {t : TransactionTask σ α} (ht : h.Uses R t) : Within (Keeps Has lease) t := by
  have htell : ∀ n, Within (Keeps Has lease) (h.inTransaction.tell n) := by
    rintro n tx s ⟨hlease, healthy, hhas⟩
    exact ⟨hlease, healthy, hc.tell n hhas⟩
  have hperform : ∀ b limits, Within (Keeps Has lease) (h.inTransaction.perform b limits) :=
    fun b limits _ _ hs => hc.performIn_holds b limits hs
  induction ht with
  | give a => exact within_pure a
  | raise f => exact within_throw f
  | elsewhere m hm =>
    rintro tx s ⟨hlease, healthy, hhas⟩
    exact ⟨hlease, healthy, hR (hm s) hhas⟩
  | look => exact fun tx s hs => hs
  | run q limits => exact within_run htell hperform q limits
  | execute q limits => exact within_execute htell hperform q limits
  | executeRaw sql args limits => exact within_executeRaw hperform sql args limits
  | fetch q target mapper limits => exact within_fetch htell hperform q target mapper limits
  | fetchOne q target mapper limits => exact within_fetchOne htell hperform q target mapper limits
  | commit => exact fun _ _ hs => (hc.commit_holds hs).imp fun _ _ _ hholds => hholds.1
  | rollback => exact fun _ _ hs => (hc.rollback_holds hs).imp fun _ _ _ hholds => hholds.1
  | leave failure => exact fun _ _ hs => hc.leave_holds failure hs
  | outcome ht ih => exact ih
  | bind ht hk iht ihk => exact within_bind iht ihk

/-! ## Steps -/

/-- Only an interruption gets out of the steps. -/
theorem takeSteps_holds {steps : List (TransactionTask σ α)}
    (hsteps : ∀ step ∈ steps, Within (Keeps Has lease) step) (n : Nat)
    (hs : Holds Has lease tx s) :
    (takeSteps n steps).Ensures tx s fun r tx' s' => Holds Has lease tx' s' ∧
      ∀ f, r = .error f → f.isOrdinary = false := by
  induction steps generalizing n tx s with
  | nil =>
    refine ⟨hs, ?_⟩
    rintro f ⟨⟩
  | cons step rest ih =>
    have hrest : ∀ step ∈ rest, Within (Keeps Has lease) step :=
      fun step hstep => hsteps step (List.mem_cons_of_mem _ hstep)
    unfold takeSteps
    rw [ensures_bind, ensures_outcome]
    have hfirst : step.Ensures tx s fun _ tx' s' => Holds Has lease tx' s' :=
      hsteps step List.mem_cons_self tx s hs
    refine hfirst.imp ?_
    intro r tx' s' hholds
    cases r with
    | error f =>
      cases hf : f.isOrdinary with
      | true =>
        simp only [hf, if_true]
        refine ⟨hholds, ?_⟩
        rintro _ ⟨⟩
      | false =>
        simp only [hf, Bool.false_eq_true, if_false]
        refine ⟨hholds, ?_⟩
        rintro _ ⟨⟩
        exact hf
    | ok a =>
      simp only [ensures_bind]
      refine (ih hrest (n + 1) hholds).imp ?_
      rintro r tx'' s'' ⟨hholds', hordinary⟩
      cases r with
      | error f => exact ⟨hholds', hordinary⟩
      | ok results =>
        refine ⟨hholds', ?_⟩
        rintro _ ⟨⟩

/-- Steps in one transaction hold its lease or have given it back.  If there are results they have
given it back, and if the driver words its failures too, unless they were interrupted. -/
theorem Custody.allOrNothing_holds (hc : h.Custody lease Has)
    {steps : List (TransactionTask σ α)}
    (hsteps : ∀ step ∈ steps, Within (Keeps Has lease) step) (hs : Holds Has lease tx s) :
    (h.allOrNothing steps).Ensures tx s fun r tx' s' => Holds Has lease tx' s' ∧
      (∀ as, r = .ok as → tx'.state.isFinal) ∧
      (h.WordsEnds → tx'.state.isFinal ∨ ∃ f, r = .error f ∧ f.isOrdinary = false) := by
  unfold Host.allOrNothing
  rw [ensures_bind]
  refine (takeSteps_holds hsteps 0 hs).imp ?_
  rintro r tx' s' ⟨hholds, hordinary⟩
  rcases r with f | ⟨n, f⟩ | results
  · exact ⟨hholds, nofun, fun _ => .inr ⟨f, rfl, hordinary f rfl⟩⟩
  · simp only [ensures_bind]
    refine (hc.abort_holds hholds).imp ?_
    rintro r tx'' s'' ⟨⟨hlease, healthy, hhas⟩, hfinal⟩
    have hends : h.WordsEnds → tx''.state.isFinal := fun hwords =>
      hfinal (hwords.rollback tx'.conn s')
    cases r with
    | error g => exact ⟨⟨hlease, healthy, hhas⟩, nofun, fun hwords => .inl (hends hwords)⟩
    | ok refusal =>
      simp only [ensures_task, ensures_throw]
      exact ⟨⟨hlease, healthy, hc.tell _ hhas⟩, nofun, fun hwords => .inl (hends hwords)⟩
  · simp only [ensures_bind]
    refine (hc.commit_holds hholds).imp ?_
    rintro r tx'' s'' ⟨hholds', hfinal⟩
    cases r with
    | error g => exact ⟨hholds', nofun, fun hwords => .inl (hfinal (.inr hwords))⟩
    | ok _ => exact ⟨hholds', fun _ _ => hfinal (.inl rfl), fun _ => .inl (hfinal (.inl rfl))⟩

end Host

/-! ## At an office -/

namespace Desk

/-- A lease is out: one more connection is in use than before. -/
def Out (lease : Nat) (used : Int) (d : Desk) : Prop :=
  ∃ healthy, Counted lease used healthy false d

/-- A lease has been given back: as many connections are in use as before. -/
def Back (lease : Nat) (used : Int) (d : Desk) : Prop :=
  ∃ healthy, Counted lease used healthy true d

end Desk

namespace Office

open Transaction

variable {α σ : Type} {o : Office σ} {calls : DriverCalls σ} {lease : Nat} {s : σ}

/-- A lease counts for one connection in use beside so many others, until it is over. -/
abbrev Counts (o : Office σ) (lease : Nat) (used : Int) (healthy ended : Bool) (s : σ) : Prop :=
  Desk.Counted lease used healthy ended (o.desk s)

/-- The statement that begins a transaction ends in a failure that is not the driver's. -/
def Strands (o : Office σ) (calls : DriverCalls σ) (timeout : Option Seconds) (lease : Nat) (s : σ)
    (f : Failure) (s' : σ) : Prop :=
  ∃ s₁ conn, o.call (.checkout timeout) s = (.ok (some lease), s₁) ∧
    connectionAt (o.desk s₁) lease = .ok conn ∧ (calls.begin conn).run s₁ = (.error f, s') ∧
    f.isDriver = false

/-- How the beginning of a transaction ends. -/
inductive Begins (o : Office σ) (calls : DriverCalls σ) (timeout : Option Seconds) (lease : Nat)
    (s : σ) : Except Failure Transaction → σ → Prop where
  /-- Nothing is lent. -/
  | unlent {f : Failure} {s' : σ}
    (hnone : ∀ l, (o.call (.checkout timeout) s).1 ≠ .ok (some l))
    (hsame : (o.desk s').pool.inUse = (o.desk s).pool.inUse) : Begins o calls timeout lease s
      (.error f) s'
  | begun {conn : Nat} {s' : σ}
    (hout : Desk.Out lease (o.desk s).pool.inUse (o.desk s')) :
    Begins o calls timeout lease s (.ok ⟨lease, conn, .active⟩) s'
  /-- The driver refuses to begin. -/
  | refused {f : Failure} {s' : σ} (hf : f.isDriver = true)
    (hback : Desk.Back lease (o.desk s).pool.inUse (o.desk s')) :
    Begins o calls timeout lease s (.error f) s'
  /-- There is no transaction, and nobody gives the lease back. -/
  | stranded {f : Failure} {s' : σ} (hstrands : o.Strands calls timeout lease s f s')
    (hout : Desk.Out lease (o.desk s).pool.inUse (o.desk s')) :
    Begins o calls timeout lease s (.error f) s'

theorem Surrounded.begin_begins (hsur : o.Surrounded calls (Desk.Balances lease))
    (hord : o.Orderly) (hturns : 1 ≤ o.turns) (driver : Driver)
    (patience timeout : Option Seconds)
    (hends : (o.call (.checkout timeout) s).1 ≠ .error unfinished)
    (hlease : ∀ l, (o.call (.checkout timeout) s).1 = .ok (some l) → l = lease) :
    ((o.host driver calls patience).begin timeout).Ensures s (o.Begins calls timeout lease s) := by
  have hd : Desk.Custody (Desk.Balances lease) lease
      (Desk.Counted lease (o.desk s).pool.inUse) := Desk.counted_custody
  have hc := hsur.custody hd driver patience
  have hreturns : (o.host driver calls patience).Returns lease fun healthy ended s' =>
      Desk.Counted lease (o.desk s).pool.inUse healthy ended (o.desk s') :=
    hsur.returns hd driver patience hturns hord.close
  rcases hcall : o.call (.checkout timeout) s with ⟨r, s₁⟩
  rw [hcall] at hends hlease
  obtain ⟨hlent, hfailed⟩ := hsur.checkout_visits hord (fun h => h.1) hcall hends
  unfold Host.begin
  rw [Task.ensures_bind, host_checkout driver patience timeout hcall]
  rcases r with f | _ | l
  · exact .unlent (by rw [hcall]; nofun) (hfailed nofun)
  · exact .unlent (by rw [hcall]; nofun) (hfailed nofun)
  obtain rfl := hlease l rfl
  obtain ⟨d, slot, hslot, hbalances⟩ := hsur.call_lends hcall
  have hentry := hbalances.2 _ hslot
  have hconn : connectionAt (o.desk s₁) l = .ok slot.raw := by
    rw [connectionAt, hentry]
    rfl
  have hcounted : Desk.Counted l (o.desk s).pool.inUse true false (o.desk s₁) :=
    ⟨⟨slot, hentry⟩, hlent l rfl⟩
  -- Whatever the driver does at the beginning, it does not reach the lease.
  have hkept := hd.outside (hsur.begin slot.raw s₁) hcounted
  simp only [Task.ensures_bind, host_connection, hconn, Task.ensures_outcome]
  change (calls.begin slot.raw).Ensures s₁ _
  rcases hr : (calls.begin slot.raw).run s₁ with ⟨f | _, s₂⟩ <;>
    rw [hr] at hkept <;> rw [Task.ensures_run hr]
  · cases hf : f.isDriver with
    | true =>
      simp only [hf, if_true, Task.ensures_bind, Task.ensures_state]
      refine (hc.release (hc.mark hkept)).imp ?_
      rintro r s₃ ⟨hover, hends⟩
      cases hends hreturns
      exact .refused hf ⟨false, hover⟩
    | false =>
      simp only [hf, Bool.false_eq_true, if_false]
      exact .stranded ⟨s₁, slot.raw, hcall, hconn, hr, hf⟩ ⟨true, hkept⟩
  · exact .begun ⟨true, hkept⟩

/-- Where the lease of a transaction is. -/
structure Placed (o : Office σ) (h : Host σ) (lease : Nat) (used : Int) (tx : Transaction) (s : σ) :
    Prop where
  /-- A transaction that is over has given its lease back. -/
  closed : tx.state.isFinal = true → Desk.Back lease used (o.desk s)
  /-- One that is not, active or failed, has it still, -/
  held : tx.state.isFinal = false → tx.lease = lease ∧ Desk.Out lease used (o.desk s)
  /-- and gives it back when it is rolled back, if the driver does that or words its failure. -/
  rescued : (∀ f, ((h.calls.rollback tx.conn).run s).1 = .error f → f.isDriver) →
    h.rollback.Ensures tx s fun _ tx' s' =>
      tx'.state.isFinal = true ∧ Desk.Back lease used (o.desk s')
  /-- A transaction that nobody has any more gives its lease back in any case. -/
  abandoned : Desk.Back lease used (o.desk (h.abandon tx s).2)

/-- What becomes of the lease of a transaction. -/
structure Tracked (o : Office σ) (calls : DriverCalls σ) (driver : Driver)
    (patience : Option Seconds) (lease : Nat) (s : σ) : Prop where
  begins : ∀ timeout,
    ((o.host driver calls patience).begin timeout).Ensures s (o.Begins calls timeout lease s)
  /-- Whatever a program does with a transaction that has begun, and whatever the driver raises. -/
  uses : ∀ timeout tx s₁, ((o.host driver calls patience).begin timeout).run s = (.ok tx, s₁) →
    ∀ {α : Type} {t : TransactionTask σ α}, (o.host driver calls patience).Uses
      (fun s s' => Desk.Balances lease (o.desk s) (o.desk s')) t → t.Ensures tx s₁ fun _ tx' s' =>
        o.Placed (o.host driver calls patience) lease (o.desk s).pool.inUse tx' s'
  /-- So too for steps that are taken together; they end their transaction if the driver words the
  failures of its end and no step is interrupted. -/
  steps : ∀ timeout tx s₁, ((o.host driver calls patience).begin timeout).run s = (.ok tx, s₁) →
    ∀ {α : Type} {steps : List (TransactionTask σ α)},
      (∀ step ∈ steps, (o.host driver calls patience).Uses
        (fun s s' => Desk.Balances lease (o.desk s) (o.desk s')) step) →
      ((o.host driver calls patience).allOrNothing steps).Ensures tx s₁ fun r tx' s' =>
        o.Placed (o.host driver calls patience) lease (o.desk s).pool.inUse tx' s' ∧
          (∀ as, r = .ok as → tx'.state.isFinal) ∧
          ((o.host driver calls patience).WordsEnds →
            tx'.state.isFinal ∨ ∃ f, r = .error f ∧ f.isOrdinary = false)
  /-- Steps in a transaction of their own begin it as any other, and leave it where it belongs.  The
  caller has it only by the failure that left it: once he has done with that, the lease is back. -/
  whole : ∀ {α : Type} {steps : List (TransactionTask σ α)},
    (∀ step ∈ steps, (o.host driver calls patience).Uses
      (fun s s' => Desk.Balances lease (o.desk s) (o.desk s')) step) →
    ((o.host driver calls patience).wholeInTransaction steps).Ensures s fun r s' =>
      match r with
      | .error f => o.Begins calls none lease s (.error f) s'
      | .ok (_, tx) => o.Placed (o.host driver calls patience) lease (o.desk s).pool.inUse tx s'
  /-- Where there are results the lease is back.  Where they fail it is back too, or was never lent;
  or it is still out: there is no transaction, or its end was interrupted or raised what is not
  the driver's. -/
  executes : ∀ {α : Type} {steps : List (TransactionTask σ α)},
    (∀ step ∈ steps, (o.host driver calls patience).Uses
      (fun s s' => Desk.Balances lease (o.desk s) (o.desk s')) step) →
    ((o.host driver calls patience).executeInTransaction steps).Ensures s fun r s' =>
      match r with
      | .ok _ => Desk.Back lease (o.desk s).pool.inUse (o.desk s')
      | .error f => Desk.Back lease (o.desk s).pool.inUse (o.desk s') ∨
          ((∀ l, (o.call (.checkout none) s).1 ≠ .ok (some l)) ∧
            (o.desk s').pool.inUse = (o.desk s).pool.inUse) ∨
          Desk.Out lease (o.desk s).pool.inUse (o.desk s') ∧
            (o.Strands calls none lease s f s' ∨ f.isOrdinary = false ∨
              ¬ (o.host driver calls patience).WordsEnds)

section

variable {used : Int} {h : Host σ} {tx : Transaction}

/-- The lease of a transaction that holds it is where it belongs. -/
theorem placed_of_holds
    (hc : h.Custody lease (o.Counts lease used)) (hs : Holds (o.Counts lease used) lease tx s) :
    o.Placed h lease used tx s where
  closed hfinal := by
    obtain ⟨-, healthy, hcounted⟩ := hs
    exact ⟨healthy, hfinal ▸ hcounted⟩
  held hopen := by
    obtain ⟨hlease, healthy, hcounted⟩ := hs
    exact ⟨hlease, healthy, hopen ▸ hcounted⟩
  rescued hwords := by
    refine (hc.rollback_holds hs).imp ?_
    rintro r tx' s' ⟨⟨-, healthy, hcounted⟩, hfinal⟩
    exact ⟨hfinal hwords, healthy, hfinal hwords ▸ hcounted⟩
  abandoned := hc.abandon_over hs

/-- A transaction that has begun has its lease. -/
theorem Begins.holds {timeout : Option Seconds} {s' : σ}
    (hbegins : o.Begins calls timeout lease s (.ok tx) s') :
    Holds (o.Counts lease (o.desk s).pool.inUse) lease tx s' := by
  cases hbegins with
  | begun hout => exact ⟨rfl, hout⟩

variable (hc : h.Custody lease (o.Counts lease (o.desk s).pool.inUse))
  (hbegins : (h.begin none).Ensures s (o.Begins calls none lease s))
  {steps : List (TransactionTask σ α)}
  (hsteps : ∀ step ∈ steps, Within (Keeps (o.Counts lease (o.desk s).pool.inUse) lease) step)
include hc hbegins hsteps

/-- Steps in a transaction of their own leave it where it belongs, if it begins. -/
theorem whole_placed : (h.wholeInTransaction steps).Ensures s fun r s' =>
    match r with
    | .error f => o.Begins calls none lease s (.error f) s'
    | .ok (r, tx) => o.Placed h lease (o.desk s).pool.inUse tx s' ∧
        (∀ as, r = .ok as → tx.state.isFinal) ∧
        (h.WordsEnds → tx.state.isFinal ∨ ∃ f, r = .error f ∧ f.isOrdinary = false) := by
  unfold Host.wholeInTransaction
  rw [Task.ensures_bind]
  refine hbegins.imp ?_
  intro r s₁ hexit
  cases r with
  | error f => exact hexit
  | ok tx =>
    have hall := hc.allOrNothing_holds hsteps hexit.holds
    exact ⟨placed_of_holds hc hall.1, hall.2⟩

/-- Their outcome tells where the lease is. -/
theorem executes_placed : (h.executeInTransaction steps).Ensures s fun r s' =>
    match r with
    | .ok _ => Desk.Back lease (o.desk s).pool.inUse (o.desk s')
    | .error f => Desk.Back lease (o.desk s).pool.inUse (o.desk s') ∨
        ((∀ l, (o.call (.checkout none) s).1 ≠ .ok (some l)) ∧
          (o.desk s').pool.inUse = (o.desk s).pool.inUse) ∨
        Desk.Out lease (o.desk s).pool.inUse (o.desk s') ∧
          (o.Strands calls none lease s f s' ∨ f.isOrdinary = false ∨ ¬ h.WordsEnds) := by
  unfold Host.executeInTransaction
  rw [Task.ensures_bind]
  refine (whole_placed hc hbegins hsteps).imp ?_
  rintro (f | ⟨r, tx⟩) s' hleft
  · cases hleft with
    | unlent hnone hsame => exact .inr (.inl ⟨hnone, hsame⟩)
    | refused hf hback => exact .inl hback
    | stranded hstrands hout => exact .inr (.inr ⟨hout, .inl hstrands⟩)
  · obtain ⟨hplaced, hresults, hwords⟩ := hleft
    cases r with
    | ok as => exact hplaced.closed (hresults as rfl)
    | error f =>
      cases hfinal : tx.state.isFinal with
      | true => exact .inl (hplaced.closed hfinal)
      | false =>
        refine .inr (.inr ⟨(hplaced.held hfinal).2, .inr ?_⟩)
        by_cases hdriver : h.WordsEnds
        · obtain hover | ⟨_, hf, hordinary⟩ := hwords hdriver
          · rw [hfinal] at hover
            cases hover
          · cases hf
            exact .inl hordinary
        · exact .inr hdriver

end

/-- At an office that others visit too, a transaction's lease is never lost, whatever the driver
raises from the statements that control it, but for one case: a failure that is not the driver's
from the statement that begins it. -/
theorem Surrounded.transactions_tracked (hsur : o.Surrounded calls (Desk.Balances lease))
    (hord : o.Orderly) (hturns : 1 ≤ o.turns) (driver : Driver) (patience : Option Seconds)
    (hends : ∀ timeout, (o.call (.checkout timeout) s).1 ≠ .error unfinished)
    (hlease : ∀ timeout l, (o.call (.checkout timeout) s).1 = .ok (some l) → l = lease) :
    o.Tracked calls driver patience lease s := by
  have hd : Desk.Custody (Desk.Balances lease) lease
      (Desk.Counted lease (o.desk s).pool.inUse) := Desk.counted_custody
  have hc : (o.host driver calls patience).Custody lease (o.Counts lease (o.desk s).pool.inUse) :=
    hsur.custody hd driver patience
  have hbegins := fun timeout =>
    hsur.begin_begins hord hturns driver patience timeout (hends timeout) (hlease timeout)
  have huses : ∀ {α : Type} {t : TransactionTask σ α}, (o.host driver calls patience).Uses
      (fun s s' => Desk.Balances lease (o.desk s) (o.desk s')) t →
        Within (Keeps (o.Counts lease (o.desk s).pool.inUse) lease) t :=
    fun ht => hc.within_uses (fun hR hhas => hd.outside hR hhas) ht
  refine ⟨hbegins, ?_, ?_, ?_, ?_⟩
  · intro timeout tx s₁ hrun α t ht
    have hexit := hbegins timeout
    rw [Task.ensures_run hrun] at hexit
    have hholds := huses ht tx s₁ hexit.holds
    exact placed_of_holds hc hholds
  · intro timeout tx s₁ hrun α steps hsteps
    have hexit := hbegins timeout
    rw [Task.ensures_run hrun] at hexit
    refine (hc.allOrNothing_holds (fun step hstep => huses (hsteps step hstep))
      hexit.holds).imp ?_
    rintro r tx' s' ⟨hholds, hends⟩
    exact ⟨placed_of_holds hc hholds, hends⟩
  · intro α steps hsteps
    refine (whole_placed hc (hbegins none) fun step hstep => huses (hsteps step hstep)).imp ?_
    rintro (f | ⟨r, tx⟩) s' hleft
    · exact hleft
    · exact hleft.1
  · intro α steps hsteps
    exact executes_placed hc (hbegins none) fun step hstep => huses (hsteps step hstep)

open Transaction (quietOffice plainDriver refusingCalls)

/-- What a client library may raise that is no error of its own kind. -/
def surprise : Failure := .foreign { kind := .other "RuntimeError", text := "boom" }

/-- A driver that cannot begin. -/
def surprisedCalls : DriverCalls Desk := { refusingCalls with begin := fun _ => throw surprise }

/-- What comes of a transaction that cannot begin, and what is left. -/
def surprisedBegin : Except Failure Transaction × Desk :=
  ((quietOffice.host plainDriver surprisedCalls none).begin none).run quietDesk

/-- The beginning of a transaction ends in a failure that is no interruption; its connection stays
in use, and its lease is never over. -/
theorem begin_strands :
    surprisedBegin.1 = .error surprise ∧ surprise.isOrdinary = true ∧
      (∀ l ∈ surprisedBegin.2.leases, l.released = false) ∧ surprisedBegin.2.leases.length = 1 ∧
      quietDesk.pool.inUse = 0 ∧ surprisedBegin.2.pool.inUse = 1 := by
  refine ⟨rfl, rfl, ?_, rfl, rfl, rfl⟩
  intro l hl
  have hleases : surprisedBegin.2.leases.map Lease.released = [false] := rfl
  have hmem := List.mem_map_of_mem (f := Lease.released) hl
  rw [hleases] at hmem
  exact List.mem_singleton.1 hmem

/-- What comes of steps whose commit ends in a failure that is not the driver's. -/
def surprisedCommit : Except Failure (Except Failure (List Nat) × Transaction) × Desk :=
  ((quietOffice.host plainDriver { refusingCalls with commit := fun _ => throw surprise }
    none).wholeInTransaction [pure 5]).run quietDesk

/-- As long as the caller has such a failure, the connection of the transaction that it left stays
in use; when he has done with it, the connection is closed. -/
theorem commit_keeps_connection :
    surprisedCommit.1 = .ok (.error surprise, ⟨0, 7, .active⟩) ∧
      surprisedCommit.2.pool.inUse = 1 ∧
      ((quietOffice.host plainDriver { refusingCalls with commit := fun _ => throw surprise }
        none).abandon ⟨0, 7, .active⟩ surprisedCommit.2).2.pool.inUse = 0 :=
  ⟨rfl, rfl, rfl⟩

/-- At an office that nobody else visits, whatever is done with a transaction whose statements are
refused. -/
theorem transactions_tracked_quiet :
    quietOffice.Surrounded refusingCalls (Desk.Balances 0) ∧ quietOffice.Orderly ∧
      1 ≤ quietOffice.turns ∧
      (∀ timeout, (quietOffice.call (.checkout timeout) quietDesk).1 ≠ .error unfinished) ∧
      (∀ timeout l, (quietOffice.call (.checkout timeout) quietDesk).1 = .ok (some l) → l = 0) ∧
      quietOffice.Tracked refusingCalls plainDriver none 0 quietDesk := by
  have hlent : ∀ timeout, (quietOffice.call (.checkout timeout) quietDesk).1 = .ok (some 0) :=
    fun _ => rfl
  have hends : ∀ timeout,
      (quietOffice.call (.checkout timeout) quietDesk).1 ≠ .error unfinished := by
    intro timeout
    rw [hlent]
    nofun
  have hlease : ∀ timeout l,
      (quietOffice.call (.checkout timeout) quietDesk).1 = .ok (some l) → l = 0 := by
    intro timeout l hl
    rw [hlent] at hl
    cases hl
    rfl
  have hsur := refusing_surrounded (Desk.Balances 0)
  exact ⟨hsur, quiet_orderly, by decide, hends, hlease,
    hsur.transactions_tracked quiet_orderly (by decide) plainDriver none hends hlease⟩

end Office

end SqlGateway
