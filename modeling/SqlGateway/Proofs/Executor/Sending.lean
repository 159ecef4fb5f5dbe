import SqlGateway.Proofs.Executor.Health
set_option autoImplicit false

/-!
# Executor: the statements that a driver is sent

A host can keep a record of the statements that its driver is sent: each with its
parameters, the connection and what the driver made of it.  `Posted` is what one statement
adds to the record, `Performed` what a runner adds that has to find a connection for it
first.  Nothing else is added, and a result is never made up: it is the one that the
driver gave for the statement.
-/

namespace SqlGateway

/-- A statement as the driver was sent it, and what came of it. -/
structure Dispatch where
  conn : Nat
  sql : String
  params : List Native
  interrupted : Bool
  result : Except Failure DriverResult

/-- Why nothing is sent in a transaction: it is not active. -/
def Transaction.Unusable (tx : Transaction) (f : Failure) : Prop :=
  Host.unusable? tx.state = some f

namespace Host

variable {σ : Type}

/-- The host that keeps a record of the statements that its driver is sent. -/
def recorded (h : Host σ) : Host (σ × List Dispatch) :=
  { h.alongside with
    calls := { h.alongside.calls with
      execute conn sql params alarm onAlarm := fun (s, sent) =>
        noting (h.calls.execute conn sql params alarm (beneath sent onAlarm))
          (fun r => ⟨conn, sql, params, r.1, r.2⟩) (s, sent) } }

/-! ## One statement -/

/-- What comes of a statement on a connection, and what is added to the record.  It is not sent if
one of its values has no form that the driver takes, or if the call has been broken off by then. -/
inductive Posted (h : Host σ) (b : BoundStatement) (limits : CallLimits) (conn : Nat) :
    Except Failure DriverResult → List Dispatch → Prop where
  | unencodable {f : Failure} (hencoded : h.parameters b = .error f) :
      Posted h b limits conn (.error f) []
  | cancelled {now : Seconds} {f : Failure} (hcancelled : limits.cancelledBy now = true) :
      Posted h b limits conn (.error f) []
  | answered {params : List Native} (interrupted : Bool) (result : DriverResult)
      (hencoded : h.parameters b = .ok params) :
      Posted h b limits conn (.ok result) [⟨conn, b.sql, params, interrupted, .ok result⟩]
  | refused {params : List Native} (interrupted : Bool) (g f : Failure)
      (hencoded : h.parameters b = .ok params) :
      Posted h b limits conn (.error f) [⟨conn, b.sql, params, interrupted, .error g⟩]

/-- What is left of the time of a call does not matter to who breaks it off. -/
theorem Posted.limits {h : Host σ} {b : BoundStatement} {left limits : CallLimits} {conn : Nat}
    {r : Except Failure DriverResult} {news : List Dispatch}
    (hsame : left.cancelAt = limits.cancelAt) (hposted : h.Posted b left conn r news) :
    h.Posted b limits conn r news := by
  cases hposted with
  | unencodable hencoded => exact .unencodable hencoded
  | cancelled hcancelled =>
    rw [CallLimits.cancelledBy, hsame] at hcancelled
    exact .cancelled hcancelled
  | answered interrupted result hencoded => exact .answered interrupted result hencoded
  | refused interrupted g f hencoded => exact .refused interrupted g f hencoded

/-! ## Reports

What a host reports, reads from its clock and marks keeps whatever each of these keeps. -/

section

variable {h : Host σ} {R : σ → σ → Prop} [IsPreorder σ R]
  (htell : ∀ n s, R s (h.tell n s).2) (hnow : ∀ s, R s (h.now s).2)
  (hmark : ∀ lease s, R s (h.markUnhealthy lease s).2)

include htell

theorem reportAll_within (notices : List Notice) (s : σ) :
    (h.reportAll notices).Ensures s fun r s' => r = .ok () ∧ R s s' := by
  induction notices generalizing s with
  | nil => exact ⟨rfl, refl_of R s⟩
  | cons n rest ih =>
    have hrest : (h.reportAll rest).Ensures (h.tell n s).2 fun r s' => r = .ok () ∧ R s s' :=
      (ih (h.tell n s).2).imp fun _ _ hR => ⟨hR.1, trans_of R (htell n s) hR.2⟩
    exact (Task.ensures_bind _ _ _).2 hrest

include hnow hmark

/-- The end of a statement gives the result that the driver gave, or a failure if it failed. -/
theorem conclude_within (lease : Nat) (b : BoundStatement) (started : Seconds) (fired : Bool)
    (r : Except Failure DriverResult) (s : σ) :
    (h.conclude lease b started fired r).Ensures s fun r' s' => R s s' ∧
      match r with
      | .ok result => r' = .ok result
      | .error _ => ∃ f, r' = .error f := by
  have hreports : ∀ {notices s₁ f}, R s s₁ →
      ((h.reportAll notices >>= fun _ => throw f : Task σ DriverResult)).Ensures s₁ fun r' s' =>
        R s s' ∧ ∃ f, r' = .error f := by
    intro notices s₁ f hR
    rw [Task.ensures_bind]
    refine (reportAll_within htell notices s₁).imp ?_
    rintro r s' ⟨rfl, hR'⟩
    exact ⟨trans_of R hR hR', f, rfl⟩
  unfold Host.conclude
  cases r with
  | ok result =>
    have hdone : ∀ s₁, R s s₁ → (do
        h.reportAll (h.reportDone b ((← h.now) - started) result)
        return result : Task σ DriverResult).Ensures s₁ fun r' s' => R s s' ∧ r' = .ok result := by
      intro s₁ hR
      simp only [Task.ensures_bind, Task.ensures_state, Task.ensures_pure]
      refine (reportAll_within htell _ _).imp ?_
      rintro r s' ⟨rfl, hR'⟩
      exact ⟨trans_of R hR (trans_of R (hnow s₁) hR'), trivial⟩
    cases fired with
    | false => exact hdone s (refl_of R s)
    | true =>
      dsimp only
      rw [if_pos rfl, Task.ensures_bind, Task.ensures_state]
      exact hdone _ (hmark lease s)
  | error f =>
    have hmarked := hmark lease s
    simp only [Task.ensures_bind, Task.ensures_state]
    split
    · split
      · exact ⟨hmarked, _, rfl⟩
      · exact hreports hmarked
    · exact hreports hmarked

end

/-! ## Sending -/

section

variable (h : Host σ) (s : σ) (sent : List Dispatch)

/-- Two states have the same record. -/
def SameRecord (a b : σ × List Dispatch) : Prop := b.2 = a.2

instance : IsPreorder (σ × List Dispatch) SameRecord where
  refl _ := rfl
  trans _ _ _ hab hbc := hbc.trans hab

theorem recorded_tell (n : Notice) (st : σ × List Dispatch) :
    SameRecord st (h.recorded.tell n st).2 :=
  rfl

theorem recorded_now (st : σ × List Dispatch) : SameRecord st (h.recorded.now st).2 := rfl

theorem recorded_mark (lease : Nat) (st : σ × List Dispatch) :
    SameRecord st (h.recorded.markUnhealthy lease st).2 :=
  rfl

theorem recorded_reportAll (notices : List Notice) (st : σ × List Dispatch) :
    (h.recorded.reportAll notices).Ensures st fun r st' => r = .ok () ∧ st'.2 = st.2 :=
  reportAll_within h.recorded_tell notices st

theorem recorded_conclude (lease : Nat) (b : BoundStatement) (started : Seconds) (fired : Bool)
    (r : Except Failure DriverResult) (st : σ × List Dispatch) :
    (h.recorded.conclude lease b started fired r).Ensures st fun r' st' => st'.2 = st.2 ∧
      match r with
      | .ok result => r' = .ok result
      | .error _ => ∃ f, r' = .error f :=
  conclude_within h.recorded_tell h.recorded_now h.recorded_mark lease b started fired r st

/-- What the driver is sent is recorded with what it answers. -/
theorem recorded_execute (conn : Nat) (sql : String) (params : List Native)
    (alarm : Option Seconds) (onAlarm : StateM (σ × List Dispatch) Unit) (s : σ)
    (sent : List Dispatch) :
    h.recorded.calls.execute conn sql params alarm onAlarm (s, sent) =
      let ((interrupted, r), s') :=
        h.calls.execute conn sql params alarm (beneath sent onAlarm) s
      ((interrupted, r), s', sent ++ [⟨conn, sql, params, interrupted, r⟩]) :=
  rfl

/-- A statement on a connection is recorded just if it is sent. -/
theorem recorded_runOn (lease conn : Nat) (b : BoundStatement) (limits : CallLimits) :
    (h.recorded.runOn lease conn b limits).Ensures (s, sent) fun r st =>
      ∃ news, st.2 = sent ++ news ∧ h.Posted b limits conn r news := by
  unfold Host.runOn
  rw [Task.ensures_bind, Task.ensures_ofExcept]
  have hparameters : h.recorded.parameters b = h.parameters b := rfl
  rw [hparameters]
  cases hencoded : h.parameters b with
  | error f => exact ⟨[], (List.append_nil sent).symm, .unencodable hencoded⟩
  | ok params =>
    simp only [Task.ensures_bind, Task.ensures_state]
    split
    next hcancelled => exact ⟨[], (List.append_nil sent).symm, .cancelled hcancelled⟩
    next =>
      simp only [Task.ensures_bind, Task.ensures_state]
      have hsent := h.recorded_execute conn b.sql params (limits.alarm (h.now s).1)
        (h.recorded.interruptStatement conn) (h.now s).2 sent
      rcases hrun : h.calls.execute conn b.sql params (limits.alarm (h.now s).1)
        (beneath sent (h.recorded.interruptStatement conn)) (h.now s).2 with ⟨⟨fired, r⟩, s'⟩
      rw [hrun] at hsent
      rw [show (h.recorded.now (s, sent)).2 = ((h.now s).2, sent) from rfl,
        show (h.recorded.now (s, sent)).1 = (h.now s).1 from rfl, hsent]
      refine (h.recorded_conclude lease b _ fired r _).imp ?_
      rintro r' st ⟨hrecord, hconcluded⟩
      refine ⟨[⟨conn, b.sql, params, fired, r⟩], hrecord, ?_⟩
      cases r with
      | ok result =>
        obtain rfl := hconcluded
        exact .answered fired result hencoded
      | error g =>
        obtain ⟨f, rfl⟩ := hconcluded
        exact .refused fired g f hencoded

/-! ## Sending with a connection -/

/-- Why there is no connection: the pool lends none, or what it lends is not good. -/
def Unlent (f : Failure) : Prop :=
  (∃ timeout s, ((h.checkout timeout).run s).1 = .error f) ∨
    ∃ lease s, ((h.connection lease).run s).1 = .error f

/-- Why a lease does not go back. -/
def Unreturned (f : Failure) : Prop := ∃ lease s, ((h.giveBack lease).run s).1 = .error f

/-- What comes of a statement that first has to have a connection, and is then sent on it. -/
inductive Performed (h : Host σ) (b : BoundStatement) (limits : CallLimits)
    (Unlent Unreturned : Failure → Prop) :
    Except Failure DriverResult → List Dispatch → Prop where
  | cancelled {now : Seconds} {f : Failure} (hcancelled : limits.cancelledBy now = true) :
      Performed h b limits Unlent Unreturned (.error f) []
  | unlent {f : Failure} (hunlent : Unlent f) :
      Performed h b limits Unlent Unreturned (.error f) []
  | posted {conn : Nat} {r : Except Failure DriverResult} {news : List Dispatch}
      (hposted : h.Posted b limits conn r news) :
      Performed h b limits Unlent Unreturned r news
  | unreturned {r : Except Failure DriverResult} {news : List Dispatch} {f : Failure}
      (hperformed : Performed h b limits Unlent Unreturned r news) (hunreturned : Unreturned f) :
      Performed h b limits Unlent Unreturned (.error f) news

variable {h} in
/-- A result comes of one statement that was sent, and is the driver's. -/
theorem Performed.answered {b : BoundStatement} {limits : CallLimits}
    {Unlent Unreturned : Failure → Prop} {result : DriverResult} {news : List Dispatch}
    (hperformed : h.Performed b limits Unlent Unreturned (.ok result) news) :
    ∃ conn params interrupted, h.parameters b = .ok params ∧
      news = [⟨conn, b.sql, params, interrupted, .ok result⟩] := by
  cases hperformed with
  | posted hposted =>
    cases hposted with
    | answered interrupted result hencoded => exact ⟨_, _, interrupted, hencoded, rfl⟩

theorem recorded_checkout (timeout : Option Seconds)
    (Q : Except Failure Nat → σ × List Dispatch → Prop) :
    (h.recorded.checkout timeout).Ensures (s, sent) Q ↔
      (h.checkout timeout).Ensures s fun r s' => Q r (s', sent) :=
  Iff.rfl

theorem recorded_connection (lease : Nat) (Q : Except Failure Nat → σ × List Dispatch → Prop) :
    (h.recorded.connection lease).Ensures (s, sent) Q ↔
      (h.connection lease).Ensures s fun r s' => Q r (s', sent) :=
  Iff.rfl

/-- A lease goes back after what was done with it, unless it cannot. -/
theorem recorded_withLease (lease : Nat) {b : BoundStatement} {limits : CallLimits}
    {body : Task (σ × List Dispatch) DriverResult}
    (hbody : body.Ensures (s, sent) fun r st => ∃ news, st.2 = sent ++ news ∧
      h.Performed b limits h.Unlent h.Unreturned r news) :
    (h.recorded.withLease lease body).Ensures (s, sent) fun r st => ∃ news, st.2 = sent ++ news ∧
      h.Performed b limits h.Unlent h.Unreturned r news := by
  unfold Host.withLease
  rw [Task.ensures_bind, Task.ensures_outcome]
  refine hbody.imp ?_
  rintro r ⟨s', sent'⟩ ⟨news, hnews, hperformed⟩
  obtain rfl : sent' = sent ++ news := hnews
  have hback : ∀ s₁, (h.recorded.giveBack lease).Ensures (s₁, sent ++ news) fun given st =>
      st.2 = sent ++ news ∧ (given = .ok () ∨ ∃ f, given = .error f ∧ h.Unreturned f) := by
    intro s₁
    refine ⟨rfl, ?_⟩
    cases hgiven : ((h.giveBack lease).run s₁).1 with
    | ok => exact .inl hgiven
    | error f => exact .inr ⟨f, hgiven, lease, s₁, hgiven⟩
  cases r with
  | ok result =>
    simp only [Task.ensures_bind]
    refine (hback s').imp ?_
    rintro given st ⟨hsent, rfl | ⟨f, rfl, hunreturned⟩⟩
    · exact ⟨news, hsent, hperformed⟩
    · exact ⟨news, hsent, .unreturned hperformed hunreturned⟩
  | error g =>
    have hthrown : ∀ s₁, (do
        h.recorded.giveBack lease
        throw g : Task _ DriverResult).Ensures (s₁, sent ++ news) fun r st =>
          ∃ news, st.2 = sent ++ news ∧
            h.Performed b limits h.Unlent h.Unreturned r news := by
      intro s₁
      rw [Task.ensures_bind]
      refine (hback s₁).imp ?_
      rintro given st ⟨hsent, rfl | ⟨f, rfl, hunreturned⟩⟩
      · exact ⟨news, hsent, hperformed⟩
      · exact ⟨news, hsent, .unreturned hperformed hunreturned⟩
    cases hpoisons : g.poisons with
    | false =>
      simp only [hpoisons, Bool.false_eq_true, if_false]
      exact hthrown s'
    | true =>
      simp only [hpoisons, if_true]
      rw [Task.ensures_bind, Task.ensures_state]
      exact hthrown _

/-- A statement on the connection of a lease is recorded just if it is sent. -/
theorem recorded_onLease (lease : Nat) (b : BoundStatement) {left limits : CallLimits}
    (hsame : left.cancelAt = limits.cancelAt) :
    (h.recorded.withLease lease do
      let conn ← h.recorded.connection lease
      h.recorded.runOn lease conn b left).Ensures (s, sent) fun r st =>
        ∃ news, st.2 = sent ++ news ∧ h.Performed b limits h.Unlent h.Unreturned r news := by
  refine h.recorded_withLease s sent lease ?_
  rw [Task.ensures_bind, recorded_connection]
  rcases hconn : (h.connection lease).run s with ⟨f | conn, s'⟩ <;> rw [Task.ensures_run hconn]
  · exact ⟨[], (List.append_nil sent).symm,
      .unlent (.inr ⟨lease, s, congrArg Prod.fst hconn⟩)⟩
  · refine (h.recorded_runOn s' sent lease conn b left).imp ?_
    rintro r st ⟨news, hnews, hposted⟩
    exact ⟨news, hnews, .posted (hposted.limits hsame)⟩

/-- A statement on a connection of its own is recorded just if it is sent. -/
theorem recorded_perform (b : BoundStatement) (limits : CallLimits) :
    (h.recorded.perform b limits).Ensures (s, sent) fun r st =>
      ∃ news, st.2 = sent ++ news ∧ h.Performed b limits h.Unlent h.Unreturned r news := by
  unfold Host.perform
  rw [Task.ensures_bind]
  refine ensures_checkoutWithin limits ?_ ?_
  · intro hcancelled
    exact ⟨[], (List.append_nil sent).symm, .cancelled hcancelled⟩
  · intro _
    have hgrace : h.recorded.grace limits = h.grace limits := rfl
    rw [hgrace]
    refine (h.recorded_checkout (h.now s).2 sent _ _).2 ?_
    rcases hlent : (h.checkout (h.grace limits)).run (h.now s).2 with ⟨f | lease, s'⟩ <;>
      rw [Task.ensures_run hlent]
    · exact ⟨[], (List.append_nil sent).symm,
        .unlent (.inl ⟨h.grace limits, (h.now s).2, congrArg Prod.fst hlent⟩)⟩
    · rintro left _ (rfl | rfl) hsame
      · exact h.recorded_onLease s' sent lease b hsame
      · exact h.recorded_onLease (h.now s').2 sent lease b hsame

/-- A statement in a transaction is recorded just if it is sent. -/
theorem recorded_performIn (tx : Transaction) (b : BoundStatement) (limits : CallLimits) :
    (h.recorded.performIn b limits).Ensures tx (s, sent) fun r _ st =>
      ∃ news, st.2 = sent ++ news ∧
        h.Performed b limits tx.Unusable (fun _ => False) r news := by
  unfold Host.performIn
  simp only [TransactionTask.ensures_bind, TransactionTask.ensures_current]
  cases husable : unusable? tx.state with
  | some f => exact ⟨[], (List.append_nil sent).symm, .unlent husable⟩
  | none =>
    simp only [TransactionTask.ensures_bind, TransactionTask.ensures_outcome,
      TransactionTask.ensures_task, TransactionTask.ensures_state]
    refine (h.recorded_runOn s sent tx.lease tx.conn b limits).imp ?_
    rintro r ⟨s', sent'⟩ ⟨news, hnews, hposted⟩
    refine ⟨news, ?_⟩
    split <;> cases r <;> exact ⟨hnews, .posted hposted⟩

end

end Host

end SqlGateway
