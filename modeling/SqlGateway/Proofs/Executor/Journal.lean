import SqlGateway.Proofs.Executor.Outcome
set_option autoImplicit false

/-!
# Executor: what a driver is sent

A host can keep a journal of what it sends to its driver and of the leases that it gives
back.  The journal stands beside the state of the host and changes nothing that the host
does.  `Custody` is what is asked of a host for one lease: who has the lease notes
whether its connection is healthy and whether the lease is over, and nothing else changes
that.  A statement then adds at most one entry to the journal, and spoils the connection
exactly if the entry says that it failed or was interrupted.
-/

namespace SqlGateway

/-- The failure, if that is what came of an action. -/
def failure? {α : Type} : Except Failure α → Option Failure
  | .ok _ => none
  | .error f => some f

/-- What is noted of a transaction.  A call to the driver is noted with the failure that it ended
in, the steps of a program with what they gave. -/
inductive Entry (α : Type) where
  | begin (conn : Nat) (failure : Option Failure)
  | statement (conn : Nat) (sql : String) (interrupted : Bool) (failure : Option Failure)
  | commit (conn : Nat) (failure : Option Failure)
  | rollback (conn : Nat) (failure : Option Failure)
  /-- A lease is given back. -/
  | release (lease : Nat)
  | called (step : Nat)
  | returned (step : Nat) (a : α)
  | raised (step : Nat) (f : Failure)

namespace Entry

variable {α : Type}

/-- The driver did what it was asked to, without an interruption. -/
def isClean : Entry α → Bool
  | .begin _ failure | .commit _ failure | .rollback _ failure => failure.isNone
  | .statement _ _ interrupted failure => !interrupted && failure.isNone
  | _ => true

end Entry

/-! ## Hosts with a journal -/

section

variable {α β ε σ : Type}

/-- An action beside a journal. -/
def beside (m : StateM σ β) : StateM (σ × List ε) β :=
  fun (s, journal) => ((m s).1, (m s).2, journal)

/-- An action that is noted, with its outcome. -/
def noting (m : StateM σ β) (entry : β → ε) : StateM (σ × List ε) β :=
  fun (s, journal) => ((m s).1, (m s).2, journal ++ [entry (m s).1])

/-- An action without its journal. -/
def beneath (journal : List ε) (m : StateM (σ × List ε) β) : StateM σ β :=
  fun s => ((m (s, journal)).1, (m (s, journal)).2.1)

namespace Host

/-- The host beside a journal that nothing is noted in. -/
def alongside (h : Host σ) : Host (σ × List ε) where
  driver := h.driver
  calls := {
    begin conn := ExceptT.mk (beside (h.calls.begin conn).run)
    commit conn := ExceptT.mk (beside (h.calls.commit conn).run)
    rollback conn := ExceptT.mk (beside (h.calls.rollback conn).run)
    execute conn sql params alarm onAlarm := fun (s, journal) =>
      beside (h.calls.execute conn sql params alarm (beneath journal onAlarm)) (s, journal)
    interrupt conn := ExceptT.mk (beside (h.calls.interrupt conn).run) }
  tell n := beside (h.tell n)
  patience := h.patience
  now := beside h.now
  checkout timeout := ExceptT.mk (beside (h.checkout timeout).run)
  giveBack lease := ExceptT.mk (beside (h.giveBack lease).run)
  markUnhealthy lease := beside (h.markUnhealthy lease)
  healthy lease := beside (h.healthy lease)
  connection lease := ExceptT.mk (beside (h.connection lease).run)

/-- The host with a journal. -/
def noted (h : Host σ) : Host (σ × List (Entry α)) where
  driver := h.driver
  calls := {
    begin conn := ExceptT.mk (noting (h.calls.begin conn).run fun r => .begin conn (failure? r))
    commit conn := ExceptT.mk (noting (h.calls.commit conn).run fun r => .commit conn (failure? r))
    rollback conn :=
      ExceptT.mk (noting (h.calls.rollback conn).run fun r => .rollback conn (failure? r))
    execute conn sql params alarm onAlarm := fun (s, journal) =>
      noting (h.calls.execute conn sql params alarm (beneath journal onAlarm))
        (fun r => .statement conn sql r.1 (failure? r.2)) (s, journal)
    interrupt conn := ExceptT.mk (beside (h.calls.interrupt conn).run) }
  tell n := beside (h.tell n)
  patience := h.patience
  now := beside h.now
  checkout timeout := ExceptT.mk (beside (h.checkout timeout).run)
  giveBack lease := ExceptT.mk (noting (h.giveBack lease).run fun _ => .release lease)
  markUnhealthy lease := beside (h.markUnhealthy lease)
  healthy lease := beside (h.healthy lease)
  connection lease := ExceptT.mk (beside (h.connection lease).run)

variable (h : Host σ) (s : σ) (journal : List (Entry α))

/-- What an interruption does beside a journal is what it does. -/
theorem beneath_interruptStatement (conn : Nat) :
    beneath journal ((noted h : Host (σ × List (Entry α))).interruptStatement conn) =
      h.interruptStatement conn := by
  funext s
  rcases hr : (h.calls.interrupt conn).run s with ⟨f | delivered, s'⟩
  · by_cases hf : f.isOrdinary
    · simp [interruptStatement, beneath, noted, beside, bind, StateT.bind, hr, hf]
      rfl
    · simp [interruptStatement, beneath, noted, beside, bind, StateT.bind, hr, hf]
      rfl
  · simp [interruptStatement, beneath, noted, beside, bind, StateT.bind, hr]
    rfl

theorem noted_now : (noted h : Host (σ × List (Entry α))).now (s, journal) =
    ((h.now s).1, (h.now s).2, journal) :=
  rfl

theorem noted_healthy (lease : Nat) :
    (noted h : Host (σ × List (Entry α))).healthy lease (s, journal) =
      ((h.healthy lease s).1, (h.healthy lease s).2, journal) :=
  rfl

theorem noted_mark (lease : Nat) :
    ((noted h : Host (σ × List (Entry α))).markUnhealthy lease (s, journal)).2 =
      ((h.markUnhealthy lease s).2, journal) :=
  rfl

theorem noted_checkout (timeout : Option Seconds)
    (Q : Except Failure Nat → σ × List (Entry α) → Prop) :
    ((noted h).checkout timeout).Ensures (s, journal) Q ↔
      (h.checkout timeout).Ensures s fun r s' => Q r (s', journal) :=
  Iff.rfl

theorem noted_connection (lease : Nat) (Q : Except Failure Nat → σ × List (Entry α) → Prop) :
    ((noted h).connection lease).Ensures (s, journal) Q ↔
      (h.connection lease).Ensures s fun r s' => Q r (s', journal) :=
  Iff.rfl

theorem noted_begin (conn : Nat) (Q : Except Failure Unit → σ × List (Entry α) → Prop) :
    ((noted h).calls.begin conn).Ensures (s, journal) Q ↔
      (h.calls.begin conn).Ensures s fun r s' =>
        Q r (s', journal ++ [.begin conn (failure? r)]) :=
  Iff.rfl

theorem noted_commit (conn : Nat) (Q : Except Failure Unit → σ × List (Entry α) → Prop) :
    ((noted h).calls.commit conn).Ensures (s, journal) Q ↔
      (h.calls.commit conn).Ensures s fun r s' =>
        Q r (s', journal ++ [.commit conn (failure? r)]) :=
  Iff.rfl

theorem noted_rollback (conn : Nat) (Q : Except Failure Unit → σ × List (Entry α) → Prop) :
    ((noted h).calls.rollback conn).Ensures (s, journal) Q ↔
      (h.calls.rollback conn).Ensures s fun r s' =>
        Q r (s', journal ++ [.rollback conn (failure? r)]) :=
  Iff.rfl

theorem noted_giveBack (lease : Nat) (Q : Except Failure Unit → σ × List (Entry α) → Prop) :
    ((noted h).giveBack lease).Ensures (s, journal) Q ↔
      (h.giveBack lease).Ensures s fun r s' => Q r (s', journal ++ [.release lease]) :=
  Iff.rfl

theorem noted_report (n : Notice) (Q : Except Failure Unit → σ × List (Entry α) → Prop) :
    ((noted h).report n).Ensures (s, journal) Q ↔ Q (.ok ()) ((h.tell n s).2, journal) :=
  Iff.rfl

/-- Reports do not fail, and are not noted. -/
theorem noted_reportAll (notices : List Notice)
    (Q : Except Failure Unit → σ × List (Entry α) → Prop) :
    ((noted h).reportAll notices).Ensures (s, journal) Q ↔
      Q (.ok ()) (((h.reportAll notices).run s).2, journal) := by
  induction notices generalizing s with
  | nil => rfl
  | cons n rest ih => exact (Task.ensures_bind _ _ _).trans (ih (h.tell n s).2)

/-- A statement that runs beside a journal is watched as it is without. -/
theorem noted_execute (conn : Nat) (sql : String) (params : List Native)
    (alarm : Option Seconds) :
    (noted h : Host (σ × List (Entry α))).calls.execute conn sql params alarm
        ((noted h : Host (σ × List (Entry α))).interruptStatement conn) (s, journal) =
      let ((interrupted, r), s') :=
        h.calls.execute conn sql params alarm (h.interruptStatement conn) s
      ((interrupted, r), s', journal ++ [.statement conn sql interrupted (failure? r)]) := by
  rw [← beneath_interruptStatement h journal conn]
  rfl

/-! ## Statements -/

/-- How a statement fares on a connection, and what is noted of it.  It is not sent if one of its
values has no form that the driver takes, or if the call has been broken off by then. -/
inductive Fares (h : Host σ) (b : BoundStatement) (limits : CallLimits) (conn : Nat) :
    Except Failure DriverResult → List (Entry α) → Prop where
  | unencodable {f : Failure} (hencoded : h.parameters b = .error f) :
      Fares h b limits conn (.error f) []
  | cancelled {now : Seconds} (hcancelled : limits.cancelledBy now = true) :
      Fares h b limits conn (.error (h.atStatement b
        (.make (.cancelled false) "Statement cancelled before it was sent"))) []
  | done (interrupted : Bool) (result : DriverResult) :
      Fares h b limits conn (.ok result) [.statement conn b.sql interrupted none]
  | failed (interrupted : Bool) (failure f : Failure) :
      Fares h b limits conn (.error f) [.statement conn b.sql interrupted (some failure)]

theorem Fares.sent {b : BoundStatement} {limits : CallLimits} {conn : Nat}
    {r : Except Failure DriverResult} {news : List (Entry α)} {h : Host σ}
    (hfares : h.Fares b limits conn r news) :
    news = [] ∨ ∃ interrupted failure, news = [.statement conn b.sql interrupted failure] := by
  cases hfares with
  | unencodable | cancelled => exact .inl rfl
  | done interrupted result => exact .inr ⟨interrupted, none, rfl⟩
  | failed interrupted failure f => exact .inr ⟨interrupted, some failure, rfl⟩

/-! ## Custody of a lease -/

/-- Who has a lease notes whether its connection is healthy and whether the lease is over.  The
connection is healthy until it is marked, the lease is over when it has been given back, and
nothing else touches either. -/
structure Custody (h : Host σ) (lease : Nat) (Has : Bool → Bool → σ → Prop) : Prop where
  tell {healthy ended s} (n : Notice) : Has healthy ended s → Has healthy ended (h.tell n s).2
  now {healthy ended s} : Has healthy ended s → Has healthy ended (h.now s).2
  commit {healthy ended s} (conn : Nat) :
    Has healthy ended s → Has healthy ended ((h.calls.commit conn).run s).2
  rollback {healthy ended s} (conn : Nat) :
    Has healthy ended s → Has healthy ended ((h.calls.rollback conn).run s).2
  execute {healthy ended s} (conn : Nat) (sql : String) (params : List Native)
    (alarm : Option Seconds) :
    Has healthy ended s → Has healthy ended
      (h.calls.execute conn sql params alarm (h.interruptStatement conn) s).2
  mark {healthy s} : Has healthy false s → Has false false (h.markUnhealthy lease s).2
  healthy {healthy ended s} : Has healthy ended s → h.healthy lease s = (healthy, s)
  giveBack {healthy s} : Has healthy false s → Has healthy true ((h.giveBack lease).run s).2

/-- A lease in custody can be given back without a failure. -/
def Returns (h : Host σ) (lease : Nat) (Has : Bool → Bool → σ → Prop) : Prop :=
  ∀ {healthy s}, Has healthy false s → ((h.giveBack lease).run s).1 = .ok ()

namespace Custody

variable {h} {s} {journal} {lease : Nat} {Has : Bool → Bool → σ → Prop} {healthy ended : Bool}

theorem release (hc : h.Custody lease Has) (hs : Has healthy false s) :
    (h.giveBack lease).Ensures s fun r s' =>
      Has healthy true s' ∧ (h.Returns lease Has → r = .ok ()) :=
  ⟨hc.giveBack hs, fun hreturns => hreturns hs⟩

/-- What the host reports is not noted. -/
theorem reportAll (hc : h.Custody lease Has) (notices : List Notice) (hs : Has healthy ended s) :
    ((noted h : Host (σ × List (Entry α))).reportAll notices).Ensures (s, journal) fun r st =>
      r = .ok () ∧ st.2 = journal ∧ Has healthy ended st.1 := by
  induction notices generalizing s with
  | nil => exact ⟨rfl, rfl, hs⟩
  | cons n rest ih =>
    have hrest := ih (hc.tell n hs)
    exact (Task.ensures_bind _ _ _).2 hrest

/-- The end of a statement marks the connection unless the statement was clean, and gives a result
only if the driver gave it. -/
theorem conclude (hc : h.Custody lease Has) (b : BoundStatement) (started : Seconds)
    (fired : Bool) (r : Except Failure DriverResult) (hs : Has true false s) :
    ((noted h : Host (σ × List (Entry α))).conclude lease b started fired r).Ensures (s, journal)
      fun r' st => st.2 = journal ∧ Has (!fired && (failure? r).isNone) false st.1 ∧
        match r with
        | .ok result => r' = .ok result
        | .error _ => ∃ f, r' = .error f := by
  unfold Host.conclude
  cases r with
  | ok result =>
    cases fired with
    | false =>
      simp only [Bool.false_eq_true, if_false, Task.ensures_bind, Task.ensures_pure,
        Task.ensures_state]
      refine (hc.reportAll _ (hc.now hs)).imp ?_
      rintro r st ⟨rfl, hjournal, hhas⟩
      exact ⟨hjournal, hhas, trivial⟩
    | true =>
      simp only [if_true, Task.ensures_bind, Task.ensures_pure, Task.ensures_state]
      refine (hc.reportAll _ (hc.now (hc.mark hs))).imp ?_
      rintro r st ⟨rfl, hjournal, hhas⟩
      exact ⟨hjournal, hhas, trivial⟩
  | error f =>
    have hspoiled : (!fired && (failure? (.error f : Except Failure DriverResult)).isNone) =
        false :=
      Bool.and_false _
    rw [hspoiled]
    simp only [Task.ensures_bind, Task.ensures_state]
    split
    · split
      · exact ⟨rfl, hc.mark hs, _, rfl⟩
      · rw [Task.ensures_bind]
        refine (hc.reportAll _ (hc.mark hs)).imp ?_
        rintro r st ⟨rfl, hjournal, hhas⟩
        exact ⟨hjournal, hhas, _, rfl⟩
    · rw [Task.ensures_bind]
      refine (hc.reportAll _ (hc.mark hs)).imp ?_
      rintro r st ⟨rfl, hjournal, hhas⟩
      exact ⟨hjournal, hhas, _, rfl⟩

/-- A statement is noted if it is sent, and spoils the connection unless it is clean. -/
theorem runOn_fares (hc : h.Custody lease Has) (conn : Nat) (b : BoundStatement)
    (limits : CallLimits) (hs : Has true false s) :
    ((noted h : Host (σ × List (Entry α))).runOn lease conn b limits).Ensures (s, journal)
      fun r st => ∃ news, st.2 = journal ++ news ∧ Has (news.all Entry.isClean) false st.1 ∧
        h.Fares b limits conn r news := by
  unfold Host.runOn
  rw [Task.ensures_bind, Task.ensures_ofExcept]
  have hparameters : (noted h : Host (σ × List (Entry α))).parameters b = h.parameters b := rfl
  rw [hparameters]
  cases hencoded : h.parameters b with
  | error f => exact ⟨[], (List.append_nil journal).symm, hs, .unencodable hencoded⟩
  | ok params =>
    simp only [Task.ensures_bind, Task.ensures_state]
    split
    next hcancelled =>
      exact ⟨[], (List.append_nil journal).symm, hc.now hs, .cancelled hcancelled⟩
    · simp only [Task.ensures_bind, Task.ensures_state, noted_now]
      have hexecute := hc.execute conn b.sql params (limits.alarm (h.now s).1)
        (hc.now hs)
      have hnoted := noted_execute h (h.now s).2 journal conn b.sql params
        (limits.alarm (h.now s).1)
      rcases hrun : h.calls.execute conn b.sql params (limits.alarm (h.now s).1)
        (h.interruptStatement conn) (h.now s).2 with ⟨⟨fired, r⟩, s'⟩
      rw [hrun] at hexecute hnoted
      rw [hnoted]
      refine (hc.conclude b _ fired r hexecute).imp ?_
      rintro r' st ⟨hjournal, hhas, hconcluded⟩
      refine ⟨[.statement conn b.sql fired (failure? r)], hjournal, ?_, ?_⟩
      · simpa [Entry.isClean] using hhas
      · cases r with
        | ok result =>
          obtain rfl := hconcluded
          exact .done fired result
        | error f =>
          obtain ⟨f', rfl⟩ := hconcluded
          exact .failed fired f f'

theorem runOn (hc : h.Custody lease Has) (conn : Nat) (b : BoundStatement) (limits : CallLimits)
    (hs : Has true false s) :
    ((noted h : Host (σ × List (Entry α))).runOn lease conn b limits).Ensures (s, journal)
      fun _ st => ∃ news, st.2 = journal ++ news ∧ Has (news.all Entry.isClean) false st.1 ∧
        (news = [] ∨ ∃ interrupted failure,
          news = [.statement conn b.sql interrupted failure]) := by
  refine (hc.runOn_fares conn b limits hs).imp ?_
  rintro r st ⟨news, hjournal, hhas, hfares⟩
  exact ⟨news, hjournal, hhas, hfares.sent⟩

end Custody

end Host

end

end SqlGateway
