import SqlGateway.Proofs.Executor.Health
import SqlGateway.Proofs.Executor.Vigil
set_option autoImplicit false

/-!
# Executor: interruptions

Whatever a statement, its watch and everybody else do, and in whatever order, an
interruption never goes astray: there is at most one, it is for the connection of the
statement, it has a reason, and it is over before the call is.  A connection that was
interrupted is marked.  How the call ends depends on what the driver answered and on
whether the watch had fired, and so does what is reported of it.
-/

namespace SqlGateway

/-- The event of a statement that the engine refused. -/
def Notice.isStatementError : Notice → Bool
  | .event name _ => name == "statement.error"
  | .log .. => false

namespace Failure

/-- A statement was broken off while it ran. -/
def isInterruption : Failure → Bool
  | .fault (.cancelled sent) _ _ _ => sent
  | _ => false

/-- An interruption spoils a connection, though it is not the engine that reports it. -/
theorem isInterruption_eq (f : Failure) : f.isInterruption = (f.poisons && !f.isDriver) := by
  cases f with
  | fault k _ _ _ => cases k <;> simp [isInterruption, poisons, isDriver, FaultKind.isDriver]
  | foreign | settings => rfl

theorem isInterruption_withContext (f : Failure) (key : String) (v : Native) :
    (f.withContext key v).isInterruption = f.isInterruption := by
  cases f with
  | fault k _ _ _ => cases k <;> rfl
  | foreign | settings => rfl

end Failure

namespace Host

section

variable {σ β : Type}

/-- An action of which nothing is heard. -/
def unheard (m : StateM σ β) : StateM (σ × List Notice) β :=
  fun (s, heard) => ((m s).1, (m s).2, heard)

/-- The host whose reports are heard.  What it reports when an alarm goes off in the driver is not.
-/
def overheard (h : Host σ) : Host (σ × List Notice) where
  driver := h.driver
  calls := {
    begin conn := ExceptT.mk (unheard (h.calls.begin conn).run)
    commit conn := ExceptT.mk (unheard (h.calls.commit conn).run)
    rollback conn := ExceptT.mk (unheard (h.calls.rollback conn).run)
    execute conn sql params alarm onAlarm := fun (s, heard) =>
      unheard (h.calls.execute conn sql params alarm
        fun s => ((onAlarm (s, heard)).1, (onAlarm (s, heard)).2.1)) (s, heard)
    interrupt conn := ExceptT.mk (unheard (h.calls.interrupt conn).run) }
  tell n := fun (s, heard) => ((h.tell n s).1, (h.tell n s).2, heard ++ [n])
  patience := h.patience
  now := unheard h.now
  checkout timeout := ExceptT.mk (unheard (h.checkout timeout).run)
  giveBack lease := ExceptT.mk (unheard (h.giveBack lease).run)
  markUnhealthy lease := unheard (h.markUnhealthy lease)
  healthy lease := unheard (h.healthy lease)
  connection lease := ExceptT.mk (unheard (h.connection lease).run)

variable (h : Host σ) (s : σ) (heard : List Notice)

theorem overheard_tag : h.overheard.tag = h.tag := rfl

theorem overheard_now : h.overheard.now (s, heard) = ((h.now s).1, (h.now s).2, heard) := rfl

theorem overheard_tell (n : Notice) :
    h.overheard.tell n (s, heard) = ((h.tell n s).1, (h.tell n s).2, heard ++ [n]) :=
  rfl

theorem overheard_interrupt (conn : Nat) :
    (h.overheard.calls.interrupt conn).run (s, heard) =
      (((h.calls.interrupt conn).run s).1, ((h.calls.interrupt conn).run s).2, heard) :=
  rfl

/-- Of an interruption it is heard what came of it. -/
theorem overheard_interruptStatement (conn : Nat) :
    ∃ said, (h.overheard.interruptStatement conn (s, heard)).2 =
        ((h.interruptStatement conn s).2, heard ++ said) ∧
      said.filter Notice.isStatementError = [] := by
  unfold interruptStatement
  simp only [bind, StateT.bind, overheard_interrupt, overheard_tag]
  rcases (h.calls.interrupt conn).run s with ⟨f | delivered, s'⟩
  · cases hf : f.isOrdinary with
    | true =>
      exact ⟨[.log .warning "statement_interrupt_failed"
        [("engine", .text h.tag), ("error", .text f.text)]], by simp [hf, overheard_tell], rfl⟩
    | false => exact ⟨[], by simp only [hf, List.append_nil]; rfl, rfl⟩
  · exact ⟨[.log .info "statement_interrupted"
      [("engine", .text h.tag), ("delivered", .bool delivered)]], rfl, rfl⟩

/-- Reports are heard in order. -/
theorem overheard_reportAll (notices : List Notice)
    (Q : Except Failure Unit → σ × List Notice → Prop) :
    (h.overheard.reportAll notices).Ensures (s, heard) Q ↔
      Q (.ok ()) (((h.reportAll notices).run s).2, heard ++ notices) := by
  induction notices generalizing s heard with
  | nil => rw [List.append_nil]; rfl
  | cons n rest ih =>
    have hrest := ih (h.tell n s).2 (heard ++ [n])
    rw [List.append_assoc] at hrest
    exact (Task.ensures_bind _ _ _).trans hrest

variable (b : BoundStatement)

/-! ## How a call ends -/

/-- The failure of a statement that was interrupted, with the engine's own as its cause. -/
def broken (f : Failure) : Failure :=
  h.atStatement b (.make (.cancelled true) "Statement cancelled while in flight" (some f))

/-- The event that reports a statement that the engine refused. -/
def refusalEvent (f : Failure) : Notice :=
  .event "statement.error" [("error_kind", .text f.name), ("sql", .text b.sql)]

/-- How a call ends when the driver has answered and the watch has fired or not, and which events of
refused statements it reports. -/
inductive Concludes : Bool → Except Failure DriverResult → Except Failure DriverResult →
    List Notice → Prop where
  | done (fired : Bool) (result : DriverResult) : Concludes fired (.ok result) (.ok result) []
  | broken {f : Failure} (hdriver : f.isDriver = true) :
      Concludes true (.error f) (.error (h.broken b f)) []
  | refused {f : Failure} (hdriver : f.isDriver = true) :
      Concludes false (.error f) (.error (h.atStatement b f)) [refusalEvent b f]
  | aborted (fired : Bool) {f : Failure} (hother : f.isDriver = false) :
      Concludes fired (.error f) (.error f) []

/-- How a call on a connection ends, with what the caller has noted by then and which events of
refused statements it reports. -/
inductive Ends (limits : CallLimits) (conn : Nat) : Bool → Except Failure DriverResult →
    List Vigil.Mark → List Notice → Prop where
  | unsent {f : Failure} (hready : h.parameters b = .error f ∨
      (∃ now, limits.cancelledBy now = true) ∧ f = h.atStatement b
        (.make (.cancelled false) "Statement cancelled before it was sent")) :
      Ends limits conn false (.error f) [.left (.error f)] []
  | sent {fired : Bool} {answer r : Except Failure DriverResult} {errors : List Notice}
      (hconcludes : h.Concludes b fired answer r errors) :
      Ends limits conn fired r [.sent conn b.sql, .answered answer, .left r] errors

variable {h} {b} {s heard}

theorem isInterruption_broken (f : Failure) : (h.broken b f).isInterruption = true := by
  unfold broken atStatement tagged
  rw [Failure.isInterruption_withContext, Failure.isInterruption_withContext]
  rfl

/-- What was not sent was not interrupted. -/
theorem Ends.unsent_isInterruption {limits : CallLimits} {f : Failure}
    (hready : h.parameters b = .error f ∨
      (∃ now, limits.cancelledBy now = true) ∧ f = h.atStatement b
        (.make (.cancelled false) "Statement cancelled before it was sent")) :
    f.isInterruption = false := by
  rcases hready with hencoded | ⟨-, rfl⟩
  · rw [Failure.isInterruption_eq, h.poisons_of_unencodable hencoded]
    rfl
  · unfold atStatement tagged
    rw [Failure.isInterruption_withContext, Failure.isInterruption_withContext]
    rfl

/-- A call ends in an interruption of its own just if the watch had fired and the engine failed. -/
theorem Ends.broken_iff {limits : CallLimits} {conn : Nat} {fired : Bool}
    {r : Except Failure DriverResult} {marks : List Vigil.Mark} {errors : List Notice}
    (hends : h.Ends b limits conn fired r marks errors) :
    (∃ g, r = .error g ∧ g.isInterruption = true ∧ .answered (.error g) ∉ marks) ↔
      fired = true ∧ ∃ f, f.isDriver = true ∧ .answered (.error f) ∈ marks := by
  cases hends with
  | unsent hready =>
    have hnot := Ends.unsent_isInterruption hready
    simp [hnot]
  | sent hconcludes =>
    cases hconcludes with
    | done fired result => simp
    | @broken f hdriver =>
      have hinterruption := isInterruption_broken (h := h) (b := b) f
      have hother : h.broken b f ≠ f := by
        intro heq
        rw [heq, Failure.isInterruption_eq, hdriver] at hinterruption
        simp at hinterruption
      simp [hinterruption, hother, hdriver]
    | @refused f hdriver =>
      have hnot : (h.atStatement b f).isInterruption = false := by
        unfold atStatement tagged
        rw [Failure.isInterruption_withContext, Failure.isInterruption_withContext,
          Failure.isInterruption_eq, hdriver, Bool.not_true, Bool.and_false]
      simp [hnot]
    | aborted fired hother => simp [hother]

/-- What the host reports spoils nothing. -/
theorem Custody.reportAll_heard {lease : Nat} {Has : Bool → Bool → σ → Prop} {healthy ended : Bool}
    (hc : h.Custody lease Has) (notices : List Notice) (hs : Has healthy ended s) :
    (h.overheard.reportAll notices).Ensures (s, heard) fun r st =>
      r = .ok () ∧ st.2 = heard ++ notices ∧ Has healthy ended st.1 := by
  rw [overheard_reportAll]
  refine ⟨rfl, rfl, ?_⟩
  induction notices generalizing s with
  | nil => exact hs
  | cons n rest ih => exact ih (hc.tell n hs)

/-- The end of a statement leaves the connection as it was if the driver answered and the watch had
not fired, and marks it otherwise. -/
theorem Custody.conclude_heard {lease : Nat} {Has : Bool → Bool → σ → Prop} {healthy : Bool}
    (hc : h.Custody lease Has) (b : BoundStatement) (started : Seconds) (fired : Bool)
    (answer : Except Failure DriverResult) (heard : List Notice) (hs : Has healthy false s) :
    (h.overheard.conclude lease b started fired answer).Ensures (s, heard) fun r st =>
      ∃ said, st.2 = heard ++ said ∧
        Has (healthy && (!fired && (failure? answer).isNone)) false st.1 ∧
        h.Concludes b fired answer r (said.filter Notice.isStatementError) := by
  have hmarked := hc.mark hs
  unfold Host.conclude
  cases answer with
  | ok result =>
    cases fired with
    | false =>
      simp only [Bool.false_eq_true, if_false, Task.ensures_bind, Task.ensures_pure,
        Task.ensures_state, overheard_now]
      refine (hc.reportAll_heard _ (hc.now hs)).imp ?_
      rintro _ st ⟨rfl, hheard, hhas⟩
      exact ⟨_, hheard, by simpa [failure?] using hhas, .done false result⟩
    | true =>
      simp only [if_true, Task.ensures_bind, Task.ensures_pure, Task.ensures_state]
      refine (hc.reportAll_heard _ (hc.now hmarked)).imp ?_
      rintro _ st ⟨rfl, hheard, hhas⟩
      exact ⟨_, hheard, by simpa using hhas, .done true result⟩
  | error f =>
    have hspoiled : (healthy && (!fired &&
        (failure? (.error f : Except Failure DriverResult)).isNone)) = false := by
      simp [failure?]
    rw [hspoiled]
    simp only [Task.ensures_bind, Task.ensures_state]
    cases hdriver : f.isDriver with
    | false =>
      simp only [Bool.false_eq_true, if_false, Task.ensures_bind]
      refine (hc.reportAll_heard _ hmarked).imp ?_
      rintro _ st ⟨rfl, hheard, hhas⟩
      exact ⟨_, hheard, hhas, .aborted fired hdriver⟩
    | true =>
      cases fired with
      | false =>
        simp only [Bool.false_eq_true, if_false, if_true, Task.ensures_bind]
        refine (hc.reportAll_heard _ hmarked).imp ?_
        rintro _ st ⟨rfl, hheard, hhas⟩
        exact ⟨_, hheard, hhas, .refused hdriver⟩
      | true => exact ⟨[], (List.append_nil heard).symm, hmarked, .broken hdriver⟩

/-- A statement that cannot be made ready is not sent, and making it ready spoils nothing. -/
theorem Custody.ready_heard {lease : Nat} {Has : Bool → Bool → σ → Prop} {healthy : Bool}
    (hc : h.Custody lease Has) (b : BoundStatement) (limits : CallLimits) (heard : List Notice)
    (hs : Has healthy false s) :
    (h.overheard.ready b limits).Ensures (s, heard) fun r st =>
      st.2 = heard ∧ Has healthy false st.1 ∧
        ∀ f, r = .error f → h.parameters b = .error f ∨
          (∃ now, limits.cancelledBy now = true) ∧ f = h.atStatement b
            (.make (.cancelled false) "Statement cancelled before it was sent") := by
  unfold ready
  rw [Task.ensures_bind, Task.ensures_ofExcept]
  have hparameters : h.overheard.parameters b = h.parameters b := rfl
  rw [hparameters]
  cases hencoded : h.parameters b with
  | error f =>
    refine ⟨rfl, hs, ?_⟩
    rintro _ ⟨⟩
    exact .inl rfl
  | ok params =>
    simp only [Task.ensures_bind, Task.ensures_state]
    split
    next hcancelled =>
      refine ⟨rfl, hc.now hs, ?_⟩
      rintro _ ⟨⟩
      exact .inr ⟨⟨_, hcancelled⟩, rfl⟩
    · exact ⟨rfl, hc.now hs, nofun⟩

end

end Host

namespace Vigil

open Host

/-! ## What becomes of a connection under watch -/

/-- What holds of a statement and its watch, of the connection that it runs on and of what is heard
of it: nothing is spoiled or reported until the call ends, and then what belongs to its end. -/
structure Sound {σ : Type} (h : Host σ) (Has : Bool → Bool → σ → Prop) (conn : Nat)
    (b : BoundStatement) (limits : CallLimits) (healthy : Bool) (v : Vigil (σ × List Notice)) :
    Prop where
  pending : (∀ r, v.caller ≠ .left r) →
    Has healthy false v.state.1 ∧ v.state.2.filter Notice.isStatementError = []
  ended : ∀ r, v.caller = .left r →
    (∃ healthy', Has healthy' false v.state.1 ∧ (v.fired = true → healthy' = false)) ∧
      h.Ends b limits conn v.fired r (v.marks.filter Mark.isCallers)
        (v.state.2.filter Notice.isStatementError)

section

variable {σ : Type} {h : Host σ} {Has : Bool → Bool → σ → Prop} {lease conn : Nat}
  {b : BoundStatement} {limits : CallLimits} {healthy : Bool}
  {Elsewhere : σ × List Notice → σ × List Notice → Prop} {v w : Vigil (σ × List Notice)}

/-- As long as the call goes on, neither the caller nor the watch spoils anything or reports a
refused statement. -/
theorem Sound.goesOn (hs : v.Sound h Has conn b limits healthy) (hopen : ∀ r, v.caller ≠ .left r)
    (hstill : ∀ r, w.caller ≠ .left r)
    (hhas : Has healthy false v.state.1 → Has healthy false w.state.1)
    (hheard : w.state.2.filter Notice.isStatementError =
      v.state.2.filter Notice.isStatementError) :
    w.Sound h Has conn b limits healthy where
  pending _ := ⟨hhas (hs.pending hopen).1, hheard.trans (hs.pending hopen).2⟩
  ended r hr := absurd hr (hstill r)

/-- One step keeps it so. -/
theorem Step.sound (hc : h.Custody lease Has)
    (hinterrupt : ∀ {healthy s}, Has healthy false s →
      Has healthy false (h.interruptStatement conn s).2)
    (helse : ∀ {s s'}, Elsewhere s s' →
      (∀ {healthy}, Has healthy false s.1 → Has healthy false s'.1) ∧ s'.2 = s.2)
    (hstep : Step h.overheard Elsewhere lease conn b limits v w)
    (hk : v.Kept limits conn b.sql) (hs : v.Sound h Has conn b limits healthy) :
    w.Sound h Has conn b limits healthy := by
  have hopen : v.watch.isOver = false → ∀ r, v.caller ≠ .left r := fun hbusy => (hk.busy hbusy).2
  cases hstep with
  | @elsewhere s' hother =>
    obtain ⟨hhas, hheard⟩ := helse hother
    refine ⟨fun hopen => ?_, fun r hr => ?_⟩
    · rw [hheard]
      exact ⟨hhas (hs.pending hopen).1, (hs.pending hopen).2⟩
    · obtain ⟨⟨healthy', hhas', hfired⟩, hends⟩ := hs.ended r hr
      rw [hheard]
      exact ⟨⟨healthy', hhas hhas', hfired⟩, hends⟩
  | @refuse f s' hcaller hready =>
    have hpending := hs.pending (by simp [hcaller])
    have hrefused := hc.ready_heard b limits v.state.2 hpending.1
    rw [Task.ensures_run hready] at hrefused
    obtain ⟨hheard, hhas, hwhy⟩ := hrefused
    have hcallers := hk.caller
    have hwatch := hk.watch
    rw [hcaller] at hcallers
    rw [hk.unset hcaller] at hwatch
    refine ⟨fun hopen => absurd rfl (hopen _), ?_⟩
    rintro r ⟨⟩
    refine ⟨⟨healthy, hhas, fun hfired => absurd hfired (by simp [hwatch.1])⟩, ?_⟩
    rw [List.filter_append, hcallers, hheard, hpending.2, hwatch.1]
    exact .unsent (hwhy f rfl)
  | @prepare params started s' watch hcaller hready hwatch =>
    have hpending := hs.pending (by simp [hcaller])
    have hprepared := hc.ready_heard b limits v.state.2 hpending.1
    rw [Task.ensures_run hready] at hprepared
    obtain ⟨hheard, hhas, -⟩ := hprepared
    refine ⟨fun _ => ⟨hhas, ?_⟩, nofun⟩
    rw [hheard]
    exact hpending.2
  | send hcaller | callOff hcaller | answer hcaller =>
    exact hs.goesOn (by simp [hcaller]) (by simp) id rfl
  | @leave started answer r s' hcaller hwatch hconclude =>
    have hpending := hs.pending (by simp [hcaller])
    have hended := hc.conclude_heard b started v.fired answer v.state.2 hpending.1
    rw [Task.ensures_run hconclude] at hended
    obtain ⟨said, hheard, hhas, hconcludes⟩ := hended
    have hcallers := hk.caller
    rw [hcaller] at hcallers
    refine ⟨fun hopen => absurd rfl (hopen _), ?_⟩
    rintro r' ⟨⟩
    refine ⟨⟨_, hhas, fun (hfired : v.fired = true) => by simp [hfired]⟩, ?_⟩
    rw [List.filter_append, hcallers, hheard, List.filter_append, hpending.2]
    exact .sent hconcludes
  | set hat hnow | ask hat hnow | cancel hat hnow | time hat hnow | expire hat hnow =>
    have hbusy := hopen (by rw [hat]; rfl)
    refine hs.goesOn hbusy hbusy (fun hhas => ?_) ?_
    · have hkept := hc.now hhas
      rw [overheard_now, Prod.mk.injEq] at hnow
      rw [← hnow.2]
      exact hkept
    · rw [overheard_now, Prod.mk.injEq] at hnow
      rw [← hnow.2]
  | check hat | rest hat | fire hat | strike hat =>
    have hbusy := hopen (by rw [hat]; rfl)
    exact hs.goesOn hbusy hbusy id rfl
  | struck hat =>
    have hbusy := hopen (by rw [hat]; rfl)
    obtain ⟨said, hstruck, hquiet⟩ := h.overheard_interruptStatement v.state.1 v.state.2 conn
    have hstate : h.overheard.interruptStatement conn v.state =
      h.overheard.interruptStatement conn (v.state.1, v.state.2) := rfl
    refine hs.goesOn hbusy hbusy (fun hhas => ?_) ?_
    · dsimp only
      rw [hstate, hstruck]
      exact hinterrupt hhas
    · dsimp only
      rw [hstate, hstruck, List.filter_append, hquiet, List.append_nil]

/-- So does a run. -/
theorem Reachable.sound (hc : h.Custody lease Has)
    (hinterrupt : ∀ {healthy s}, Has healthy false s →
      Has healthy false (h.interruptStatement conn s).2)
    (helse : ∀ {s s'}, Elsewhere s s' →
      (∀ {healthy}, Has healthy false s.1 → Has healthy false s'.1) ∧ s'.2 = s.2)
    {s : σ} (hs : Has healthy false s)
    (hreach : Reachable h.overheard Elsewhere lease conn b limits (s, []) v) :
    v.Sound h Has conn b limits healthy := by
  induction hreach with
  | start => exact ⟨fun _ => ⟨hs, rfl⟩, nofun⟩
  | step hbefore hstep ih => exact hstep.sound hc hinterrupt helse hbefore.kept ih

end

/-! ## Interruptions never go astray -/

/-- What is promised of a statement and its watch. -/
structure Aimed {σ : Type} (h : Host σ) (entry : Option Lease) (slot : Slot) (b : BoundStatement)
    (limits : CallLimits) (v : Vigil (σ × List Notice)) : Prop where
  /-- The driver is asked at most once to interrupt a connection, and only that of the statement.
  By then the watch has begun and has found the call broken off or its time over. -/
  once : v.marks.filter Mark.isInterrupt = [] ∨
    v.marks.filter Mark.isInterrupt = [.interrupt slot.raw] ∧
      ∃ begun now, limits.DueBy begun now ∧
        List.Sublist [.watching begun, .due now, .interrupt slot.raw] v.marks
  /-- The watch has fired by the end of the call just if it has had the connection interrupted, and
  then the driver has done with that. -/
  fired : ∀ r, v.caller = .left r → (v.fired = true ↔ .interrupt slot.raw ∈ v.marks) ∧
    (v.fired = true → .interrupted ∈ v.marks)
  /-- After the end of the call nothing is done any more. -/
  last : ∀ r, v.caller = .left r → v.marks.getLast? = some (.left r)
  /-- A connection that was interrupted is marked. -/
  spoiled : ∀ r, v.caller = .left r → v.fired = true → entry = some ⟨slot, false, false⟩
  /-- The call ends as the answer of the driver and the watch have it. -/
  ends : ∀ r, v.caller = .left r → h.Ends b limits slot.raw v.fired r
    (v.marks.filter Mark.isCallers) (v.state.2.filter Notice.isStatementError)
  /-- It ends in an interruption that the driver did not raise itself just if the engine failed and
  the watch had fired. -/
  broken : ∀ r, v.caller = .left r →
    ((∃ g, r = .error g ∧ g.isInterruption = true ∧ .answered (.error g) ∉ v.marks) ↔
      v.fired = true ∧ ∃ f, f.isDriver = true ∧ .answered (.error f) ∈ v.marks)

theorem mem_filter_isCallers {r : Except Failure DriverResult} {marks : List Mark} :
    .answered r ∈ marks.filter Mark.isCallers ↔ .answered r ∈ marks := by
  rw [List.mem_filter]
  exact and_iff_left rfl

end Vigil

namespace Office

open Vigil (Reachable Aimed)

variable {σ : Type} {o : Office σ} {calls : DriverCalls σ} {R : Desk → Desk → Prop} {lease : Nat}
  {slot : Slot} {b : BoundStatement} {limits : CallLimits} {s : σ}

/-- What others do at an office meanwhile: they keep to a relation between the desk before and
after, and are not heard. -/
def Others (o : Office σ) (R : Desk → Desk → Prop) (st st' : σ × List Notice) : Prop :=
  R (o.desk st.1) (o.desk st'.1) ∧ st'.2 = st.2

theorem entry_iff {healthy ended : Bool} {d : Desk} :
    (∃ used, Desk.Occupies lease slot used (Desk.Level R) healthy ended d) ↔
      d.leases[lease]? = some ⟨slot, healthy, ended⟩ := by
  refine ⟨fun ⟨_, hentry, _⟩ => hentry, fun hentry => ?_⟩
  exact ⟨d.pool.inUse - if ended then 0 else 1, hentry, fun _ => by simp⟩

/-- Whatever a statement on a lease at an office, its watch and everybody else do, an interruption
never goes astray.  The same run can be taken with a driver that keeps a journal of what it is asked
to interrupt, and then this is what the journal holds: the connection of the statement, once, if the
watch has fired by the end of the call, and nothing otherwise. -/
theorem Outside.interrupts_aimed [IsPreorder Desk R] (hout : o.Outside calls R)
    (hkeeps : Desk.Keeps R lease) (driver : Driver) (patience : Option Seconds) {healthy : Bool}
    (hlease : (o.desk s).leases[lease]? = some ⟨slot, healthy, false⟩)
    {v : Vigil (σ × List Notice)}
    (hreach : Reachable (o.host driver calls patience).overheard (o.Others R) lease slot.raw b
      limits (s, []) v) :
    v.Aimed (o.host driver calls patience) (o.desk v.state.1).leases[lease]? slot b limits ∧
      ∃ conns, Reachable (o.host driver calls patience).overheard.asked
          (Vigil.Beside (o.Others R)) lease slot.raw b limits ((s, []), []) (v.asked conns) ∧
        (conns = [] ∨ v.fired = true ∧ conns = [slot.raw]) ∧
        ∀ r, v.caller = .left r → (conns = [slot.raw] ↔ v.fired = true) := by
  have hd : Desk.Custody R lease fun healthy ended d =>
      ∃ used, Desk.Occupies lease slot used (Desk.Level R) healthy ended d :=
    .exists fun _ => Desk.occupies_custody hkeeps
  have hc := hout.custody hd driver patience
  have hk := hreach.kept
  have hs := hreach.sound hc
    (fun hhas => hd.outside (hout.interruptStatement driver patience slot.raw _) hhas)
    (fun hother => ⟨fun hhas => hd.outside hother.1 hhas, hother.2⟩) (entry_iff.2 hlease)
  obtain ⟨conns, hasked, hminded⟩ := hreach.asked
  refine ⟨⟨hk.interrupts.imp_right fun h => h.2, fun r hr => hk.over (hk.joined r hr), hk.last, ?_,
    fun r hr => (hs.ended r hr).2, fun r hr => ?_⟩, conns, hasked, hminded.once hk,
    fun r hr => hminded.over hk (hk.joined r hr)⟩
  · intro r hr hfired
    obtain ⟨⟨healthy', hhas, hspoiled⟩, -⟩ := hs.ended r hr
    rw [hspoiled hfired] at hhas
    exact entry_iff.1 hhas
  · have hbroken := (hs.ended r hr).2.broken_iff
    simpa only [Vigil.mem_filter_isCallers] using hbroken

open Transaction (quietOffice plainDriver refusingCalls)

/-- An update without parameters. -/
def refusedUpdate : BoundStatement :=
  { sql := "UPDATE orders", binds := [], style := .qmark, dialect := none, balanced := by decide }

/-- The desk with its first connection lent. -/
def lentDesk : Desk := (quietOffice.call (.checkout none) quietDesk).2

/-- The time of a statement is over when the driver refuses it: the call ends in an interruption,
and the driver has been asked for it. -/
theorem interrupts_aimed_refused :
    ∃ v, Reachable quietHost.overheard (quietOffice.Others (Desk.Balances 0)) 0 7 refusedUpdate
        { timeout := some 0 } (lentDesk, []) v ∧
      v.caller = .left (.error (quietHost.broken refusedUpdate
        (.make (.driver .null .null) "syntax error"))) ∧
      v.fired = true ∧
      v.Aimed quietHost (quietOffice.desk v.state.1).leases[0]? ⟨7, 1, 0, 0⟩ refusedUpdate
        { timeout := some 0 } ∧
      Reachable quietHost.overheard.asked (Vigil.Beside (quietOffice.Others (Desk.Balances 0))) 0 7
        refusedUpdate { timeout := some 0 } ((lentDesk, []), []) (v.asked [7]) := by
  have hlease : (quietOffice.desk lentDesk).leases[0]? = some ⟨⟨7, 1, 0, 0⟩, true, false⟩ := rfl
  have hprepared : Reachable quietHost.overheard (quietOffice.Others (Desk.Balances 0)) 0 7
      refusedUpdate { timeout := some 0 } (lentDesk, [])
      { state := (lentDesk, []), caller := .prepared 0, watch := .setting } :=
    Reachable.start.step (.prepare rfl (by rfl) (.inl rfl))
  have hasking := ((hprepared.step (.send rfl)).step (.set rfl rfl)).step (.check rfl)
  have hexpired : CallLimits.expiredBy { timeout := some 0 } 0 0 = true := by decide +kernel
  have hfiring := (hasking.step (.ask rfl rfl rfl)).step (.expire rfl rfl hexpired)
  have hstruck := ((hfiring.step (.fire rfl)).step (.strike rfl)).step (.struck rfl)
  have hanswered := hstruck.step (.answer rfl (.error (.make (.driver .null .null) "syntax error")))
  have hleft := (hanswered.step (.callOff rfl)).step (.leave rfl rfl rfl)
  obtain ⟨haimed, conns, hasked, -, hended⟩ :=
    (refusing_surrounded (Desk.Balances 0)).interrupts_aimed
      (fun d d' l hbalances => hbalances.2 l) plainDriver none hlease hleft
  obtain rfl := (hended _ rfl).2 rfl
  exact ⟨_, hleft, rfl, rfl, haimed, hasked⟩

end Office

end SqlGateway
