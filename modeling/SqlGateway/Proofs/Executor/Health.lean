import SqlGateway.Proofs.Executor.AllOrNothing
import SqlGateway.Proofs.Executor.Calls
import SqlGateway.Proofs.Pool.Returns
set_option autoImplicit false

/-!
# Executor: what a call leaves in the pool

A call on an executor has a connection of its own, from its checkout to its return.
Whether the connection comes back in health is decided in several places: where the
statement ends, where a late interruption is noticed, and where the lease is given up.
`Errand` says what may come of a statement, and that all of these agree: the connection
is closed as unhealthy unless nothing was sent on it, or the driver answered without an
interruption.
-/

namespace SqlGateway

/-! ## Failures that spoil nothing -/

/-- A value that cannot be written for the driver is no fault of the connection. -/
theorem Host.poisons_of_unencodable {σ : Type} (h : Host σ) {b : BoundStatement} {f : Failure}
    (hencoded : h.parameters b = .error f) : f.poisons = false := by
  unfold parameters at hencoded
  generalize b.binds = values at hencoded
  induction values with
  | nil => cases hencoded
  | cons v rest ih =>
    rw [List.mapM_cons] at hencoded
    cases hv : h.dialect.codec.encode v with
    | error r =>
      rw [hv] at hencoded
      cases hencoded
      exact r.poisons_toFailure
    | ok n =>
      cases hrest : rest.mapM fun v =>
          (h.dialect.codec.encode v).mapError Refusal.toFailure with
      | error g =>
        rw [hv, hrest] at hencoded
        cases hencoded
        exact ih hrest
      | ok ns =>
        rw [hv, hrest] at hencoded
        cases hencoded

/-- A failure that spoils a connection comes with a statement that was sent. -/
theorem Host.Fares.spoils {α σ : Type} {h : Host σ} {b : BoundStatement} {limits : CallLimits}
    {conn : Nat} {f : Failure} {news : List (Entry α)}
    (hfares : h.Fares b limits conn (.error f) news) (hpoisons : f.poisons = true) :
    news.all Entry.isClean = false := by
  cases hfares with
  | unencodable hencoded =>
    rw [h.poisons_of_unencodable hencoded] at hpoisons
    cases hpoisons
  | cancelled hcancelled => cases hpoisons
  | failed interrupted failure f => simp [Entry.isClean]

/-- What is left of the time of a call does not matter to who breaks it off. -/
theorem Host.Fares.limits {α σ : Type} {h : Host σ} {b : BoundStatement}
    {left limits : CallLimits} {conn : Nat} {r : Except Failure DriverResult}
    {news : List (Entry α)} (hsame : left.cancelAt = limits.cancelAt)
    (hfares : h.Fares b left conn r news) : h.Fares b limits conn r news := by
  cases hfares with
  | unencodable hencoded => exact .unencodable hencoded
  | cancelled hcancelled =>
    rw [CallLimits.cancelledBy, hsame] at hcancelled
    exact .cancelled hcancelled
  | done interrupted result => exact .done interrupted result
  | failed interrupted failure f => exact .failed interrupted failure f

/-! ## Leases of a call -/

namespace Host

variable {α σ : Type} {h : Host σ} {s : σ} {journal : List (Entry α)}

/-- How long a call lets the pool keep it waiting. -/
def grace (h : Host σ) (limits : CallLimits) : Option Seconds :=
  limits.timeout.map fun t => (h.patience.map t.earlier).getD t

/-- A call that is broken off already asks for nothing; another asks the pool, and takes what is
left of its time along. -/
theorem ensures_checkoutWithin (limits : CallLimits)
    {Q : Except Failure (Nat × CallLimits) → σ → Prop}
    (hcancelled : limits.cancelledBy (h.now s).1 = true → Q (.error (h.tagged
      (.make (.cancelled false) "Statement cancelled before checkout"))) (h.now s).2)
    (hasks : limits.cancelledBy (h.now s).1 = false →
      (h.checkout (h.grace limits)).Ensures (h.now s).2 fun r s' =>
        match r with
        | .error f => Q (.error f) s'
        | .ok lease => ∀ left s'', (s'' = s' ∨ s'' = (h.now s').2) →
            left.cancelAt = limits.cancelAt → Q (.ok (lease, left)) s'') :
    (h.checkoutWithin limits).Ensures s Q := by
  unfold checkoutWithin
  simp only [Task.ensures_bind, Task.ensures_state]
  split
  next hnow => exact hcancelled hnow
  next hnow =>
    have hasked := hasks (Bool.eq_false_iff.2 hnow)
    unfold grace at hasked
    cases htimeout : limits.timeout with
    | none =>
      rw [htimeout] at hasked
      simp only [Task.ensures_bind]
      refine hasked.imp ?_
      rintro (f | lease) s' hQ
      · exact hQ
      · exact hQ limits s' (.inl rfl) rfl
    | some t =>
      rw [htimeout] at hasked
      simp only [Task.ensures_bind]
      refine hasked.imp ?_
      rintro (f | lease) s' hQ
      · exact hQ
      · simp only [Task.ensures_state]
        exact hQ _ _ (.inr rfl) rfl

/-- A lease that was marked where it had to be is given back once, whatever was done with it. -/
theorem Custody.withLease {β : Type} {lease : Nat} {Has : Bool → Bool → σ → Prop}
    {body : Task (σ × List (Entry α)) β} {P : Except Failure β → List (Entry α) → Prop}
    (hc : h.Custody lease Has) (hreturns : h.Returns lease Has)
    (hbody : body.Ensures (s, journal) fun r st => ∃ news, st.2 = journal ++ news ∧
      Has (news.all Entry.isClean) false st.1 ∧ P r news)
    (hspoils : ∀ f news, P (.error f) news → f.poisons = true →
      news.all Entry.isClean = false) :
    ((noted h).withLease lease body).Ensures (s, journal) fun r st => ∃ news s',
      Has (news.all Entry.isClean) false s' ∧ P r news ∧
        st = (((h.giveBack lease).run s').2, journal ++ (news ++ [.release lease])) := by
  have hback : ∀ (r : Except Failure β) (news : List (Entry α)) (s' : σ),
      Has (news.all Entry.isClean) false s' → P r news →
      ((noted h).giveBack lease).Ensures (s', journal ++ news) fun given st =>
        given = .ok () ∧ ∃ news s', Has (news.all Entry.isClean) false s' ∧ P r news ∧
          st = (((h.giveBack lease).run s').2, journal ++ (news ++ [.release lease])) := by
    intro r news s' hhas hP
    rw [noted_giveBack]
    exact ⟨hreturns hhas, news, s', hhas, hP, by rw [List.append_assoc]⟩
  unfold Host.withLease
  rw [Task.ensures_bind, Task.ensures_outcome]
  refine hbody.imp ?_
  rintro r ⟨s', journal'⟩ ⟨news, hnews, hhas, hP⟩
  obtain rfl : journal' = journal ++ news := hnews
  cases r with
  | ok a =>
    simp only [Task.ensures_bind]
    refine (hback _ news s' hhas hP).imp ?_
    rintro given st ⟨rfl, hgiven⟩
    exact hgiven
  | error f =>
    cases hpoisons : f.poisons with
    | false =>
      simp only [hpoisons, Bool.false_eq_true, if_false, Task.ensures_bind]
      refine (hback _ news s' hhas hP).imp ?_
      rintro given st ⟨rfl, hgiven⟩
      exact hgiven
    | true =>
      have hspoiled := hspoils f news hP hpoisons
      simp only [hpoisons, if_true, Task.ensures_bind, Task.ensures_state, noted_mark]
      have hmarked : Has (news.all Entry.isClean) false (h.markUnhealthy lease s').2 := by
        rw [hspoiled]
        exact hc.mark hhas
      refine (hback _ news _ hmarked hP).imp ?_
      rintro given st ⟨rfl, hgiven⟩
      exact hgiven

end Host

/-! ## Returns at an office -/

namespace Office

variable {α σ : Type} {o : Office σ} {calls : DriverCalls σ} {R : Desk → Desk → Prop} {s s' : σ}
  {lease : Nat} {slot : Slot} {healthy : Bool} {fate : Option RetireReason}

/-- How a lease is given back from a state on, in which the clock has been read, to another.  The
desk knows it as it was left.  Its connection goes where it is put, and if it is to be closed, it is
closed before the return is over. -/
structure Returned (o : Office σ) (lease : Nat) (slot : Slot) (healthy : Bool)
    (fate : Option RetireReason) (now : Seconds) (s s' : σ) : Prop where
  held : (o.desk s).leases[lease]? = some ⟨slot, healthy, false⟩
  puts : ((o.desk s).start now (.giveBack lease)).2.Puts (o.desk s).pool.idle now slot fate
  rests : fate = none → s' = (o.take ((o.desk s).start now (.giveBack lease)).2 s).2
  closes : ∀ reason, fate = some reason → ∃ r s₁ now' s₂,
    o.surroundings.closeConnection slot.raw
      (o.take ((o.desk s).start now (.giveBack lease)).2 s).2 = (r, s₁) ∧
    o.surroundings.now s₁ = (now', s₂) ∧
    s' = (o.take ((o.desk s₂).proceed ((o.desk s).start now (.giveBack lease)).1 now'
      (.closing slot reason .returned) r) s₂).2
  ended : (o.desk s').leases[lease]? = some ⟨slot, healthy, true⟩

/-- A lease in custody is returned when it is given back. -/
theorem Outside.returned [IsPreorder Desk R] {Has : Bool → Bool → Desk → Prop}
    (hout : o.Outside calls R) (hd : Desk.Custody R lease Has)
    (hslot : ∀ {healthy ended d}, Has healthy ended d →
      d.leases[lease]? = some ⟨slot, healthy, ended⟩)
    (hturns : 1 ≤ o.turns) (hs : Has healthy false (o.desk s)) :
    ∃ fate now s₁, o.Returned lease slot healthy fate now s₁ (o.call (.giveBack lease) s).2 ∧
      (fate = some .unhealthy ↔ healthy = false) ∧
      (fate = none ∨ fate = some .unhealthy ∨ fate = some .poolClosed ∨
        fate = some .maxLifetime) := by
  have hleft := hd.outside (hout.now s) hs
  have hover := hslot (hout.giveBack hd hs).1
  rcases hnow : o.surroundings.now s with ⟨now, s₁⟩
  rw [hnow] at hleft
  obtain ⟨fate, hputs, hunhealthy, hwhy⟩ := Desk.start_giveBack_puts now (hslot hleft)
  refine ⟨fate, now, s₁, ⟨hslot hleft, hputs, ?_, ?_, hover⟩, hunhealthy, ?_⟩
  · rintro rfl
    rw [call_eq _ hnow, carryOn_done hputs.1]
  · rintro reason rfl
    obtain ⟨fuel, hfuel⟩ := Nat.exists_eq_add_of_le' hturns
    rcases hclose : o.surroundings.closeConnection slot.raw
      (o.take ((o.desk s₁).start now (.giveBack lease)).2 s₁).2 with ⟨r, s₂⟩
    rcases hnow' : o.surroundings.now s₂ with ⟨now', s₃⟩
    refine ⟨r, s₂, now', s₃, rfl, hnow', ?_⟩
    rw [call_eq _ hnow, hfuel, carryOn_needs hputs.1 hclose hnow',
      carryOn_done (Desk.proceed_returned_progress ..)]
  · obtain hrests | hspoiled | ⟨hclosed, -⟩ | ⟨hold, -⟩ := hwhy
    · exact .inl hrests
    · exact .inr (.inl hspoiled)
    · exact .inr (.inr (.inl hclosed))
    · exact .inr (.inr (.inr hold))

/-! ## What comes of a statement -/

/-- A statement left its connection as it was: it was not sent, or the driver answered without an
interruption. -/
def Unspoiled (conn : Nat) (b : BoundStatement) (news : List (Entry α)) : Prop :=
  news = [] ∨ news = [.statement conn b.sql false none]

theorem unspoiled_iff {h : Host σ} {b : BoundStatement} {limits : CallLimits} {conn : Nat}
    {r : Except Failure DriverResult} {news : List (Entry α)}
    (hfares : h.Fares b limits conn r news) :
    Unspoiled conn b news ↔ news.all Entry.isClean = true := by
  cases hfares with
  | unencodable | cancelled => simp [Unspoiled]
  | done interrupted result => simp [Unspoiled, Entry.isClean]
  | failed interrupted failure f => simp [Unspoiled, Entry.isClean]

/-- How a statement leaves the connection that was lent for it. -/
structure Settled (o : Office σ) (h : Host σ) (lease : Nat) (slot : Slot) (b : BoundStatement)
    (limits : CallLimits) (r : Except Failure DriverResult) (news : List (Entry α))
    (fate : Option RetireReason) (now : Seconds) (s s' : σ) : Prop where
  fares : h.Fares b limits slot.raw r news
  /-- By the time of its return the lease shows whether the statement was clean. -/
  returned : o.Returned lease slot (news.all Entry.isClean) fate now s s'
  /-- The connection rests, or cannot rest for its age or the end of the pool, just if it is
  unspoiled. -/
  kept : (fate = none ∨ fate = some .maxLifetime ∨ fate = some .poolClosed) ↔
    Unspoiled slot.raw b news
  spoiled : fate = some .unhealthy ↔ ¬Unspoiled slot.raw b news
  /-- In no pool is a spoiled connection used again, whatever else is going on there. -/
  lost : ¬Unspoiled slot.raw b news → ∀ {c : PoolConfig} {name : String} {f : Floor},
    f.Reachable c name → f.desk = o.desk s → (f.begin now (.giveBack lease)).DoneWith slot

/-- What may come of a statement that is to run on a connection of its own, what is noted of it, and
where it leaves a host at an office. -/
inductive Errand (o : Office σ) (h : Host σ) (lease : Nat) (b : BoundStatement)
    (limits : CallLimits) (s : σ) : Except Failure DriverResult → σ → List (Entry α) → Prop where
  /-- The call has been broken off: the pool is not asked. -/
  | cancelled (hcancelled : limits.cancelledBy (h.now s).1 = true) :
      Errand o h lease b limits s (.error (h.tagged
        (.make (.cancelled false) "Statement cancelled before checkout"))) (h.now s).2 []
  /-- The pool has no connection for the call. -/
  | unlent {f : Failure} {s' : σ} (hasked : limits.cancelledBy (h.now s).1 = false)
      (hcheckout : (h.checkout (h.grace limits)).run (h.now s).2 = (.error f, s')) :
      Errand o h lease b limits s (.error f) s' []
  /-- The pool lends a connection, and it is returned once. -/
  | lent {s₁ s₂ s' : σ} {slot : Slot} {r : Except Failure DriverResult} {news : List (Entry α)}
      {fate : Option RetireReason} {now : Seconds}
      (hasked : limits.cancelledBy (h.now s).1 = false)
      (hcheckout : (h.checkout (h.grace limits)).run (h.now s).2 = (.ok lease, s₁))
      (hsettled : o.Settled h lease slot b limits r news fate now s₂ s') :
      Errand o h lease b limits s r s' (news ++ [.release lease])

/-- The pool comes to an end with a call for a connection, and lends no lease but one. -/
def Lends (h : Host σ) (lease : Nat) (limits : CallLimits) (s : σ) : Prop :=
  ((h.checkout (h.grace limits)).run s).1 ≠ .error unfinished ∧
    ∀ l, ((h.checkout (h.grace limits)).run s).1 = .ok l → l = lease

theorem host_checkout_run (driver : Driver) (patience timeout : Option Seconds)
    {r : Except Failure (Option Nat)} (hcall : o.call (.checkout timeout) s = (r, s')) :
    ((o.host driver calls patience).checkout timeout).run s =
      (r.bind fun lease => lease.elim (.error unfinished) .ok, s') := by
  have hran := (@host_checkout σ o calls s driver patience timeout r s' hcall fun r' s'' =>
    ((o.host driver calls patience).checkout timeout).run s = (r', s'')).1 rfl
  rcases r with f | _ | lease <;> exact hran

section

variable [IsPreorder Desk R]

/-- A statement runs on the connection of a lease that has just been lent. -/
theorem Outside.settled {used : Int} (hout : o.Outside calls R) (hkeeps : Desk.Keeps R lease)
    (hord : o.Orderly) (hturns : 1 ≤ o.turns) (driver : Driver) (patience : Option Seconds)
    (b : BoundStatement) (limits : CallLimits) (journal : List (Entry α))
    (hs : Desk.Occupies lease slot used (Desk.Level R) true false (o.desk s)) :
    ((Host.noted (o.host driver calls patience)).withLease lease (do
      let conn ← (Host.noted (o.host driver calls patience)).connection lease
      (Host.noted (o.host driver calls patience)).runOn lease conn b limits)).Ensures (s, journal)
      fun r st => (Desk.Level R → (o.desk st.1).pool.inUse = used) ∧ ∃ news fate now s₁,
        st.2 = journal ++ (news ++ [.release lease]) ∧
        o.Settled (o.host driver calls patience) lease slot b limits r news fate now s₁ st.1 := by
  have hd : Desk.Custody R lease (Desk.Occupies lease slot used (Desk.Level R)) :=
    Desk.occupies_custody hkeeps
  have hc := hout.custody hd driver patience
  have hreturns : (o.host driver calls patience).Returns lease fun healthy ended s' =>
      Desk.Occupies lease slot used (Desk.Level R) healthy ended (o.desk s') :=
    hout.returns hd driver patience hturns hord.close
  have hconn : connectionAt (o.desk s) lease = .ok slot.raw := by
    rw [connectionAt, hs.1]
    rfl
  have hbody : (do
      let conn ← (Host.noted (o.host driver calls patience)).connection lease
      (Host.noted (o.host driver calls patience)).runOn lease conn b limits).Ensures (s, journal)
      fun r st => ∃ news, st.2 = journal ++ news ∧
        Desk.Occupies lease slot used (Desk.Level R) (news.all Entry.isClean) false
          (o.desk st.1) ∧
        (o.host driver calls patience).Fares b limits slot.raw r news := by
    simp only [Task.ensures_bind, Host.noted_connection, host_connection, hconn]
    exact hc.runOn_fares slot.raw b limits hs
  refine (hc.withLease hreturns hbody fun f news hfares => hfares.spoils).imp ?_
  rintro r st ⟨news, s₁, hhas, hfares, rfl⟩
  have hstate : (((o.host driver calls patience).giveBack lease).run s₁).2 =
      (o.call (.giveBack lease) s₁).2 := rfl
  obtain ⟨fate, now, s₂, hreturned, hunhealthy, hwhy⟩ :=
    hout.returned hd (fun h => h.1) hturns hhas
  have hover := (hout.giveBack hd hhas).1.2
  simp only [if_true, Int.add_zero] at hover
  have hspoils : ¬Unspoiled slot.raw b news ↔ news.all Entry.isClean = false := by
    rw [unspoiled_iff hfares, Bool.not_eq_true]
  have hspoiled : fate = some .unhealthy ↔ ¬Unspoiled slot.raw b news :=
    hunhealthy.trans hspoils.symm
  rw [hstate]
  refine ⟨hover, news, fate, now, s₂, rfl, hfares, hreturned, ?_, hspoiled, ?_⟩
  · constructor
    · intro hkept
      by_contra hno
      rw [hspoiled.2 hno] at hkept
      simp at hkept
    · intro hunspoiled
      obtain hrests | hlost | hclosed | hold := hwhy
      · exact .inl hrests
      · exact absurd hunspoiled (hspoiled.1 hlost)
      · exact .inr (.inr hclosed)
      · exact .inr (.inl hold)
  · intro hno c name f hreachable hdesk
    have hheld := hreturned.held
    rw [hspoils.1 hno, ← hdesk] at hheld
    exact hreachable.doneWith now hheld

/-- A statement that asks the pool has an errand there: what others do with the pool in the meantime
does not matter, as long as they leave its lease alone. -/
theorem Surrounded.perform_errand (hsur : o.Surrounded calls R) (hkeeps : Desk.Keeps R lease)
    (hord : o.Orderly) (hturns : 1 ≤ o.turns) (driver : Driver) (patience : Option Seconds)
    (b : BoundStatement) (limits : CallLimits) (journal : List (Entry α))
    (hlends : limits.cancelledBy ((o.host driver calls patience).now s).1 = false →
      Lends (o.host driver calls patience) lease limits
        ((o.host driver calls patience).now s).2) :
    ((Host.noted (o.host driver calls patience)).perform b limits).Ensures (s, journal)
      fun r st => (Desk.Level R → (o.desk st.1).pool.inUse = (o.desk s).pool.inUse) ∧
        ∃ news, st.2 = journal ++ news ∧
          o.Errand (o.host driver calls patience) lease b limits s r st.1 news := by
  have hleft : Desk.Level R → (o.desk ((o.host driver calls patience).now s).2).pool.inUse =
      (o.desk s).pool.inUse := fun hlevel => hlevel _ _ (hsur.now s)
  unfold Host.perform
  rw [Task.ensures_bind]
  refine Host.ensures_checkoutWithin limits (fun hcancelled => ?_) fun hasked => ?_
  · exact ⟨hleft, [], (List.append_nil journal).symm, .cancelled hcancelled⟩
  obtain ⟨hends, honly⟩ := hlends hasked
  rcases hcall : o.call (.checkout ((o.host driver calls patience).grace limits))
    ((o.host driver calls patience).now s).2 with ⟨x, s₁⟩
  have hcheckout : ((o.host driver calls patience).checkout _).run _ = _ :=
    host_checkout_run driver patience _ hcall
  rw [hcheckout] at hends honly
  have hfinished : x ≠ .error unfinished := by
    rintro rfl
    exact hends rfl
  have hvisits := fun hlevel : Desk.Level R =>
    hsur.checkout_visits hord (fun h => hlevel _ _ h) hcall hfinished
  refine (Host.noted_checkout ..).2 ((Task.ensures_run hcheckout _).2 ?_)
  rcases x with f | _ | l
  · exact ⟨fun hlevel => ((hvisits hlevel).2 nofun).trans (hleft hlevel), [],
      (List.append_nil journal).symm, .unlent hasked hcheckout⟩
  · exact absurd rfl hends
  obtain rfl := honly l rfl
  rintro left ⟨s₂, journal'⟩ hafter hsame
  obtain ⟨d, slot, hslot, hR⟩ := hsur.call_lends hcall
  have hd : Desk.Custody R l (Desk.Occupies l slot (o.desk s).pool.inUse (Desk.Level R)) :=
    Desk.occupies_custody hkeeps
  have hlent : Desk.Occupies l slot (o.desk s).pool.inUse (Desk.Level R) true false
      (o.desk s₁) := by
    refine ⟨hkeeps _ _ _ hR hslot, fun hlevel => ?_⟩
    rw [(hvisits hlevel).1 l rfl, hleft hlevel]
    rfl
  have hoccupies : Desk.Occupies l slot (o.desk s).pool.inUse (Desk.Level R) true false
      (o.desk s₂) ∧ journal' = journal := by
    obtain hafter | hafter := hafter
    · obtain ⟨rfl, hjournal⟩ := Prod.mk.inj hafter
      exact ⟨hlent, hjournal⟩
    · obtain ⟨rfl, hjournal⟩ := Prod.mk.inj hafter
      exact ⟨hd.outside (hsur.now s₁) hlent, hjournal⟩
  obtain ⟨hoccupies, rfl⟩ := hoccupies
  refine (hsur.settled hkeeps hord hturns driver patience b left journal' hoccupies).imp ?_
  rintro r st ⟨hinUse, news, fate, now, s₃, hnews, hsettled⟩
  have hfares := hsettled.fares.limits hsame
  exact ⟨hinUse, _, hnews, .lent hasked hcheckout { hsettled with fares := hfares }⟩

end

/-! ## What comes of a call -/

/-- A call that could be prepared, and has not been broken off by then, comes to the pool. -/
def Arrives (h : Host σ) (c : RunnerCall) (s s' : σ) : Prop :=
  ∃ b notices, c.prepared h.dialect = .ok (b, notices) ∧
    c.limits.cancelledBy (h.now ((h.reportAll notices).run s).2).1 = false ∧
    s' = (h.now ((h.reportAll notices).run s).2).2

section

variable [IsPreorder Desk R]

theorem Outside.reportAll (hout : o.Outside calls R) (driver : Driver)
    (patience : Option Seconds) (notices : List Notice) (s : σ) :
    R (o.desk s) (o.desk (((o.host driver calls patience).reportAll notices).run s).2) := by
  induction notices generalizing s with
  | nil => exact refl_of R _
  | cons n rest ih => exact trans_of R (hout.tell n s) (ih _)

/-- Whatever is asked of an executor, and however the driver answers, as many connections are in use
afterwards as before, but for what others do.  What cannot be prepared touches nothing; the rest is
the errand of the statement.  What is read from its result does not matter to the connection, which
is back by then.  The lease that the pool gives, if it gives one, is what others have to leave
alone. -/
theorem Surrounded.executor_errand (hsur : o.Surrounded calls R) (hkeeps : Desk.Keeps R lease)
    (hord : o.Orderly) (hturns : 1 ≤ o.turns) (driver : Driver) (patience : Option Seconds)
    (c : RunnerCall) (journal : List (Entry α))
    (hlends : ∀ s', Arrives (o.host driver calls patience) c s s' →
      Lends (o.host driver calls patience) lease c.limits s') :
    (c.on (Host.noted (o.host driver calls patience)).executor).Ensures (s, journal) fun r st =>
      (Desk.Level R → (o.desk st.1).pool.inUse = (o.desk s).pool.inUse) ∧
        match c.prepared driver.dialect with
        | .error f => r = .error f ∧ st = (s, journal)
        | .ok (b, notices) => ∃ result news, r = result.bind (c.read driver.dialect) ∧
            st.2 = journal ++ news ∧
            o.Errand (o.host driver calls patience) lease b c.limits
              (((o.host driver calls patience).reportAll notices).run s).2 result st.1 news := by
  have hdialect : (Host.noted (o.host driver calls patience) :
      Host (σ × List (Entry α))).executor.dialect = driver.dialect := rfl
  rw [RunnerCall.on_eq, hdialect]
  cases hprepared : c.prepared driver.dialect with
  | error f => exact ⟨fun _ => rfl, rfl, rfl⟩
  | ok prepared =>
    obtain ⟨b, notices⟩ := prepared
    rw [RunnerCall.lift_ok, pure_bind, Task.ensures_bind]
    refine (Host.noted_reportAll ..).2 ?_
    have htold := hsur.reportAll driver patience notices s
    rw [Task.ensures_bind]
    refine (hsur.perform_errand hkeeps hord hturns driver patience b c.limits journal
      fun hasked => hlends _ ⟨b, notices, hprepared, hasked, rfl⟩).imp ?_
    rintro result st ⟨hinUse, news, hnews, herrand⟩
    have hlevel := fun hlevel : Desk.Level R => (hinUse hlevel).trans (hlevel _ _ htold)
    cases result with
    | error f => exact ⟨hlevel, .error f, news, rfl, hnews, herrand⟩
    | ok result =>
      exact (RunnerCall.ensures_lift _ _).2 ⟨hlevel, .ok result, news, rfl, hnews, herrand⟩

end

open Transaction (quietOffice plainDriver)

/-- A statement without parameters, bound by hand. -/
def purgeStatement : BoundStatement :=
  { sql := "DELETE FROM t", binds := [], style := .qmark, dialect := none, balanced := by decide }

def purgeCall : RunnerCall := .execute (.bound purgeStatement) {}

/-- What comes of the statement with a driver that refuses it. -/
def purgeRefused : Except Failure Answer × Desk × List (Entry Unit) :=
  (purgeCall.on (Host.noted quietHost).executor).run (quietDesk, [])

/-- The refused statement has had a connection, which is closed and in use no more. -/
theorem executor_errand_refused :
    (purgeRefused.2.1.pool.live = 0 ∧ purgeRefused.2.1.pool.idle = [] ∧
      ∃ failure, purgeRefused.2.2 =
        [.statement 7 "DELETE FROM t" false (some failure), .release 0]) ∧
    purgeRefused.2.1.pool.inUse = quietDesk.pool.inUse ∧
      ∃ result news, purgeRefused.1 = result.bind (purgeCall.read plainDriver.dialect) ∧
        purgeRefused.2.2 = [] ++ news ∧
        quietOffice.Errand quietHost 0 purgeStatement {} quietDesk result purgeRefused.2.1
          news := by
  have hkeeps : Desk.Keeps (Desk.Balances 0) 0 := fun _ _ l hbalances => hbalances.2 l
  have hlent : ((quietHost.checkout (quietHost.grace {})).run quietDesk).1 = .ok 0 := rfl
  have hlends : ∀ s', Arrives quietHost purgeCall quietDesk s' →
      Lends quietHost 0 purgeCall.limits s' := by
    rintro s' ⟨b, notices, ⟨⟩, -, rfl⟩
    refine ⟨?_, fun l hl => (Except.ok.inj (hlent.symm.trans hl)).symm⟩
    intro hunfinished
    cases hlent.symm.trans hunfinished
  have herrand := (refusing_surrounded (Desk.Balances 0)).executor_errand (s := quietDesk) hkeeps
    quiet_orderly (by decide) plainDriver none purgeCall ([] : List (Entry Unit)) hlends
  exact ⟨⟨rfl, rfl, _, rfl⟩, herrand.1 fun _ _ hbalances => hbalances.1, herrand.2⟩

end Office

end SqlGateway
