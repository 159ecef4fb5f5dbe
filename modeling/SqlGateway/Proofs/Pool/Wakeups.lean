import SqlGateway.Proofs.Pool.Shutdown
set_option autoImplicit false

/-!
# Pool: wake-ups

A caller waits when nothing rests and there is no room.  An operation that frees something calls
as many sleepers as it frees places, or all of them; a caller that goes on, called or because its
time is over, looks for a connection before it gives up or sleeps again.  So as long as a caller
sleeps that has not been called, no more is free than there are callers that have been called and
have not gone on yet: a call is owed for nothing that is free.  Newcomers may take what a called
caller was to have; then less is free, and nobody is owed more.
-/

namespace SqlGateway

namespace Pending

/-- A caller waits for a connection. -/
def waits : Pending → Bool
  | .sleeping _ (.visit _) => true
  | _ => false

/-- An operation that sleeps, by its number. -/
def sleeper (caller : Nat) : Pending → Multiset Nat
  | .sleeping _ _ => {caller}
  | _ => 0

/-- The wait of a caller ends when it is called or when its time is over; it is not interrupted.
Openings, tests and closings may end in any way. -/
def Undisturbed : (q : Pending) → q.Reply → Prop
  | .sleeping _ (.visit _), r => r = .ok ()
  | _, _ => True

end Pending

namespace Progress

variable {α : Type}

/-- An operation that sleeps after a stretch, by its number. -/
def sleeper (caller : Nat) : Progress α → Multiset Nat
  | .needs q => q.sleeper caller
  | .done _ => 0

/-- After a stretch the operation waits for the return of the pool's connections. -/
def AwaitsReturns : Progress α → Prop
  | .needs q => q.AwaitsReturns
  | .done _ => False

/-- A stretch that brings a caller nothing: it sleeps, or it has failed. -/
def InVain : Progress α → Prop
  | .needs q => ∃ limit use, q = .sleeping limit use
  | .done r => ∃ f, r = .error f

end Progress

/-! ## Pools that owe no call -/

namespace Pool

/-- What callers can have at once: connections at rest, and room for new ones. -/
def free (p : Pool) : Int := p.idle.length + (p.config.maxSize - p.live)

/-- The pool knows who sleeps; it is closed if it has to be; and while somebody sleeps uncalled,
no more is free than there are calls that have not been answered, but for some calls owed. -/
structure Heeds (p : Pool) (queue : Multiset Nat) (shut : Prop) (owed : Nat) : Prop where
  listed : (p.sleepers : Multiset Nat) + p.woken = queue
  closing : shut → p.closing = true
  alert : p.closing = false → p.sleepers ≠ [] → p.free ≤ p.woken.length + owed

namespace Heeds

variable {p p' : Pool} {queue : Multiset Nat} {shut : Prop} {owed owed' count caller : Nat}

/-- What becomes free is owed. -/
theorem frees (h : p.Heeds queue shut owed) (hsleepers : p'.sleepers = p.sleepers)
    (hwoken : p'.woken = p.woken) (hclosing : p'.closing = p.closing)
    (hfree : p'.free + owed ≤ p.free + owed') : p'.Heeds queue shut owed' := by
  refine ⟨by rw [hsleepers, hwoken]; exact h.listed, by rw [hclosing]; exact h.closing, ?_⟩
  rw [hsleepers, hwoken, hclosing]
  intro hopen hsleep
  have halert := h.alert hopen hsleep
  omega

theorem slack (h : p.Heeds queue shut 0) : p.Heeds queue shut owed :=
  h.frees rfl rfl rfl (by omega)

/-- Nothing is owed where nothing is free, or where the pool is closed. -/
theorem settled (h : p.Heeds queue shut owed) (hnothing : p.closing = false → p.free ≤ 0) :
    p.Heeds queue shut owed' := by
  refine ⟨h.listed, h.closing, ?_⟩
  intro hopen _
  have := hnothing hopen
  omega

/-- A call for each place that is owed. -/
theorem call (h : p.Heeds queue shut count) : (p.call count).Heeds queue shut 0 := by
  refine ⟨?_, h.closing, ?_⟩
  · rw [← h.listed]
    simp only [Pool.call, Multiset.coe_add]
    refine Multiset.coe_eq_coe.2 ?_
    calc p.sleepers.drop count ++ (p.woken ++ p.sleepers.take count)
        _ = p.sleepers.drop count ++ p.woken ++ p.sleepers.take count :=
          (List.append_assoc ..).symm
        List.Perm _ (p.sleepers.take count ++ (p.sleepers.drop count ++ p.woken)) :=
          List.perm_append_comm
        _ = p.sleepers ++ p.woken := by rw [← List.append_assoc, List.take_append_drop]
  · intro hopen hsleep
    have hmore : count < p.sleepers.length := by
      simpa [Pool.call] using hsleep
    have halert := h.alert hopen (List.ne_nil_of_length_pos (by omega))
    have hcalled : (p.sleepers.take count).length = count := List.length_take_of_le hmore.le
    simp only [Pool.call, free, List.length_append, hcalled] at halert ⊢
    omega

/-- When everybody has been called, nothing is owed. -/
theorem callAll (h : p.Heeds queue shut owed) : p.callAll.Heeds queue shut 0 := by
  refine ⟨?_, h.closing, fun _ hsleep => absurd rfl hsleep⟩
  rw [← h.listed]
  simp only [Pool.callAll, Multiset.coe_nil, zero_add, ← Multiset.coe_add]
  exact add_comm _ _

/-- Nobody goes to sleep beside something free. -/
theorem fallAsleep (h : p.Heeds queue shut owed) (hnothing : p.closing = false → p.free ≤ 0)
    (caller : Nat) : (p.fallAsleep caller).Heeds (queue + {caller}) shut 0 := by
  refine ⟨?_, h.closing, ?_⟩
  · rw [← h.listed, ← Multiset.coe_singleton]
    simp only [Pool.fallAsleep, ← Multiset.coe_add]
    abel
  · intro hopen _
    have hfull : (p.fallAsleep caller).free ≤ 0 := hnothing hopen
    omega

/-- A caller that goes on takes its call along, if it had one. -/
theorem wakeUp (h : p.Heeds (queue + {caller}) shut 0) (hcaller : caller ∉ queue) :
    (p.wakeUp caller).Heeds queue shut 1 := by
  refine ⟨?_, h.closing, ?_⟩
  · ext a
    have hlisted := congrArg (Multiset.count a) h.listed
    simp only [Multiset.count_add, Multiset.coe_count, Multiset.count_singleton] at hlisted
    simp only [Pool.wakeUp, Multiset.count_add, Multiset.coe_count, List.count_erase, beq_iff_eq]
    by_cases ha : a = caller
    · subst ha
      have hother : queue.count a = 0 := Multiset.count_eq_zero.2 hcaller
      simp only [if_true] at hlisted ⊢
      omega
    · simp only [if_neg ha, if_neg (Ne.symm ha)] at hlisted ⊢
      omega
  · intro hopen hsleep
    have hslept : p.sleepers ≠ [] := by
      rintro hnobody
      simp [Pool.wakeUp, hnobody] at hsleep
    have halert := h.alert hopen hslept
    have hcalls : p.woken.length ≤ (p.woken.erase caller).length + 1 := by
      rw [List.length_erase]
      split <;> omega
    simp only [Pool.wakeUp, free] at halert ⊢
    omega

end Heeds

/-! ## Stretches -/

/-- After a stretch the pool owes no call, and it knows whether the operation sleeps. -/
def Stretch.Heeds (t : Stretch) (caller : Nat) (queue : Multiset Nat) (shut : Prop) : Prop :=
  t.state.Heeds (queue + t.progress.sleeper caller) (shut ∨ t.progress.AwaitsReturns) 0

section

variable {p : Pool} {queue : Multiset Nat} {shut : Prop} {owed caller : Nat} {s : Slot}
  {now : Seconds} {v : Visit}

theorem heeds_sleeps {limit : Option Seconds} {use : Sleeping}
    (h : p.Heeds (queue + {caller}) shut 0)
    (huse : (Pending.sleeping limit use).AwaitsReturns → p.closing = true) :
    Stretch.Heeds (.asks p (.sleeping limit use)) caller queue shut :=
  ⟨h.listed, fun hshut => hshut.elim h.closing huse, h.alert⟩

theorem heeds_asks {q : Pending} (hsleeper : q.sleeper caller = 0) (hq : ¬ q.AwaitsReturns)
    (h : p.Heeds queue shut 0) : Stretch.Heeds (.asks p q) caller queue shut := by
  refine ⟨?_, fun hshut => h.closing (hshut.resolve_right hq), h.alert⟩
  simp only [Turn.asks, Progress.sleeper, hsleeper, add_zero]
  exact h.listed

theorem heeds_ends (r : Except Failure (Option Slot)) (h : p.Heeds queue shut 0) :
    Stretch.Heeds (.ends p r) caller queue shut := by
  refine ⟨?_, fun hshut => h.closing (hshut.resolve_right id), h.alert⟩
  simp only [Turn.ends, Progress.sleeper, add_zero]
  exact h.listed

theorem heeds_after {t : Stretch} (notices : List Notice) (h : t.Heeds caller queue shut) :
    Stretch.Heeds (t.after notices) caller queue shut := h

/-! ### Checking out -/

theorem handOut_heeds (h : p.Heeds queue shut 0) : (p.handOut now v s).Heeds caller queue shut :=
  heeds_ends (.ok (some s)) h

theorem discard_heeds {reason : RetireReason} (h : p.Heeds queue shut 0) :
    (p.discard s reason v).Heeds caller queue shut :=
  heeds_asks rfl id (h.frees rfl rfl rfl le_rfl)

theorem examine_heeds (h : p.Heeds queue shut 0) : (p.examine now v s).Heeds caller queue shut := by
  unfold examine
  split
  · exact heeds_asks rfl id h
  · split
    · exact heeds_asks rfl id h
    · exact handOut_heeds h

/-- A caller that looks for a connection pays the call it has had: it takes a place, or there is
none. -/
theorem seek_heeds (h : p.Heeds queue shut 1) : (p.seek caller now v).Heeds caller queue shut := by
  unfold seek
  split
  next hclosing =>
    exact heeds_ends _ (h.settled fun hopen => by rw [hopen] at hclosing; cases hclosing)
  · split
    next s hlast =>
      obtain ⟨cold, hidle⟩ := List.getLast?_eq_some_iff.1 hlast
      apply examine_heeds
      refine h.frees rfl rfl rfl ?_
      simp only [free, hidle, List.dropLast_concat, List.length_append, List.length_singleton]
      omega
    next hlast =>
      have hidle : p.idle = [] := List.getLast?_eq_none_iff.1 hlast
      split
      · refine heeds_asks rfl id (h.frees rfl rfl rfl ?_)
        simp only [free]
        omega
      next hroom =>
        have hnothing : p.free ≤ 0 := by
          simp only [free, hidle, List.length_nil]
          omega
        have hasleep : ({ p.fallAsleep caller with waiting := p.waiting + 1 }).Heeds
            (queue + {caller}) shut 0 :=
          (h.fallAsleep (fun _ => hnothing) caller).frees rfl rfl rfl le_rfl
        split
        · split
          · exact heeds_ends _ (h.settled fun _ => hnothing)
          · exact heeds_sleeps hasleep False.elim
        · exact heeds_sleeps hasleep False.elim

/-! ### Returning and sweeping -/

theorem startReturn_heeds (healthy : Bool) (h : p.Heeds queue shut 0) :
    (p.startReturn now s healthy).Heeds caller queue shut := by
  unfold startReturn
  simp only
  split
  · exact heeds_asks rfl id (h.frees rfl rfl rfl le_rfl)
  · apply heeds_ends
    refine Heeds.call (h.frees rfl rfl rfl ?_)
    simp only [free, List.length_append, List.length_singleton]
    omega

theorem fillUp_heeds (h : p.Heeds queue shut 0) : p.fillUp.Heeds caller queue shut := by
  unfold fillUp
  split
  · exact heeds_ends _ h
  · refine heeds_asks rfl id (h.frees rfl rfl rfl ?_)
    simp only [free]
    omega

theorem closeLate_heeds (slots : List Slot) (h : p.Heeds queue shut 0) :
    (p.closeLate slots).Heeds caller queue shut := by
  cases slots with
  | nil => exact heeds_ends _ h
  | cons s rest => exact heeds_asks rfl id h

/-- A sweep calls as many as it puts connections back. -/
theorem finishTests_heeds (alive : List Slot) (h : p.Heeds queue shut 0) :
    (p.finishTests alive).Heeds caller queue shut := by
  unfold finishTests
  split
  · exact closeLate_heeds alive h
  · refine heeds_asks rfl id (Heeds.call (h.frees rfl rfl rfl ?_))
    simp only [free, List.length_append]
    omega

theorem testNext_heeds (alive untested : List Slot) (h : p.Heeds queue shut 0) :
    (p.testNext alive untested).Heeds caller queue shut := by
  cases untested with
  | nil => exact heeds_asks rfl id h
  | cons s rest => exact heeds_asks rfl id h

theorem retireNext_heeds (others : List Slot) (retired : List (Slot × RetireReason))
    (h : p.Heeds queue shut 0) : (p.retireNext others retired).Heeds caller queue shut := by
  cases retired with
  | nil => exact testNext_heeds [] others h
  | cons first rest => exact heeds_asks rfl id h

/-- Taking every connection at rest frees nothing. -/
theorem Heeds.takeAll (h : p.Heeds queue shut 0) : ({ p with idle := [] }).Heeds queue shut 0 := by
  refine h.frees rfl rfl rfl ?_
  simp only [free, List.length_nil]
  omega

theorem startSweep_heeds (h : p.Heeds queue shut 0) :
    (p.startSweep now).Heeds caller queue shut := by
  unfold startSweep
  split
  · exact heeds_ends _ h
  · exact retireNext_heeds _ _ h.takeAll

/-! ### Closing -/

theorem shutNext_heeds (first : Bool) (slots : List Slot) (h : p.Heeds queue shut 0) :
    (p.shutNext first slots).Heeds caller queue shut := by
  cases slots with
  | nil => exact heeds_ends (.ok none) h
  | cons s rest => exact heeds_asks rfl id h

theorem shut_heeds (first : Bool) (h : p.Heeds queue shut 0) :
    (p.shut first).Heeds caller queue shut :=
  shutNext_heeds first p.idle h.takeAll

/-- Only in a closed pool does an operation wait for the return of connections. -/
theorem awaitReturns_heeds (deadline : Option Seconds) (hclosing : p.closing = true)
    (h : p.Heeds queue shut owed) :
    (p.awaitReturns caller now deadline).Heeds caller queue shut := by
  have hclosed : p.closing = false → p.free ≤ 0 := fun hopen => by
    rw [hopen] at hclosing
    cases hclosing
  have hshut : (p.shut true).Heeds caller queue shut := shut_heeds true (h.settled hclosed)
  have hasleep := h.fallAsleep hclosed caller
  unfold awaitReturns
  split
  · exact hshut
  · split
    · split
      · exact heeds_after _ hshut
      · exact heeds_sleeps hasleep fun _ => hclosing
    · exact heeds_sleeps hasleep fun _ => hclosing

theorem startClose_heeds (timeout : Option Seconds) (h : p.Heeds queue shut 0) :
    (p.startClose caller now timeout).Heeds caller queue shut := by
  have hclosed : ({ p with closing := true }).callAll.Heeds queue shut 0 := by
    have hopen : ({ p with closing := true }).Heeds queue shut 0 :=
      ⟨h.listed, fun _ => rfl, fun hopen => nomatch hopen⟩
    exact hopen.callAll
  unfold startClose
  simp only
  split
  · exact shut_heeds false hclosed
  · exact awaitReturns_heeds _ rfl hclosed

/-! ### Going on -/

/-- A connection that could not be opened leaves its room to one that sleeps. -/
theorem opened_heeds (use : Opening) (r : Except Failure Nat) (h : p.Heeds queue shut 0) :
    (p.opened now use r).Heeds caller queue shut := by
  cases r with
  | error f =>
    have hleft : (({ p with live := p.live - 1, inUse := p.inUse - 1 }).call 1).Heeds
        queue shut 0 := by
      refine Heeds.call (h.frees rfl rfl rfl ?_)
      simp only [free]
      omega
    simp only [opened]
    split
    · exact heeds_ends _ hleft
    · split
      · exact heeds_ends (.ok none) hleft
      · exact heeds_ends _ hleft
  | ok raw =>
    simp only [opened]
    split
    · exact heeds_after _ (handOut_heeds (h.frees rfl rfl rfl le_rfl))
    · split
      · exact heeds_after _ (heeds_asks rfl id (h.frees rfl rfl rfl le_rfl))
      · refine heeds_after _ (heeds_asks rfl id (Heeds.call (h.frees rfl rfl rfl ?_)))
        simp only [free, List.length_cons]
        omega

theorem tested_heeds (use : Testing) (r : Except Failure Bool) (h : p.Heeds queue shut 0) :
    (p.tested now s use r).Heeds caller queue shut := by
  have htested : ∀ alive, (p.tested now s use (.ok alive)).Heeds caller queue shut := by
    intro alive
    simp only [tested]
    cases use with
    | visit v =>
      cases alive with
      | true => exact handOut_heeds h
      | false => exact discard_heeds h
    | sweep rest found =>
      cases alive with
      | true => exact testNext_heeds _ rest h
      | false => exact heeds_asks rfl id h
  cases r with
  | ok alive => exact htested alive
  | error f =>
    simp only [tested]
    split
    · exact heeds_after _ (htested false)
    · exact heeds_ends _ h

/-- Whoever has closed a connection calls everybody, so its room is owed to nobody. -/
theorem closed_heeds (reason : RetireReason) (next : Closing) (r : Except Failure Unit)
    (h : p.Heeds queue shut 0) : (p.closed s reason next r).Heeds caller queue shut := by
  have hleft : ({ p with live := p.live - 1 }).callAll.Heeds queue shut 0 := by
    have hroom : ({ p with live := p.live - 1 }).Heeds queue shut 1 := by
      refine h.frees rfl rfl rfl ?_
      simp only [free]
      omega
    exact hroom.callAll
  have hgone : (p.closed s reason next (.ok ())).Heeds caller queue shut := by
    apply heeds_after
    cases next with
    | visit v => exact heeds_asks rfl id hleft
    | returned => exact heeds_ends _ hleft
    | retired rest others => exact retireNext_heeds others rest hleft
    | stale rest alive => exact testNext_heeds alive rest hleft
    | late rest => exact closeLate_heeds rest hleft
    | surplus => exact heeds_ends _ hleft
    | shutdown rest first => exact shutNext_heeds first rest hleft
  cases r with
  | ok _ => exact hgone
  | error f =>
    simp only [closed] at hgone ⊢
    split
    · exact hgone
    · exact heeds_ends _ hleft

theorem roused_heeds {use : Sleeping} {limit : Option Seconds} {r : Except Failure Unit}
    (hr : (Pending.sleeping limit use).Undisturbed r) (hcaller : caller ∉ queue)
    (h : p.Heeds (queue + {caller}) (shut ∨ (Pending.sleeping limit use).AwaitsReturns) 0) :
    (p.roused caller now use r).Heeds caller queue shut := by
  have hawake := h.wakeUp hcaller
  have hothers : (p.wakeUp caller).Heeds queue shut 1 :=
    ⟨hawake.listed, fun hshut => hawake.closing (.inl hshut), hawake.alert⟩
  cases use with
  | visit v =>
    cases hr
    exact seek_heeds (hothers.frees rfl rfl rfl le_rfl)
  | shutdown deadline =>
    have hclosing : (p.wakeUp caller).closing = true := h.closing (.inr trivial)
    cases r with
    | ok _ => exact awaitReturns_heeds deadline hclosing hothers
    | error f =>
      refine heeds_ends _ (hothers.settled fun hopen => ?_)
      rw [hopen] at hclosing
      cases hclosing

theorem resumed_heeds (use : Pausing) (h : p.Heeds queue shut 0) :
    (p.resumed caller now use).Heeds caller queue shut := by
  cases use with
  | discard s reason v => exact discard_heeds h
  | visit v => exact seek_heeds h.slack
  | tests alive => exact finishTests_heeds alive h
  | fill => exact fillUp_heeds h

/-- An operation that goes on leaves no call owed. -/
theorem proceed_heeds (now : Seconds) {q : Pending} {r : q.Reply} (hr : q.Undisturbed r)
    (hcaller : caller ∉ queue)
    (h : p.Heeds (queue + q.sleeper caller) (shut ∨ q.AwaitsReturns) 0) :
    (p.proceed caller now q r).Heeds caller queue shut := by
  have hawake : q.sleeper caller = 0 → p.Heeds queue shut 0 := by
    intro hsleeper
    rw [hsleeper, add_zero] at h
    exact ⟨h.listed, fun hshut => h.closing (.inl hshut), h.alert⟩
  cases q with
  | opening use => exact opened_heeds use r (hawake rfl)
  | testing s use => exact tested_heeds use r (hawake rfl)
  | closing s reason next => exact closed_heeds reason next r (hawake rfl)
  | sleeping limit use => exact roused_heeds hr hcaller h
  | pausing use => exact resumed_heeds use (hawake rfl)

/-- A caller that has taken a connection neither fails nor sleeps. -/
theorem examine_served : ¬ (p.examine now v s).progress.InVain := by
  unfold examine
  split
  · rintro ⟨_, _, hq⟩
    cases hq
  · split
    · rintro ⟨_, _, hq⟩
      cases hq
    · rintro ⟨_, hr⟩
      cases hr

/-- A caller that looks for a connection is served while anything is free. -/
theorem seek_inVain (hopen : p.closing = false) (h : (p.seek caller now v).progress.InVain) :
    p.free ≤ 0 := by
  unfold seek at h
  rw [if_neg (by simp [hopen])] at h
  split at h
  next s hlast => exact absurd h examine_served
  next hlast =>
    have hidle : p.idle = [] := List.getLast?_eq_none_iff.1 hlast
    split at h
    · obtain ⟨_, _, hq⟩ := h
      cases hq
    next hroom =>
      simp only [free, hidle, List.length_nil]
      omega

end

end Pool

/-! ## At a desk -/

namespace Desk

/-- After a stretch at the desk the pool owes no call. -/
def Stretch.Heeds (t : Stretch) (caller : Nat) (queue : Multiset Nat) (shut : Prop) : Prop :=
  t.state.pool.Heeds (queue + t.progress.sleeper caller) (shut ∨ t.progress.AwaitsReturns) 0

variable {d : Desk} {queue : Multiset Nat} {shut : Prop} {caller : Nat}

theorem settle_heeds {t : Pool.Stretch} (h : t.Heeds caller queue shut) :
    (d.settle t).Heeds caller queue shut := by
  unfold Pool.Stretch.Heeds at h
  unfold settle
  split <;> rename_i hp <;> rw [hp] at h <;> exact h

/-- What is in vain at the desk has been in vain at the pool. -/
theorem settle_inVain {t : Pool.Stretch} (h : (d.settle t).progress.InVain) :
    t.progress.InVain := by
  unfold settle at h
  split at h <;> rename_i hp <;> rw [hp]
  · exact h
  · exact ⟨_, rfl⟩
  · obtain ⟨_, hr⟩ := h
    cases hr
  · obtain ⟨_, hr⟩ := h
    cases hr

theorem giveBack_heeds (now : Seconds) (lease : Nat) (h : d.pool.Heeds queue shut 0) :
    (d.giveBack now lease).Heeds caller queue shut := by
  have hnothing : Stretch.Heeds (.ends d (.ok none)) caller queue shut :=
    @Pool.heeds_ends d.pool queue shut caller (.ok none) h
  unfold giveBack
  split
  · exact hnothing
  · split
    · exact hnothing
    · exact settle_heeds (Pool.startReturn_heeds _ h)

/-- An operation that begins leaves no call owed. -/
theorem start_heeds (now : Seconds) (q : DeskCall) (h : d.pool.Heeds queue shut 0) :
    (d.start now q).2.Heeds d.nextCaller queue shut := by
  cases q with
  | checkout timeout => exact settle_heeds (Pool.seek_heeds h.slack)
  | giveBack lease => exact giveBack_heeds now lease h
  | sweep => exact settle_heeds (Pool.startSweep_heeds h)
  | close timeout => exact settle_heeds (Pool.startClose_heeds timeout h)

end Desk

/-! ## Runs -/

namespace Floor

/-- One thing that can happen next, where the wait of a caller is not interrupted. -/
inductive Moves : Floor → Floor → Prop where
  | begin (f : Floor) (now : Seconds) (q : DeskCall) : Moves f (f.begin now q)
  | spoil (f : Floor) (lease : Nat) : Moves f { f with desk := f.desk.markUnhealthy lease }
  | goOn (f : Floor) (now : Seconds) {before after : List (Nat × Pending)} {caller : Nat}
      {q : Pending} (r : q.Reply) (hr : q.Undisturbed r)
      (hrunning : f.running = before ++ (caller, q) :: after) :
      Moves f (f.goOn (before ++ after) caller now q r)

/-- Those of some operations that sleep, by number. -/
def asleep (running : List (Nat × Pending)) : Multiset Nat :=
  (running.map fun e => e.2.sleeper e.1).sum

/-- Callers that wait for a connection. -/
def waiters (f : Floor) : List (Nat × Pending) := f.running.filter fun e => e.2.waits

/-- Callers that wait for a connection and have been called. -/
def called (f : Floor) : List (Nat × Pending) :=
  f.waiters.filter fun e => f.desk.pool.woken.contains e.1

/-- The pool owes no call, and operations are told apart by their numbers. -/
structure Alert (f : Floor) : Prop where
  heeds : f.desk.pool.Heeds (asleep f.running) (∃ e ∈ f.running, e.2.AwaitsReturns) 0
  distinct : (f.running.map Prod.fst).Nodup
  numbered : ∀ e ∈ f.running, e.1 < f.desk.nextCaller

variable {f g : Floor} {c : PoolConfig} {name : String}

theorem mem_asleep {running : List (Nat × Pending)} {caller : Nat} (h : caller ∈ asleep running) :
    caller ∈ running.map Prod.fst := by
  induction running with
  | nil => simp [asleep] at h
  | cons e rest ih =>
    simp only [asleep, List.map_cons, List.sum_cons, Multiset.mem_add] at h
    rcases h with hfirst | hlater
    · obtain ⟨number, q⟩ := e
      cases q with
      | sleeping limit use => simp [Multiset.mem_singleton.1 hfirst]
      | _ => cases hfirst
    · exact List.mem_cons_of_mem _ (ih hlater)

/-- The floor after a stretch that leaves no call owed. -/
theorem land_alert {others : List (Nat × Pending)} {news : List Happening} {caller : Nat}
    {t : Desk.Stretch}
    (hheeds : t.Heeds caller (asleep others) (∃ e ∈ others, e.2.AwaitsReturns))
    (hnumbered : (f.land others news caller t).Numbered) : (f.land others news caller t).Alert := by
  refine ⟨?_, hnumbered.distinct, hnumbered.below⟩
  unfold Desk.Stretch.Heeds at hheeds
  unfold land
  cases hp : t.progress with
  | needs q =>
    rw [hp] at hheeds
    refine ⟨?_, ?_, hheeds.alert⟩
    · simpa [asleep, Progress.sleeper] using hheeds.listed
    · rintro ⟨e, he, hawaits⟩
      refine hheeds.closing ?_
      rcases List.mem_append.1 he with hother | hthis
      · exact .inl ⟨e, hother, hawaits⟩
      · cases List.mem_singleton.1 hthis
        exact .inr hawaits
  | done r =>
    rw [hp] at hheeds
    refine ⟨?_, fun hothers => hheeds.closing (.inl hothers), hheeds.alert⟩
    simpa [Progress.sleeper] using hheeds.listed

theorem Alert.numbers (h : f.Alert) : f.Numbered := ⟨h.distinct, h.numbered⟩

theorem new_alert (c : PoolConfig) (name : String) : (new c name).Alert :=
  ⟨⟨rfl, fun ⟨_, he, _⟩ => (List.not_mem_nil he).elim, fun _ hsleep => absurd rfl hsleep⟩,
    (new_numbered c name).distinct, (new_numbered c name).below⟩

theorem begin_alert (now : Seconds) (q : DeskCall) (h : f.Alert) : (f.begin now q).Alert :=
  land_alert (Desk.start_heeds now q h.heeds) (begin_numbered now q h.numbers)

theorem goOn_alert (now : Seconds) {before after : List (Nat × Pending)} {caller : Nat}
    {q : Pending} {r : q.Reply} (hr : q.Undisturbed r)
    (hrunning : f.running = before ++ (caller, q) :: after) (h : f.Alert) :
    (f.goOn (before ++ after) caller now q r).Alert := by
  have hperm : f.running.Perm ((caller, q) :: (before ++ after)) := by
    rw [hrunning]
    exact List.perm_middle
  have hasleep : asleep f.running = asleep (before ++ after) + q.sleeper caller := by
    simp only [asleep, hrunning, List.map_append, List.map_cons, List.sum_append, List.sum_cons]
    abel
  have hheeds : f.desk.pool.Heeds (asleep (before ++ after) + q.sleeper caller)
      ((∃ e ∈ before ++ after, e.2.AwaitsReturns) ∨ q.AwaitsReturns) 0 := by
    refine ⟨hasleep ▸ h.heeds.listed, ?_, h.heeds.alert⟩
    rintro (⟨e, he, hawaits⟩ | hawaits)
    · exact h.heeds.closing ⟨e, hperm.mem_iff.2 (List.mem_cons_of_mem _ he), hawaits⟩
    · exact h.heeds.closing ⟨(caller, q), hperm.mem_iff.2 List.mem_cons_self, hawaits⟩
  have hcaller : caller ∉ asleep (before ++ after) :=
    fun hmem => (List.nodup_cons.1 (h.numbers.apart hrunning)).1 (mem_asleep hmem)
  exact land_alert (Desk.settle_heeds (Pool.proceed_heeds now hr hcaller hheeds))
    (goOn_numbered now r hrunning h.numbers)

/-- One step leaves no call owed. -/
theorem Moves.alert (hmoves : Moves f g) (h : f.Alert) : g.Alert := by
  cases hmoves with
  | begin now q => exact begin_alert now q h
  | spoil lease => exact ⟨⟨h.heeds.listed, h.heeds.closing, h.heeds.alert⟩, h.distinct, h.numbered⟩
  | goOn now r hr hrunning => exact goOn_alert now hr hrunning h

/-- So does a run. -/
theorem alert_of_moves (h : Relation.ReflTransGen Moves (new c name) f) : f.Alert := by
  induction h with
  | refl => exact new_alert c name
  | tail _ hmoves ih => exact hmoves.alert ih

/-- In an open pool only callers sleep. -/
theorem asleep_of_visits {running : List (Nat × Pending)}
    (h : ∀ e ∈ running, ¬ e.2.AwaitsReturns) :
    asleep running = ((running.filter fun e => e.2.waits).map Prod.fst : Multiset Nat) := by
  induction running with
  | nil => rfl
  | cons e rest ih =>
    obtain ⟨number, q⟩ := e
    have hrest := ih fun e he => h e (List.mem_cons_of_mem _ he)
    have hsum : asleep ((number, q) :: rest) = q.sleeper number + asleep rest := by simp [asleep]
    rw [hsum, hrest]
    cases q with
    | sleeping limit use =>
      cases use with
      | visit v =>
        simp only [Pending.sleeper, Pending.waits, List.filter_cons, if_true, List.map_cons]
        exact Multiset.singleton_add _ _
      | shutdown deadline => exact absurd trivial (h _ List.mem_cons_self)
    | _ => exact zero_add _

/-- Those that have been called are as many as the calls that have not been answered. -/
theorem Alert.called_length (h : f.Alert) (hopen : f.desk.pool.closing = false) :
    (asleep f.running = (f.waiters.map Prod.fst : Multiset Nat)) ∧
      f.called.length = f.desk.pool.woken.length := by
  have hvisits : ∀ e ∈ f.running, ¬ e.2.AwaitsReturns := by
    intro e he hawaits
    have hclosing := h.heeds.closing ⟨e, he, hawaits⟩
    rw [hopen] at hclosing
    cases hclosing
  have hasleep : asleep f.running = (f.waiters.map Prod.fst : Multiset Nat) :=
    asleep_of_visits hvisits
  refine ⟨hasleep, ?_⟩
  have hqueue : (f.desk.pool.sleepers ++ f.desk.pool.woken).Perm (f.waiters.map Prod.fst) := by
    rw [← Multiset.coe_eq_coe, ← Multiset.coe_add, h.heeds.listed, hasleep]
  have hnodup : (f.desk.pool.sleepers ++ f.desk.pool.woken).Nodup := by
    refine hqueue.nodup_iff.2 (h.distinct.sublist ?_)
    exact List.filter_sublist.map Prod.fst
  have hapart := (List.nodup_append.1 hnodup).2.2
  have hfilter := (hqueue.filter f.desk.pool.woken.contains).length_eq
  have hasleepers : f.desk.pool.sleepers.filter f.desk.pool.woken.contains = [] := by
    refine List.filter_eq_nil_iff.2 fun caller hsleeps hcalled => ?_
    exact hapart caller hsleeps caller (by simpa using hcalled) rfl
  have hwoken : f.desk.pool.woken.filter f.desk.pool.woken.contains = f.desk.pool.woken :=
    List.filter_eq_self.2 fun caller hcalled => by simpa using hcalled
  rw [List.filter_append, hasleepers, hwoken, List.nil_append, List.filter_map,
    List.length_map] at hfilter
  exact hfilter.symm

/-- While a caller sleeps in an open pool and has not been called, no more is free than there are
callers that have been called and have not gone on.  So if anything is free and callers wait, one
of them has been called; and a caller that goes on, called or because its time is over, fails or
sleeps again only where nothing is free. -/
theorem no_lost_wakeup (h : Relation.ReflTransGen Moves (new c name) f)
    (hopen : f.desk.pool.closing = false) :
    (∀ e ∈ f.waiters, e.1 ∉ f.desk.pool.woken → f.desk.pool.free ≤ f.called.length) ∧
      (0 < f.desk.pool.free → f.waiters ≠ [] → f.called ≠ []) ∧
      ∀ caller limit v now, (caller, .sleeping limit (.visit v)) ∈ f.waiters →
        (f.desk.proceed caller now (.sleeping limit (.visit v)) (.ok ())).progress.InVain →
          f.desk.pool.free ≤ 0 := by
  have halert := alert_of_moves h
  obtain ⟨hasleep, hcalls⟩ := halert.called_length hopen
  have huncalled : ∀ e ∈ f.waiters, e.1 ∉ f.desk.pool.woken →
      f.desk.pool.free ≤ f.called.length := by
    intro e he hnot
    have hqueued : e.1 ∈ (f.desk.pool.sleepers : Multiset Nat) + f.desk.pool.woken := by
      rw [halert.heeds.listed, hasleep]
      exact List.mem_map_of_mem he
    have hsleeps : e.1 ∈ f.desk.pool.sleepers := by
      rcases Multiset.mem_add.1 hqueued with hsleeps | hcalled
      · exact hsleeps
      · exact absurd hcalled hnot
    have hfree := halert.heeds.alert hopen (List.ne_nil_of_mem hsleeps)
    rw [hcalls]
    simpa using hfree
  refine ⟨huncalled, ?_, ?_⟩
  · intro hfree hwaiters hnobody
    obtain ⟨e, he⟩ := List.exists_mem_of_ne_nil _ hwaiters
    have hnot : e.1 ∉ f.desk.pool.woken := by
      intro hcalled
      have hmem : e ∈ f.called := List.mem_filter.2 ⟨he, by simpa using hcalled⟩
      rw [hnobody] at hmem
      cases hmem
    have hbound := huncalled e he hnot
    rw [hnobody] at hbound
    simp only [List.length_nil] at hbound
    omega
  · intro caller limit v now _ hvain
    let awake : Pool := { f.desk.pool.wakeUp caller with waiting := f.desk.pool.waiting - 1 }
    have hseek : (awake.seek caller now v).progress.InVain := Desk.settle_inVain hvain
    have hnothing : awake.free ≤ 0 := Pool.seek_inVain hopen hseek
    exact hnothing

/-- Two callers wait for the only connection when it is returned. -/
def relieved : Floor :=
  ((lending.begin 1 (.checkout (some 5))).begin 1 (.checkout (some 5))).begin 2 (.giveBack 0)

theorem relieved_moves : Relation.ReflTransGen Moves (new single "default") relieved := by
  have hopening : Relation.ReflTransGen Moves (new single "default")
      ((new single "default").begin 0 (.checkout (some 5))) :=
    .single (.begin _ 0 _)
  have hrunning : ((new single "default").begin 0 (.checkout (some 5))).running =
      [] ++ (0, .opening (.visit ⟨0, some 5⟩)) :: [] := rfl
  have hlending : Relation.ReflTransGen Moves (new single "default") lending :=
    hopening.tail (.goOn _ 1 (q := .opening (.visit ⟨0, some 5⟩)) (r := .ok 7) trivial hrunning)
  exact ((hlending.tail (.begin _ 1 _)).tail (.begin _ 1 _)).tail (.begin _ 2 _)

/-- One connection rests, the first of the callers that wait has been called, and the second
sleeps. -/
theorem no_lost_wakeup_relieved :
    Relation.ReflTransGen Moves (new single "default") relieved ∧
      relieved.desk.pool.closing = false ∧ relieved.waiters.map Prod.fst = [1, 2] ∧
      relieved.desk.pool.woken = [1] ∧ relieved.desk.pool.free = 1 ∧
      (∀ e ∈ relieved.waiters, e.1 ∉ relieved.desk.pool.woken →
        relieved.desk.pool.free ≤ relieved.called.length) ∧
      relieved.called ≠ [] := by
  have hopen : relieved.desk.pool.closing = false := by decide +kernel
  have hfree : relieved.desk.pool.free = 1 := by decide +kernel
  have hwaiters : relieved.waiters.map Prod.fst = [1, 2] := by decide +kernel
  have hsomebody : relieved.waiters ≠ [] := by
    intro hnobody
    rw [hnobody] at hwaiters
    cases hwaiters
  obtain ⟨huncalled, hcalled, -⟩ := no_lost_wakeup relieved_moves hopen
  exact ⟨relieved_moves, hopen, hwaiters, by decide +kernel, hfree, huncalled,
    hcalled (by rw [hfree]; exact one_pos) hsomebody⟩

end Floor

end SqlGateway
