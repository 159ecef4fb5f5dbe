import SqlGateway.Proofs.Pool.Returns
set_option autoImplicit false

/-!
# Pool: shutdown

Closing a pool is the work of one kind of operation.  All others leave a closed pool
closed and put nothing at rest there, so what rests after closing has begun is what
the closing operation still waits to take.  When it has taken that and every
operation is over, the provider has been asked to close each connection that it ever
opened, once.
-/

namespace SqlGateway

namespace Pending

/-- An operation that closes the pool waits for the return of its connections. -/
def AwaitsReturns : Pending → Prop
  | .sleeping _ (.shutdown _) => True
  | _ => False

/-- A wait for the return of every connection ends when it is called or when its time is over; it
does not fail. -/
def Awaited : (q : Pending) → q.Reply → Prop
  | .sleeping _ (.shutdown _), r => r = .ok ()
  | _, _ => True

end Pending

/-! ## Stretches -/

namespace Pool

/-- A stretch neither closes the pool nor opens it again, and what rests in a closed pool stays
there. -/
structure Stretch.Abides (t : Stretch) (p : Pool) : Prop where
  closing : t.state.closing = p.closing
  idle : p.closing = true → t.state.idle = p.idle

/-- After a stretch the pool is closed, and nothing rests there unless the operation still waits
to take it. -/
structure Stretch.Shuts (t : Stretch) : Prop where
  closing : t.state.closing = true
  idle : t.state.idle = [] ∨ ∃ q, t.progress = .needs q ∧ q.AwaitsReturns

section

variable {p : Pool} {s : Slot} {caller : Nat} {now : Seconds} {v : Visit}

theorem abides_asks (q : Pending) : Stretch.Abides (.asks p q) p := ⟨rfl, fun _ => rfl⟩

theorem abides_ends (r : Except Failure (Option Slot)) : Stretch.Abides (.ends p r) p :=
  ⟨rfl, fun _ => rfl⟩

theorem abides_after {t : Stretch} (notices : List Notice) (h : t.Abides p) :
    Stretch.Abides (t.after notices) p :=
  ⟨h.closing, h.idle⟩

/-- In an open pool it is enough not to close it. -/
theorem abides_of_open {t : Stretch} (hopen : p.closing = false) (h : t.state.closing = p.closing) :
    t.Abides p :=
  ⟨h, fun hclosed => by rw [hopen] at hclosed; cases hclosed⟩

/-! ### Operations that do not close -/

theorem examine_closing : (p.examine now v s).state.closing = p.closing := by
  unfold examine
  split
  · rfl
  · split <;> rfl

/-- A caller gets nothing from a closed pool. -/
theorem seek_of_closing (h : p.closing = true) :
    p.seek caller now v = .ends p (.error p.closedFailure) := by
  simp [seek, h]

theorem seek_abides : (p.seek caller now v).Abides p := by
  cases hclosing : p.closing with
  | true =>
    rw [seek_of_closing hclosing]
    exact abides_ends _
  | false =>
    refine abides_of_open hclosing ?_
    unfold seek
    rw [if_neg (by simp [hclosing])]
    split
    · exact examine_closing
    · split
      · rfl
      · split
        · split <;> rfl
        · rfl

theorem startReturn_abides (healthy : Bool) : (p.startReturn now s healthy).Abides p := by
  unfold startReturn
  simp only
  split
  · exact ⟨rfl, fun _ => rfl⟩
  next hrests =>
    have hopen : p.closing = false := by
      cases hclosing : p.closing with
      | true => cases healthy <;> simp [hclosing] at hrests
      | false => rfl
    exact abides_of_open hopen rfl

theorem fillUp_abides : p.fillUp.Abides p := by
  unfold fillUp
  split
  · exact abides_ends _
  · exact ⟨rfl, fun _ => rfl⟩

theorem closeLate_abides (slots : List Slot) : (p.closeLate slots).Abides p := by
  cases slots with
  | nil => exact abides_ends _
  | cons s rest => exact abides_asks _

theorem finishTests_abides (alive : List Slot) : (p.finishTests alive).Abides p := by
  unfold finishTests
  split
  · exact closeLate_abides alive
  next hopen => exact abides_of_open (by simpa using hopen) rfl

theorem testNext_abides (alive untested : List Slot) : (p.testNext alive untested).Abides p := by
  cases untested with
  | nil => exact abides_asks _
  | cons s rest => exact abides_asks _

theorem retireNext_abides (others : List Slot) (retired : List (Slot × RetireReason)) :
    (p.retireNext others retired).Abides p := by
  cases retired with
  | nil => exact testNext_abides [] others
  | cons first rest => exact abides_asks _

/-- A sweep leaves a closed pool alone. -/
theorem startSweep_abides : (p.startSweep now).Abides p := by
  unfold startSweep
  split
  · exact abides_ends _
  next hopen =>
    have hsorted := retireNext_abides (p := { p with idle := [] })
      (triage p.config now p.live p.idle).2 (triage p.config now p.live p.idle).1
    exact abides_of_open (by simpa using hopen) hsorted.closing

theorem opened_abides (use : Opening) (r : Except Failure Nat) :
    (p.opened now use r).Abides p := by
  cases r with
  | error f =>
    simp only [opened]
    split
    · exact ⟨rfl, fun _ => rfl⟩
    · split <;> exact ⟨rfl, fun _ => rfl⟩
  | ok raw =>
    simp only [opened]
    split
    · exact ⟨rfl, fun _ => rfl⟩
    · split
      · exact ⟨rfl, fun _ => rfl⟩
      next hopen => exact abides_of_open (by simpa using hopen) rfl

theorem tested_abides (use : Testing) {r : Except Failure Bool}
    (hr : ∀ f, r = .error f → f.isOrdinary) : (p.tested now s use r).Abides p := by
  have htested : ∀ alive, (p.tested now s use (.ok alive)).Abides p := by
    intro alive
    cases use with
    | visit v => cases alive <;> exact ⟨rfl, fun _ => rfl⟩
    | sweep rest found =>
      cases alive with
      | true => exact testNext_abides _ _
      | false => exact abides_asks _
  cases r with
  | ok alive => exact htested alive
  | error f =>
    simp only [tested, hr f rfl, if_true]
    exact abides_after _ (htested false)

theorem shutNext_abides (first : Bool) (slots : List Slot) : (p.shutNext first slots).Abides p := by
  cases slots with
  | nil => exact ⟨rfl, fun _ => rfl⟩
  | cons s rest => exact abides_asks _

theorem closed_abides (reason : RetireReason) (next : Closing) {r : Except Failure Unit}
    (hr : ∀ f, r = .error f → f.isOrdinary) : (p.closed s reason next r).Abides p := by
  have hclosed : (p.closed s reason next (.ok ())).Abides p := by
    have hleft : ∀ {t : Stretch}, t.Abides ({ p with live := p.live - 1 }).callAll → t.Abides p :=
      fun h => ⟨h.closing, h.idle⟩
    apply abides_after
    apply hleft
    cases next with
    | visit v => exact abides_asks _
    | returned => exact abides_ends _
    | retired rest others => exact retireNext_abides others rest
    | stale rest alive => exact testNext_abides alive rest
    | late rest => exact closeLate_abides rest
    | surplus => exact abides_ends _
    | shutdown rest first => exact shutNext_abides first rest
  cases r with
  | ok _ => exact hclosed
  | error f =>
    simp only [closed, hr f rfl, if_true] at hclosed ⊢
    exact ⟨hclosed.closing, hclosed.idle⟩

/-! ### Closing -/

theorem shut_shuts (first : Bool) (h : p.closing = true) : (p.shut first).Shuts := by
  have hnothing := shutNext_abides (p := { p with idle := [] }) first p.idle
  exact ⟨hnothing.closing.trans h, .inl (hnothing.idle h)⟩

/-- A closed pool is emptied at once, or when its connections have been returned. -/
theorem awaitReturns_shuts (deadline : Option Seconds) (h : p.closing = true) :
    (p.awaitReturns caller now deadline).Shuts := by
  unfold awaitReturns
  split
  · exact shut_shuts true h
  · split
    · split
      · exact ⟨(shut_shuts true h).closing, (shut_shuts true h).idle⟩
      · exact ⟨h, .inr ⟨_, rfl, trivial⟩⟩
    · exact ⟨h, .inr ⟨_, rfl, trivial⟩⟩

theorem awaitReturns_closing (deadline : Option Seconds) :
    (p.awaitReturns caller now deadline).state.closing = p.closing := by
  have hshut : (p.shut true).state.closing = p.closing :=
    (shutNext_abides (p := { p with idle := [] }) true p.idle).closing
  unfold awaitReturns
  split
  · exact hshut
  · split
    · split
      · exact hshut
      · rfl
    · rfl

theorem startClose_shuts (timeout : Option Seconds) : (p.startClose caller now timeout).Shuts := by
  unfold startClose
  simp only
  split
  · exact shut_shuts false rfl
  · exact awaitReturns_shuts _ rfl

/-- An operation that goes on leaves a closed pool as it was, unless it waited to empty it. -/
theorem proceed_abides (caller : Nat) (now : Seconds) {q : Pending} {r : q.Reply}
    (hr : q.Regular r) (hq : ¬ q.AwaitsReturns) : (p.proceed caller now q r).Abides p := by
  cases q with
  | opening use => exact opened_abides use r
  | testing s use => exact tested_abides use hr
  | closing s reason next => exact closed_abides reason next hr
  | sleeping limit use =>
    cases use with
    | visit v =>
      cases r with
      | ok _ =>
        have hawake : Stretch.Abides
            (({ p.wakeUp caller with waiting := p.waiting - 1 }).seek caller now v) _ := seek_abides
        exact ⟨hawake.closing, hawake.idle⟩
      | error f => exact ⟨rfl, fun _ => rfl⟩
    | shutdown deadline => exact absurd trivial hq
  | pausing use =>
    cases use with
    | discard s reason v => exact ⟨rfl, fun _ => rfl⟩
    | visit v => exact seek_abides
    | tests alive => exact finishTests_abides alive
    | fill => exact fillUp_abides

/-- An operation that waited to empty the pool does so in a closed pool. -/
theorem proceed_shuts (caller : Nat) (now : Seconds) {q : Pending} {r : q.Reply}
    (hwait : q.Awaited r) (hq : q.AwaitsReturns) :
    (p.proceed caller now q r).state.closing = p.closing ∧
      (p.closing = true → (p.proceed caller now q r).Shuts) := by
  cases q with
  | sleeping limit use =>
    cases use with
    | shutdown deadline =>
      cases hwait
      exact ⟨awaitReturns_closing deadline, fun h => awaitReturns_shuts deadline h⟩
    | visit v => exact hq.elim
  | _ => exact hq.elim

end

end Pool

/-! ## At a desk -/

namespace Desk

variable {d : Desk}

/-- A stretch at the desk leaves a closed pool as it was. -/
structure Stretch.Abides (t : Stretch) (p : Pool) : Prop where
  closing : t.state.pool.closing = p.closing
  idle : p.closing = true → t.state.pool.idle = p.idle

/-- A stretch at the desk closes the pool. -/
structure Stretch.Shuts (t : Stretch) : Prop where
  closing : t.state.pool.closing = true
  idle : t.state.pool.idle = [] ∨ ∃ q, t.progress = .needs q ∧ q.AwaitsReturns

theorem settle_abides {t : Pool.Stretch} {p : Pool} (h : t.Abides p) : (d.settle t).Abides p := by
  unfold settle
  split <;> exact ⟨h.closing, h.idle⟩

theorem settle_shuts {t : Pool.Stretch} (h : t.Shuts) : (d.settle t).Shuts := by
  refine ⟨?_, ?_⟩
  · unfold settle
    split <;> exact h.closing
  · rcases h.idle with hidle | ⟨q, hneeds, hq⟩
    · left
      unfold settle
      split <;> exact hidle
    · right
      refine ⟨q, ?_, hq⟩
      simp [settle, hneeds]

theorem giveBack_abides (now : Seconds) (lease : Nat) : (d.giveBack now lease).Abides d.pool := by
  unfold giveBack
  split
  · exact ⟨rfl, fun _ => rfl⟩
  next l hl =>
    split
    · exact ⟨rfl, fun _ => rfl⟩
    · exact settle_abides (Pool.startReturn_abides l.healthy)

/-- Only a call to close closes the pool. -/
theorem start_abides_or_shuts (now : Seconds) (q : DeskCall) :
    (d.start now q).2.Abides d.pool ∨ (d.start now q).2.Shuts := by
  cases q with
  | checkout timeout => exact .inl (settle_abides Pool.seek_abides)
  | giveBack lease =>
    have hback := giveBack_abides (d := { d with nextCaller := d.nextCaller + 1 }) now lease
    exact .inl ⟨hback.closing, hback.idle⟩
  | sweep => exact .inl (settle_abides Pool.startSweep_abides)
  | close timeout => exact .inr (settle_shuts (Pool.startClose_shuts timeout))

end Desk

/-! ## Runs -/

namespace Floor

/-- One thing that can happen next, where a wait for the return of connections does not fail. -/
inductive Attends : Floor → Floor → Prop where
  | begin (f : Floor) (now : Seconds) (q : DeskCall) : Attends f (f.begin now q)
  | spoil (f : Floor) (lease : Nat) : Attends f { f with desk := f.desk.markUnhealthy lease }
  | goOn (f : Floor) (now : Seconds) {before after : List (Nat × Pending)} {caller : Nat}
      {q : Pending} (r : q.Reply) (hr : q.Regular r) (hwait : q.Awaited r)
      (hrunning : f.running = before ++ (caller, q) :: after) :
      Attends f (f.goOn (before ++ after) caller now q r)

/-- The only operation in progress goes on. -/
theorem Attends.goOn_alone {f : Floor} (caller : Nat) (now : Seconds) (q : Pending)
    (r : q.Reply) (hr : q.Regular r) (hwait : q.Awaited r) (hrunning : f.running = [(caller, q)]) :
    Attends f (f.goOn [] caller now q r) :=
  @Attends.goOn f now [] [] caller q r hr hwait hrunning

/-- What a floor can come to. -/
abbrev Later : Floor → Floor → Prop := Relation.ReflTransGen Attends

/-- Nothing rests in a closed pool but what an operation waits to take. -/
def Vacated (f : Floor) : Prop :=
  f.desk.pool.closing = true →
    f.desk.pool.idle = [] ∨ ∃ e ∈ f.running, e.2.AwaitsReturns

variable {f g : Floor} {c : PoolConfig} {name : String}

theorem Attends.step (h : Attends f g) : Step f g := by
  cases h with
  | begin now q => exact .begin f now q
  | spoil lease => exact .spoil f lease
  | goOn now r hr _ hrunning => exact .goOn f now r hr hrunning

theorem Reachable.later (h : Reachable c name f) (hlater : Later f g) : Reachable c name g :=
  h.steps (Relation.ReflTransGen.mono (fun _ _ => Attends.step) f g hlater)

section

variable {others : List (Nat × Pending)} {news : List Happening} {caller : Nat} {t : Desk.Stretch}

theorem land_vacated (habides : t.Abides f.desk.pool)
    (hothers : ∀ e ∈ f.running, e.2.AwaitsReturns → e ∈ others) (h : f.Vacated) :
    (f.land others news caller t).Vacated := by
  intro hclosing
  have hclosed : f.desk.pool.closing = true := habides.closing.symm.trans hclosing
  rcases h hclosed with hidle | ⟨e, he, hawaits⟩
  · exact .inl ((habides.idle hclosed).trans hidle)
  · refine .inr ⟨e, ?_, hawaits⟩
    have hother := hothers e he hawaits
    unfold land
    cases t.progress with
    | needs q => exact List.mem_append_left _ hother
    | done r => exact hother

theorem land_vacated_of_shuts (hshuts : t.Shuts) : (f.land others news caller t).Vacated := by
  intro _
  rcases hshuts.idle with hidle | ⟨q, hneeds, hq⟩
  · exact .inl hidle
  · exact .inr ⟨(caller, q), by simp [land, hneeds], hq⟩

end

theorem begin_vacated (now : Seconds) (q : DeskCall) (h : f.Vacated) : (f.begin now q).Vacated := by
  rcases f.desk.start_abides_or_shuts now q with habides | hshuts
  · exact land_vacated habides (fun e he _ => he) h
  · exact land_vacated_of_shuts hshuts

theorem goOn_vacated (now : Seconds) {before after : List (Nat × Pending)} {caller : Nat}
    {q : Pending} {r : q.Reply} (hr : q.Regular r) (hwait : q.Awaited r)
    (hrunning : f.running = before ++ (caller, q) :: after) (h : f.Vacated) :
    (f.goOn (before ++ after) caller now q r).Vacated := by
  by_cases hq : q.AwaitsReturns
  · obtain ⟨hsame, hshuts⟩ := Pool.proceed_shuts (p := f.desk.pool) caller now hwait hq
    intro hclosing
    have hclosed : f.desk.pool.closing = true := by
      rw [← hsame, ← Desk.settle_pool]
      exact hclosing
    exact land_vacated_of_shuts (Desk.settle_shuts (hshuts hclosed)) hclosing
  · have habides : (f.desk.proceed caller now q r).Abides f.desk.pool :=
      Desk.settle_abides (Pool.proceed_abides caller now hr hq)
    refine land_vacated habides ?_ h
    intro e he hawaits
    rw [hrunning, List.mem_append, List.mem_cons] at he
    rcases he with hbefore | rfl | hafter
    · exact List.mem_append_left _ hbefore
    · exact absurd hawaits hq
    · exact List.mem_append_right _ hafter

/-- One step leaves nothing at rest in a closed pool. -/
theorem Attends.vacated (hattends : Attends f g) (h : f.Vacated) : g.Vacated := by
  cases hattends with
  | begin now q => exact begin_vacated now q h
  | spoil lease => exact h
  | goOn now r hr hwait hrunning => exact goOn_vacated now hr hwait hrunning h

/-- No step opens a closed pool again. -/
theorem Attends.closing (hattends : Attends f g) (h : f.desk.pool.closing = true) :
    g.desk.pool.closing = true := by
  cases hattends with
  | begin now q =>
    rcases f.desk.start_abides_or_shuts now q with habides | hshuts
    · exact habides.closing.trans h
    · exact hshuts.closing
  | spoil lease => exact h
  | goOn now r hr hwait hrunning =>
    next _ _ caller q =>
      simp only [Floor.goOn, land, Desk.proceed, Desk.settle_pool]
      by_cases hq : q.AwaitsReturns
      · exact (Pool.proceed_shuts caller now hwait hq).1.trans h
      · exact (Pool.proceed_abides caller now hr hq).closing.trans h

theorem Later.vacated (hlater : Later f g) (h : f.Vacated) : g.Vacated := by
  induction hlater with
  | refl => exact h
  | tail _ hattends ih => exact hattends.vacated ih

theorem Later.closing (hlater : Later f g) (h : f.desk.pool.closing = true) :
    g.desk.pool.closing = true := by
  induction hlater with
  | refl => exact h
  | tail _ hattends ih => exact hattends.closing ih

/-- A call to close closes the pool. -/
theorem begin_close_closing (f : Floor) (now : Seconds) (timeout : Option Seconds) :
    (f.begin now (.close timeout)).desk.pool.closing = true :=
  (Desk.settle_shuts (Pool.startClose_shuts timeout)).closing

/-- A caller that comes to a closed pool is sent away: nothing happens but that it is counted. -/
theorem begin_checkout_of_closing (h : f.desk.pool.closing = true) (now : Seconds)
    (patience : Option Seconds) :
    (f.desk.start now (.checkout patience)).2.progress = .done (.error f.desk.pool.closedFailure) ∧
      f.begin now (.checkout patience) =
        { f with desk := { f.desk with nextCaller := f.desk.nextCaller + 1 } } := by
  have hseek : f.desk.pool.startCheckout f.desk.nextCaller now patience =
      .ends f.desk.pool (.error f.desk.pool.closedFailure) := Pool.seek_of_closing h
  have hstart : (f.desk.start now (.checkout patience)).2 =
      .ends { f.desk with nextCaller := f.desk.nextCaller + 1 }
        (.error f.desk.pool.closedFailure) := by
    simp only [Desk.start, hseek]
    rfl
  refine ⟨by rw [hstart]; rfl, ?_⟩
  simp [begin, land, hstart, Turn.ends, Happening.after]

/-- When nobody has a connection of an emptied pool, each that was opened has been closed. -/
theorem Orderly.emptied {known gone : Multiset (Nat × Nat)} (h : f.Orderly c known gone)
    (hidle : f.desk.pool.idle = []) (hlent : f.desk.lent = []) (hquiet : f.running = []) :
    ((Happening.closings f.history).map Slot.key).Perm
      ((Happening.openings f.history).map Slot.key) := by
  have hnothing : f.keepers = [] := by simp [keepers, hidle, hlent, hquiet]
  have hpartition := h.partition
  rwa [hnothing, List.nil_append] at hpartition

/-- Once a pool is being closed, callers that come are sent away, and their coming reaches neither
the provider nor the operations in progress.  When every lease has been given back and no operation
is in progress any more, nothing rests, lives or is in use, and the provider has been asked to close
each connection that it opened, once. -/
theorem Later.shutdown {now : Seconds} {timeout : Option Seconds} (hrun : Later (new c name) f)
    (hlater : Later (f.begin now (.close timeout)) g) :
    (∀ moment patience,
      (g.desk.start moment (.checkout patience)).2.progress =
          .done (.error g.desk.pool.closedFailure) ∧
        g.begin moment (.checkout patience) =
          { g with desk := { g.desk with nextCaller := g.desk.nextCaller + 1 } }) ∧
      (g.desk.lent = [] → g.running = [] →
        g.desk.pool.idle = [] ∧ g.desk.pool.live = 0 ∧ g.desk.pool.inUse = 0 ∧
          ((Happening.closings g.history).map Slot.key).Perm
            ((Happening.openings g.history).map Slot.key) ∧
          (g.Fresh → ∀ s ∈ Happening.openings g.history,
            ((Happening.closings g.history).map Slot.raw).count s.raw = 1)) := by
  have hclosing : g.desk.pool.closing = true := hlater.closing (begin_close_closing f now timeout)
  have hwhole : Later (new c name) g := (hrun.tail (.begin f now (.close timeout))).trans hlater
  have hreachable : Reachable c name g := Reachable.new.later hwhole
  have hvacated : g.Vacated := hwhole.vacated fun hclosed => nomatch hclosed
  refine ⟨fun moment patience => begin_checkout_of_closing hclosing moment patience, ?_⟩
  intro hlent hquiet
  obtain ⟨known, gone, horderly⟩ := hreachable.orderly
  have hidle : g.desk.pool.idle = [] := by
    rcases hvacated hclosing with hidle | ⟨e, he, -⟩
    · exact hidle
    · rw [hquiet] at he
      cases he
  obtain ⟨-, -, -, hstill⟩ := hreachable.accounted
  obtain ⟨hsize, hinUse, -⟩ := hstill hquiet
  have hperm := horderly.emptied hidle hlent hquiet
  simp only [Pool.stats, hidle, hlent, List.length_nil] at hsize hinUse
  refine ⟨hidle, by omega, by omega, hperm, ?_⟩
  intro hfresh s hs
  have hraws := hperm.map Prod.fst
  simp only [List.map_map] at hraws
  have hcount : ((Happening.closings g.history).map Slot.raw).count s.raw =
      ((Happening.openings g.history).map Slot.raw).count s.raw := hraws.count_eq s.raw
  rw [hcount]
  exact List.count_eq_one_of_mem hfresh (List.mem_map_of_mem hs)

/-- A sweep tests the only connection, which has been returned. -/
def sweeping : Floor := (lending.begin 2 (.giveBack 0)).begin 3 .sweep

/-- The pool is closed in the middle of the sweep, and the connection turns out to be alive. -/
def tested : Floor :=
  (sweeping.begin 4 (.close (some 1))).goOn [] 2 5 (.testing ⟨7, 1, 1, 2⟩ (.sweep [] [])) (.ok true)

/-- The sweep closes what it has. -/
def swept : Floor :=
  (tested.goOn [] 2 6 (.pausing (.tests [⟨7, 1, 1, 2⟩])) ()).goOn [] 2 7
    (.closing ⟨7, 1, 1, 2⟩ .poolClosed (.late [])) (.ok ())

theorem sweeping_later : Later (new single "default") sweeping := by
  have hlending : Later (new single "default") lending :=
    (Relation.ReflTransGen.single (.begin _ 0 _)).tail
      (.goOn_alone 0 1 (.opening (.visit ⟨0, some 5⟩)) (.ok 7) trivial trivial rfl)
  exact (hlending.tail (.begin _ 2 _)).tail (.begin _ 3 _)

theorem swept_later : Later (sweeping.begin 4 (.close (some 1))) swept := by
  have htested : Later (sweeping.begin 4 (.close (some 1))) tested :=
    .single (.goOn_alone 2 5 (.testing ⟨7, 1, 1, 2⟩ (.sweep [] [])) (.ok true)
      (fun _ hf => nomatch hf) trivial (by decide +kernel))
  have hfinished := htested.tail
    (.goOn_alone 2 6 (.pausing (.tests [⟨7, 1, 1, 2⟩])) () trivial trivial (by decide +kernel))
  exact hfinished.tail
    (.goOn_alone 2 7 (.closing ⟨7, 1, 1, 2⟩ .poolClosed (.late [])) (.ok ())
      (fun _ hf => nomatch hf) trivial (by decide +kernel))

/-- The sweep that was in progress when the pool was closed has closed the only connection. -/
theorem shutdown_swept :
    Later (new single "default") sweeping ∧ Later (sweeping.begin 4 (.close (some 1))) swept ∧
      swept.desk.lent = [] ∧ swept.running = [] ∧ swept.Fresh ∧
      (Happening.openings swept.history).map Slot.raw = [7] ∧
      swept.desk.pool.idle = [] ∧ swept.desk.pool.live = 0 ∧ swept.desk.pool.inUse = 0 ∧
      (∀ s ∈ Happening.openings swept.history,
        ((Happening.closings swept.history).map Slot.raw).count s.raw = 1) ∧
      (swept.desk.start 8 (.checkout none)).2.progress =
        .done (.error swept.desk.pool.closedFailure) := by
  have hlent : swept.desk.lent = [] := by decide +kernel
  have hquiet : swept.running = [] := by decide +kernel
  have hfresh : swept.Fresh := by
    unfold Fresh
    decide +kernel
  obtain ⟨hcheckout, hshutdown⟩ := sweeping_later.shutdown swept_later
  obtain ⟨hidle, hlive, hinUse, -, honce⟩ := hshutdown hlent hquiet
  exact ⟨sweeping_later, swept_later, hlent, hquiet, hfresh, by decide +kernel, hidle, hlive,
    hinUse, honce hfresh, (hcheckout 8 none).1⟩

end Floor

end SqlGateway
