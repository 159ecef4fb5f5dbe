import SqlGateway.Proofs.Pool.Stake
set_option autoImplicit false

/-!
# Pool: many callers

A floor is a desk with all the operations that are in progress there, and what has
happened so far between the pool and its provider.  Any operation may begin at any
time, and any operation that needs something may go on with any reply; the clock may
show anything.  So a reachable floor is what a pool can come to when callers run their
operations at the same time, each holding the pool to itself only from one `Pending`
to the next.
-/

namespace SqlGateway

/-! ## What callers have -/

/-- A lease that has not been given back is worth a connection. -/
def Lease.stake (l : Lease) : Stake := if l.released then 0 else Stake.lent l.slot

/-- What an operation at a desk still has after a stretch: what it handed out is a lease by
then. -/
def Progress.remains : Progress (Option Nat) → Stake
  | .needs q => q.stake
  | .done _ => 0

namespace Desk

/-- The leases that have not been given back. -/
def lent (d : Desk) : List Lease := d.leases.filter fun l => !l.released

/-- What the callers of a desk have of its pool. -/
def stake (d : Desk) : Stake := (d.leases.map Lease.stake).sum

theorem stake_claims (d : Desk) : d.stake.claims = d.lent.length := by
  unfold stake lent
  induction d.leases with
  | nil => rfl
  | cons l rest ih =>
    cases hl : l.released <;> simp [Lease.stake, hl, ih, add_comm]

theorem stake_held (d : Desk) : d.stake.held = 0 := by
  unfold stake
  induction d.leases with
  | nil => rfl
  | cons l rest ih =>
    cases hl : l.released <;> simp [Lease.stake, hl, ih]

theorem stake_waits (d : Desk) : d.stake.waits = 0 := by
  unfold stake
  induction d.leases with
  | nil => rfl
  | cons l rest ih =>
    cases hl : l.released <;> simp [Lease.stake, hl, ih]

theorem stake_keys (d : Desk) :
    d.stake.keys = ((d.lent.map Lease.slot).map Slot.key : Multiset (Nat × Nat)) := by
  unfold stake lent
  induction d.leases with
  | nil => rfl
  | cons l rest ih =>
    cases hl : l.released <;> simp [Lease.stake, hl, ih]

/-- Marking a lease gives nothing back. -/
theorem stake_markUnhealthy (d : Desk) (lease : Nat) : (d.markUnhealthy lease).stake = d.stake := by
  have hmap : (d.leases.modify lease fun l => { l with healthy := false }).map Lease.stake =
      d.leases.map Lease.stake := by
    apply List.ext_getElem? 
    intro i
    simp only [List.getElem?_map, List.getElem?_modify]
    split <;> cases d.leases[i]? <;> rfl
  simp only [stake, markUnhealthy, hmap]

/-- A lease that is given back leaves the stake of the callers. -/
theorem stake_release {d : Desk} {lease : Nat} {l : Lease} (hl : d.leases[lease]? = some l)
    (hopen : l.released = false) :
    d.stake = ({ d with leases := d.leases.set lease { l with released := true } }).stake +
      Stake.lent l.slot := by
  obtain ⟨hlt, hget⟩ := List.getElem?_eq_some_iff.1 hl
  have hsplit : d.leases = d.leases.take lease ++ l :: d.leases.drop (lease + 1) := by
    rw [← hget, List.getElem_cons_drop, List.take_append_drop]
  have hstake : l.stake = Stake.lent l.slot := by simp [Lease.stake, hopen]
  have hgone : ({ l with released := true } : Lease).stake = 0 := by simp [Lease.stake]
  simp only [stake, List.set_eq_take_append_cons_drop, if_pos hlt]
  conv_lhs => rw [hsplit]
  simp only [List.map_append, List.map_cons, List.sum_append, List.sum_cons, hstake, hgone]
  abel

variable {d : Desk} {b : Books} {rest : Stake} {now : Seconds}

/-- A stretch at the desk leaves the pool settled. -/
def Stretch.Settles (t : Stretch) (b : Books) (rest : Stake) : Prop :=
  t.state.pool.Settled b (rest + t.state.stake + t.progress.remains)

theorem settle_pool (d : Desk) (t : Pool.Stretch) : (d.settle t).state.pool = t.state := by
  unfold settle
  split <;> rfl

/-- What an operation hands out is the stake of a new lease. -/
theorem settle_settles {t : Pool.Stretch} (h : t.Settles b (rest + d.stake)) :
    (d.settle t).Settles b rest := by
  unfold Pool.Stretch.Settles at h
  unfold settle
  split <;> rename_i hp <;> rw [hp] at h
  · exact h
  · exact h
  · exact h
  · simpa [Stretch.Settles, stake, Lease.stake, Progress.stake, Progress.remains,
      add_assoc] using h

theorem giveBack_settles {lease : Nat} (h : d.pool.Settled b (rest + d.stake)) :
    (d.giveBack now lease).Settles b rest := by
  unfold giveBack
  split
  · simpa [Stretch.Settles, Turn.ends, Progress.remains] using h
  next l hl =>
    split
    · simpa [Stretch.Settles, Turn.ends, Progress.remains] using h
    next hopen =>
      apply settle_settles
      apply Pool.startReturn_settles
      rw [stake_release hl (by simpa using hopen), ← add_assoc] at h
      exact h

/-- So does an operation that begins. -/
theorem start_settles {q : DeskCall} (h : d.pool.Settled b (rest + d.stake)) :
    (d.start now q).2.Settles b rest := by
  cases q with
  | checkout timeout => exact settle_settles (Pool.seek_settles h)
  | giveBack lease => exact giveBack_settles h
  | sweep => exact settle_settles (Pool.startSweep_settles h)
  | close timeout => exact settle_settles (Pool.startClose_settles h)

/-- So does an operation that goes on. -/
theorem proceed_settles (caller : Nat) (now : Seconds) {q : Pending} {r : q.Reply}
    (hr : q.Regular r)
    (h : d.pool.Settled b (rest + d.stake + q.stake)) :
    ∃ known, known + (q.leaving.map Slot.key : Multiset (Nat × Nat)) =
        b.known + ((q.arrivals now d.pool.nextId r).map Slot.key : Multiset (Nat × Nat)) ∧
      (d.proceed caller now q r).Settles
        ⟨b.config, known, b.nextId + (q.arrivals now d.pool.nextId r).length⟩ rest := by
  obtain ⟨known, hknown, hsettles⟩ := Pool.proceed_settles caller now hr h
  exact ⟨known, hknown, settle_settles hsettles⟩

/-! ### Numbers of operations -/

theorem settle_nextCaller (d : Desk) (t : Pool.Stretch) :
    (d.settle t).state.nextCaller = d.nextCaller := by
  unfold settle
  split <;> rfl

theorem giveBack_nextCaller (d : Desk) (now : Seconds) (lease : Nat) :
    (d.giveBack now lease).state.nextCaller = d.nextCaller := by
  unfold giveBack
  split
  · rfl
  · split
    · rfl
    · exact settle_nextCaller _ _

theorem start_nextCaller (d : Desk) (now : Seconds) (q : DeskCall) :
    (d.start now q).2.state.nextCaller = d.nextCaller + 1 := by
  cases q with
  | giveBack lease => exact giveBack_nextCaller _ now lease
  | _ => exact settle_nextCaller _ _

end Desk

/-! ## Floors -/

/-- What happens between a pool, its provider and its callers. -/
inductive Happening where
  /-- The provider opened a connection, and the pool gave it a number. -/
  | opened (s : Slot)
  /-- The provider was asked whether a connection lives. -/
  | tested (s : Slot)
  /-- The provider was asked to close a connection. -/
  | closed (s : Slot)
  /-- A connection was handed out. -/
  | lent (s : Slot)
  deriving DecidableEq, Repr

/-- The connections that were opened, in order. -/
def Happening.openings (hs : List Happening) : List Slot :=
  hs.filterMap fun
    | .opened s => some s
    | _ => none

/-- The connections that were to be closed, in order. -/
def Happening.closings (hs : List Happening) : List Slot :=
  hs.filterMap fun
    | .closed s => some s
    | _ => none

/-- What happens at the end of a stretch. -/
def Happening.after (t : Desk.Stretch) : List Happening :=
  match t.progress with
  | .needs (.testing s _) => [.tested s]
  | .needs (.closing s _ _) => [.closed s]
  | .done (.ok (some lease)) => (t.state.leases[lease]?).toList.map fun l => .lent l.slot
  | _ => []

/-- A desk, the operations in progress there by number, and what has happened so far. -/
structure Floor where
  desk : Desk
  running : List (Nat × Pending) := []
  history : List Happening := []

namespace Floor

/-- The floor of a new pool. -/
def new (c : PoolConfig) (name : String) : Floor := { desk := { pool := { config := c, name } } }

/-- The floor after a stretch of an operation, beside the others in progress. -/
def land (f : Floor) (others : List (Nat × Pending)) (news : List Happening) (caller : Nat)
    (t : Desk.Stretch) : Floor where
  desk := t.state
  running := match t.progress with
    | .needs q => others ++ [(caller, q)]
    | .done _ => others
  history := f.history ++ news ++ Happening.after t

/-- An operation begins. -/
def begin (f : Floor) (now : Seconds) (q : DeskCall) : Floor :=
  f.land f.running [] (f.desk.start now q).1 (f.desk.start now q).2

/-- An operation goes on with a reply. -/
def goOn (f : Floor) (others : List (Nat × Pending)) (caller : Nat) (now : Seconds) (q : Pending)
    (r : q.Reply) : Floor :=
  f.land others ((q.arrivals now f.desk.pool.nextId r).map .opened) caller
    (f.desk.proceed caller now q r)

/-- One thing that can happen next.  A lease may be marked at any time too. -/
inductive Step : Floor → Floor → Prop where
  | begin (f : Floor) (now : Seconds) (q : DeskCall) : Step f (f.begin now q)
  | spoil (f : Floor) (lease : Nat) : Step f { f with desk := f.desk.markUnhealthy lease }
  | goOn (f : Floor) (now : Seconds) {before after : List (Nat × Pending)} {caller : Nat}
      {q : Pending} (r : q.Reply) (hr : q.Regular r)
      (hrunning : f.running = before ++ (caller, q) :: after) :
      Step f (f.goOn (before ++ after) caller now q r)

/-- What a new pool can come to. -/
inductive Reachable (c : PoolConfig) (name : String) : Floor → Prop where
  | new : Reachable c name (new c name)
  | step {f g : Floor} : Reachable c name f → Step f g → Reachable c name g

/-- The connections that operations in progress have taken out of the pool, or that callers have
returned to them, and that they have neither closed nor put back yet. -/
def unsettled (f : Floor) : List Slot := f.running.flatMap fun e => e.2.unsettled

/-- The connections that are being closed. -/
def leaving (f : Floor) : List Slot := f.running.flatMap fun e => e.2.leaving

/-- What the operations in progress have of the pool. -/
def inProgress (f : Floor) : Stake := (f.running.map fun e => e.2.stake).sum

theorem inProgress_held (f : Floor) : f.inProgress.held = f.unsettled.length := by
  unfold inProgress unsettled
  induction f.running with
  | nil => rfl
  | cons e rest ih => simp [Pending.stake_held, ih]

/-! ## Numbers of operations -/

/-- Operations in progress are told apart by their numbers, and the next number is free. -/
structure Numbered (f : Floor) : Prop where
  distinct : (f.running.map Prod.fst).Nodup
  below : ∀ e ∈ f.running, e.1 < f.desk.nextCaller

section

variable {f : Floor} {others : List (Nat × Pending)} {news : List Happening} {caller : Nat}
  {t : Desk.Stretch}

theorem land_numbered (hdistinct : (caller :: others.map Prod.fst).Nodup)
    (hbelow : ∀ e ∈ others, e.1 < t.state.nextCaller) (hcaller : caller < t.state.nextCaller) :
    (f.land others news caller t).Numbered := by
  unfold land
  cases t.progress with
  | needs q =>
    refine ⟨?_, ?_⟩
    · rw [List.map_append]
      exact (List.perm_append_singleton caller (others.map Prod.fst)).nodup_iff.2 hdistinct
    · intro e he
      rcases List.mem_append.1 he with hother | hthis
      · exact hbelow e hother
      · cases List.mem_singleton.1 hthis
        exact hcaller
  | done r => exact ⟨(List.nodup_cons.1 hdistinct).2, hbelow⟩

theorem new_numbered (c : PoolConfig) (name : String) : (new c name).Numbered :=
  ⟨List.nodup_nil, fun _ he => (List.not_mem_nil he).elim⟩

/-- The number of an operation that begins is new. -/
theorem Numbered.fresh (h : f.Numbered) : (f.desk.nextCaller :: f.running.map Prod.fst).Nodup := by
  refine List.nodup_cons.2 ⟨?_, h.distinct⟩
  intro hmem
  obtain ⟨e, he, hnumber⟩ := List.mem_map.1 hmem
  have hlt := h.below e he
  rw [hnumber] at hlt
  exact absurd hlt (lt_irrefl _)

/-- The number of an operation that goes on is not among those of the others. -/
theorem Numbered.apart {before after : List (Nat × Pending)} {q : Pending} (h : f.Numbered)
    (hrunning : f.running = before ++ (caller, q) :: after) :
    (caller :: (before ++ after).map Prod.fst).Nodup := by
  have hperm : f.running.Perm ((caller, q) :: (before ++ after)) := by
    rw [hrunning]
    exact List.perm_middle
  exact (hperm.map Prod.fst).nodup_iff.1 h.distinct

theorem begin_numbered (now : Seconds) (q : DeskCall) (h : f.Numbered) :
    (f.begin now q).Numbered := by
  have hnext := Desk.start_nextCaller f.desk now q
  refine land_numbered h.fresh ?_ ?_
  · intro e he
    rw [hnext]
    exact Nat.lt_succ_of_lt (h.below e he)
  · rw [hnext]
    exact Nat.lt_succ_self _

theorem goOn_numbered (now : Seconds) {before after : List (Nat × Pending)} {q : Pending}
    (r : q.Reply) (hrunning : f.running = before ++ (caller, q) :: after) (h : f.Numbered) :
    (f.goOn (before ++ after) caller now q r).Numbered := by
  have hnext : (f.desk.proceed caller now q r).state.nextCaller = f.desk.nextCaller :=
    Desk.settle_nextCaller _ _
  refine land_numbered (h.apart hrunning) ?_ ?_
  · intro e he
    rw [hnext]
    refine h.below e ?_
    rw [hrunning]
    exact List.perm_middle.mem_iff.2 (List.mem_cons_of_mem _ he)
  · rw [hnext]
    refine h.below (caller, q) ?_
    rw [hrunning]
    exact List.mem_append_right before List.mem_cons_self

/-- One step keeps the numbers apart. -/
theorem Step.numbered {g : Floor} (hstep : Step f g) (h : f.Numbered) : g.Numbered := by
  cases hstep with
  | begin now q => exact begin_numbered now q h
  | spoil lease => exact ⟨h.distinct, h.below⟩
  | goOn now r hr hrunning => exact goOn_numbered now r hrunning h

/-- So does a run. -/
theorem Reachable.numbered {c : PoolConfig} {name : String} (h : Reachable c name f) :
    f.Numbered := by
  induction h with
  | new => exact new_numbered c name
  | step _ hstep ih => exact hstep.numbered ih

end

/-! ## What every step keeps -/

/-- The pool is settled with all parties.  What has been opened is on record, or its closing is
over; what was to be closed is still being closed, or that is over.  Connections are numbered
from one. -/
structure Orderly (c : PoolConfig) (f : Floor) (known gone : Multiset (Nat × Nat)) : Prop where
  settled : f.desk.pool.Settled ⟨c, known, 1 + (Happening.openings f.history).length⟩
    (f.inProgress + f.desk.stake)
  opened : ((Happening.openings f.history).map Slot.key : Multiset (Nat × Nat)) = known + gone
  closed : ((Happening.closings f.history).map Slot.key : Multiset (Nat × Nat)) =
    (f.leaving.map Slot.key : Multiset (Nat × Nat)) + gone
  numbered : (Happening.openings f.history).map Slot.id =
    List.range' 1 (Happening.openings f.history).length

/-- The connection that is being closed after a stretch. -/
def leavingAfter (t : Desk.Stretch) : List Slot :=
  match t.progress with
  | .needs q => q.leaving
  | .done _ => []

theorem closings_after (t : Desk.Stretch) :
    Happening.closings (Happening.after t) = leavingAfter t := by
  unfold Happening.after leavingAfter Happening.closings
  cases t.progress with
  | needs q => cases q <;> rfl
  | done r =>
    rcases r with f | _ | lease
    · rfl
    · rfl
    · cases hl : t.state.leases[lease]? <;> simp [hl]

theorem openings_after (t : Desk.Stretch) : Happening.openings (Happening.after t) = [] := by
  unfold Happening.after Happening.openings
  cases t.progress with
  | needs q => cases q <;> rfl
  | done r =>
    rcases r with f | _ | lease
    · rfl
    · rfl
    · cases hl : t.state.leases[lease]? <;> simp [hl]

variable (f : Floor) (others : List (Nat × Pending)) (arrived : List Slot) (caller : Nat)
  (t : Desk.Stretch)

theorem inProgress_land :
    (f.land others (arrived.map .opened) caller t).inProgress =
      (others.map fun e => e.2.stake).sum + t.progress.remains := by
  unfold inProgress land
  cases t.progress <;> simp [Progress.remains]

theorem leaving_land :
    (f.land others (arrived.map .opened) caller t).leaving =
      (others.flatMap fun e => e.2.leaving) ++ leavingAfter t := by
  unfold leaving land leavingAfter
  cases t.progress <;> simp

theorem openings_land :
    Happening.openings (f.land others (arrived.map .opened) caller t).history =
      Happening.openings f.history ++ arrived := by
  have hafter := openings_after t
  simp only [Happening.openings] at hafter
  simp [land, Happening.openings, List.filterMap_append, hafter, List.filterMap_map]

theorem closings_land :
    Happening.closings (f.land others (arrived.map .opened) caller t).history =
      Happening.closings f.history ++ leavingAfter t := by
  have hafter := closings_after t
  simp only [Happening.closings] at hafter
  simp [land, Happening.closings, List.filterMap_append, hafter, List.filterMap_map]

variable {f} {c : PoolConfig} {known gone : Multiset (Nat × Nat)}

/-- A stretch that leaves the pool settled keeps order, whatever was closed before it. -/
theorem Orderly.land {known' left : Multiset (Nat × Nat)} (h : f.Orderly c known gone)
    (hsettles : t.Settles
      ⟨c, known', 1 + (Happening.openings f.history).length + arrived.length⟩
      (others.map fun e => e.2.stake).sum)
    (hknown : known' + left = known + (arrived.map Slot.key : Multiset (Nat × Nat)))
    (hleft : (f.leaving.map Slot.key : Multiset (Nat × Nat)) =
      ((others.flatMap fun e => e.2.leaving).map Slot.key : Multiset (Nat × Nat)) + left)
    (hnumbered : arrived.map Slot.id =
      List.range' (1 + (Happening.openings f.history).length) arrived.length) :
    (f.land others (arrived.map .opened) caller t).Orderly c known' (gone + left) := by
  refine ⟨?_, ?_, ?_, ?_⟩
  · rw [inProgress_land, openings_land, List.length_append, add_right_comm, ← add_assoc]
    exact hsettles
  · rw [openings_land, List.map_append, ← Multiset.coe_add, h.opened, add_right_comm, ← hknown]
    abel
  · rw [closings_land, leaving_land, List.map_append, List.map_append, ← Multiset.coe_add,
      ← Multiset.coe_add, h.closed, hleft]
    abel
  · rw [openings_land, List.map_append, List.length_append, h.numbered, hnumbered,
      List.range'_append_1]

/-- A connection that arrives has the next number. -/
theorem arrivals_numbered (now : Seconds) (id : Nat) (q : Pending) (r : q.Reply) :
    (q.arrivals now id r).map Slot.id = List.range' id (q.arrivals now id r).length := by
  cases q with
  | opening use => cases r <;> rfl
  | _ => rfl

theorem new_orderly (c : PoolConfig) (name : String) : (new c name).Orderly c 0 0 := by
  refine ⟨⟨rfl, rfl, rfl, rfl, rfl, ?_, rfl⟩, rfl, rfl, rfl⟩
  exact Int.natCast_nonneg _

theorem begin_orderly (now : Seconds) (q : DeskCall) (h : f.Orderly c known gone) :
    (f.begin now q).Orderly c known gone := by
  have hsettles : (f.desk.start now q).2.Settles _ f.inProgress := Desk.start_settles h.settled
  have hnobody : (f.leaving.map Slot.key : Multiset (Nat × Nat)) =
      ((f.running.flatMap fun e => e.2.leaving).map Slot.key : Multiset (Nat × Nat)) + 0 :=
    (add_zero _).symm
  have hland := h.land f.running [] (f.desk.start now q).1 (f.desk.start now q).2 hsettles
    (by simp) hnobody rfl
  simpa [begin] using hland

theorem spoil_orderly (lease : Nat) (h : f.Orderly c known gone) :
    ({ f with desk := f.desk.markUnhealthy lease }).Orderly c known gone := by
  refine ⟨?_, h.opened, h.closed, h.numbered⟩
  have hstake := Desk.stake_markUnhealthy f.desk lease
  simp only [inProgress, hstake]
  exact h.settled

/-- The pool is settled with an operation in progress and with all other parties. -/
theorem Orderly.settled_apart {before after : List (Nat × Pending)} {caller : Nat} {q : Pending}
    (h : f.Orderly c known gone) (hrunning : f.running = before ++ (caller, q) :: after) :
    f.desk.pool.Settled ⟨c, known, 1 + (Happening.openings f.history).length⟩
      (((before ++ after).map fun e => e.2.stake).sum + f.desk.stake + q.stake) := by
  have hparties : f.inProgress =
      ((before ++ after).map fun e => e.2.stake).sum + q.stake := by
    simp only [inProgress, hrunning, List.map_append, List.map_cons, List.sum_append,
      List.sum_cons]
    abel
  have hsettled := h.settled
  rw [hparties, add_right_comm] at hsettled
  exact hsettled

theorem goOn_orderly (now : Seconds) {before after : List (Nat × Pending)} {caller : Nat}
    {q : Pending} {r : q.Reply} (hr : q.Regular r)
    (hrunning : f.running = before ++ (caller, q) :: after) (h : f.Orderly c known gone) :
    ∃ known' gone', (f.goOn (before ++ after) caller now q r).Orderly c known' gone' := by
  have hid : f.desk.pool.nextId = 1 + (Happening.openings f.history).length := h.settled.nextId
  obtain ⟨known', hknown, hsettles⟩ :=
    Desk.proceed_settles caller now hr (h.settled_apart hrunning)
  refine ⟨known', _, h.land _ _ _ _ hsettles hknown ?_ ?_⟩
  · simp only [leaving, hrunning, List.flatMap_append, List.flatMap_cons, List.map_append,
      ← Multiset.coe_add]
    abel
  · rw [← hid]
    exact arrivals_numbered now _ q r

/-- One step keeps order. -/
theorem Step.orderly {g : Floor} (hstep : Step f g) (h : f.Orderly c known gone) :
    ∃ known' gone', g.Orderly c known' gone' := by
  cases hstep with
  | begin now q => exact ⟨known, gone, begin_orderly now q h⟩
  | spoil lease => exact ⟨known, gone, spoil_orderly lease h⟩
  | goOn now r hr hrunning => exact goOn_orderly now hr hrunning h

/-- So does a run. -/
theorem Reachable.orderly {name : String} (h : Reachable c name f) :
    ∃ known gone, f.Orderly c known gone := by
  induction h with
  | new => exact ⟨0, 0, new_orderly c name⟩
  | step _ hstep ih =>
    obtain ⟨known, gone, horderly⟩ := ih
    exact hstep.orderly horderly

/-! ## The counters -/

/-- However operations overlap, no more connections live than the pool has room for; each of them
rests, or is in use, or is in the hands of an operation.  When no operation is in progress, the
connections in use are those of the leases that have not been given back, and nobody waits. -/
theorem Reachable.accounted {name : String} (h : Reachable c name f) :
    f.desk.pool.live ≤ c.maxSize ∧ 0 ≤ f.desk.pool.inUse ∧
      f.desk.pool.live = f.desk.pool.idle.length + f.desk.pool.inUse + f.unsettled.length ∧
      (f.running = [] →
        f.desk.pool.stats.size = f.desk.pool.stats.idle + f.desk.pool.stats.inUse ∧
          f.desk.pool.stats.inUse = f.desk.lent.length ∧ f.desk.pool.stats.waiting = 0) := by
  obtain ⟨known, gone, horderly⟩ := h.orderly
  obtain ⟨hconfig, -, hinUse, hlive, hwaiting, hbounded, -⟩ := horderly.settled
  have hsize : f.desk.pool.config.maxSize = c.maxSize := by rw [hconfig]
  have hheld : (f.inProgress + f.desk.stake).held = f.unsettled.length := by
    simp [inProgress_held, Desk.stake_held]
  rw [hheld] at hlive
  refine ⟨by omega, by omega, by omega, ?_⟩
  intro hquiet
  have hnone : f.inProgress = 0 := by simp [inProgress, hquiet]
  have hnobody : f.unsettled.length = 0 := by simp [unsettled, hquiet]
  simp only [hnone, zero_add, Desk.stake_claims, Desk.stake_waits] at hinUse hlive hwaiting
  refine ⟨?_, hinUse, hwaiting⟩
  simp only [Pool.stats]
  omega

/-- A pool with room for one connection. -/
def single : PoolConfig := { maxSize := 1 }

/-- A caller has the only connection. -/
def lending : Floor :=
  ((new single "default").begin 0 (.checkout (some 5))).goOn [] 0 1
    (.opening (.visit ⟨0, some 5⟩)) (.ok 7)

/-- Another caller waits while the only connection, which is spoiled, is being closed. -/
def crowded : Floor :=
  let waiting := lending.begin 1 (.checkout (some 5))
  ({ waiting with desk := waiting.desk.markUnhealthy 0 }).begin 2 (.giveBack 0)

theorem lending_reachable : Reachable single "default" lending := by
  have hopening : Reachable single "default"
      ((new single "default").begin 0 (.checkout (some 5))) :=
    Reachable.new.step (.begin _ 0 _)
  have hrunning : ((new single "default").begin 0 (.checkout (some 5))).running =
      [] ++ (0, .opening (.visit ⟨0, some 5⟩)) :: [] := rfl
  exact hopening.step (.goOn _ 1 (q := .opening (.visit ⟨0, some 5⟩)) (r := .ok 7) trivial hrunning)

theorem crowded_reachable : Reachable single "default" crowded :=
  ((lending_reachable.step (.begin _ 1 _)).step (.spoil _ 0)).step (.begin _ 2 _)

/-- In a crowded pool one connection lives that neither rests nor is in use. -/
theorem accounted_crowded :
    Reachable single "default" crowded ∧ crowded.desk.pool.waiting = 1 ∧
      crowded.unsettled.length = 1 ∧
      (crowded.desk.pool.live ≤ single.maxSize ∧ 0 ≤ crowded.desk.pool.inUse ∧
        crowded.desk.pool.live = crowded.desk.pool.idle.length + crowded.desk.pool.inUse +
          crowded.unsettled.length ∧
        (crowded.running = [] →
          crowded.desk.pool.stats.size =
              crowded.desk.pool.stats.idle + crowded.desk.pool.stats.inUse ∧
            crowded.desk.pool.stats.inUse = crowded.desk.lent.length ∧
            crowded.desk.pool.stats.waiting = 0)) :=
  ⟨crowded_reachable, by decide +kernel, by decide +kernel, Reachable.accounted crowded_reachable⟩

end Floor

end SqlGateway
