import Mathlib.Algebra.Order.Group.Multiset
import Mathlib.Tactic.Abel
import Mathlib.Tactic.Simps.Basic
import SqlGateway.Pool.Desk
set_option autoImplicit false

/-!
# Pool: who has what

A pool counts, but it does not know who has its connections.  A `Stake` is what one
party has of a pool: an operation in progress, or a caller with a lease.  `Settled`
says that the counters of a pool agree with its connections at rest and the stakes
of all parties together.  Each stretch of an operation leaves a settled pool settled,
whatever the other parties have: the operation's stake before the stretch is replaced
by its stake after it.
-/

namespace SqlGateway

/-- What tells one connection from another: the provider's number and the pool's own. -/
def Slot.key (s : Slot) : Nat × Nat := (s.raw, s.id)

/-! ## Stakes -/

/-- What a party has of a pool. -/
@[ext]
structure Stake where
  /-- Connections, and room for connections, that the pool counts as in use. -/
  claims : Nat := 0
  /-- Connections that the pool only counts as living. -/
  held : Nat := 0
  /-- Callers that wait. -/
  waits : Nat := 0
  /-- The connections of either kind. -/
  keys : Multiset (Nat × Nat) := 0

namespace Stake

instance : Zero Stake := ⟨{}⟩

instance : Add Stake :=
  ⟨fun a b => ⟨a.claims + b.claims, a.held + b.held, a.waits + b.waits, a.keys + b.keys⟩⟩

@[simp] theorem claims_zero : (0 : Stake).claims = 0 := rfl
@[simp] theorem held_zero : (0 : Stake).held = 0 := rfl
@[simp] theorem waits_zero : (0 : Stake).waits = 0 := rfl
@[simp] theorem keys_zero : (0 : Stake).keys = 0 := rfl

@[simp] theorem claims_add (a b : Stake) : (a + b).claims = a.claims + b.claims := rfl
@[simp] theorem held_add (a b : Stake) : (a + b).held = a.held + b.held := rfl
@[simp] theorem waits_add (a b : Stake) : (a + b).waits = a.waits + b.waits := rfl
@[simp] theorem keys_add (a b : Stake) : (a + b).keys = a.keys + b.keys := rfl

instance : AddCommMonoid Stake where
  add_assoc a b c := by ext1 <;> simp [add_assoc]
  zero_add a := by ext1 <;> simp
  add_zero a := by ext1 <;> simp
  add_comm a b := by ext1 <;> simp [add_comm]
  nsmul := nsmulRec

/-- Room for a connection that is being opened. -/
@[simps]
def room : Stake := { claims := 1 }

/-- A connection that a caller has, or that is kept for one. -/
@[simps]
def lent (s : Slot) : Stake := { claims := 1, keys := {s.key} }

/-- Connections that an operation has taken out of the pool. -/
@[simps]
def holding (slots : List Slot) : Stake := { held := slots.length, keys := slots.map Slot.key }

/-- A caller that waits. -/
@[simps]
def waiter : Stake := { waits := 1 }

@[simp] theorem holding_nil : holding [] = 0 := rfl

theorem holding_append (a b : List Slot) : holding (a ++ b) = holding a + holding b := by
  ext1 <;> simp [holding]

theorem holding_cons (s : Slot) (rest : List Slot) :
    holding (s :: rest) = holding [s] + holding rest :=
  holding_append [s] rest

/-- The order of connections does not count. -/
theorem holding_perm {a b : List Slot} (h : a.Perm b) : holding a = holding b := by
  have hkeys : (a.map Slot.key : Multiset (Nat × Nat)) = b.map Slot.key :=
    Multiset.coe_eq_coe.2 (h.map Slot.key)
  ext1 <;> simp only [holding, h.length_eq, hkeys]

end Stake

/-! ## The stakes of operations -/

/-- The connections that wait for their turn while an operation closes one. -/
def Closing.slots : Closing → List Slot
  | .retired rest others => rest.map Prod.fst ++ others
  | .stale rest alive => rest ++ alive
  | .late rest => rest
  | .shutdown rest _ => rest
  | .visit _ | .returned | .surplus => []

namespace Pending

/-- The connection that an operation has for a caller; the pool counts it as in use. -/
def borrowed : Pending → List Slot
  | .testing s (.visit _) => [s]
  | .pausing (.discard s _ _) => [s]
  | _ => []

/-- The connections that an operation has taken out of the pool, or that a caller has returned,
and that it has neither closed nor put back yet. -/
def unsettled : Pending → List Slot
  | .testing s (.sweep rest alive) => s :: (rest ++ alive)
  | .closing s _ next => s :: next.slots
  | .pausing (.tests alive) => alive
  | _ => []

/-- All connections that an operation has. -/
def owned (q : Pending) : List Slot := q.borrowed ++ q.unsettled

/-- The connection that is being closed. -/
def leaving : Pending → List Slot
  | .closing s _ _ => [s]
  | _ => []

/-- What an operation has while it needs something. -/
def stake : Pending → Stake
  | .opening _ => .room
  | .testing s (.visit _) => .lent s
  | .testing s (.sweep rest alive) => .holding (s :: (rest ++ alive))
  | .closing s _ next => .holding (s :: next.slots)
  | .sleeping _ (.visit _) => .waiter
  | .sleeping _ (.shutdown _) => 0
  | .pausing (.discard s _ _) => .lent s
  | .pausing (.visit _) => 0
  | .pausing (.tests alive) => .holding alive
  | .pausing .fill => 0

theorem stake_held (q : Pending) : q.stake.held = q.unsettled.length := by
  cases q with
  | testing s use => cases use <;> simp [stake, unsettled, Stake.lent, Stake.holding]
  | sleeping limit use => cases use <;> rfl
  | pausing use => cases use <;> simp [stake, unsettled, Stake.lent, Stake.holding]
  | _ => simp [stake, unsettled, Stake.room, Stake.holding]

theorem stake_keys (q : Pending) : q.stake.keys = q.owned.map Slot.key := by
  cases q with
  | testing s use => cases use <;> simp [stake, owned, borrowed, unsettled, Stake.lent, Stake.holding]
  | sleeping limit use => cases use <;> rfl
  | pausing use =>
    cases use <;> simp [stake, owned, borrowed, unsettled, Stake.lent, Stake.holding]
  | _ => simp [stake, owned, borrowed, unsettled, Stake.room, Stake.holding]

/-- The connection that a reply brings. -/
def arrivals (now : Seconds) (id : Nat) : (q : Pending) → q.Reply → List Slot
  | .opening _, .ok raw => [{ raw, id, createdAt := now, lastUsed := now }]
  | _, _ => []

/-- A test and a closing end, or fail in a way that is no interruption of the program. -/
def Regular : (q : Pending) → q.Reply → Prop
  | .testing _ _, r => ∀ f, r = .error f → f.isOrdinary
  | .closing _ _ _, r => ∀ f, r = .error f → f.isOrdinary
  | _, _ => True

end Pending

/-- What an operation has after a stretch; if it ends with a connection, that is the caller's. -/
def Progress.stake : Progress (Option Slot) → Stake
  | .needs q => q.stake
  | .done (.ok (some s)) => .lent s
  | .done (.ok none) => 0
  | .done (.error _) => 0

/-! ## Settled pools -/

/-- What is on record of a pool: how it is configured, which connections have been opened and are
not closed yet, and the number of the next one. -/
structure Books where
  config : PoolConfig
  known : Multiset (Nat × Nat)
  nextId : Nat

namespace Pool

/-- The counters of a pool agree with its connections at rest and the stakes of all parties. -/
structure Settled (p : Pool) (b : Books) (k : Stake) : Prop where
  config : p.config = b.config
  nextId : p.nextId = b.nextId
  inUse : p.inUse = k.claims
  live : p.live = p.idle.length + k.claims + k.held
  waiting : p.waiting = k.waits
  bounded : p.live ≤ p.config.maxSize
  keys : (p.idle.map Slot.key : Multiset (Nat × Nat)) + k.keys = b.known

namespace Settled

variable {p : Pool} {b : Books} {rest k : Stake} {s : Slot}

/-! ### What the operations do to a pool -/

/-- Calling and sleeping do not touch what is counted. -/
theorem of_sleepers (h : p.Settled b k) (sleepers woken : List Nat) :
    ({ p with sleepers, woken }).Settled b k :=
  ⟨h.config, h.nextId, h.inUse, h.live, h.waiting, h.bounded, h.keys⟩

theorem call (h : p.Settled b k) (count : Nat) : (p.call count).Settled b k :=
  h.of_sleepers _ _

theorem callAll (h : p.Settled b k) : p.callAll.Settled b k := h.of_sleepers _ _

theorem fallAsleep (h : p.Settled b k) (caller : Nat) : (p.fallAsleep caller).Settled b k :=
  h.of_sleepers _ _

theorem wakeUp (h : p.Settled b k) (caller : Nat) : (p.wakeUp caller).Settled b k :=
  h.of_sleepers _ _

theorem close (h : p.Settled b k) : ({ p with closing := true }).Settled b k :=
  ⟨h.config, h.nextId, h.inUse, h.live, h.waiting, h.bounded, h.keys⟩

/-- The warmest connection at rest is taken for a caller. -/
theorem lend (h : p.Settled b rest) (hlast : p.idle.getLast? = some s) :
    ({ p with idle := p.idle.dropLast, inUse := p.inUse + 1 }).Settled b
      (rest + Stake.lent s) := by
  obtain ⟨cold, hidle⟩ := List.getLast?_eq_some_iff.1 hlast
  have hinUse := h.inUse
  have hlive := h.live
  have hkeys := h.keys
  simp only [hidle, List.length_append, List.length_singleton] at hlive
  simp only [hidle, List.map_append, ← Multiset.coe_add, List.map_singleton,
    Multiset.coe_singleton] at hkeys
  refine ⟨h.config, h.nextId, ?_, ?_, ?_, h.bounded, ?_⟩
  · simp [hinUse]
  · simp [hidle, hlive]
    omega
  · simp [h.waiting]
  · simp only [hidle, List.dropLast_concat, Stake.keys_add, Stake.lent_keys, ← hkeys]
    abel

/-- Room for a new connection is reserved while fewer than the most live. -/
theorem reserve (h : p.Settled b rest) (hroom : p.live < p.config.maxSize) :
    ({ p with live := p.live + 1, inUse := p.inUse + 1 }).Settled b (rest + Stake.room) := by
  refine ⟨h.config, h.nextId, ?_, ?_, ?_, Int.add_one_le_of_lt hroom, ?_⟩
  · simp [h.inUse]
  · simp [h.live]
    omega
  · simp [h.waiting]
  · simp [h.keys]

/-- A connection that could not be opened leaves its room. -/
theorem release (h : p.Settled b (rest + Stake.room)) :
    ({ p with live := p.live - 1, inUse := p.inUse - 1 }).Settled b rest := by
  have hinUse := h.inUse
  have hlive := h.live
  have hbounded := h.bounded
  simp only [Stake.claims_add, Stake.held_add, Stake.room_claims, Stake.room_held] at hinUse hlive
  refine ⟨h.config, h.nextId, ?_, ?_, ?_, ?_, ?_⟩
  · simp only
    omega
  · simp only
    omega
  · simpa using h.waiting
  · simp only
    omega
  · simpa using h.keys

/-- A new connection fills its room and goes on record. -/
theorem fill (h : p.Settled b (rest + Stake.room)) :
    ({ p with nextId := p.nextId + 1 }).Settled
      ⟨b.config, b.known + {s.key}, b.nextId + 1⟩ (rest + Stake.lent s) := by
  refine ⟨h.config, ?_, ?_, ?_, ?_, h.bounded, ?_⟩
  · simp [h.nextId]
  · simpa using h.inUse
  · simpa using h.live
  · simpa using h.waiting
  · have hkeys := h.keys
    simp only [Stake.keys_add, Stake.room_keys] at hkeys
    simp only [Stake.keys_add, Stake.lent_keys, ← hkeys]
    abel

/-- A connection that was in use is in the hands of an operation. -/
theorem handBack (h : p.Settled b (rest + Stake.lent s)) :
    ({ p with inUse := p.inUse - 1 }).Settled b (rest + Stake.holding [s]) := by
  have hinUse := h.inUse
  have hlive := h.live
  simp only [Stake.claims_add, Stake.held_add, Stake.lent_claims, Stake.lent_held] at hinUse hlive
  refine ⟨h.config, h.nextId, ?_, ?_, ?_, h.bounded, ?_⟩
  · simp
    omega
  · simp
    omega
  · simpa using h.waiting
  · simpa using h.keys

/-- Connections in the hands of an operation go back to rest; their order is free, and the time
of their last use may be noted. -/
theorem shelve {back idle : List Slot} (h : p.Settled b (rest + Stake.holding back))
    (hidle : (idle.map Slot.key).Perm ((back ++ p.idle).map Slot.key)) :
    ({ p with idle }).Settled b rest := by
  have hlive := h.live
  have hkeys := h.keys
  have hlength := hidle.length_eq
  simp only [List.length_map, List.length_append] at hlength
  simp only [Stake.claims_add, Stake.held_add, Stake.holding_claims, Stake.holding_held] at hlive
  refine ⟨h.config, h.nextId, ?_, ?_, ?_, h.bounded, ?_⟩
  · simpa using h.inUse
  · simp only [hlength]
    omega
  · simpa using h.waiting
  · simp only [Stake.keys_add, Stake.holding_keys] at hkeys
    rw [← hkeys, Multiset.coe_eq_coe.2 hidle, List.map_append, ← Multiset.coe_add]
    abel

/-- Every connection at rest is taken. -/
theorem takeAll (h : p.Settled b rest) :
    ({ p with idle := [] }).Settled b (rest + Stake.holding p.idle) := by
  have hlive := h.live
  have hkeys := h.keys
  refine ⟨h.config, h.nextId, ?_, ?_, ?_, h.bounded, ?_⟩
  · simpa using h.inUse
  · simp
    omega
  · simpa using h.waiting
  · simp only [Stake.keys_add, Stake.holding_keys, ← hkeys, List.map_nil, Multiset.coe_nil]
    abel

/-- A connection that has been closed is gone from the pool and from the record. -/
theorem remove (h : p.Settled b (rest + Stake.holding [s])) :
    ∃ known, known + {s.key} = b.known ∧
      ({ p with live := p.live - 1 }).Settled { b with known } rest := by
  have hlive := h.live
  have hbounded := h.bounded
  have hkeys := h.keys
  simp only [Stake.claims_add, Stake.held_add, Stake.holding_claims, Stake.holding_held,
    List.length_singleton] at hlive
  simp only [Stake.keys_add, Stake.holding_keys, List.map_singleton,
    Multiset.coe_singleton] at hkeys
  refine ⟨p.idle.map Slot.key + rest.keys, by rw [← hkeys, add_assoc],
    h.config, h.nextId, ?_, ?_, ?_, ?_, rfl⟩
  · simpa using h.inUse
  · simp only
    omega
  · simpa using h.waiting
  · simp only
    omega

/-- A caller begins to wait. -/
theorem wait (h : p.Settled b rest) :
    ({ p with waiting := p.waiting + 1 }).Settled b (rest + Stake.waiter) := by
  refine ⟨h.config, h.nextId, ?_, ?_, ?_, h.bounded, ?_⟩
  · simpa using h.inUse
  · simpa using h.live
  · simp [h.waiting]
  · simpa using h.keys

/-- A caller has waited. -/
theorem rouse (h : p.Settled b (rest + Stake.waiter)) :
    ({ p with waiting := p.waiting - 1 }).Settled b rest := by
  refine ⟨h.config, h.nextId, ?_, ?_, ?_, h.bounded, ?_⟩
  · simpa using h.inUse
  · simpa using h.live
  · simp [h.waiting]
  · simpa using h.keys

end Settled

/-! ## Stretches -/

/-- A stretch leaves the pool settled: the stake of its operation is what it then has. -/
def Stretch.Settles (t : Stretch) (b : Books) (rest : Stake) : Prop :=
  t.state.Settled b (rest + t.progress.stake)

section

variable {p : Pool} {b : Books} {rest : Stake} {s : Slot} {caller : Nat} {now : Seconds}
  {v : Visit}

theorem settles_asks {q : Pending} (h : p.Settled b (rest + q.stake)) :
    Stretch.Settles (.asks p q) b rest := h

/-- An operation may pause with nothing in its hands. -/
theorem settles_pause {q : Pending} (hq : q.stake = 0) (h : p.Settled b rest) :
    Stretch.Settles (.asks p q) b rest := by
  rw [← add_zero rest, ← hq] at h
  exact settles_asks h

theorem settles_error {f : Failure} (h : p.Settled b rest) :
    Stretch.Settles (.ends p (.error f)) b rest := by
  simpa [Stretch.Settles, Turn.ends, Progress.stake] using h

theorem settles_nothing (h : p.Settled b rest) :
    Stretch.Settles (.ends p (.ok none)) b rest := by
  simpa [Stretch.Settles, Turn.ends, Progress.stake] using h

theorem settles_after {t : Stretch} (notices : List Notice) (h : t.Settles b rest) :
    Stretch.Settles (t.after notices) b rest := h

/-! ### Checking out -/

theorem handOut_settles (h : p.Settled b (rest + Stake.lent s)) :
    (p.handOut now v s).Settles b rest := h

theorem discard_settles {reason : RetireReason} (h : p.Settled b (rest + Stake.lent s)) :
    (p.discard s reason v).Settles b rest :=
  settles_asks h.handBack

theorem examine_settles (h : p.Settled b (rest + Stake.lent s)) :
    (p.examine now v s).Settles b rest := by
  unfold examine
  split
  · exact settles_asks h
  · split
    · exact settles_asks h
    · exact handOut_settles h

theorem seek_settles (h : p.Settled b rest) : (p.seek caller now v).Settles b rest := by
  unfold seek
  split
  · exact settles_error h
  · split
    next s hlast => exact examine_settles (h.lend hlast)
    next =>
      split
      next hroom => exact settles_asks (h.reserve hroom)
      next =>
        split
        · split
          · exact settles_error h
          · exact settles_asks (h.fallAsleep caller).wait
        · exact settles_asks (h.fallAsleep caller).wait

/-! ### Returning -/

theorem startReturn_settles {healthy : Bool} (h : p.Settled b (rest + Stake.lent s)) :
    (p.startReturn now s healthy).Settles b rest := by
  have hback := h.handBack
  unfold startReturn
  simp only
  split
  · exact settles_asks hback
  · apply settles_nothing
    apply Settled.call
    exact hback.shelve (by simp [Slot.key])

/-! ### Sweeping -/

/-- A sweep loses no connection when it sorts them. -/
theorem triage_perm (c : PoolConfig) (now : Seconds) (slots : List Slot) :
    ∀ remaining : Int,
      ((triage c now remaining slots).1.map Prod.fst ++ (triage c now remaining slots).2).Perm
        slots := by
  induction slots with
  | nil => intro remaining; exact .refl _
  | cons s rest ih =>
    intro remaining
    simp only [triage]
    split
    · exact (ih (remaining - 1)).cons s
    · exact List.perm_middle.trans ((ih remaining).cons s)

theorem fillUp_settles (h : p.Settled b rest) : p.fillUp.Settles b rest := by
  unfold fillUp
  split
  · exact settles_nothing h
  next hroom =>
    simp only [Bool.or_eq_true, decide_eq_true_eq, not_or, not_le] at hroom
    exact settles_asks (h.reserve hroom.2)

theorem closeLate_settles {slots : List Slot} (h : p.Settled b (rest + Stake.holding slots)) :
    (p.closeLate slots).Settles b rest := by
  cases slots with
  | nil => exact settles_nothing (by simpa using h)
  | cons s others => exact settles_asks h

theorem finishTests_settles {alive : List Slot} (h : p.Settled b (rest + Stake.holding alive)) :
    (p.finishTests alive).Settles b rest := by
  unfold finishTests
  split
  · exact closeLate_settles h
  · apply settles_pause rfl
    exact (h.shelve (.refl _)).call alive.length

theorem testNext_settles {alive untested : List Slot}
    (h : p.Settled b (rest + Stake.holding (untested ++ alive))) :
    (p.testNext alive untested).Settles b rest := by
  cases untested with
  | nil => exact settles_asks h
  | cons s others => exact settles_asks h

theorem retireNext_settles {others : List Slot} {retired : List (Slot × RetireReason)}
    (h : p.Settled b (rest + Stake.holding (retired.map Prod.fst ++ others))) :
    (p.retireNext others retired).Settles b rest := by
  cases retired with
  | nil => exact testNext_settles (by simpa using h)
  | cons first later => exact settles_asks h

theorem startSweep_settles (h : p.Settled b rest) : (p.startSweep now).Settles b rest := by
  unfold startSweep
  split
  · exact settles_nothing h
  · apply retireNext_settles
    rw [Stake.holding_perm (triage_perm p.config now p.idle p.live)]
    exact h.takeAll

/-! ### Closing -/

theorem shutNext_settles {first : Bool} {slots : List Slot}
    (h : p.Settled b (rest + Stake.holding slots)) :
    (p.shutNext first slots).Settles b rest := by
  cases slots with
  | nil => simpa [Stretch.Settles, shutNext, Progress.stake] using h
  | cons s others => exact settles_asks h

theorem shut_settles {first : Bool} (h : p.Settled b rest) : (p.shut first).Settles b rest :=
  shutNext_settles h.takeAll

theorem awaitReturns_settles {deadline : Option Seconds} (h : p.Settled b rest) :
    (p.awaitReturns caller now deadline).Settles b rest := by
  have hasleep := h.fallAsleep caller
  unfold awaitReturns
  split
  · exact shut_settles h
  · split
    · split
      · exact settles_after _ (shut_settles h)
      · exact settles_pause rfl hasleep
    · exact settles_pause rfl hasleep

theorem startClose_settles {timeout : Option Seconds} (h : p.Settled b rest) :
    (p.startClose caller now timeout).Settles b rest := by
  unfold startClose
  simp only
  split
  · exact shut_settles h.close.callAll
  · exact awaitReturns_settles h.close.callAll

/-! ### Going on -/

/-- A connection that could not be opened leaves no trace. -/
theorem openFailed_settles {use : Opening} {f : Failure} (h : p.Settled b (rest + Stake.room)) :
    (p.opened now use (.error f)).Settles b rest := by
  have hleft := h.release.call 1
  simp only [opened]
  split
  · exact settles_error hleft
  · split
    · exact settles_nothing hleft
    · exact settles_error hleft

/-- A connection that has been opened goes on record. -/
theorem opened_settles {use : Opening} {raw : Nat} (h : p.Settled b (rest + Stake.room)) :
    (p.opened now use (.ok raw)).Settles
      ⟨b.config, b.known + {(raw, p.nextId)}, b.nextId + 1⟩ rest := by
  let s : Slot := { raw, id := p.nextId, createdAt := now, lastUsed := now }
  have hnew : ({ p with nextId := p.nextId + 1 }).Settled
      ⟨b.config, b.known + {s.key}, b.nextId + 1⟩ (rest + Stake.lent s) := h.fill
  have hback := hnew.handBack
  simp only [opened]
  split
  · exact settles_after _ (handOut_settles hnew)
  · split
    · exact settles_after _ (settles_asks hback)
    · apply settles_after
      apply settles_pause rfl
      exact (hback.shelve (.refl _)).call 1

/-- What a test finds decides where the connection goes. -/
theorem tested_settles {use : Testing} {r : Except Failure Bool}
    (hr : ∀ f, r = .error f → f.isOrdinary)
    (h : p.Settled b (rest + (Pending.testing s use).stake)) :
    (p.tested now s use r).Settles b rest := by
  have hgone : ∀ alive, (p.tested now s use (.ok alive)).Settles b rest := by
    intro alive
    simp only [tested]
    cases use with
    | visit v =>
      cases alive with
      | true => exact handOut_settles h
      | false => exact discard_settles h
    | sweep others found =>
      cases alive with
      | true =>
        apply testNext_settles
        have hperm : (others ++ (found ++ [s])).Perm (s :: (others ++ found)) := by
          rw [← List.append_assoc]
          exact List.perm_append_singleton s _
        rw [Stake.holding_perm hperm]
        exact h
      | false => exact settles_asks h
  cases r with
  | ok alive => exact hgone alive
  | error f =>
    simp only [tested, hr f rfl, if_true]
    exact settles_after _ (hgone false)

/-- A connection that has been closed is gone, also if that failed. -/
theorem closed_settles (reason : RetireReason) {next : Closing} {r : Except Failure Unit}
    (hr : ∀ f, r = .error f → f.isOrdinary)
    (h : p.Settled b (rest + Stake.holding (s :: next.slots))) :
    ∃ known, known + {s.key} = b.known ∧
      (p.closed s reason next r).Settles { b with known } rest := by
  rw [Stake.holding_cons, add_comm (Stake.holding [s]), ← add_assoc] at h
  obtain ⟨known, hknown, hleft⟩ := h.remove
  refine ⟨known, hknown, ?_⟩
  have hgone : (p.closed s reason next (.ok ())).Settles { b with known } rest := by
    simp only [closed]
    apply settles_after
    cases next with
    | visit v => exact settles_pause rfl (by simpa [Closing.slots] using hleft.callAll)
    | returned => exact settles_nothing (by simpa [Closing.slots] using hleft.callAll)
    | retired later others => exact retireNext_settles hleft.callAll
    | stale later alive => exact testNext_settles hleft.callAll
    | late later => exact closeLate_settles hleft.callAll
    | surplus => exact settles_nothing (by simpa [Closing.slots] using hleft.callAll)
    | shutdown later first => exact shutNext_settles hleft.callAll
  cases r with
  | ok u => exact hgone
  | error f =>
    simp only [closed, hr f rfl, if_true] at hgone ⊢
    exact hgone

theorem roused_settles {use : Sleeping} {limit : Option Seconds} {r : Except Failure Unit}
    (h : p.Settled b (rest + (Pending.sleeping limit use).stake)) :
    (p.roused caller now use r).Settles b rest := by
  have hawake := h.wakeUp caller
  cases use with
  | visit v =>
    have hroused := hawake.rouse
    cases r with
    | ok u => exact seek_settles hroused
    | error f => exact settles_error hroused
  | shutdown deadline =>
    have hroused : (p.wakeUp caller).Settled b rest := by simpa [Pending.stake] using hawake
    cases r with
    | ok u => exact awaitReturns_settles hroused
    | error f => exact settles_error hroused

theorem resumed_settles {use : Pausing} (h : p.Settled b (rest + (Pending.pausing use).stake)) :
    (p.resumed caller now use).Settles b rest := by
  cases use with
  | discard s reason v => exact discard_settles h
  | visit v => exact seek_settles (by simpa [Pending.stake] using h)
  | tests alive => exact finishTests_settles h
  | fill => exact fillUp_settles (by simpa [Pending.stake] using h)

/-- An operation that goes on leaves the pool settled.  What a reply brings goes on record, and
what has been closed is struck off. -/
theorem proceed_settles (caller : Nat) (now : Seconds) {q : Pending} {r : q.Reply}
    (hr : q.Regular r)
    (h : p.Settled b (rest + q.stake)) :
    ∃ known, known + (q.leaving.map Slot.key : Multiset (Nat × Nat)) =
        b.known + ((q.arrivals now p.nextId r).map Slot.key : Multiset (Nat × Nat)) ∧
      (p.proceed caller now q r).Settles
        ⟨b.config, known, b.nextId + (q.arrivals now p.nextId r).length⟩ rest := by
  cases q with
  | opening use =>
    cases r with
    | ok raw => exact ⟨_, by simp [Pending.leaving, Pending.arrivals, Slot.key], opened_settles h⟩
    | error f =>
      have hfailed : (p.opened now use (.error f)).Settles b rest := openFailed_settles h
      exact ⟨_, by simp [Pending.leaving, Pending.arrivals], hfailed⟩
  | testing s use => exact ⟨_, by simp [Pending.leaving, Pending.arrivals], tested_settles hr h⟩
  | closing s reason next =>
    obtain ⟨known, hknown, hsettles⟩ := closed_settles reason hr h
    exact ⟨known, by simpa [Pending.leaving, Pending.arrivals] using hknown, hsettles⟩
  | sleeping limit use =>
    exact ⟨_, by simp [Pending.leaving, Pending.arrivals], roused_settles h⟩
  | pausing use => exact ⟨_, by simp [Pending.leaving, Pending.arrivals], resumed_settles h⟩

end

end Pool

end SqlGateway
