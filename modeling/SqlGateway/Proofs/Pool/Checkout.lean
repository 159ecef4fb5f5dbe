import Mathlib.Algebra.Group.Prod
import SqlGateway.Proofs.Pool.Floor
set_option autoImplicit false

/-!
# Pool: a checkout from its call to its end

A checkout lets go of the pool wherever it needs something: it waits, it opens, tests and closes
connections.  Whenever it goes on it finds the pool as the others have left it.  A run of a
checkout is what happens on the floor from its call on, with the list of its own stints.

However the others run, a checkout that fails has given back all that it took, and a stint of
its own shows why it failed: the pool was closed, or time was over and there was neither a
connection at rest nor room, or the provider opened no connection.  One that succeeds hands out
a connection that was just opened, or one that rested, was not too old and was found alive if
that had to be checked.
-/

namespace SqlGateway

/-- A checkout of a caller needs it. -/
def Pending.IsFor (v : Visit) : Pending → Prop
  | .opening (.visit w) | .testing _ (.visit w) | .closing _ _ (.visit w)
  | .sleeping _ (.visit w) | .pausing (.discard _ _ w) | .pausing (.visit w) => w = v
  | _ => False

/-! ## Stretches -/

namespace Pool

/-- A connection has reached no limit. -/
structure Fresh (c : PoolConfig) (s : Slot) (now : Seconds) : Prop where
  lived : ∀ limit, c.lifeLimit = some limit → now - s.createdAt < limit
  rested : ∀ limit, c.restLimit = some limit → now - s.lastUsed < limit

theorem reached_eq_false {limit : Option Seconds} {age : Seconds} (h : ¬ reached limit age = true) :
    ∀ l, limit = some l → age < l := by
  rintro l rfl
  simpa only [reached, decide_eq_true_eq, Rat.not_le] using h

theorem fresh_of_refusal? {c : PoolConfig} {s : Slot} {now : Seconds}
    (h : refusal? c s now = none) : Fresh c s now := by
  unfold refusal? at h
  split at h
  · cases h
  · next hlived =>
    split at h
    · cases h
    · next hrested => exact ⟨reached_eq_false hlived, reached_eq_false hrested⟩

/-- What a caller that looks for a connection finds, and where it is then. -/
inductive Finds (p : Pool) (now : Seconds) (v : Visit) : Progress (Option Slot) → Prop
  | closed (h : p.closing = true) : Finds p now v (.done (.error p.closedFailure))
  | stale {s : Slot} {reason : RetireReason} :
    Finds p now v (.needs (.pausing (.discard s reason v)))
  | unsure {s : Slot} (hs : p.idle.getLast? = some s) (hfresh : Fresh p.config s now)
      (hcheck : p.config.validateOnCheckout = true) :
    Finds p now v (.needs (.testing s (.visit v)))
  | rested {s : Slot} (hs : p.idle.getLast? = some s) (hfresh : Fresh p.config s now)
      (hcheck : p.config.validateOnCheckout = false) : Finds p now v (.done (.ok (some s)))
  | room : Finds p now v (.needs (.opening (.visit v)))
  | exhausted {patience : Seconds} (hidle : p.idle = []) (hfull : p.config.maxSize ≤ p.live)
      (hpatience : v.patience = some patience) (hlate : v.since + patience ≤ now) :
    Finds p now v (.done (.error (p.exhaustedFailure patience)))
  | nothing {limit : Option Seconds} : Finds p now v (.needs (.sleeping limit (.visit v)))

/-- How a checkout goes on with a reply. -/
inductive Answers (p : Pool) (now : Seconds) (v : Visit) :
    (q : Pending) → q.Reply → Progress (Option Slot) → Prop
  | opened {raw : Nat} :
    Answers p now v (.opening (.visit v)) (.ok raw)
      (.done (.ok (some { raw, id := p.nextId, createdAt := now, lastUsed := now })))
  | unopened {e : Failure} :
    Answers p now v (.opening (.visit v)) (.error e) (.done (.error (openFailure e)))
  | alive {s : Slot} :
    Answers p now v (.testing s (.visit v)) (.ok true) (.done (.ok (some s)))
  | dead {s : Slot} {r : Except Failure Bool} (hr : r ≠ .ok true) :
    Answers p now v (.testing s (.visit v)) r
      (.needs (.closing s .validationFailed (.visit v)))
  | closed {s : Slot} {reason : RetireReason} {r : Except Failure Unit} :
    Answers p now v (.closing s reason (.visit v)) r (.needs (.pausing (.visit v)))
  | roused {limit : Option Seconds} {x : Progress (Option Slot)} (h : p.Finds now v x) :
    Answers p now v (.sleeping limit (.visit v)) (.ok ()) x
  | interrupted {limit : Option Seconds} {e : Failure} :
    Answers p now v (.sleeping limit (.visit v)) (.error e) (.done (.error e))
  | discards {s : Slot} {reason : RetireReason} :
    Answers p now v (.pausing (.discard s reason v)) ()
      (.needs (.closing s reason (.visit v)))
  | again {x : Progress (Option Slot)} (h : p.Finds now v x) :
    Answers p now v (.pausing (.visit v)) () x

variable (p : Pool) (caller : Nat) (now : Seconds) (v : Visit)

theorem seek_finds : p.Finds now v (p.seek caller now v).progress := by
  unfold seek
  split
  next hclosing => exact .closed hclosing
  · split
    next s hlast =>
      unfold examine
      split
      · exact .stale
      next hrefusal =>
        have hfresh : Fresh p.config s now := fresh_of_refusal? hrefusal
        split
        next hcheck => exact .unsure hlast hfresh hcheck
        next hcheck => exact .rested hlast hfresh (Bool.eq_false_iff.2 hcheck)
    next hlast =>
      split
      · exact .room
      next hroom =>
        have hidle : p.idle = [] := List.getLast?_eq_none_iff.1 hlast
        split
        next patience hpatience =>
          split
          next hlate => exact .exhausted hidle (Int.not_lt.1 hroom) hpatience hlate
          · exact .nothing
        · exact .nothing

/-- A caller fails where nothing rests, there is no room and its time is over. -/
theorem seek_exhausted {patience : Seconds} (hopen : p.closing = false) (hidle : p.idle = [])
    (hfull : p.config.maxSize ≤ p.live) (hpatience : v.patience = some patience)
    (hlate : v.since + patience ≤ now) :
    p.seek caller now v = .ends p (.error (p.exhaustedFailure patience)) := by
  have hroom : ¬ p.live < p.config.maxSize := Int.not_lt.2 hfull
  simp only [seek, hopen, Bool.false_eq_true, if_false, hidle, List.getLast?_nil, hroom, hpatience,
    hlate, if_true]

/-- A caller that has waited finds the pool as it is, but for its own wait. -/
theorem Finds.of_awake {x : Progress (Option Slot)}
    (h : ({ p.wakeUp caller with waiting := p.waiting - 1 }).Finds now v x) : p.Finds now v x := by
  cases h with
  | closed h => exact .closed h
  | stale => exact .stale
  | unsure hs hfresh hcheck => exact .unsure hs hfresh hcheck
  | rested hs hfresh hcheck => exact .rested hs hfresh hcheck
  | room => exact .room
  | exhausted hidle hfull hpatience hlate => exact .exhausted hidle hfull hpatience hlate
  | nothing => exact .nothing

theorem proceed_answers {q : Pending} {r : q.Reply} (hq : q.IsFor v) (hr : q.Regular r) :
    p.Answers now v q r (p.proceed caller now q r).progress := by
  cases q with
  | opening use =>
    cases use with
    | visit w =>
      cases hq
      cases r with
      | ok raw => exact .opened
      | error e => exact .unopened
    | reserve => exact hq.elim
  | testing s use =>
    cases use with
    | visit w =>
      cases hq
      cases r with
      | ok alive =>
        cases alive with
        | true => exact .alive
        | false => exact .dead fun h => (by cases h)
      | error e =>
        simp only [proceed, tested, hr e rfl, if_true]
        exact .dead fun h => (by cases h)
    | sweep rest found => exact hq.elim
  | closing s reason next =>
    cases next with
    | visit w =>
      cases hq
      cases r with
      | ok u => exact .closed
      | error e =>
        simp only [proceed, closed, hr e rfl, if_true]
        exact .closed
    | _ => exact hq.elim
  | sleeping limit use =>
    cases use with
    | visit w =>
      cases hq
      cases r with
      | ok u => exact .roused (.of_awake p caller now v (seek_finds _ caller now v))
      | error e => exact .interrupted
    | shutdown deadline => exact hq.elim
  | pausing use =>
    cases use with
    | discard s reason w =>
      cases hq
      exact .discards
    | visit w =>
      cases hq
      exact .again (seek_finds p caller now v)
    | _ => exact hq.elim

end Pool

/-! ## What a checkout takes and gives back -/

/-- The callers that wait, the connections in use, and those that live and do not rest. -/
def Pool.account (p : Pool) : Int × Int × Int := (p.waiting, p.inUse, p.live - p.idle.length)

/-- What a stake is worth. -/
def Stake.account (k : Stake) : Int × Int × Int := (k.waits, k.claims, k.claims + k.held)

theorem Stake.account_add (a b : Stake) : (a + b).account = a.account + b.account := by
  simp only [account, waits_add, claims_add, held_add, Nat.cast_add, Prod.mk_add_mk, Prod.mk.injEq,
    true_and]
  omega

theorem Pool.Settled.account {p : Pool} {b : Books} {k : Stake} (h : p.Settled b k) :
    p.account = k.account := by
  have hlive := h.live
  simp only [Pool.account, Stake.account, h.waiting, h.inUse, Prod.mk.injEq, true_and]
  omega

/-- What an operation at a desk has, a connection that it has handed out included. -/
def Progress.account : Progress (Option Nat) → Int × Int × Int
  | .needs q => q.stake.account
  | .done (.ok (some _)) => (0, 1, 1)
  | .done _ => 0

namespace Desk

/-- What a desk makes of a stretch: it notes a connection that is handed out as a lease. -/
inductive Notes (d : Desk) : Progress (Option Slot) → Progress (Option Nat) → List Lease → Prop
  | needs (q : Pending) : Notes d (.needs q) (.needs q) d.leases
  | error (f : Failure) : Notes d (.done (.error f)) (.done (.error f)) d.leases
  | nothing : Notes d (.done (.ok none)) (.done (.ok none)) d.leases
  | lease (s : Slot) :
    Notes d (.done (.ok (some s))) (.done (.ok (some d.leases.length)))
      (d.leases ++ [{ slot := s }])

theorem Notes.eq_needs {d : Desk} {y : Progress (Option Slot)} {q : Pending} {leases : List Lease}
    (h : d.Notes y (.needs q) leases) : y = .needs q := by
  cases h
  rfl

theorem settle_notes (d : Desk) (t : Pool.Stretch) :
    d.Notes t.progress (d.settle t).progress (d.settle t).state.leases := by
  unfold settle
  split <;> rename_i hp <;> rw [hp]
  · exact .needs _
  · exact .error _
  · exact .nothing
  · exact .lease _

/-- The stake of the leases and of the operation after a stretch. -/
theorem settle_account (d : Desk) (t : Pool.Stretch) :
    (d.settle t).state.stake.account + (d.settle t).progress.remains.account =
      d.stake.account + (d.settle t).progress.account := by
  have hnothing : Stake.account 0 = 0 := rfl
  unfold settle
  split <;> rename_i hp
  · rfl
  · rfl
  · rfl
  · simp only [stake, List.map_append, List.sum_append, List.map_cons, List.map_nil, List.sum_cons,
      List.sum_nil, Stake.account_add, Progress.remains, Progress.account, hnothing, add_zero]
    rfl

/-- A stretch changes what the pool counts by what its operation has then and had before. -/
theorem settle_taken {d : Desk} {b b' : Books} {rest k : Stake} {t : Pool.Stretch}
    (hbefore : d.pool.Settled b (rest + d.stake + k)) (hafter : (d.settle t).Settles b' rest) :
    (d.settle t).state.pool.account - d.pool.account =
      (d.settle t).progress.account - k.account := by
  have haccount := settle_account d t
  rw [hbefore.account, Pool.Settled.account hafter]
  simp only [Stake.account_add, add_assoc, haccount]
  abel

end Desk

/-! ## Runs -/

/-- A stint of a checkout: the clock, the reply it has had, and the pool as it finds and as it
leaves it. -/
structure Stint where
  now : Seconds
  answer : Option ((q : Pending) × q.Reply) := none
  found : Pool
  left : Pool

/-- What stints have taken and not given back. -/
def Stint.taken (stints : List Stint) : Int × Int × Int :=
  (stints.map fun s => s.left.account - s.found.account).sum

/-- A run of a checkout with a number at a pool: the floor, the stints of the checkout with the
last one first, and where it is.  The others may do anything that leaves it where it is. -/
inductive Checkout (c : PoolConfig) (name : String) (caller : Nat) (v : Visit) :
    Floor → List Stint → Progress (Option Nat) → Prop
  | begin {f : Floor} {timeout : Option Seconds} (hf : Floor.Reachable c name f)
    (hcaller : f.desk.nextCaller = caller) (hv : v.patience = timeout.or c.patience) :
    Checkout c name caller v (f.begin v.since (.checkout timeout))
      [{ now := v.since, found := f.desk.pool
         left := (f.desk.start v.since (.checkout timeout)).2.state.pool }]
      (f.desk.start v.since (.checkout timeout)).2.progress
  | aside {f g : Floor} {stints : List Stint} {q : Pending}
    (h : Checkout c name caller v f stints (.needs q)) (hstep : Floor.Step f g)
    (hstays : (caller, q) ∈ g.running) : Checkout c name caller v g stints (.needs q)
  | goOn {f : Floor} {stints : List Stint} {q : Pending} (now : Seconds)
    {before after : List (Nat × Pending)} (r : q.Reply)
    (h : Checkout c name caller v f stints (.needs q)) (hr : q.Regular r)
    (hrunning : f.running = before ++ (caller, q) :: after) :
    Checkout c name caller v (f.goOn (before ++ after) caller now q r)
      ({ now, answer := some ⟨q, r⟩, found := f.desk.pool
         left := (f.desk.proceed caller now q r).state.pool } :: stints)
      (f.desk.proceed caller now q r).progress

/-! ## Why a checkout ends -/

/-- A connection rests on top when a caller looks, and has reached no limit. -/
structure Stint.Takes (stint : Stint) (c : PoolConfig) (s : Slot) : Prop where
  idle : stint.found.idle.getLast? = some s
  fresh : Pool.Fresh c s stint.now

namespace Checkout

/-- What a checkout fails with when the provider fails to open a connection. -/
inductive Surfaces (e : Failure) : Failure → Prop
  | fault (h : e.isFault = true) : Surfaces e e
  | foreign (h : e.isFault = false) (hordinary : e.isOrdinary = true) :
    Surfaces e (.make .connection ("Failed to open connection: " ++ e.text) (some e))
  | interruption (h : e.isFault = false) (hordinary : e.isOrdinary = false) : Surfaces e e

/-- Why a checkout fails: its last stint shows it. -/
inductive Refused (c : PoolConfig) (v : Visit) : List Stint → Failure → Prop
  | closed {last : Stint} {earlier : List Stint} (h : last.found.closing = true) :
    Refused c v (last :: earlier) last.found.closedFailure
  | exhausted {last : Stint} {earlier : List Stint} {patience : Seconds}
    (hpatience : v.patience = some patience) (hlate : v.since + patience ≤ last.now)
    (hidle : last.found.idle = []) (hfull : last.found.live = c.maxSize) :
    Refused c v (last :: earlier) (last.found.exhaustedFailure patience)
  | unopened {last : Stint} {earlier : List Stint} {e failure : Failure}
    (hanswer : last.answer = some ⟨.opening (.visit v), .error e⟩)
    (hsurfaces : Surfaces e failure) :
    Refused c v (last :: earlier) failure
  | interrupted {last : Stint} {earlier : List Stint} {limit : Option Seconds} {e : Failure}
    (hanswer : last.answer = some ⟨.sleeping limit (.visit v), .error e⟩) :
    Refused c v (last :: earlier) e

/-- Where a connection that is handed out comes from: it was just opened; or it rested; or it
rested and was just found alive. -/
inductive Supplied (c : PoolConfig) (v : Visit) (s : Slot) : List Stint → Prop
  | opened {last : Stint} {earlier : List Stint} {raw : Nat}
    (hanswer : last.answer = some ⟨.opening (.visit v), .ok raw⟩)
    (hs : s = { raw, id := last.found.nextId, createdAt := last.now, lastUsed := last.now }) :
    Supplied c v s (last :: earlier)
  | rested {last : Stint} {earlier : List Stint} (htakes : last.Takes c s)
    (hcheck : c.validateOnCheckout = false) : Supplied c v s (last :: earlier)
  | tested {last taking : Stint} {earlier : List Stint}
    (hanswer : last.answer = some ⟨.testing s (.visit v), .ok true⟩) (htakes : taking.Takes c s)
    (hcheck : c.validateOnCheckout = true) : Supplied c v s (last :: taking :: earlier)

/-- What is known of a checkout by its stints: while it tests a connection, it has just taken
it. -/
inductive Known (c : PoolConfig) (v : Visit) : List Stint → Progress (Option Slot) → Prop
  | needs {stints : List Stint} {q : Pending} (hq : q.IsFor v)
    (htakes : ∀ s, q = .testing s (.visit v) → ∃ taking earlier, stints = taking :: earlier ∧
      taking.Takes c s ∧ c.validateOnCheckout = true) : Known c v stints (.needs q)
  | refused {stints : List Stint} {e : Failure} (h : Refused c v stints e) :
    Known c v stints (.done (.error e))
  | supplied {stints : List Stint} {s : Slot} (h : Supplied c v s stints) :
    Known c v stints (.done (.ok (some s)))

theorem surfaces_openFailure (e : Failure) : Surfaces e (Pool.openFailure e) := by
  unfold Pool.openFailure
  cases hfault : e.isFault with
  | true => exact .fault hfault
  | false =>
    cases hordinary : e.isOrdinary with
    | true => exact .foreign hfault hordinary
    | false => exact .interruption hfault hordinary

/-- A caller that looks for a connection in a pool that is not overfull. -/
theorem known_of_finds {c : PoolConfig} {v : Visit} {stint : Stint} {earlier : List Stint}
    {y : Progress (Option Slot)} (h : stint.found.Finds stint.now v y)
    (hconfig : stint.found.config = c) (hbounded : stint.found.live ≤ stint.found.config.maxSize) :
    Known c v (stint :: earlier) y := by
  subst hconfig
  cases h with
  | closed h => exact .refused (.closed h)
  | stale => exact .needs rfl nofun
  | unsure hs hfresh hcheck =>
    refine .needs rfl ?_
    rintro s ⟨⟩
    exact ⟨stint, earlier, rfl, ⟨hs, hfresh⟩, hcheck⟩
  | rested hs hfresh hcheck => exact .supplied (.rested ⟨hs, hfresh⟩ hcheck)
  | room => exact .needs rfl nofun
  | exhausted hidle hfull hpatience hlate =>
    exact .refused (.exhausted hpatience hlate hidle (Int.le_antisymm hbounded hfull))
  | nothing => exact .needs rfl nofun

theorem known_of_answers {c : PoolConfig} {v : Visit} {stint : Stint} {earlier : List Stint}
    {q : Pending} {r : q.Reply} {y : Progress (Option Slot)}
    (h : stint.found.Answers stint.now v q r y) (hanswer : stint.answer = some ⟨q, r⟩)
    (hbefore : Known c v earlier (.needs q)) (hconfig : stint.found.config = c)
    (hbounded : stint.found.live ≤ stint.found.config.maxSize) :
    Known c v (stint :: earlier) y := by
  cases h with
  | opened => exact .supplied (.opened hanswer rfl)
  | unopened => exact .refused (.unopened hanswer (surfaces_openFailure _))
  | alive =>
    cases hbefore with
    | needs hq htakes =>
      obtain ⟨taking, earlier, rfl, htaking, hcheck⟩ := htakes _ rfl
      exact .supplied (.tested hanswer htaking hcheck)
  | dead => exact .needs rfl nofun
  | closed => exact .needs rfl nofun
  | roused h => exact known_of_finds h hconfig hbounded
  | interrupted => exact .refused (.interrupted hanswer)
  | discards => exact .needs rfl nofun
  | again h => exact known_of_finds h hconfig hbounded

/-! ## Invariants -/

variable {c : PoolConfig} {name : String} {caller : Nat} {v : Visit} {f : Floor}
  {stints : List Stint} {x : Progress (Option Nat)}

theorem reachable (h : Checkout c name caller v f stints x) : Floor.Reachable c name f := by
  induction h with
  | begin hf hcaller hv => exact hf.step (.begin _ _ _)
  | aside _ hstep _ ih => exact ih.step hstep
  | goOn now r _ hr hrunning ih => exact ih.step (.goOn _ now r hr hrunning)

/-- What the stints have taken and not given back is what the checkout has. -/
theorem taken_eq (h : Checkout c name caller v f stints x) : Stint.taken stints = x.account := by
  induction h with
  | @begin f timeout hf hcaller hv =>
    obtain ⟨known, gone, horderly⟩ := hf.orderly
    have hbefore := horderly.settled
    have hafter : (f.desk.start v.since (.checkout timeout)).2.Settles _ f.inProgress :=
      Desk.start_settles hbefore
    rw [← add_zero (f.inProgress + f.desk.stake)] at hbefore
    have hstint : (f.desk.start v.since (.checkout timeout)).2.state.pool.account -
        f.desk.pool.account =
          (f.desk.start v.since (.checkout timeout)).2.progress.account - Stake.account 0 :=
      Desk.settle_taken (d := { f.desk with nextCaller := f.desk.nextCaller + 1 }) hbefore hafter
    have hnothing : Stake.account 0 = 0 := rfl
    rw [Stint.taken, List.map_singleton, List.sum_singleton, hstint, hnothing, sub_zero]
  | aside _ _ _ ih => exact ih
  | @goOn f stints q now before after r h hr hrunning ih =>
    obtain ⟨known, gone, horderly⟩ := h.reachable.orderly
    have hbefore := horderly.settled_apart hrunning
    obtain ⟨known', -, hafter⟩ := Desk.proceed_settles caller now hr hbefore
    have hstint : (f.desk.proceed caller now q r).state.pool.account - f.desk.pool.account =
        (f.desk.proceed caller now q r).progress.account - q.stake.account :=
      Desk.settle_taken hbefore hafter
    rw [Stint.taken, Progress.account] at ih
    rw [Stint.taken, List.map_cons, List.sum_cons, hstint, ih, sub_add_cancel]

/-- What is known of a checkout, and what the desk has made of it. -/
theorem known (h : Checkout c name caller v f stints x) :
    ∃ d y, Desk.Notes d y x f.desk.leases ∧ Known c v stints y := by
  induction h with
  | @begin f timeout hf hcaller hv =>
    obtain ⟨known, gone, horderly⟩ := hf.orderly
    have hconfig : f.desk.pool.config = c := horderly.settled.config
    have hstart : f.desk.pool.startCheckout f.desk.nextCaller v.since timeout =
        f.desk.pool.seek f.desk.nextCaller v.since v := by
      rw [Pool.startCheckout, hconfig, ← hv]
    refine ⟨{ f.desk with nextCaller := f.desk.nextCaller + 1 },
      (f.desk.pool.startCheckout f.desk.nextCaller v.since timeout).progress,
      Desk.settle_notes _ _, ?_⟩
    rw [hstart]
    have hfinds := f.desk.pool.seek_finds f.desk.nextCaller v.since v
    exact known_of_finds hfinds hconfig horderly.settled.bounded
  | aside h hstep hstays ih =>
    obtain ⟨d, y, hnotes, hknown⟩ := ih
    rw [hnotes.eq_needs] at hknown
    exact ⟨_, _, .needs _, hknown⟩
  | @goOn f stints q now before after r h hr hrunning ih =>
    obtain ⟨known, gone, horderly⟩ := h.reachable.orderly
    obtain ⟨d, y, hnotes, hknown⟩ := ih
    rw [hnotes.eq_needs] at hknown
    have hq : q.IsFor v := by
      cases hknown with
      | needs hq => exact hq
    refine ⟨f.desk, _, Desk.settle_notes _ _, ?_⟩
    have hanswers := f.desk.pool.proceed_answers caller now v hq hr
    exact known_of_answers hanswers rfl hknown horderly.settled.config horderly.settled.bounded

/-- A failure of the provider to open a connection ends the checkout, and is what it fails with. -/
theorem surfaces (h : Checkout c name caller v f stints x) :
    ∀ s ∈ stints, ∀ use e, s.answer = some ⟨.opening use, .error e⟩ →
      ∃ failure, x = .done (.error failure) ∧ Surfaces e failure := by
  induction h with
  | begin =>
    intro s hs use e hanswer
    cases List.mem_singleton.1 hs
    cases hanswer
  | aside h hstep hstays ih => exact ih
  | @goOn f stints q now before after r h hr hrunning ih =>
    intro s hs use e hanswer
    rcases List.mem_cons.1 hs with rfl | hearlier
    · cases hanswer
      obtain ⟨d, y, hnotes, hknown⟩ := h.known
      rw [hnotes.eq_needs] at hknown
      cases hknown with
      | needs hq =>
        cases use with
        | visit w => exact ⟨_, rfl, surfaces_openFailure e⟩
        | reserve => exact hq.elim
    · obtain ⟨failure, hdone, -⟩ := ih s hearlier use e hanswer
      cases hdone

/-- A checkout that needs something is in progress. -/
theorem mem_running {q : Pending} (h : Checkout c name caller v f stints (.needs q)) :
    (caller, q) ∈ f.running := by
  generalize hx : Progress.needs q = x at h
  cases h with
  | @begin f timeout hf hcaller hv =>
    rw [Floor.begin, Floor.land, ← hx, ← hcaller]
    exact List.mem_append_right _ List.mem_cons_self
  | aside h hstep hstays =>
    cases hx
    exact hstays
  | goOn now r h hr hrunning =>
    rw [Floor.goOn, Floor.land, ← hx]
    exact List.mem_append_right _ List.mem_cons_self

/-- A checkout that is over is not in progress any more. -/
theorem gone {r : Except Failure (Option Nat)} (h : Checkout c name caller v f stints (.done r)) :
    caller ∉ f.running.map Prod.fst := by
  generalize hx : Progress.done r = x at h
  cases h with
  | @begin f timeout hf hcaller hv =>
    have hfresh := (List.nodup_cons.1 hf.numbered.fresh).1
    rw [hcaller] at hfresh
    rwa [Floor.begin, Floor.land, ← hx]
  | aside => cases hx
  | goOn now r' h hr hrunning =>
    have hapart := (List.nodup_cons.1 (h.reachable.numbered.apart hrunning)).1
    rwa [Floor.goOn, Floor.land, ← hx]

/-- Whatever happens next on the floor, it is the next thing in the run of a checkout that is in
progress. -/
theorem next {g : Floor} {q : Pending} (h : Checkout c name caller v f stints (.needs q))
    (hstep : Floor.Step f g) : ∃ stints' x, Checkout c name caller v g stints' x := by
  have hmem := h.mem_running
  have hothers : ∀ {others : List (Nat × Pending)} {news : List Happening} {number : Nat}
      {t : Desk.Stretch}, (caller, q) ∈ others →
      (caller, q) ∈ (f.land others news number t).running := by
    intro others news number t hother
    unfold Floor.land
    cases t.progress with
    | needs _ => exact List.mem_append_left _ hother
    | done _ => exact hother
  have hdone := hstep
  cases hstep with
  | begin now call => exact ⟨_, _, .aside h hdone (hothers hmem)⟩
  | spoil lease => exact ⟨_, _, .aside h hdone hmem⟩
  | @goOn now before after number q' r hr hrunning =>
    rw [hrunning] at hmem
    rcases List.mem_append.1 hmem with hbefore | hmem
    · exact ⟨_, _, .aside h hdone (hothers (List.mem_append_left after hbefore))⟩
    · rcases List.mem_cons.1 hmem with heq | hafter
      · cases heq
        exact ⟨_, _, .goOn now r h hr hrunning⟩
      · exact ⟨_, _, .aside h hdone (hothers (List.mem_append_right before hafter))⟩

/-! ## Outcomes -/

/-- What comes of a checkout. -/
structure Outcome (c : PoolConfig) (v : Visit) (f : Floor) (stints : List Stint)
    (r : Except Failure (Option Nat)) : Prop where
  /-- One that fails has given back all that it took, and its last stint shows why it fails. -/
  failed : ∀ e, r = .error e → Stint.taken stints = 0 ∧ Refused c v stints e
  /-- One that succeeds has one connection, and hands it out. -/
  lent : ∀ o, r = .ok o → Stint.taken stints = (0, 1, 1) ∧
    ∃ lease s, o = some lease ∧ f.desk.leases[lease]? = some { slot := s } ∧ Supplied c v s stints
  /-- The failure of the provider to open a connection is not passed over. -/
  surfaces : ∀ s ∈ stints, ∀ use e, s.answer = some ⟨.opening use, .error e⟩ →
    ∃ failure, r = .error failure ∧ Surfaces e failure

/-- A checkout that is over is not in progress any more, the pool is settled with all parties, and
the checkout has had one of the outcomes that it can have. -/
theorem outcome_of_done {r : Except Failure (Option Nat)}
    (h : Checkout c name caller v f stints (.done r)) :
    caller ∉ f.running.map Prod.fst ∧ (∃ known gone, f.Orderly c known gone) ∧
      Outcome c v f stints r := by
  obtain ⟨d, y, hnotes, hknown⟩ := h.known
  have htaken := h.taken_eq
  refine ⟨h.gone, h.reachable.orderly, ?_, ?_, ?_⟩
  · rintro e rfl
    generalize f.desk.leases = leases at hnotes
    cases hnotes
    cases hknown with
    | refused hwhy => exact ⟨htaken, hwhy⟩
  · rintro o rfl
    generalize f.desk.leases = leases at hnotes ⊢
    cases hnotes with
    | nothing => cases hknown
    | lease s =>
      cases hknown with
      | supplied hfrom => exact ⟨htaken, _, s, rfl, List.getElem?_concat_length, hfrom⟩
  · intro s hs use e hanswer
    obtain ⟨failure, hdone, hsurfaces⟩ := h.surfaces s hs use e hanswer
    cases hdone
    exact ⟨failure, rfl, hsurfaces⟩

end Checkout

namespace Floor

/-- A caller that waits for the only connection goes on when its time is over. -/
def overdue : Floor :=
  (lending.begin 1 (.checkout (some 5))).goOn [] 1 6
    (.sleeping (some 5) (.visit { since := 1, patience := some 5 })) (.ok ())

/-- It has left the queue, has nothing, and fails because there was neither a connection at rest
nor room. -/
theorem overdue_outcome :
    ∃ stints e, Checkout single "default" 1 { since := 1, patience := some 5 } overdue stints
        (.done (.error e)) ∧ e.isFault = true ∧
      (1 ∉ overdue.running.map Prod.fst ∧ (∃ known gone, overdue.Orderly single known gone) ∧
        Checkout.Outcome single { since := 1, patience := some 5 } overdue stints (.error e)) := by
  let v : Visit := { since := 1, patience := some 5 }
  let waiting : Floor := lending.begin 1 (.checkout (some 5))
  let awake : Pool := { waiting.desk.pool.wakeUp 1 with waiting := waiting.desk.pool.waiting - 1 }
  have hrunning : waiting.running = [] ++ (1, .sleeping (some 5) (.visit v)) :: [] := by
    decide +kernel
  have hpatience : v.patience = (some 5 : Option Seconds).or single.patience := rfl
  have hcall : Checkout single "default" 1 v waiting _ _ := .begin lending_reachable rfl hpatience
  cases hsleeps : (lending.desk.start v.since (.checkout (some 5))).2.progress with
  | done r =>
    rw [hsleeps] at hcall
    have hgone := hcall.gone
    rw [hrunning] at hgone
    exact absurd List.mem_cons_self hgone
  | needs q =>
    rw [hsleeps] at hcall
    have hmem := hcall.mem_running
    rw [hrunning] at hmem
    cases List.mem_singleton.1 hmem
    have hidle : awake.idle = [] := by decide +kernel
    have hfull : (awake.config.maxSize : Int) ≤ awake.live := by decide +kernel
    have hlate : v.since + 5 ≤ 6 := by decide +kernel
    have hseek := awake.seek_exhausted 1 6 v (by decide +kernel) hidle hfull rfl hlate
    have hover : (waiting.desk.proceed 1 6 (.sleeping (some 5) (.visit v)) (.ok ())).progress =
        .done (.error (awake.exhaustedFailure 5)) := by
      change (waiting.desk.settle (awake.seek 1 6 v)).progress = _
      rw [hseek]
      rfl
    have hend := Checkout.goOn (q := .sleeping (some 5) (.visit v)) 6 (.ok ()) hcall trivial
      hrunning
    rw [hover] at hend
    exact ⟨_, _, hend, rfl, hend.outcome_of_done⟩

end Floor

end SqlGateway
