import SqlGateway.Proofs.Pool.Conversation
import SqlGateway.Proofs.Pool.Ownership
import SqlGateway.Proofs.Pool.Triage
set_option autoImplicit false

/-!
# Pool: a sweep from its start to its end

When no other operation runs, a sweep is a conversation with the provider: it asks for one
thing after another and goes on with each reply.  The conversation comes in three parts.  The
connections that are retired are closed, those that are left are tested and closed if they are
dead, and at last new ones are opened until the least number live or an open fails.  Each
part is a lemma of its own by induction on what it still has to do, and each leaves the pool
open, with its counters in step.
-/

namespace SqlGateway

/-! ## The parts of a sweep -/

namespace Pool

/-- An open pool at one moment of a sweep. -/
structure Standing (p : Pool) (c : PoolConfig) (idle : List Slot) (live inUse : Int) : Prop where
  config : p.config = c
  opened : p.closing = false
  idle : p.idle = idle
  live : p.live = live
  inUse : p.inUse = inUse

/-- The connections that a sweep found alive. -/
def passed (vs : List (Slot × Bool)) : List Slot := (vs.filter fun v => v.2).map Prod.fst

/-- The connections that a sweep found dead, and why they are closed. -/
def failed (vs : List (Slot × Bool)) : List (Slot × RetireReason) :=
  (vs.filter fun v => !v.2).map fun v => (v.1, .stale)

/-- How a sweep that could not open a connection ends: an interruption goes on to the caller. -/
def endOfFill {α : Type} (f : Failure) : Except Failure (Option α) :=
  if (openFailure f).isFault then .ok none else .error (openFailure f)

/-- What comes of filling up a pool where some connections live: the replies of the provider, the
new connections from the coldest on, and the end. -/
inductive Filled {α : Type} (c : PoolConfig) (live : Int) :
    List (Except Failure Nat) → List Slot → Except Failure (Option α) → Prop where
  | complete (fresh : List Slot) (hcount : fresh.length = (c.minIdle - live).toNat) :
    Filled c live (fresh.reverse.map fun s => .ok s.raw) fresh (.ok none)
  | broken (fresh : List Slot) (f : Failure) (hcount : fresh.length < (c.minIdle - live).toNat) :
    Filled c live ((fresh.reverse.map fun s => .ok s.raw) ++ [.error f]) fresh (endOfFill f)

variable {p : Pool} {c : PoolConfig} {idle : List Slot} {live inUse : Int} {caller : Nat}
  {now : Seconds} {s : Slot} {replies : Replies} {n : Nat}

theorem passed_append (vs ws : List (Slot × Bool)) :
    passed (vs ++ ws) = passed vs ++ passed ws := by
  simp [passed]

theorem failed_append (vs ws : List (Slot × Bool)) :
    failed (vs ++ ws) = failed vs ++ failed ws := by
  simp [failed]

/-! ### One step -/

theorem Standing.remove (h : p.Standing c idle live inUse) :
    ({ p with live := p.live - 1 }.callAll).Standing c idle (live - 1) inUse :=
  ⟨h.config, h.opened, h.idle, congrArg (· - 1) h.live, h.inUse⟩

/-- A connection that failed to close is gone too. -/
theorem closed_same (p : Pool) (s : Slot) (reason : RetireReason) (next : Closing)
    {r : Except Failure Unit} (hr : ∀ f, r = .error f → f.isOrdinary) :
    Turn.Same (p.closed s reason next r) (p.closed s reason next (.ok ())) := by
  cases r with
  | ok u => exact ⟨rfl, rfl⟩
  | error f =>
    have hordinary : f.isOrdinary = true := hr f rfl
    simp only [closed, hordinary, if_true]
    exact ⟨rfl, rfl⟩

/-- A test that fails finds a dead connection. -/
theorem tested_same (p : Pool) (now : Seconds) (s : Slot) (use : Testing)
    {r : Except Failure Bool} (hr : ∀ f, r = .error f → f.isOrdinary) :
    Turn.Same (p.tested now s use r) (p.tested now s use (.ok (Exchange.found r))) := by
  cases r with
  | ok alive => exact ⟨rfl, rfl⟩
  | error f =>
    have hordinary : f.isOrdinary = true := hr f rfl
    simp only [tested, hordinary, if_true]
    exact ⟨rfl, rfl⟩

/-! ### Retiring -/

/-- A sweep closes what it retires, in order, and goes on to the tests. -/
theorem retireNext_runs (caller : Nat) (hregular : replies.Regular) (others : List Slot)
    (retired : List (Slot × RetireReason)) : ∀ (n : Nat) (p : Pool) (live : Int),
      p.Standing c [] live inUse → ∃ xs, ∃ p' : Pool, Turn.Runs (goesOn caller) replies n
        (p.retireNext others retired) xs (p'.testNext [] others) ∧
        p'.Standing c [] (live - retired.length) inUse ∧ Exchange.closings xs = retired ∧
        Exchange.verdicts xs = [] ∧ Exchange.openings xs = [] := by
  induction retired with
  | nil =>
    intro n p live h
    exact ⟨[], p, .stay ⟨rfl, rfl⟩, by simpa using h, rfl, rfl, rfl⟩
  | cons x rest ih =>
    obtain ⟨s, reason⟩ := x
    intro n p live h
    let q : Pending := .closing s reason (.retired rest others)
    have hsame : Turn.Same (p.closed s reason (.retired rest others) (replies n q).2)
        ({ p with live := p.live - 1 }.callAll.retireNext others rest) :=
      closed_same p s reason _ (hregular n q)
    obtain ⟨xs, p', hruns, hstanding, hclosings, hverdicts, hopenings⟩ :=
      ih (n + 1) _ _ h.remove
    refine ⟨_, p', .goOn (q := q) rfl (hruns.of_same hsame), ?_, ?_, hverdicts, hopenings⟩
    · have hcount : live - 1 - (rest.length : Int) =
          live - (((s, reason) :: rest).length : Nat) := by
        rw [List.length_cons]
        omega
      rwa [hcount] at hstanding
    · exact congrArg (List.cons (s, reason)) hclosings

/-! ### Testing -/

/-- One connection is tested, and closed if it is dead. -/
theorem testNext_step (caller : Nat) (hregular : replies.Regular) (n : Nat)
    (h : p.Standing c [] live inUse) (alive rest : List Slot) (s : Slot) :
    ∃ v xs, ∃ p' : Pool, Turn.Runs (goesOn caller) replies n (p.testNext alive (s :: rest)) xs
        (p'.testNext (alive ++ passed [(s, v)]) rest) ∧
      p'.Standing c [] (live - (failed [(s, v)]).length) inUse ∧
      Exchange.verdicts xs = [(s, v)] ∧ Exchange.closings xs = failed [(s, v)] ∧
      Exchange.openings xs = [] := by
  let q : Pending := .testing s (.sweep rest alive)
  have hsame := tested_same p (replies n q).1 s (.sweep rest alive) (hregular n q)
  cases hfound : Exchange.found (replies n q).2 with
  | true =>
    rw [hfound] at hsame
    refine ⟨true, _, p, .goOn (q := q) rfl (.of_same hsame (.stay ⟨rfl, rfl⟩)),
      by simpa [failed] using h, ?_, rfl, rfl⟩
    rw [← hfound]
    rfl
  | false =>
    rw [hfound] at hsame
    let q' : Pending := .closing s .stale (.stale rest alive)
    have hdead : alive ++ passed [(s, false)] = alive := List.append_nil alive
    have hsame' : Turn.Same (p.closed s .stale (.stale rest alive) (replies (n + 1) q').2)
        ({ p with live := p.live - 1 }.callAll.testNext (alive ++ passed [(s, false)]) rest) := by
      rw [hdead]
      exact closed_same p s .stale (.stale rest alive) (hregular (n + 1) q')
    refine ⟨false, _, _, .goOn (q := q) rfl (.of_same hsame (.goOn (q := q') rfl
      (.of_same hsame' (.stay ⟨rfl, rfl⟩)))), h.remove, ?_, rfl, rfl⟩
    rw [← hfound]
    rfl

/-- A sweep tests what it has left, in order, and closes what it finds dead. -/
theorem testNext_runs (caller : Nat) (hregular : replies.Regular) (rest : List Slot) :
    ∀ (n : Nat) (p : Pool) (live : Int) (alive : List Slot),
      p.Standing c [] live inUse → ∃ xs, ∃ p' : Pool, Turn.Runs (goesOn caller) replies n
        (p.testNext alive rest) xs
          (.asks p' (.pausing (.tests (alive ++ passed (Exchange.verdicts xs))))) ∧
        p'.Standing c [] (live - (Exchange.closings xs).length) inUse ∧
        (Exchange.verdicts xs).map Prod.fst = rest ∧
        Exchange.closings xs = failed (Exchange.verdicts xs) ∧ Exchange.openings xs = [] := by
  induction rest with
  | nil =>
    intro n p live alive h
    refine ⟨[], p, .stay ⟨rfl, ?_⟩, by simpa [Exchange.closings] using h, rfl, rfl, rfl⟩
    simp [testNext, Turn.asks, Exchange.verdicts, passed]
  | cons s rest ih =>
    intro n p live alive h
    obtain ⟨v, xs, p', hfirst, hstanding, hverdicts, hclosings, hopenings⟩ :=
      testNext_step caller hregular n h alive rest s
    obtain ⟨ys, p'', hlater, hstanding', htested, hclosings', hopenings'⟩ :=
      ih (n + xs.length) p' _ _ hstanding
    have hall : Exchange.verdicts (xs ++ ys) = [(s, v)] ++ Exchange.verdicts ys := by
      rw [Exchange.verdicts_append, hverdicts]
    refine ⟨xs ++ ys, p'', ?_, ?_, ?_, ?_, ?_⟩
    · rw [hall, passed_append, ← List.append_assoc]
      exact hfirst.trans hlater
    · have hcount : live - ((failed [(s, v)]).length : Int) -
          ((Exchange.closings ys).length : Int) =
            live - ((Exchange.closings (xs ++ ys)).length : Nat) := by
        rw [Exchange.closings_append, hclosings, List.length_append]
        omega
      rwa [hcount] at hstanding'
    · rw [hall, List.map_append, htested]
      rfl
    · rw [hall, failed_append, Exchange.closings_append, hclosings, hclosings']
    · rw [Exchange.openings_append, hopenings, hopenings', List.append_nil]

/-! ### Filling up -/

/-- An opening that fails leaves the pool as it was. -/
theorem opened_error (h : p.Standing c idle (live + 1) (inUse + 1)) (now : Seconds) (f : Failure) :
    ∃ p' : Pool, Turn.Same (p.opened now .reserve (.error f)) (.ends p' (endOfFill f)) ∧
      p'.Standing c idle live inUse := by
  refine ⟨(p.opened now .reserve (.error f)).state, ⟨rfl, ?_⟩, ?_⟩
  · simp only [opened, endOfFill]
    split <;> rfl
  · have hback : (({ p with live := p.live - 1, inUse := p.inUse - 1 }).call 1).Standing c idle
        live inUse := by
      refine ⟨h.config, h.opened, h.idle, ?_, ?_⟩
      · simp [call, h.live]
      · simp [call, h.inUse]
    simp only [opened]
    split <;> exact hback

/-- A new connection is the coldest. -/
theorem opened_ok (h : p.Standing c idle (live + 1) (inUse + 1)) (now : Seconds) (raw : Nat) :
    ∃ (p' : Pool) (s : Slot), s.raw = raw ∧
      Turn.Same (p.opened now .reserve (.ok raw)) (.asks p' (.pausing .fill)) ∧
      p'.Standing c (s :: idle) (live + 1) inUse := by
  let s : Slot := { raw, id := p.nextId, createdAt := now, lastUsed := now }
  let p' : Pool := ({ p with
    nextId := p.nextId + 1, inUse := p.inUse - 1, idle := s :: p.idle }).call 1
  refine ⟨p', s, rfl, ?_, h.config, h.opened, congrArg (List.cons s) h.idle, h.live, ?_⟩
  · have hopen : ¬ p.closing = true := Bool.eq_false_iff.1 h.opened
    simp only [opened]
    rw [if_neg hopen]
    exact ⟨rfl, rfl⟩
  · simp [p', call, h.inUse]

/-- One more connection was opened first; it is the warmest of the new ones. -/
theorem Filled.warmer {α : Type} {replied : List (Except Failure Nat)} {fresh : List Slot}
    {r : Except Failure (Option α)} (h : Filled c (live + 1) replied fresh r) (s : Slot)
    (hless : live < c.minIdle) :
    Filled c live (.ok s.raw :: replied) (fresh ++ [s]) r := by
  cases h with
  | complete _ hcount =>
    have hmore : (fresh ++ [s]).length = (c.minIdle - live).toNat := by
      rw [List.length_append, List.length_singleton]
      omega
    have hfilled : Filled c live _ (fresh ++ [s]) (.ok none : Except Failure (Option α)) :=
      .complete _ hmore
    simpa using hfilled
  | broken _ f hcount =>
    have hmore : (fresh ++ [s]).length < (c.minIdle - live).toNat := by
      rw [List.length_append, List.length_singleton]
      omega
    have hfilled : Filled c live _ (fresh ++ [s]) (endOfFill f : Except Failure (Option α)) :=
      .broken _ f hmore
    simpa using hfilled

theorem fillUp_full (h : p.Standing c idle live inUse) (hfull : (c.minIdle : Int) ≤ live) :
    p.fillUp = .ends p (.ok none) := by
  have hfull' : (p.config.minIdle : Int) ≤ p.live := by rwa [h.config, h.live]
  simp [fillUp, hfull']

/-- While fewer live than the least number, there is room, and a place is reserved. -/
theorem fillUp_asks (h : p.Standing c idle live inUse) (hless : live < c.minIdle) :
    ∃ p' : Pool, p.fillUp = .asks p' (.opening .reserve) ∧
      p'.Standing c idle (live + 1) (inUse + 1) := by
  have hfits := c.fits
  have hroom : ¬ (p.config.minIdle : Int) ≤ p.live ∧ ¬ (p.config.maxSize : Int) ≤ p.live := by
    rw [h.config, h.live]
    omega
  refine ⟨{ p with live := p.live + 1, inUse := p.inUse + 1 }, ?_, h.config, h.opened, h.idle,
    congrArg (· + 1) h.live, congrArg (· + 1) h.inUse⟩
  simp only [fillUp, h.opened, hroom.1, hroom.2, decide_false, Bool.or_self, Bool.false_eq_true,
    if_false]

/-- An open that fails is the end of a sweep. -/
theorem fillUp_breaks (caller : Nat) (h : p.Standing c idle live inUse) (hless : live < c.minIdle)
    {f : Failure} (hreply : (replies n (.opening .reserve)).2 = .error f) :
    ∃ xs, ∃ p' : Pool, Turn.Runs (goesOn caller) replies n p.fillUp xs (.ends p' (endOfFill f)) ∧
      p'.Standing c idle live inUse ∧ Exchange.openings xs = [.error f] ∧
      Exchange.closings xs = [] ∧ Exchange.verdicts xs = [] := by
  obtain ⟨reserved, hasks, hreserved⟩ := fillUp_asks h hless
  obtain ⟨p', hsame, hstanding⟩ := opened_error hreserved (replies n (.opening .reserve)).1 f
  rw [← hreply] at hsame
  rw [hasks]
  refine ⟨_, p', .goOn (q := .opening .reserve) rfl (.stay hsame), hstanding, ?_, rfl, rfl⟩
  rw [← hreply]
  rfl

/-- After an open that succeeds, a sweep lets others go first and goes on. -/
theorem fillUp_step (caller : Nat) (h : p.Standing c idle live inUse) (hless : live < c.minIdle)
    {raw : Nat} (hreply : (replies n (.opening .reserve)).2 = .ok raw) :
    ∃ s xs, ∃ p' : Pool, Turn.Runs (goesOn caller) replies n p.fillUp xs p'.fillUp ∧
      p'.Standing c (s :: idle) (live + 1) inUse ∧ Exchange.openings xs = [.ok s.raw] ∧
      Exchange.closings xs = [] ∧ Exchange.verdicts xs = [] := by
  obtain ⟨reserved, hasks, hreserved⟩ := fillUp_asks h hless
  obtain ⟨p', s, rfl, hsame, hstanding⟩ :=
    opened_ok hreserved (replies n (.opening .reserve)).1 raw
  rw [← hreply] at hsame
  rw [hasks]
  refine ⟨s, _, p', .goOn (q := .opening .reserve) rfl (.of_same hsame
    (.goOn (q := .pausing .fill) rfl (.stay ⟨rfl, rfl⟩))), hstanding, ?_, rfl, rfl⟩
  rw [← hreply]
  rfl

/-- A sweep opens connections until the least number live, or an open fails. -/
theorem fillUp_runs (caller : Nat) (replies : Replies) (missing : Nat) :
    ∀ (n : Nat) (p : Pool) (idle : List Slot) (live : Int),
      p.Standing c idle live inUse → missing = (c.minIdle - live).toNat →
      ∃ xs fresh r, ∃ p' : Pool,
        Turn.Runs (goesOn caller) replies n p.fillUp xs (.ends p' r) ∧
        p'.Standing c (fresh ++ idle) (live + fresh.length) inUse ∧
        Filled c live (Exchange.openings xs) fresh r ∧
        Exchange.closings xs = [] ∧ Exchange.verdicts xs = [] := by
  induction missing with
  | zero =>
    intro n p idle live h hmissing
    have hends := fillUp_full h (by omega)
    have hfilled : Filled c live [] [] (.ok none : Except Failure (Option Slot)) :=
      .complete [] hmissing
    exact ⟨[], [], .ok none, p, .stay (hends ▸ ⟨rfl, rfl⟩), by simpa using h, hfilled, rfl, rfl⟩
  | succ missing ih =>
    intro n p idle live h hmissing
    -- Each connection that is opened leaves one fewer missing.
    have hless : live < c.minIdle := by omega
    cases hreply : (replies n (.opening .reserve)).2 with
    | error f =>
      obtain ⟨xs, p', hruns, hstanding, hopenings, hclosings, hverdicts⟩ :=
        fillUp_breaks caller h hless hreply
      have hfilled : Filled c live [.error f] [] (endOfFill f : Except Failure (Option Slot)) :=
        .broken [] f (hmissing ▸ Nat.succ_pos missing)
      rw [← hopenings] at hfilled
      exact ⟨xs, [], endOfFill f, p', hruns, by simpa using hstanding, hfilled, hclosings,
        hverdicts⟩
    | ok raw =>
      obtain ⟨s, xs, p', hfirst, hstanding, hopenings, hclosings, hverdicts⟩ :=
        fillUp_step caller h hless hreply
      obtain ⟨ys, fresh, r, p'', hlater, hstanding', hfilled, hclosings', hverdicts'⟩ :=
        ih (n + xs.length) p' (s :: idle) (live + 1) hstanding (by omega)
      refine ⟨xs ++ ys, fresh ++ [s], r, p'', hfirst.trans hlater, ?_, ?_, ?_, ?_⟩
      · have hcount : live + 1 + (fresh.length : Int) = live + ((fresh ++ [s]).length : Nat) := by
          rw [List.length_append, List.length_singleton]
          omega
        rwa [hcount, List.append_cons] at hstanding'
      · rw [Exchange.openings_append, hopenings]
        exact hfilled.warmer s hless
      · rw [Exchange.closings_append, hclosings, hclosings', List.append_nil]
      · rw [Exchange.verdicts_append, hverdicts, hverdicts', List.append_nil]

/-! ### The whole sweep -/

/-- What a sweep found alive is colder than what has been returned since, and it goes on to fill
up. -/
theorem tests_runs (caller : Nat) (replies : Replies) (h : p.Standing c [] live inUse) (n : Nat)
    (alive : List Slot) :
    ∃ xs, ∃ p' : Pool, Turn.Runs (goesOn caller) replies n (.asks p (.pausing (.tests alive))) xs
        p'.fillUp ∧
      p'.Standing c alive live inUse ∧ Exchange.closings xs = [] ∧ Exchange.verdicts xs = [] ∧
      Exchange.openings xs = [] := by
  let q : Pending := .pausing (.tests alive)
  let q' : Pending := .pausing .fill
  let shelved : Pool := { p with idle := alive ++ p.idle }.call alive.length
  have hshelved : Turn.Same (p.finishTests alive) (.asks shelved q') := by
    have hopen : ¬ p.closing = true := Bool.eq_false_iff.1 h.opened
    rw [finishTests, if_neg hopen]
    exact ⟨rfl, rfl⟩
  have hidle : alive ++ p.idle = alive := by rw [h.idle, List.append_nil]
  exact ⟨_, shelved,
    .goOn (q := q) rfl (.of_same hshelved (.goOn (q := q') rfl (.stay ⟨rfl, rfl⟩))),
    ⟨h.config, h.opened, hidle, h.live, h.inUse⟩, rfl, rfl, rfl⟩

/-- The replies to a sweep decide all that it does. -/
theorem startSweep_runs (caller : Nat) (hregular : replies.Regular) (now : Seconds)
    (h : p.Standing c idle live inUse) : ∃ xs fresh r, ∃ p' : Pool,
      Turn.Runs (goesOn caller) replies 0 (p.startSweep now) xs (.ends p' r) ∧
      p'.Standing c (fresh ++ passed (Exchange.verdicts xs))
        (live - (Exchange.closings xs).length + fresh.length) inUse ∧
      (Exchange.verdicts xs).map Prod.fst = (triage c now live idle).2 ∧
      Exchange.closings xs = (triage c now live idle).1 ++ failed (Exchange.verdicts xs) ∧
      Filled c (live - (Exchange.closings xs).length) (Exchange.openings xs) fresh r := by
  have hstart : p.startSweep now =
      ({ p with idle := [] }).retireNext (triage c now live idle).2 (triage c now live idle).1 := by
    have hopen : ¬ p.closing = true := Bool.eq_false_iff.1 h.opened
    simp only [startSweep, if_neg hopen, h.config, h.live, h.idle]
  obtain ⟨xs₁, p₁, hretires, hstanding₁, hclosings₁, hverdicts₁, hopenings₁⟩ :=
    retireNext_runs caller hregular (triage c now live idle).2
      (triage c now live idle).1 0 { p with idle := [] } live
      ⟨h.config, h.opened, rfl, h.live, h.inUse⟩
  obtain ⟨xs₂, p₂, htests, hstanding₂, hverdicts₂, hclosings₂, hopenings₂⟩ :=
    testNext_runs caller hregular (triage c now live idle).2 (0 + xs₁.length) p₁ _ []
      hstanding₁
  rw [List.nil_append] at htests
  obtain ⟨xs₃, p₃, hshelves, hstanding₃, hclosings₃, hverdicts₃, hopenings₃⟩ :=
    tests_runs caller replies hstanding₂ (0 + xs₁.length + xs₂.length)
      (passed (Exchange.verdicts xs₂))
  obtain ⟨xs₄, fresh, r, p₄, hfills, hstanding₄, hfilled, hclosings₄, hverdicts₄⟩ :=
    fillUp_runs caller replies _
      (0 + xs₁.length + xs₂.length + xs₃.length) p₃ _ _ hstanding₃ rfl
  -- Only the first two parts close, only the second tests and only the last opens.
  let xs := xs₁ ++ (xs₂ ++ (xs₃ ++ xs₄))
  have hclosings : Exchange.closings xs =
      (triage c now live idle).1 ++ Exchange.closings xs₂ := by
    simp only [xs, Exchange.closings_append, hclosings₁, hclosings₃, hclosings₄, List.append_nil]
  have hverdicts : Exchange.verdicts xs = Exchange.verdicts xs₂ := by
    simp only [xs, Exchange.verdicts_append, hverdicts₁, hverdicts₃, hverdicts₄, List.append_nil,
      List.nil_append]
  have hopenings : Exchange.openings xs = Exchange.openings xs₄ := by
    simp only [xs, Exchange.openings_append, hopenings₁, hopenings₂, hopenings₃, List.nil_append]
  have hlive : live - ((triage c now live idle).1.length : Int) -
      ((Exchange.closings xs₂).length : Int) = live - ((Exchange.closings xs).length : Nat) := by
    rw [hclosings, List.length_append]
    omega
  rw [hlive] at hstanding₄ hfilled
  refine ⟨xs, fresh, r, p₄, ?_, ?_, ?_, ?_, ?_⟩
  · rw [hstart]
    exact hretires.trans (htests.trans (hshelves.trans hfills))
  · rw [hverdicts]
    exact hstanding₄
  · rw [hverdicts, hverdicts₂]
  · rw [hclosings, hverdicts, hclosings₂]
  · rw [hopenings]
    exact hfilled

/-! ### What becomes of the connections at rest -/

theorem mem_passed {vs : List (Slot × Bool)} : s ∈ passed vs ↔ (s, true) ∈ vs := by
  simp [passed]

theorem mem_failed {vs : List (Slot × Bool)} {reason : RetireReason} :
    (s, reason) ∈ failed vs ↔ reason = .stale ∧ (s, false) ∈ vs := by
  unfold failed
  constructor
  · intro hs
    obtain ⟨⟨t, alive⟩, hdead, hx⟩ := List.mem_map.1 hs
    cases hx
    obtain ⟨hmem, halive⟩ := List.mem_filter.1 hdead
    obtain rfl : alive = false := by simpa using halive
    exact ⟨rfl, hmem⟩
  · rintro ⟨rfl, hmem⟩
    exact List.mem_map.2 ⟨(s, false), List.mem_filter.2 ⟨hmem, rfl⟩, rfl⟩

theorem passed_sublist (vs : List (Slot × Bool)) : (passed vs).Sublist (vs.map Prod.fst) :=
  List.filter_sublist.map Prod.fst

/-- Each connection that was tested is alive or dead. -/
theorem failed_passed_perm (vs : List (Slot × Bool)) :
    ((failed vs).map Prod.fst ++ passed vs).Perm (vs.map Prod.fst) := by
  have hsplit := (List.filter_append_perm (fun v : Slot × Bool => !v.2) vs).map Prod.fst
  simpa [failed, passed, List.map_append, List.map_map, Function.comp_def] using hsplit

section

variable {vs : List (Slot × Bool)} {cs : List (Slot × RetireReason)}
  (htested : vs.map Prod.fst = (triage c now live idle).2)
  (hclosings : cs = (triage c now live idle).1 ++ failed vs)

include hclosings

theorem mem_closings_of_ne {reason : RetireReason} (hreason : reason ≠ .stale) :
    (s, reason) ∈ cs ↔ (s, reason) ∈ (triage c now live idle).1 := by
  simp [hclosings, mem_failed, hreason]

/-- What is retired was closed for its age or for its rest. -/
theorem mem_retired :
    (s, RetireReason.maxLifetime) ∈ cs ∨ (s, RetireReason.idleTimeout) ∈ cs ↔
      s ∈ (triage c now live idle).1.map Prod.fst := by
  rw [mem_closings_of_ne hclosings (by decide), mem_closings_of_ne hclosings (by decide)]
  constructor
  · rintro (hold | hrested)
    · exact List.mem_map_of_mem hold
    · exact List.mem_map_of_mem hrested
  · intro hs
    obtain ⟨⟨t, reason⟩, hx, rfl⟩ := List.mem_map.1 hs
    rcases triage_reason idle live _ hx with ⟨hreason, -⟩ | ⟨hreason, -⟩
    · cases hreason
      exact .inl hx
    · cases hreason
      exact .inr hx

theorem mem_stale : (s, RetireReason.stale) ∈ cs ↔ (s, false) ∈ vs := by
  have hretired : (s, RetireReason.stale) ∉ (triage c now live idle).1 := by
    intro hx
    rcases triage_reason idle live _ hx with ⟨hreason, -⟩ | ⟨hreason, -⟩ <;> cases hreason
  simp [hclosings, mem_failed, hretired]

theorem closings_reasons : ∀ x ∈ cs, x.2 = .maxLifetime ∨ x.2 = .idleTimeout ∨ x.2 = .stale := by
  rintro ⟨s, reason⟩ hx
  rw [hclosings, List.mem_append] at hx
  rcases hx with hretired | hfailed
  · rcases triage_reason idle live _ hretired with ⟨hreason, -⟩ | ⟨hreason, -⟩
    · exact .inl hreason
    · exact .inr (.inl hreason)
  · exact .inr (.inr (mem_failed.1 hfailed).1)

/-- Connections are retired from the coldest on. -/
theorem closings_walk : ((cs.filter fun x => x.2 ≠ .stale).map Prod.fst).Sublist idle := by
  have hfailed : (failed vs).filter (fun x => x.2 ≠ .stale) = [] := by
    refine List.filter_eq_nil_iff.2 ?_
    rintro ⟨s, reason⟩ hx
    simp [(mem_failed.1 hx).1]
  rw [hclosings, List.filter_append, hfailed, List.append_nil]
  exact (List.filter_sublist.map Prod.fst).trans (triage_sublists c now idle live).1

include htested

/-- Each connection at rest is kept, or closed once. -/
theorem closings_perm : (cs.map Prod.fst ++ passed vs).Perm idle := by
  rw [hclosings, List.map_append, List.append_assoc]
  have hsorted := triage_perm c now idle live
  rw [← htested] at hsorted
  exact ((failed_passed_perm vs).append_left _).trans hsorted

omit hclosings in
theorem passed_order : (passed vs).Sublist idle := by
  have hkept := (triage_sublists c now idle live).2
  rw [← htested] at hkept
  exact (passed_sublist vs).trans hkept

variable (hnodup : idle.Nodup)

include hnodup

/-- A connection is kept if it has not lived for too long, was not retired for its rest and was
found alive. -/
theorem passed_iff : s ∈ passed vs ↔ s ∈ idle ∧ livedOut c s now = false ∧
    (s, RetireReason.idleTimeout) ∉ cs ∧ (s, true) ∈ vs := by
  rw [mem_passed]
  constructor
  · intro halive
    have hkept : s ∈ (triage c now live idle).2 := by
      rw [← htested]
      exact List.mem_map_of_mem halive
    refine ⟨(triage_sublists c now idle live).2.subset hkept,
      triage_young idle live s hkept, ?_, halive⟩
    intro hrested
    have hretired := (mem_closings_of_ne hclosings (by decide)).1 hrested
    exact triage_disjoint hnodup (List.mem_map_of_mem hretired) hkept
  · rintro ⟨-, -, -, halive⟩
    exact halive

/-- Whatever is not retired is tested. -/
theorem tested_eq_filter : vs.map Prod.fst = idle.filter fun s =>
    (s, RetireReason.maxLifetime) ∉ cs ∧ (s, RetireReason.idleTimeout) ∉ cs := by
  have hmem : ∀ s, ((s, RetireReason.maxLifetime) ∉ cs ∧ (s, RetireReason.idleTimeout) ∉ cs) ↔
      s ∉ (triage c now live idle).1.map Prod.fst := by
    intro s
    rw [← mem_retired hclosings, not_or]
  have hkept : (triage c now live idle).2.filter
      (fun s => s ∉ (triage c now live idle).1.map Prod.fst) = (triage c now live idle).2 :=
    List.filter_eq_self.2 fun s hs => decide_eq_true fun hretired =>
      triage_disjoint hnodup hretired hs
  have hretired : ((triage c now live idle).1.map Prod.fst).filter
      (fun s => s ∉ (triage c now live idle).1.map Prod.fst) = [] :=
    List.filter_eq_nil_iff.2 fun s hs hnot => of_decide_eq_true hnot hs
  -- The filter keeps as many as are kept, and those in the same order.
  have hperm := (triage_perm c now idle live).filter
    fun s => decide (s ∉ (triage c now live idle).1.map Prod.fst)
  rw [List.filter_append, hkept, hretired, List.nil_append] at hperm
  have hsub := (triage_sublists c now idle live).2.filter
    fun s => decide (s ∉ (triage c now live idle).1.map Prod.fst)
  rw [hkept] at hsub
  simp only [hmem, htested]
  exact hsub.eq_of_length hperm.length_eq

end

end Pool

/-! ## What a sweep comes to -/

open Exchange Pool

/-- A sweep at a desk did its job, no more and no less: it kept some of the connections at rest and
opened new ones, and its exchanges show what became of the others. -/
structure Desk.Swept (d : Desk) (c : PoolConfig) (now : Seconds) (xs : List Exchange) (d' : Desk)
    (kept fresh : List Slot) (r : Except Failure (Option Nat)) : Prop where
  /-- What callers have stays theirs, and is counted as before. -/
  leases : d'.leases = d.leases
  inUse : d'.pool.inUse = d.pool.inUse
  /-- The new connections are colder than those that were kept. -/
  idle : d'.pool.idle = fresh ++ kept
  /-- Those that were kept stay in order. -/
  order : kept.Sublist d.pool.idle
  /-- A connection is kept if it has not lived for too long, was not retired for its rest and was
  found alive. -/
  keeps : ∀ s, s ∈ kept ↔ s ∈ d.pool.idle ∧ livedOut c s now = false ∧
    (s, RetireReason.idleTimeout) ∉ closings xs ∧ (s, true) ∈ verdicts xs
  /-- Whatever is not retired is tested, once and in order. -/
  tests : (verdicts xs).map Prod.fst = d.pool.idle.filter fun s =>
    (s, RetireReason.maxLifetime) ∉ closings xs ∧ (s, RetireReason.idleTimeout) ∉ closings xs
  /-- No connection rests twice. -/
  distinct : d.pool.idle.Nodup
  /-- Each connection that is not kept is closed, once, and no other is. -/
  closes : ((closings xs).map Prod.fst ++ kept).Perm d.pool.idle
  /-- It is closed for its age, -/
  old : ∀ s, (s, RetireReason.maxLifetime) ∈ closings xs ↔
    s ∈ d.pool.idle ∧ livedOut c s now = true
  /-- for its rest, if more than the least number lived when the colder ones had been retired, -/
  rested : ∀ cold s warm, d.pool.idle = cold ++ s :: warm →
    ((s, RetireReason.idleTimeout) ∈ closings xs ↔
      livedOut c s now = false ∧ restedOut c s now = true ∧
        (c.minIdle : Int) < d.pool.live - (cold.countP fun t =>
          (t, RetireReason.maxLifetime) ∈ closings xs ∨
            (t, RetireReason.idleTimeout) ∈ closings xs : Nat))
  /-- or because it was found dead. -/
  stale : ∀ s, (s, RetireReason.stale) ∈ closings xs ↔ (s, false) ∈ verdicts xs
  /-- There is no other reason, -/
  reasons : ∀ x ∈ closings xs, x.2 = .maxLifetime ∨ x.2 = .idleTimeout ∨ x.2 = .stale
  /-- connections are retired from the coldest on, -/
  walks : (((closings xs).filter fun x => x.2 ≠ .stale).map Prod.fst).Sublist d.pool.idle
  /-- and each closing is reported once, with its reason. -/
  reports : (xs.flatMap Exchange.reports).filter Notice.isClosure = (closings xs).map closureOf
  /-- Every connection that lives is in use or at rest. -/
  live : d'.pool.live = d'.pool.inUse + d'.pool.idle.length
  /-- Connections were opened until the least number lived, or an open failed. -/
  fills : Filled c (d.pool.live - (closings xs).length) (openings xs) fresh r
  /-- If none failed, the least number live, -/
  least : (∀ f, .error f ∉ openings xs) → (c.minIdle : Int) ≤ d'.pool.live
  /-- and no more were opened than were missing. -/
  missing : (∀ f, .error f ∉ openings xs) →
    (openings xs).length = (c.minIdle - (d.pool.live - (closings xs).length)).toNat
  /-- The pool is open. -/
  opened : d'.pool.closing = false

namespace Pool

variable {p : Pool} {c : PoolConfig} {live : Int} {replied : List (Except Failure Nat)}
  {fresh : List Slot}

/-- Filling up hands nothing out, so that the desk only takes over the pool. -/
theorem Filled.settle {r : Except Failure (Option Slot)} (h : Filled c live replied fresh r)
    (d : Desk) (p : Pool) : ∃ r' : Except Failure (Option Nat),
      d.settle (.ends p r) = .ends { d with pool := p } r' ∧ Filled c live replied fresh r' := by
  cases h with
  | complete _ hcount => exact ⟨.ok none, rfl, .complete fresh hcount⟩
  | broken _ f hcount =>
    refine ⟨endOfFill f, ?_, .broken fresh f hcount⟩
    unfold endOfFill
    split <;> rfl

/-- If no open failed, as many were opened as were missing. -/
theorem Filled.count {α : Type} {r : Except Failure (Option α)} (h : Filled c live replied fresh r)
    (hnone : ∀ f, .error f ∉ replied) :
    replied.length = (c.minIdle - live).toNat ∧ fresh.length = (c.minIdle - live).toNat := by
  cases h with
  | complete _ hcount => exact ⟨by simpa using hcount, hcount⟩
  | broken _ f hcount => exact absurd (List.mem_append_right _ List.mem_cons_self) (hnone f)

end Pool

namespace Desk

variable {d : Desk} {c : PoolConfig} {replies : Replies}

/-- A sweep that is alone at a desk in order does its job. -/
theorem start_sweep_swept (hregular : replies.Regular) (hconfig : d.pool.config = c)
    (hopen : d.pool.closing = false) (hlive : d.pool.live = d.pool.idle.length + d.pool.inUse)
    (hnodup : d.pool.idle.Nodup) (now : Seconds) :
    ∃ xs d' kept fresh r,
      Turn.Runs (goesOn (d.start now .sweep).1) replies 0 (d.start now .sweep).2 xs (.ends d' r) ∧
        d.Swept c now xs d' kept fresh r := by
  obtain ⟨xs, fresh, r, p', hruns, hstanding, htested, hclosings, hfilled⟩ :=
    startSweep_runs d.nextCaller hregular now
      (⟨hconfig, hopen, rfl, rfl, rfl⟩ : d.pool.Standing c d.pool.idle d.pool.live d.pool.inUse)
  obtain ⟨r', hends, hfilled'⟩ := hfilled.settle { d with nextCaller := d.nextCaller + 1 } p'
  have hdesk := settle_runs { d with nextCaller := d.nextCaller + 1 } hruns
  rw [hends] at hdesk
  have hperm := closings_perm htested hclosings
  have hcount := hperm.length_eq
  rw [List.length_append, List.length_map] at hcount
  have hrested : ∀ cold s warm, d.pool.idle = cold ++ s :: warm →
      ((s, RetireReason.idleTimeout) ∈ closings xs ↔
        livedOut c s now = false ∧ restedOut c s now = true ∧
          (c.minIdle : Int) < d.pool.live - (cold.countP fun t =>
            (t, RetireReason.maxLifetime) ∈ closings xs ∨
              (t, RetireReason.idleTimeout) ∈ closings xs : Nat)) := by
    intro cold s warm hidle
    simp only [mem_retired hclosings]
    rw [mem_closings_of_ne hclosings (by decide), hidle]
    rw [hidle] at hnodup
    exact triage_rested hnodup
  refine ⟨xs, { d with nextCaller := d.nextCaller + 1, pool := p' }, passed (verdicts xs), fresh,
    r', hdesk, ?_⟩
  have hlive' : p'.live = p'.inUse + p'.idle.length := by
    rw [hstanding.live, hstanding.inUse, hstanding.idle, List.length_append]
    omega
  exact {
    leases := rfl
    inUse := hstanding.inUse
    idle := hstanding.idle
    order := passed_order htested
    keeps := fun s => passed_iff htested hclosings hnodup
    tests := tested_eq_filter htested hclosings hnodup
    distinct := hnodup
    closes := hperm
    old := fun s => (mem_closings_of_ne hclosings (by decide)).trans (triage_old _ _ s)
    rested := hrested
    stale := fun s => mem_stale hclosings
    reasons := closings_reasons hclosings
    walks := closings_walk hclosings
    reports := runs_closures hregular hruns
    live := hlive'
    fills := hfilled'
    least := by
      intro hnone
      have hfresh := (hfilled.count hnone).2
      change (c.minIdle : Int) ≤ p'.live
      rw [hstanding.live, hfresh]
      omega
    missing := fun hnone => (hfilled.count hnone).1
    opened := hstanding.opened }

end Desk

namespace Floor

variable {c : PoolConfig} {name : String} {f : Floor} {known gone : Multiset (Nat × Nat)}

/-- When no operation runs, what lives is at rest or in use. -/
theorem Orderly.live_of_quiet (h : f.Orderly c known gone) (hquiet : f.running = []) :
    f.desk.pool.live = f.desk.pool.idle.length + f.desk.pool.inUse := by
  have hlive := h.settled.live
  have hinUse := h.settled.inUse
  have hnone : f.inProgress = 0 := by simp [inProgress, hquiet]
  rw [hnone, zero_add] at hlive hinUse
  rw [Desk.stake_held] at hlive
  omega

/-- No connection rests twice. -/
theorem Orderly.idle_nodup (h : f.Orderly c known gone) : f.desk.pool.idle.Nodup := by
  have hids := h.places_nodup Prod.snd h.ids_nodup
  have hplaces : f.places.Nodup := List.Nodup.of_map _ hids
  rw [Floor.places, List.append_assoc] at hplaces
  exact (List.nodup_append.1 hplaces).1

/-- Whatever a pool has come to, a sweep that runs alone ends, and has done exactly its job by
then, however the provider answers and whatever the clock shows. -/
theorem Reachable.sweep_exact (hf : Reachable c name f) (hquiet : f.running = [])
    (hopen : f.desk.pool.closing = false) (now : Seconds) {replies : Replies}
    (hregular : replies.Regular) :
    ∃ xs d' kept fresh r,
      Turn.Runs (Desk.goesOn (f.desk.start now .sweep).1) replies 0 (f.desk.start now .sweep).2 xs
          (.ends d' r) ∧
        f.desk.Swept c now xs d' kept fresh r := by
  obtain ⟨known, gone, horderly⟩ := hf.orderly
  exact Desk.start_sweep_swept hregular horderly.settled.config hopen
    (horderly.live_of_quiet hquiet) horderly.idle_nodup now

/-- A pool that keeps two connections. -/
def paired : PoolConfig := { maxSize := 3, minIdle := 2 }

/-- A caller comes and gets a new connection. -/
def served (f : Floor) (caller : Nat) (now : Seconds) (raw : Nat) : Floor :=
  (f.begin now (.checkout (some 5))).goOn [] caller now (.opening (.visit ⟨now, some 5⟩)) (.ok raw)

/-- A caller has one connection, and the other one was returned. -/
def halfReturned : Floor :=
  (((new paired "default").served 0 0 7).served 1 1 8).begin 2 (.giveBack 1)

theorem served_reachable {f : Floor} (hf : Reachable c name f) {caller : Nat} {now : Seconds}
    (raw : Nat) (hrunning : (f.begin now (.checkout (some 5))).running =
      [] ++ (caller, .opening (.visit ⟨now, some 5⟩)) :: []) :
    Reachable c name (f.served caller now raw) :=
  (hf.step (.begin _ now _)).step (.goOn _ now (q := .opening (.visit ⟨now, some 5⟩))
    (r := .ok raw) trivial hrunning)

theorem halfReturned_reachable : Reachable paired "default" halfReturned :=
  (served_reachable (served_reachable .new 7 rfl) 8 rfl).step (.begin _ 2 (.giveBack 1))

/-- A provider that finds every connection dead and opens new ones. -/
def renewing : Replies
  | n, .opening _ => (5, .ok (9 + n))
  | _, .testing _ _ => (5, .ok false)
  | _, .closing _ _ _ => (5, .ok ())
  | _, .sleeping _ _ => (5, .ok ())
  | _, .pausing _ => (5, ())

theorem renewing_regular : renewing.Regular := by
  intro n q
  cases q with
  | opening use => trivial
  | sleeping limit use => trivial
  | pausing use => trivial
  | _ =>
    intro f hf
    cases hf

/-- One connection is with a caller, and the other one is found dead and replaced. -/
theorem sweep_exact_halfReturned :
    Reachable paired "default" halfReturned ∧ halfReturned.running = [] ∧
      halfReturned.desk.pool.closing = false ∧ renewing.Regular ∧
      halfReturned.desk.pool.idle.map Slot.raw = [8] ∧
      ∃ xs d' kept fresh r,
        Turn.Runs (Desk.goesOn (halfReturned.desk.start 5 .sweep).1) renewing 0
            (halfReturned.desk.start 5 .sweep).2 xs (.ends d' r) ∧
          halfReturned.desk.Swept paired 5 xs d' kept fresh r := by
  have hquiet : halfReturned.running = [] := by decide +kernel
  have hopen : halfReturned.desk.pool.closing = false := by decide +kernel
  exact ⟨halfReturned_reachable, hquiet, hopen, renewing_regular, by decide +kernel,
    halfReturned_reachable.sweep_exact hquiet hopen 5 renewing_regular⟩

end Floor

end SqlGateway
