import SqlGateway.Proofs.Pool.Stake
set_option autoImplicit false

/-!
# Pool: an operation that is alone

When no other operation runs, an operation is a conversation with the provider: it needs
one thing after another and goes on with each reply.  What was closed, tested and opened
in a conversation can be read off its exchanges, and what an operation reports as closed
is just what it had closed.
-/

namespace SqlGateway

/-! ## Conversations -/

/-- What an operation needed, the reply that it got, and what it reported as it went on. -/
structure Exchange where
  needed : Pending
  reply : needed.Reply
  reports : List Notice

/-- What an operation that is alone gets, and when: by how many replies it has had. -/
abbrev Replies := Nat → (q : Pending) → Seconds × q.Reply

/-- No test and no closing is an interruption of the program. -/
def Replies.Regular (replies : Replies) : Prop := ∀ n (q : Pending), q.Regular (replies n q).2

namespace Exchange

/-- The connections that were to be closed, in order, and why. -/
def closings (xs : List Exchange) : List (Slot × RetireReason) :=
  xs.filterMap fun
    | ⟨.closing s reason _, _, _⟩ => some (s, reason)
    | _ => none

/-- What a test finds; one that fails finds a dead connection. -/
def found : Except Failure Bool → Bool
  | .ok alive => alive
  | .error _ => false

/-- What the tests found, in order. -/
def verdicts (xs : List Exchange) : List (Slot × Bool) :=
  xs.filterMap fun
    | ⟨.testing s _, r, _⟩ => some (s, found r)
    | _ => none

/-- What came of the opens, in order. -/
def openings (xs : List Exchange) : List (Except Failure Nat) :=
  xs.filterMap fun
    | ⟨.opening _, r, _⟩ => some r
    | _ => none

variable (xs ys : List Exchange)

@[simp] theorem closings_append : closings (xs ++ ys) = closings xs ++ closings ys :=
  List.filterMap_append

@[simp] theorem verdicts_append : verdicts (xs ++ ys) = verdicts xs ++ verdicts ys :=
  List.filterMap_append

@[simp] theorem openings_append : openings (xs ++ ys) = openings xs ++ openings ys :=
  List.filterMap_append

end Exchange

namespace Turn

variable {σ α : Type}

/-- Two stretches differ only in what they report. -/
def Same (t u : Turn σ α) : Prop := t.state = u.state ∧ t.progress = u.progress

/-- An operation that is alone goes from one stretch to another by these exchanges. -/
inductive Runs (go : σ → Seconds → (q : Pending) → q.Reply → Turn σ α) (replies : Replies) :
    Nat → Turn σ α → List Exchange → Turn σ α → Prop where
  | stay {n : Nat} {t u : Turn σ α} (hsame : t.Same u) : Runs go replies n t [] u
  | goOn {n : Nat} {t u : Turn σ α} {q : Pending} {xs : List Exchange}
      (hneeds : t.progress = .needs q)
      (hrest : Runs go replies (n + 1) (go t.state (replies n q).1 q (replies n q).2) xs u) :
    Runs go replies n t
      (⟨q, (replies n q).2, (go t.state (replies n q).1 q (replies n q).2).notices⟩ :: xs) u

variable {go : σ → Seconds → (q : Pending) → q.Reply → Turn σ α} {replies : Replies} {n : Nat}
  {t u v : Turn σ α} {xs ys : List Exchange}

/-- What was reported before does not matter to a run. -/
theorem Runs.of_same (hsame : t.Same u) (h : Runs go replies n u xs v) :
    Runs go replies n t xs v := by
  obtain ⟨hstate, hprogress⟩ := hsame
  cases h with
  | stay hsame => exact .stay ⟨hstate.trans hsame.1, hprogress.trans hsame.2⟩
  | goOn hneeds hrest =>
    rw [← hstate] at hrest ⊢
    exact .goOn (hprogress.trans hneeds) hrest

theorem Runs.trans (h : Runs go replies n t xs u)
    (h' : Runs go replies (n + xs.length) u ys v) : Runs go replies n t (xs ++ ys) v := by
  induction h with
  | stay hsame => exact h'.of_same hsame
  | goOn hneeds _ ih =>
    refine .goOn hneeds (ih ?_)
    rwa [List.length_cons, Nat.add_comm _ 1, ← Nat.add_assoc] at h'

end Turn

/-! ## Conversations with a pool -/

/-- A report that a connection was closed. -/
def Notice.isClosure : Notice → Bool
  | .event name _ => name == "pool.connection_closed"
  | .log _ _ _ => false

/-- The report of a closing, with its reason. -/
def closureOf (x : Slot × RetireReason) : Notice :=
  .event "pool.connection_closed" [("connection_id", .int x.1.id), ("reason", .text x.2.name)]

namespace Pool

/-- An operation that is alone at a pool goes on. -/
def goesOn (caller : Nat) (p : Pool) (now : Seconds) (q : Pending) (r : q.Reply) : Stretch :=
  p.proceed caller now q r

variable {p : Pool} {caller : Nat} {replies : Replies} {n : Nat}

/-- What a stretch reports as closed. -/
def Stretch.closures (t : Stretch) : List Notice := t.notices.filter Notice.isClosure

theorem closures_after (t : Stretch) (ns : List Notice) :
    Stretch.closures (t.after ns) = ns.filter Notice.isClosure ++ t.closures :=
  List.filter_append ns t.notices

theorem handOut_closures (p : Pool) (now : Seconds) (v : Visit) (s : Slot) :
    (p.handOut now v s).closures = [] := by
  simp [Stretch.closures, handOut, reportCheckout, Notice.isClosure]

theorem reportOpened_closures (p : Pool) (s : Slot) :
    (p.reportOpened s).filter Notice.isClosure = [] := by
  simp [reportOpened, Notice.isClosure]

theorem reportClosed_closures (p : Pool) (s : Slot) (reason : RetireReason) :
    (p.reportClosed s reason).filter Notice.isClosure = [closureOf (s, reason)] := by
  simp [reportClosed, Notice.isClosure, closureOf]

theorem seek_closures (p : Pool) (caller : Nat) (now : Seconds) (v : Visit) :
    (p.seek caller now v).closures = [] := by
  unfold seek
  split
  · rfl
  · split
    · unfold examine
      split
      · rfl
      · split
        · rfl
        · exact handOut_closures _ now v _
    · split
      · rfl
      · split
        · split <;> rfl
        · rfl

theorem awaitReturns_closures (p : Pool) (caller : Nat) (now : Seconds)
    (deadline : Option Seconds) : (p.awaitReturns caller now deadline).closures = [] := by
  have hshut : ∀ first, (p.shut first).closures = [] := by
    intro first
    unfold shut shutNext
    cases p.idle <;> cases first <;> rfl
  unfold awaitReturns
  split
  · exact hshut true
  · split
    · split
      · rw [closures_after, hshut true]
        rfl
      · rfl
    · rfl

theorem opened_closures (p : Pool) (now : Seconds) (use : Opening) (r : Except Failure Nat) :
    (p.opened now use r).closures = [] := by
  cases r with
  | error f =>
    simp only [opened]
    split
    · rfl
    · split <;> rfl
  | ok raw =>
    simp only [opened]
    split
    · rw [closures_after, reportOpened_closures, handOut_closures]
      rfl
    · split <;> rw [closures_after, reportOpened_closures] <;> rfl

/-- What follows a closing reports no other. -/
theorem closed_closures (p : Pool) (s : Slot) (reason : RetireReason) (next : Closing)
    {r : Except Failure Unit} (hr : ∀ f, r = .error f → f.isOrdinary) :
    (p.closed s reason next r).closures = [closureOf (s, reason)] := by
  have hdone : (p.closed s reason next (.ok ())).closures = [closureOf (s, reason)] := by
    simp only [closed]
    rw [closures_after, reportClosed_closures]
    cases next with
    | retired rest others =>
      cases rest with
      | nil => cases others <;> rfl
      | cons x rest => rfl
    | stale rest alive => cases rest <;> rfl
    | late rest => cases rest <;> rfl
    | shutdown rest first => cases rest <;> cases first <;> rfl
    | _ => rfl
  -- A connection that fails to close is reported as one that closes.
  cases r with
  | ok u => exact hdone
  | error f =>
    have hordinary : f.isOrdinary = true := hr f rfl
    simp only [closed, hordinary, if_true] at hdone ⊢
    rw [closures_after] at hdone ⊢
    exact hdone

theorem tested_closures (p : Pool) (now : Seconds) (s : Slot) (use : Testing)
    (r : Except Failure Bool) : (p.tested now s use r).closures = [] := by
  have hdone : ∀ alive, (p.tested now s use (.ok alive)).closures = [] := by
    intro alive
    cases use with
    | visit v =>
      cases alive with
      | true => exact handOut_closures p now v s
      | false => rfl
    | sweep rest found =>
      cases alive with
      | true => cases rest <;> rfl
      | false => rfl
  cases r with
  | ok alive => exact hdone alive
  | error f =>
    have hdead := hdone false
    simp only [tested] at hdead ⊢
    split
    · rw [closures_after, hdead]
      rfl
    · rfl

/-- What is reported as closed when an operation goes on is what it was closing. -/
theorem proceed_closures (p : Pool) (caller : Nat) (now : Seconds) {q : Pending} {r : q.Reply}
    (hr : q.Regular r) (ns : List Notice) :
    (p.proceed caller now q r).closures = (Exchange.closings [⟨q, r, ns⟩]).map closureOf := by
  cases q with
  | opening use => exact opened_closures p now use r
  | testing s use => exact tested_closures p now s use r
  | closing s reason next => exact closed_closures p s reason next hr
  | sleeping limit use =>
    cases use with
    | visit v =>
      cases r with
      | ok u => exact seek_closures _ caller now v
      | error f => rfl
    | shutdown deadline =>
      cases r with
      | ok u => exact awaitReturns_closures _ caller now deadline
      | error f => rfl
  | pausing use =>
    cases use with
    | discard s reason v => rfl
    | visit v => exact seek_closures p caller now v
    | tests alive =>
      change (p.finishTests alive).closures = []
      unfold finishTests
      split
      · cases alive <;> rfl
      · rfl
    | fill =>
      change p.fillUp.closures = []
      unfold fillUp
      split <;> rfl

/-- Over a whole conversation, each closing is reported once, with its reason. -/
theorem runs_closures (hregular : replies.Regular) {t u : Stretch} {xs : List Exchange}
    (h : Turn.Runs (goesOn caller) replies n t xs u) :
    (xs.flatMap Exchange.reports).filter Notice.isClosure =
      (Exchange.closings xs).map closureOf := by
  induction h with
  | stay hsame => rfl
  | @goOn n t u q xs hneeds hrest ih =>
    have hstep := proceed_closures t.state caller (replies n q).1 (hregular n q)
      (goesOn caller t.state (replies n q).1 q (replies n q).2).notices
    rw [List.flatMap_cons, List.filter_append, ih, ← List.singleton_append,
      Exchange.closings_append, List.map_append, ← hstep]
    rfl

end Pool

/-! ## Conversations with a desk -/

namespace Desk

/-- An operation that is alone at a desk goes on. -/
def goesOn (caller : Nat) (d : Desk) (now : Seconds) (q : Pending) (r : q.Reply) : Stretch :=
  d.proceed caller now q r

variable {d : Desk} {caller : Nat} {replies : Replies} {n : Nat} {t u : Pool.Stretch}
  {xs : List Exchange}

/-- A desk with another pool settles in the same way. -/
theorem settle_of_pool (d : Desk) (p : Pool) (t : Pool.Stretch) :
    ({ d with pool := p }).settle t = d.settle t := by
  unfold settle
  split <;> rfl

theorem settle_notices (d : Desk) (t : Pool.Stretch) : (d.settle t).notices = t.notices := by
  unfold settle
  split <;> rfl

theorem settle_of_needs {q : Pending} (d : Desk) (h : t.progress = .needs q) :
    d.settle t = ⟨{ d with pool := t.state }, t.notices, .needs q⟩ := by
  unfold settle
  rw [h]

theorem settle_same (d : Desk) (h : t.Same u) : (d.settle t).Same (d.settle u) := by
  obtain ⟨state, notices, progress⟩ := t
  obtain ⟨state', notices', progress'⟩ := u
  obtain ⟨hstate, hprogress⟩ := h
  obtain rfl : state = state' := hstate
  obtain rfl : progress = progress' := hprogress
  rcases progress with q | f | _ | s <;> exact ⟨rfl, rfl⟩

/-- A conversation with the pool of a desk is one with the desk. -/
theorem settle_runs (d : Desk) (h : Turn.Runs (Pool.goesOn caller) replies n t xs u) :
    Turn.Runs (goesOn caller) replies n (d.settle t) xs (d.settle u) := by
  induction h with
  | stay hsame => exact .stay (settle_same d hsame)
  | @goOn n t u q xs hneeds _ ih =>
    rw [settle_of_needs d hneeds]
    have hnext : goesOn caller { d with pool := t.state } (replies n q).1 q (replies n q).2 =
        d.settle (Pool.goesOn caller t.state (replies n q).1 q (replies n q).2) :=
      settle_of_pool d t.state _
    have hreports : (Pool.goesOn caller t.state (replies n q).1 q (replies n q).2).notices =
        (goesOn caller { d with pool := t.state } (replies n q).1 q (replies n q).2).notices := by
      rw [hnext, settle_notices]
    rw [hreports]
    rw [← hnext] at ih
    exact .goOn rfl ih

end Desk

end SqlGateway
