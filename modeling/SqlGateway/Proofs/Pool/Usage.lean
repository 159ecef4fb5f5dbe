import SqlGateway.Proofs.Pool.Floor
set_option autoImplicit false

/-!
# Pool: what a checkout counts as in use

Of a pool about which nothing is known it can still be said how a checkout changes the
number of connections in use: while it needs something it counts for its claims, and at
its end for the connection that it hands out.  So a checkout that fails leaves that
number as it was, whatever others do meanwhile, if they do the same.
-/

namespace SqlGateway

/-- What a checkout needs. -/
def Pending.IsVisit : Pending → Prop
  | .opening (.visit _) | .testing _ (.visit _) | .closing _ _ (.visit _)
  | .sleeping _ (.visit _) | .pausing (.discard _ _ _) | .pausing (.visit _) => True
  | _ => False

namespace Pool

/-- A stretch of a checkout leaves so many connections in use beside its own claims. -/
structure Stretch.Visits (t : Stretch) (n : Int) : Prop where
  inUse : t.state.inUse = n + t.progress.stake.claims
  goesOn : ∀ q, t.progress = .needs q → q.IsVisit

section

variable {p : Pool} {s : Slot} {caller : Nat} {now : Seconds} {v : Visit} {n : Int}

theorem visits_asks {q : Pending} (hq : q.IsVisit) (h : p.inUse = n + q.stake.claims) :
    Stretch.Visits (.asks p q) n := by
  refine ⟨h, ?_⟩
  intro q' hq'
  cases hq'
  exact hq

theorem visits_error {f : Failure} (h : p.inUse = n) :
    Stretch.Visits (.ends p (.error f)) n :=
  ⟨by simpa [Turn.ends, Progress.stake] using h, fun _ hq => nomatch hq⟩

theorem visits_after {t : Stretch} (notices : List Notice) (h : t.Visits n) :
    Stretch.Visits (t.after notices) n :=
  ⟨h.inUse, h.goesOn⟩

theorem handOut_visits (h : p.inUse = n + 1) : (p.handOut now v s).Visits n :=
  ⟨h, fun _ hq => nomatch hq⟩

theorem examine_visits (h : p.inUse = n + 1) : (p.examine now v s).Visits n := by
  unfold examine
  split
  · exact visits_asks trivial h
  · split
    · exact visits_asks trivial h
    · exact handOut_visits h

theorem discard_visits {reason : RetireReason} (h : p.inUse = n + 1) :
    (p.discard s reason v).Visits n :=
  visits_asks trivial (by simp [Pending.stake, h])

theorem seek_visits (h : p.inUse = n) : (p.seek caller now v).Visits n := by
  have hmore : p.inUse + 1 = n + 1 := by rw [h]
  have hsame : p.inUse = n + ((0 : Nat) : Int) := by simpa using h
  unfold seek
  split
  · exact visits_error h
  · split
    · exact examine_visits hmore
    · split
      · exact visits_asks trivial hmore
      · split
        · split
          · exact visits_error h
          · exact visits_asks trivial hsame
        · exact visits_asks trivial hsame

/-- A checkout that goes on keeps its account. -/
theorem proceed_visits (caller : Nat) (now : Seconds) {q : Pending} {r : q.Reply}
    (hq : q.IsVisit) (hr : q.Regular r) (h : p.inUse = n + q.stake.claims) :
    (p.proceed caller now q r).Visits n := by
  cases q with
  | opening use =>
    cases use with
    | visit v =>
      cases r with
      | ok raw => exact visits_after _ (handOut_visits h)
      | error f =>
        apply visits_error
        simp [call, h, Pending.stake]
    | reserve => exact hq.elim
  | testing s use =>
    cases use with
    | visit v =>
      have htested : ∀ alive, (p.tested now s (.visit v) (.ok alive)).Visits n := by
        intro alive
        cases alive with
        | true => exact handOut_visits h
        | false => exact discard_visits h
      cases r with
      | ok alive => exact htested alive
      | error f =>
        simp only [proceed, tested, hr f rfl, if_true]
        exact visits_after _ (htested false)
    | sweep others found => exact hq.elim
  | closing s reason next =>
    cases next with
    | visit v =>
      have hgone : p.inUse = n + ((0 : Nat) : Int) := by simpa [Pending.stake] using h
      cases r with
      | ok _ => exact visits_after _ (visits_asks trivial hgone)
      | error f =>
        simp only [proceed, closed, hr f rfl, if_true]
        exact visits_after _ (visits_asks trivial hgone)
    | _ => exact hq.elim
  | sleeping limit use =>
    cases use with
    | visit v =>
      have hawake : p.inUse = n := by simpa [Pending.stake] using h
      cases r with
      | ok _ => exact seek_visits hawake
      | error f => exact visits_error hawake
    | shutdown deadline => exact hq.elim
  | pausing use =>
    cases use with
    | discard s reason v => exact discard_visits h
    | visit v => exact seek_visits (by simpa [Pending.stake] using h)
    | _ => exact hq.elim

end

end Pool

/-! ## At a desk -/

namespace Desk

variable {d : Desk} {n : Int} {now : Seconds}

/-- A stretch of a checkout at a desk: at its end a new lease counts for what it lends. -/
structure Stretch.Visits (t : Stretch) (n : Int) : Prop where
  needs : ∀ q, t.progress = .needs q → q.IsVisit ∧ t.state.pool.inUse = n + q.stake.claims
  lends : ∀ lease, t.progress = .done (.ok (some lease)) → t.state.pool.inUse = n + 1
  ends : (∀ q, t.progress ≠ .needs q) → (∀ lease, t.progress ≠ .done (.ok (some lease))) →
    t.state.pool.inUse = n

theorem settle_visits {t : Pool.Stretch} (h : t.Visits n) : (d.settle t).Visits n := by
  obtain ⟨hinUse, hgoesOn⟩ := h
  unfold settle
  cases hp : t.progress with
  | needs q =>
    rw [hp] at hinUse
    refine ⟨?_, fun _ hlease => (by cases hlease), fun hnever => absurd rfl (hnever q)⟩
    intro q' hq'
    cases hq'
    exact ⟨hgoesOn q hp, hinUse⟩
  | done r =>
    rw [hp] at hinUse
    rcases r with f | _ | s
    · refine ⟨fun _ hq => (by cases hq), fun _ hlease => (by cases hlease), fun _ _ => ?_⟩
      simpa [Progress.stake] using hinUse
    · refine ⟨fun _ hq => (by cases hq), fun _ hlease => (by cases hlease), fun _ _ => ?_⟩
      simpa [Progress.stake] using hinUse
    · exact ⟨fun _ hq => (by cases hq), fun _ _ => hinUse, fun _ hlease => absurd rfl (hlease _)⟩

theorem checkout_visits (timeout : Option Seconds) (h : d.pool.inUse = n) :
    (d.start now (.checkout timeout)).2.Visits n :=
  settle_visits (Pool.seek_visits h)

theorem proceed_visits (caller : Nat) (now : Seconds) {q : Pending} {r : q.Reply}
    (hq : q.IsVisit) (hr : q.Regular r) (h : d.pool.inUse = n + q.stake.claims) :
    (d.proceed caller now q r).Visits n :=
  settle_visits (Pool.proceed_visits caller now hq hr h)

end Desk

end SqlGateway
