import SqlGateway.Proofs.Pool.Returns
import SqlGateway.Proofs.Pool.Triage
set_option autoImplicit false

/-!
# Pool: what rests is one row

A sweep takes everything that rests away and puts back what is alive, at the cold end again, while
callers go on taking at the warm end and returning there.  So what a sweep has set aside and what
rests are to be seen as one row, the former before the latter.  No stretch of any operation changes
the order of that row: it takes connections out, puts one that a sweep has opened before it or one
that a caller returns behind it, and moves its border.
-/

namespace SqlGateway

/-! ## What a sweep has set aside -/

namespace Pending

/-- A sweep needs it. -/
def isSweep : Pending → Bool
  | .opening .reserve | .testing _ (.sweep _ _) | .closing _ _ (.retired _ _)
  | .closing _ _ (.stale _ _) | .closing _ _ (.late _) | .closing _ _ .surplus
  | .pausing (.tests _) | .pausing .fill => true
  | _ => false

/-- The connections that a sweep has taken out of the pool and may put back, from the coldest
on. -/
def setAside : Pending → List Slot
  | .testing s (.sweep rest alive) => alive ++ s :: rest
  | .closing _ _ (.retired _ others) => others
  | .closing _ _ (.stale rest alive) => alive ++ rest
  | .pausing (.tests alive) => alive
  | _ => []

/-- The connection that a reply brings to a sweep. -/
def stocked (now : Seconds) (id : Nat) : (q : Pending) → q.Reply → List Slot
  | .opening .reserve, .ok raw => [{ raw, id, createdAt := now, lastUsed := now }]
  | _, _ => []

variable {q : Pending}

/-- Only a sweep sets anything aside or is brought anything to keep. -/
theorem setAside_of_not_isSweep (h : q.isSweep = false) : q.setAside = [] := by
  cases q with
  | testing s use => cases use with
    | visit v => rfl
    | sweep rest alive => cases h
  | closing s reason next => cases next <;> first | rfl | cases h
  | pausing use => cases use <;> first | rfl | cases h
  | _ => rfl

theorem stocked_of_not_isSweep (h : q.isSweep = false) (now : Seconds) (id : Nat) (r : q.Reply) :
    q.stocked now id r = [] := by
  cases q with
  | opening use => cases use with
    | visit v => rfl
    | reserve => cases h
  | _ => rfl

/-- What a sweep has set aside is its own. -/
theorem setAside_subset_owned (q : Pending) : q.setAside ⊆ q.owned := by
  intro s hs
  cases q with
  | testing t use => cases use with
    | visit v => cases hs
    | sweep rest alive =>
      simp only [setAside, List.mem_append, List.mem_cons] at hs
      simp only [owned, borrowed, unsettled, List.nil_append, List.mem_cons, List.mem_append]
      tauto
  | closing t reason next =>
    cases next with
    | retired rest others =>
      exact List.mem_cons_of_mem _ (List.mem_append_right _ hs)
    | stale rest alive =>
      exact List.mem_cons_of_mem _ (List.mem_append.2 (List.mem_append.1 hs).symm)
    | _ => cases hs
  | pausing use => cases use with
    | tests alive => exact hs
    | _ => cases hs
  | _ => cases hs

end Pending

/-- What a sweep has set aside after a stretch. -/
def Progress.setAside {α : Type} : Progress α → List Slot
  | .needs q => q.setAside
  | .done _ => []

/-! ## Stretches -/

namespace Pool

/-- After a stretch what its operation has set aside, and behind it what rests, are a part of some
row, in its order; and the operation is a sweep only if it was one. -/
structure Stretch.Tends (t : Stretch) (row : List Slot) (sweep : Prop) : Prop where
  row : (t.progress.setAside ++ t.state.idle).Sublist row
  sweep : ∀ q, t.progress = .needs q → q.isSweep = true → sweep

section

variable {p : Pool} {s : Slot} {caller : Nat} {now : Seconds} {v : Visit} {row : List Slot}
  {sweep : Prop}

theorem tends_asks {q : Pending} (hq : q.isSweep = true → sweep)
    (hrow : (q.setAside ++ p.idle).Sublist row) : Stretch.Tends (.asks p q) row sweep := by
  refine ⟨hrow, ?_⟩
  intro q' hq'
  cases hq'
  exact hq

/-- An operation that is over has set nothing aside. -/
theorem tends_of_done {t : Stretch} {r : Except Failure (Option Slot)}
    (hdone : t.progress = .done r) (hrow : t.state.idle.Sublist row) : t.Tends row sweep := by
  refine ⟨?_, fun _ hq => nomatch hdone.symm.trans hq⟩
  rw [hdone]
  exact hrow

theorem tends_ends (r : Except Failure (Option Slot)) (hrow : p.idle.Sublist row) :
    Stretch.Tends (.ends p r) row sweep :=
  tends_of_done rfl hrow

theorem tends_after {t : Stretch} (notices : List Notice) (h : t.Tends row sweep) :
    Stretch.Tends (t.after notices) row sweep :=
  ⟨h.row, h.sweep⟩

/-- An operation that is no sweep leaves what rests as it is. -/
theorem tends_visit {q : Pending} (hq : q.isSweep = false) :
    Stretch.Tends (.asks p q) p.idle sweep := by
  refine tends_asks (fun hsweep => nomatch hq.symm.trans hsweep) ?_
  rw [Pending.setAside_of_not_isSweep hq]
  exact .refl _

theorem handOut_tends : (p.handOut now v s).Tends p.idle sweep := tends_of_done rfl (.refl _)

theorem examine_tends : (p.examine now v s).Tends p.idle sweep := by
  unfold examine
  split
  · exact tends_visit rfl
  · split
    · exact tends_visit rfl
    · exact handOut_tends

theorem seek_tends : (p.seek caller now v).Tends p.idle sweep := by
  unfold seek
  split
  · exact tends_ends _ (.refl _)
  · split
    next s hlast =>
      let lent : Pool := { p with idle := p.idle.dropLast, inUse := p.inUse + 1 }
      have htaken : (lent.examine now v s).Tends p.idle.dropLast sweep := examine_tends
      exact ⟨htaken.row.trans (List.dropLast_sublist _), htaken.sweep⟩
    · split
      · exact tends_visit rfl
      · split
        · split
          · exact tends_ends _ (.refl _)
          · exact tends_visit rfl
        · exact tends_visit rfl

/-! ### Sweeping -/

theorem fillUp_tends (hsweep : sweep) : p.fillUp.Tends p.idle sweep := by
  unfold fillUp
  split
  · exact tends_ends _ (.refl _)
  · exact tends_asks (fun _ => hsweep) (.refl _)

theorem closeLate_tends (hsweep : sweep) (slots : List Slot) :
    (p.closeLate slots).Tends p.idle sweep := by
  cases slots with
  | nil => exact tends_ends _ (.refl _)
  | cons s rest => exact tends_asks (fun _ => hsweep) (.refl _)

/-- What is alive goes before what has been returned since. -/
theorem finishTests_tends (hsweep : sweep) (alive : List Slot) :
    (p.finishTests alive).Tends (alive ++ p.idle) sweep := by
  unfold finishTests
  split
  · have hclosed := closeLate_tends (p := p) hsweep alive
    exact ⟨hclosed.row.trans (List.sublist_append_right _ _), hclosed.sweep⟩
  · exact tends_asks (fun _ => hsweep) (.refl _)

theorem testNext_tends (hsweep : sweep) (alive rest : List Slot) :
    (p.testNext alive rest).Tends (alive ++ rest ++ p.idle) sweep := by
  cases rest with
  | nil => exact tends_asks (fun _ => hsweep) (by simp [Pending.setAside])
  | cons s rest => exact tends_asks (fun _ => hsweep) (.refl _)

theorem retireNext_tends (hsweep : sweep) (others : List Slot)
    (retired : List (Slot × RetireReason)) :
    (p.retireNext others retired).Tends (others ++ p.idle) sweep := by
  cases retired with
  | nil => exact testNext_tends hsweep [] others
  | cons first rest => exact tends_asks (fun _ => hsweep) (.refl _)

/-- A sweep keeps the order of what it does not retire. -/
theorem startSweep_tends (hsweep : sweep) : (p.startSweep now).Tends p.idle sweep := by
  unfold startSweep
  split
  · exact tends_ends _ (.refl _)
  · have hsorted := retireNext_tends (p := { p with idle := [] }) hsweep
      (triage p.config now p.live p.idle).2 (triage p.config now p.live p.idle).1
    have hkept := (triage_sublists p.config now p.idle p.live).2
    rw [List.append_nil] at hsorted
    exact ⟨hsorted.row.trans hkept, hsorted.sweep⟩

/-! ### Closing -/

theorem shutNext_tends (first : Bool) (slots : List Slot) :
    (p.shutNext first slots).Tends p.idle sweep := by
  cases slots with
  | nil => exact tends_of_done rfl (.refl _)
  | cons s rest => exact tends_visit rfl

theorem shut_tends (first : Bool) : (p.shut first).Tends p.idle sweep := by
  let emptied : Pool := { p with idle := [] }
  have hnothing : (emptied.shutNext first p.idle).Tends [] sweep := shutNext_tends first p.idle
  exact ⟨hnothing.row.trans (List.nil_sublist _), hnothing.sweep⟩

theorem awaitReturns_tends (deadline : Option Seconds) :
    (p.awaitReturns caller now deadline).Tends p.idle sweep := by
  unfold awaitReturns
  split
  · exact shut_tends true
  · split
    · split
      · exact tends_after _ (shut_tends true)
      · exact tends_visit rfl
    · exact tends_visit rfl

theorem startClose_tends (timeout : Option Seconds) :
    (p.startClose caller now timeout).Tends p.idle sweep := by
  unfold startClose
  simp only
  split
  · exact shut_tends false
  · exact awaitReturns_tends _

/-! ### Going on -/

theorem opened_tends (now : Seconds) (use : Opening) (r : Except Failure Nat) :
    (p.opened now use r).Tends ((Pending.opening use).stocked now p.nextId r ++ p.idle)
      ((Pending.opening use).isSweep = true) := by
  cases r with
  | error f =>
    simp only [opened]
    split
    · exact tends_ends _ (.refl _)
    · split
      · exact tends_of_done rfl (.refl _)
      · exact tends_ends _ (.refl _)
  | ok raw =>
    simp only [opened]
    split
    · exact tends_after _ handOut_tends
    · split
      · exact tends_after _ (tends_asks (fun _ => rfl) (List.sublist_append_right _ _))
      · exact tends_after _ (tends_asks (fun _ => rfl) (.refl _))

theorem tested_tends (now : Seconds) (s : Slot) (use : Testing) (r : Except Failure Bool) :
    (p.tested now s use r).Tends ((Pending.testing s use).setAside ++ p.idle)
      ((Pending.testing s use).isSweep = true) := by
  have htested : ∀ alive, (p.tested now s use (.ok alive)).Tends
      ((Pending.testing s use).setAside ++ p.idle) ((Pending.testing s use).isSweep = true) := by
    intro alive
    cases use with
    | visit v =>
      cases alive with
      | true => exact handOut_tends
      | false => exact tends_visit rfl
    | sweep rest found =>
      cases alive with
      | true =>
        have hnext : (p.testNext (found ++ [s]) rest).Tends (found ++ [s] ++ rest ++ p.idle)
            (true = true) := testNext_tends rfl (found ++ [s]) rest
        rw [List.append_assoc found] at hnext
        exact hnext
      | false =>
        refine tends_asks (fun _ => rfl) ?_
        exact (((List.sublist_cons_self s rest).append_left found)).append_right p.idle
  cases r with
  | ok alive => exact htested alive
  | error f =>
    simp only [tested]
    split
    · exact tends_after _ (htested false)
    · exact tends_ends _ (List.sublist_append_right _ _)

theorem closed_tends (s : Slot) (reason : RetireReason) (next : Closing)
    (r : Except Failure Unit) :
    (p.closed s reason next r).Tends ((Pending.closing s reason next).setAside ++ p.idle)
      ((Pending.closing s reason next).isSweep = true) := by
  have hclosed : (p.closed s reason next (.ok ())).Tends
      ((Pending.closing s reason next).setAside ++ p.idle)
      ((Pending.closing s reason next).isSweep = true) := by
    apply tends_after
    cases next with
    | visit v => exact tends_visit rfl
    | returned => exact tends_ends _ (.refl _)
    | retired rest others => exact retireNext_tends rfl others rest
    | stale rest alive => exact testNext_tends rfl alive rest
    | late rest => exact closeLate_tends rfl rest
    | surplus => exact tends_ends _ (.refl _)
    | shutdown rest first => exact shutNext_tends first rest
  cases r with
  | ok _ => exact hclosed
  | error f =>
    by_cases hf : f.isOrdinary = true
    · simp only [closed, hf, if_true] at hclosed ⊢
      exact ⟨hclosed.row, hclosed.sweep⟩
    · simp only [closed, hf]
      exact tends_ends _ (List.sublist_append_right _ _)

/-- An operation that goes on keeps the row: before it stands what a reply has brought. -/
theorem proceed_tends (caller : Nat) (now : Seconds) (q : Pending) (r : q.Reply) :
    (p.proceed caller now q r).Tends (q.stocked now p.nextId r ++ (q.setAside ++ p.idle))
      (q.isSweep = true) := by
  cases q with
  | opening use => exact opened_tends now use r
  | testing s use => exact tested_tends now s use r
  | closing s reason next => exact closed_tends s reason next r
  | sleeping limit use =>
    cases use with
    | visit v =>
      cases r with
      | ok _ => exact seek_tends (p := { p.wakeUp caller with waiting := p.waiting - 1 })
      | error f => exact tends_ends _ (.refl _)
    | shutdown deadline =>
      cases r with
      | ok _ => exact awaitReturns_tends (p := p.wakeUp caller) deadline
      | error f => exact tends_ends _ (.refl _)
  | pausing use =>
    cases use with
    | discard s reason v => exact tends_visit rfl
    | visit v => exact seek_tends
    | tests alive => exact finishTests_tends rfl alive
    | fill => exact fillUp_tends rfl

end

end Pool

/-! ## At a desk -/

namespace Desk

variable {d : Desk} {row : List Slot} {sweep : Prop}

/-- The connection that a call gives back: a lease gives back its own, once. -/
def givenBack (d : Desk) : DeskCall → Option Slot
  | .giveBack lease => d.leases[lease]?.bind fun l => if l.released then none else some l.slot
  | _ => none

/-- A stretch at the desk keeps a row. -/
structure Stretch.Tends (t : Stretch) (row : List Slot) (sweep : Prop) : Prop where
  row : (t.progress.setAside ++ t.state.pool.idle).Sublist row
  sweep : ∀ q, t.progress = .needs q → q.isSweep = true → sweep

theorem tends_of_done {t : Stretch} {r : Except Failure (Option Nat)}
    (hdone : t.progress = .done r) (hrow : t.state.pool.idle.Sublist row) : t.Tends row sweep := by
  refine ⟨?_, fun _ hq => nomatch hdone.symm.trans hq⟩
  rw [hdone]
  exact hrow

theorem settle_tends {t : Pool.Stretch} (h : t.Tends row sweep) : (d.settle t).Tends row sweep := by
  have hrow := h.row
  have hsweep := h.sweep
  unfold settle
  split <;> rename_i hp <;> rw [hp] at hrow hsweep
  · exact ⟨hrow, fun q hq => hsweep q (by cases hq; rfl)⟩
  · exact tends_of_done rfl hrow
  · exact tends_of_done rfl hrow
  · exact tends_of_done rfl hrow

/-- A connection that is returned goes behind the others, if it may rest. -/
theorem giveBack_tends (d : Desk) (now : Seconds) (lease : Nat) :
    (d.start now (.giveBack lease)).2.Tends
      (d.pool.idle ++ (d.givenBack (.giveBack lease)).toList.map fun s =>
        { s with lastUsed := now }) sweep := by
  have hnothing : ∀ {t : Stretch}, t.progress = .done (.ok none) → t.state.pool = d.pool →
      t.Tends (d.pool.idle ++ (d.givenBack (.giveBack lease)).toList.map fun s =>
        { s with lastUsed := now }) sweep := by
    intro t hdone hpool
    refine tends_of_done hdone ?_
    rw [hpool]
    exact List.sublist_append_left _ _
  cases hl : d.leases[lease]? with
  | none =>
    apply hnothing
    · simp [start, giveBack, hl, Turn.ends]
    · simp [start, giveBack, hl, Turn.ends]
  | some l =>
    obtain ⟨slot, healthy, released⟩ := l
    cases released with
    | true =>
      apply hnothing
      · simp [start, giveBack, hl, Turn.ends]
      · simp [start, giveBack, hl, Turn.ends]
    | false =>
      have hback : d.givenBack (.giveBack lease) = some slot := by simp [givenBack, hl]
      obtain ⟨fate, hputs, -⟩ := start_giveBack_puts now hl
      rw [hback]
      cases fate with
      | none =>
        obtain ⟨hdone, hidle⟩ := hputs
        exact tends_of_done hdone (hidle ▸ .refl _)
      | some reason =>
        obtain ⟨hneeds, hidle⟩ := hputs
        refine ⟨?_, ?_⟩
        · rw [hneeds, hidle]
          exact List.sublist_append_left _ _
        · intro q hq hsweeps
          cases hneeds.symm.trans hq
          cases hsweeps

/-- An operation that begins keeps the row; behind it stands what is given back. -/
theorem start_tends (d : Desk) (now : Seconds) (q : DeskCall) :
    (d.start now q).2.Tends
      (d.pool.idle ++ (d.givenBack q).toList.map fun s => { s with lastUsed := now })
      (q = .sweep) := by
  have hnothing : ∀ {t : Pool.Stretch} {sweep : Prop}, t.Tends d.pool.idle sweep →
      t.Tends (d.pool.idle ++ []) sweep := by
    intro t sweep h
    rwa [List.append_nil]
  cases q with
  | giveBack lease => exact giveBack_tends d now lease
  | checkout timeout => exact settle_tends (hnothing Pool.seek_tends)
  | sweep => exact settle_tends (hnothing (Pool.startSweep_tends rfl))
  | close timeout => exact settle_tends (hnothing (Pool.startClose_tends timeout))

/-- So does an operation that goes on; before it stands what a reply has brought. -/
theorem proceed_tends (d : Desk) (caller : Nat) (now : Seconds) (q : Pending) (r : q.Reply) :
    (d.proceed caller now q r).Tends
      (q.stocked now d.pool.nextId r ++ (q.setAside ++ d.pool.idle)) (q.isSweep = true) :=
  settle_tends (Pool.proceed_tends caller now q r)

end Desk

end SqlGateway
