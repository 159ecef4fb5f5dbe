import SqlGateway.Proofs.Pool.Row
import SqlGateway.Proofs.Pool.Usage
set_option autoImplicit false

/-!
# Pool: warm connections first

A connection comes to rest in one of two ways: a sweep opens it and puts it at the cold end, or a
caller returns it and it goes to the warm end, where checkouts take what they get.  What a sweep has
set aside stands in a row before what rests, and no stretch changes the order of that row.  It
follows that the connections no caller has ever returned stand before the others, and these stand
in the order of their last return, as long as no second sweep sets anything aside meanwhile.
-/

namespace SqlGateway

/-! ## Where connections come from -/

/-- Where connections at rest come from, by number: those that sweeps have opened to be kept, and
those that callers have returned, in order and as often as they have. -/
structure Provenance where
  stocked : List Nat := []
  returned : List Nat := []

namespace Provenance

/-- A sweep has opened connections. -/
def stocking (p : Provenance) (arrived : List Slot) : Provenance :=
  { p with stocked := p.stocked ++ arrived.map Slot.id }

/-- A caller has returned a connection, or none. -/
def returning (p : Provenance) (back : Option Slot) : Provenance :=
  { p with returned := p.returned ++ back.toList.map Slot.id }

/-- Both connections have been returned, the first for the last time before the second for the
last time. -/
def LastBefore (p : Provenance) (a b : Nat) : Prop :=
  ∃ earlier later, p.returned = earlier ++ b :: later ∧ a ∈ earlier ∧ a ∉ b :: later ∧ b ∉ later

/-- From the cold to the warm end there are first connections that sweeps have opened and that no
caller has ever returned, and then returned ones in the order of their last return. -/
def Layered (p : Provenance) (slots : List Slot) : Prop :=
  ∃ cold warm, slots = cold ++ warm ∧ (∀ s ∈ cold, s.id ∈ p.stocked ∧ s.id ∉ p.returned) ∧
    (∀ s ∈ warm, s.id ∈ p.returned) ∧ warm.Pairwise fun s t => p.LastBefore s.id t.id

variable {p : Provenance} {slots : List Slot} {s : Slot} {a b : Nat}

theorem returning_none (p : Provenance) : p.returning none = p := by
  rw [returning, Option.toList_none, List.map_nil, List.append_nil]

theorem LastBefore.returning (h : p.LastBefore a b) (ha : a ≠ s.id) (hb : b ≠ s.id) :
    (p.returning (some s)).LastBefore a b := by
  obtain ⟨earlier, later, hreturned, hearlier, hnot, hlast⟩ := h
  refine ⟨earlier, later ++ [s.id], ?_, hearlier, ?_, ?_⟩
  · simp [Provenance.returning, hreturned]
  · simp only [List.mem_cons, List.mem_append, List.mem_nil_iff] at hnot ⊢
    tauto
  · simp [hlast, hb]

/-- What is returned now has been returned later than everything else. -/
theorem lastBefore_returning (ha : a ∈ p.returned) (hne : a ≠ s.id) :
    (p.returning (some s)).LastBefore a s.id :=
  ⟨p.returned, [], rfl, ha, by simpa using hne, List.not_mem_nil⟩

theorem layered_nil (p : Provenance) : p.Layered [] :=
  ⟨[], [], rfl, fun _ hs => (List.not_mem_nil hs).elim, fun _ hs => (List.not_mem_nil hs).elim,
    List.Pairwise.nil⟩

namespace Layered

/-- Connections may be taken out anywhere. -/
theorem sublist {fewer : List Slot} (h : p.Layered slots) (hfewer : fewer.Sublist slots) :
    p.Layered fewer := by
  obtain ⟨cold, warm, rfl, hcold, hwarm, hordered⟩ := h
  obtain ⟨cold', warm', rfl, hcold', hwarm'⟩ := List.sublist_append_iff.1 hfewer
  exact ⟨cold', warm', rfl, fun s hs => hcold s (hcold'.subset hs),
    fun s hs => hwarm s (hwarm'.subset hs), hordered.sublist hwarm'⟩

/-- Connections that have just been opened go to the cold end. -/
theorem stocking {arrived : List Slot} (h : p.Layered slots)
    (hnew : ∀ s ∈ arrived, s.id ∉ p.returned) :
    (p.stocking arrived).Layered (arrived ++ slots) := by
  obtain ⟨cold, warm, rfl, hcold, hwarm, hordered⟩ := h
  refine ⟨arrived ++ cold, warm, (List.append_assoc ..).symm, ?_, hwarm, hordered⟩
  intro s hs
  rcases List.mem_append.1 hs with harrived | hs
  · exact ⟨List.mem_append_right _ (List.mem_map_of_mem harrived), hnew s harrived⟩
  · exact ⟨List.mem_append_left _ (hcold s hs).1, (hcold s hs).2⟩

/-- A connection that is returned goes to the warm end. -/
theorem returning (h : p.Layered slots) (hs : s.id ∉ slots.map Slot.id) (now : Seconds) :
    (p.returning (some s)).Layered (slots ++ [{ s with lastUsed := now }]) := by
  obtain ⟨cold, warm, rfl, hcold, hwarm, hordered⟩ := h
  have hother : ∀ t ∈ cold ++ warm, t.id ≠ s.id := fun t ht hsame =>
    hs (hsame ▸ List.mem_map_of_mem ht)
  have hcoldother := fun t ht => hother t (List.mem_append_left warm ht)
  have hwarmother := fun t ht => hother t (List.mem_append_right cold ht)
  refine ⟨cold, warm ++ [{ s with lastUsed := now }], List.append_assoc .., ?_, ?_, ?_⟩
  · intro t ht
    refine ⟨(hcold t ht).1, ?_⟩
    simp [Provenance.returning, (hcold t ht).2, hcoldother t ht]
  · intro t ht
    rcases List.mem_append.1 ht with ht | ht
    · exact List.mem_append_left _ (hwarm t ht)
    · cases List.mem_singleton.1 ht
      exact List.mem_append_right _ List.mem_cons_self
  · refine List.pairwise_append.2 ⟨?_, List.pairwise_singleton _ _, ?_⟩
    · exact hordered.imp_of_mem fun {x y} hx hy hbefore =>
        hbefore.returning (hwarmother x hx) (hwarmother y hy)
    · intro x hx y hy
      cases List.mem_singleton.1 hy
      exact lastBefore_returning (hwarm x hx) (hwarmother x hx)

/-- At the warm end is the connection that was returned last, if any was returned. -/
theorem last (h : p.Layered slots) (hlast : slots.getLast? = some s) :
    (∀ x ∈ slots.dropLast, x.id ∈ p.returned → p.LastBefore x.id s.id) ∧
      (s.id ∉ p.returned → s.id ∈ p.stocked ∧ ∀ x ∈ slots, x.id ∉ p.returned) := by
  obtain ⟨cold, warm, rfl, hcold, hwarm, hordered⟩ := h
  rcases List.eq_nil_or_concat' warm with rfl | ⟨warm, last, rfl⟩
  · simp only [List.append_nil] at hlast ⊢
    have hs : s ∈ cold := List.mem_of_getLast? hlast
    exact ⟨fun x hx hreturned =>
        absurd hreturned (hcold x (List.dropLast_sublist cold |>.subset hx)).2,
      fun _ => ⟨(hcold s hs).1, fun x hx => (hcold x hx).2⟩⟩
  · rw [← List.append_assoc] at hlast ⊢
    obtain rfl : last = s := by simpa using hlast
    have hreturned : last.id ∈ p.returned := hwarm last (List.mem_append_right _ List.mem_cons_self)
    refine ⟨?_, fun hnever => absurd hreturned hnever⟩
    intro x hx hback
    rw [List.dropLast_concat] at hx
    rcases List.mem_append.1 hx with hx | hx
    · exact absurd hback (hcold x hx).2
    · exact (List.pairwise_append.1 hordered).2.2 x hx last List.mem_cons_self

end Layered

end Provenance

/-! ## Checkouts -/

/-- A checkout that goes on with a reply looks for a connection: it has slept, or it has closed one
that it could not have. -/
def Pending.Seeks : (q : Pending) → q.Reply → Prop
  | .sleeping _ (.visit _), .ok _ => True
  | .pausing (.visit _), _ => True
  | _, _ => False

/-- What an operation has for its caller after a stretch at a pool, or hands out. -/
def Progress.obtained : Progress (Option Slot) → List Slot
  | .needs q => q.borrowed
  | .done (.ok (some s)) => [s]
  | .done _ => []

namespace Pool

variable {p : Pool} {s : Slot} {caller : Nat} {now : Seconds} {v : Visit} {q : Pending}
  {r : q.Reply}

/-- A caller that looks for a connection takes the one at the warm end, whatever becomes of it
then. -/
theorem seek_takes (hopen : p.closing = false) (hlast : p.idle.getLast? = some s) :
    (p.seek caller now v).state.idle = p.idle.dropLast ∧
      (p.seek caller now v).progress.obtained = [s] := by
  simp only [seek, hopen, Bool.false_eq_true, if_false, hlast]
  unfold examine
  split
  · exact ⟨rfl, rfl⟩
  · split <;> exact ⟨rfl, rfl⟩

theorem proceed_takes (caller : Nat) (now : Seconds) (hseeks : q.Seeks r)
    (hopen : p.closing = false) (hlast : p.idle.getLast? = some s) :
    (p.proceed caller now q r).state.idle = p.idle.dropLast ∧
      (p.proceed caller now q r).progress.obtained = [s] := by
  cases q with
  | sleeping limit use =>
    cases use with
    | visit v =>
      cases r with
      | ok _ =>
        exact seek_takes (p := { p.wakeUp caller with waiting := p.waiting - 1 }) hopen hlast
      | error f => exact hseeks.elim
    | shutdown deadline => exact hseeks.elim
  | pausing use =>
    cases use with
    | visit v => exact seek_takes hopen hlast
    | _ => exact hseeks.elim
  | _ => exact hseeks.elim

/-- Where a checkout does not look for a connection it takes none. -/
theorem proceed_idle (caller : Nat) (now : Seconds) (hq : q.IsVisit) (hseeks : ¬ q.Seeks r) :
    (p.proceed caller now q r).state.idle = p.idle := by
  cases q with
  | opening use =>
    cases use with
    | visit v => cases r <;> rfl
    | reserve => exact hq.elim
  | testing t use =>
    cases use with
    | visit v =>
      cases r with
      | ok alive => cases alive <;> rfl
      | error f =>
        simp only [proceed, tested]
        split <;> rfl
    | sweep rest found => exact hq.elim
  | closing t reason next =>
    cases next with
    | visit v =>
      cases r with
      | ok _ => rfl
      | error f =>
        simp only [proceed, closed]
        split <;> rfl
    | _ => exact hq.elim
  | sleeping limit use =>
    cases use with
    | visit v =>
      cases r with
      | ok _ => exact absurd trivial hseeks
      | error f => rfl
    | shutdown deadline => exact hq.elim
  | pausing use =>
    cases use with
    | discard t reason v => rfl
    | visit v => exact absurd trivial hseeks
    | _ => exact hq.elim

end Pool

/-- What an operation has for its caller after a stretch, or has handed out. -/
def Desk.Stretch.obtained (t : Desk.Stretch) : List Slot :=
  match t.progress with
  | .needs q => q.borrowed
  | .done (.ok (some lease)) => t.state.leases[lease]?.toList.map Lease.slot
  | .done _ => []

/-- What has been obtained at a pool is obtained at the desk: a connection that is handed out is
the one of the new lease. -/
theorem Desk.settle_obtained (d : Desk) (t : Pool.Stretch) :
    (d.settle t).obtained = t.progress.obtained := by
  unfold Desk.settle
  split <;> rename_i hp <;> rw [hp]
  · rfl
  · rfl
  · rfl
  · simp [Desk.Stretch.obtained, Progress.obtained]

/-! ## Runs -/

namespace Floor

/-- The sweeps in progress. -/
def sweeps (f : Floor) : List (Nat × Pending) := f.running.filter fun e => e.2.isSweep

/-- What the sweeps in progress have set aside. -/
def setAside (f : Floor) : List Slot := f.running.flatMap fun e => e.2.setAside

/-- A run of a new pool in which a sweep begins only when none is in progress, and what it shows of
where connections come from.  All other operations may begin and go on at any time. -/
inductive Tended (c : PoolConfig) (name : String) : Floor → Provenance → Prop where
  | new : Tended c name (new c name) {}
  | begin {f : Floor} {p : Provenance} (h : Tended c name f p) (now : Seconds) (q : DeskCall)
      (hsweep : q = .sweep → f.sweeps = []) :
      Tended c name (f.begin now q) (p.returning (f.desk.givenBack q))
  | spoil {f : Floor} {p : Provenance} (h : Tended c name f p) (lease : Nat) :
      Tended c name { f with desk := f.desk.markUnhealthy lease } p
  | goOn {f : Floor} {p : Provenance} (h : Tended c name f p) (now : Seconds)
      {before after : List (Nat × Pending)} {caller : Nat} {q : Pending} (r : q.Reply)
      (hr : q.Regular r) (hrunning : f.running = before ++ (caller, q) :: after) :
      Tended c name (f.goOn (before ++ after) caller now q r)
        (p.stocking (q.stocked now f.desk.pool.nextId r))

/-- What a sweep has set aside and what rests are in a row by where they come from, at most one
sweep is in progress, and what was returned had been opened. -/
structure InRow (f : Floor) (p : Provenance) : Prop where
  layered : p.Layered (f.setAside ++ f.desk.pool.idle)
  single : f.sweeps.length ≤ 1
  opened : ∀ id ∈ p.returned, id ∈ (Happening.openings f.history).map Slot.id

variable {f : Floor} {p : Provenance} {c : PoolConfig} {name : String}

theorem Tended.reachable (h : Tended c name f p) : Reachable c name f := by
  induction h with
  | new => exact .new
  | begin _ now q _ ih => exact ih.step (.begin _ now q)
  | spoil _ lease ih => exact ih.step (.spoil _ lease)
  | goOn _ now r hr hrunning ih => exact ih.step (.goOn _ now r hr hrunning)

/-! ### Numbers -/

/-- A connection that is at some place has been opened. -/
theorem Orderly.opened_of_places {known gone : Multiset (Nat × Nat)} {s : Slot}
    (h : f.Orderly c known gone) (hs : s ∈ f.places) :
    s.id ∈ (Happening.openings f.history).map Slot.id := by
  have hkey : s.key ∈ known := by
    rw [← h.places]
    exact Multiset.mem_coe.2 (List.mem_map_of_mem hs)
  have hopened : s.key ∈ ((Happening.openings f.history).map Slot.key : Multiset (Nat × Nat)) := by
    rw [h.opened]
    exact Multiset.mem_add.2 (.inl hkey)
  obtain ⟨t, ht, hsame⟩ := List.mem_map.1 (Multiset.mem_coe.1 hopened)
  have hid : t.id = s.id := congrArg Prod.snd hsame
  exact hid ▸ List.mem_map_of_mem ht

/-- A connection that a sweep is brought has a number that none had before. -/
theorem Orderly.stocked_new {known gone : Multiset (Nat × Nat)} (h : f.Orderly c known gone)
    (now : Seconds) (q : Pending) (r : q.Reply) :
    ∀ s ∈ q.stocked now f.desk.pool.nextId r,
      s.id ∉ (Happening.openings f.history).map Slot.id := by
  intro s hs
  have hnext : s.id = f.desk.pool.nextId := by
    cases q with
    | opening use =>
      cases use with
      | visit v => cases hs
      | reserve =>
        cases r with
        | error e => cases hs
        | ok raw =>
          cases List.mem_singleton.1 hs
          rfl
    | _ => cases hs
  have hid : f.desk.pool.nextId = 1 + (Happening.openings f.history).length := h.settled.nextId
  rw [h.numbered, hnext, hid, List.mem_range'_1]
  omega

/-- A connection that is given back was neither at rest nor set aside. -/
theorem Orderly.givenBack_apart {known gone : Multiset (Nat × Nat)} {s : Slot} {call : DeskCall}
    (h : f.Orderly c known gone) (hs : f.desk.givenBack call = some s) :
    s ∈ f.places ∧ s.id ∉ (f.setAside ++ f.desk.pool.idle).map Slot.id := by
  have hlent : s ∈ f.desk.lent.map Lease.slot := by
    cases call with
    | giveBack lease =>
      obtain ⟨l, hl, hback⟩ := Option.bind_eq_some_iff.1 hs
      split at hback
      · cases hback
      next hopen =>
        cases hback
        refine List.mem_map_of_mem (List.mem_filter.2 ⟨List.mem_of_getElem? hl, ?_⟩)
        simpa using hopen
    | _ => cases hs
  have hids : (f.places.map Slot.id).Nodup := h.places_nodup Prod.snd h.ids_nodup
  simp only [Floor.places, List.map_append, List.nodup_append] at hids
  obtain ⟨⟨-, -, hidle⟩, -, howned⟩ := hids
  have hid : s.id ∈ (f.desk.lent.map Lease.slot).map Slot.id := List.mem_map_of_mem hlent
  refine ⟨List.mem_append_left _ (List.mem_append_right _ hlent), ?_⟩
  intro hmem
  obtain ⟨t, ht, hsame⟩ := List.mem_map.1 hmem
  rcases List.mem_append.1 ht with ht | ht
  · obtain ⟨e, he, hte⟩ := List.mem_flatMap.1 ht
    have hmine : t ∈ f.running.flatMap fun e => e.2.owned :=
      List.mem_flatMap.2 ⟨e, he, e.2.setAside_subset_owned hte⟩
    exact howned _ (List.mem_append_right _ hid) _ (List.mem_map_of_mem hmine) hsame.symm
  · exact hidle _ (List.mem_map_of_mem ht) _ hid hsame

/-! ### What a run keeps -/

/-- A floor after a stretch that keeps a row has the row. -/
theorem land_layered {others : List (Nat × Pending)} {news : List Happening} {caller : Nat}
    {t : Desk.Stretch} {row : List Slot} {sweep : Prop} (ht : t.Tends row sweep)
    (h : p.Layered ((others.flatMap fun e => e.2.setAside) ++ row)) :
    p.Layered ((f.land others news caller t).setAside ++
      (f.land others news caller t).desk.pool.idle) := by
  refine h.sublist ?_
  have hset : (f.land others news caller t).setAside =
      (others.flatMap fun e => e.2.setAside) ++ t.progress.setAside := by
    unfold setAside land
    cases t.progress <;> simp [Progress.setAside]
  rw [hset, List.append_assoc]
  exact ht.row.append_left _

/-- At most one sweep is in progress after a stretch that is no part of a sweep, or where the
others are none. -/
theorem land_single {others : List (Nat × Pending)} {news : List Happening} {caller : Nat}
    {t : Desk.Stretch} {row : List Slot} {sweep : Prop} (ht : t.Tends row sweep)
    (hothers : (others.filter fun e => e.2.isSweep).length ≤ 1)
    (hsweep : sweep → others.filter (fun e => e.2.isSweep) = []) :
    (f.land others news caller t).sweeps.length ≤ 1 := by
  unfold sweeps land
  cases hp : t.progress with
  | done r => exact hothers
  | needs q =>
    rw [List.filter_append, List.length_append]
    cases hq : q.isSweep with
    | false => simpa [hq] using hothers
    | true => simp [hsweep (ht.sweep q hp hq), hq]

theorem new_inRow (c : PoolConfig) (name : String) : (new c name).InRow {} :=
  ⟨Provenance.layered_nil _, Nat.zero_le 1, fun _ hid => (List.not_mem_nil hid).elim⟩

/-- What was opened before a step was opened before the next one. -/
theorem Step.openings {g : Floor} (h : Step f g) {id : Nat}
    (hid : id ∈ (Happening.openings f.history).map Slot.id) :
    id ∈ (Happening.openings g.history).map Slot.id := by
  obtain ⟨later, hlater⟩ := h.history
  rw [← hlater, Happening.openings, List.filterMap_append, List.map_append]
  exact List.mem_append_left _ hid

theorem begin_inRow {known gone : Multiset (Nat × Nat)} (horderly : f.Orderly c known gone)
    (now : Seconds) (call : DeskCall) (hsweep : call = .sweep → f.sweeps = []) (h : f.InRow p) :
    (f.begin now call).InRow (p.returning (f.desk.givenBack call)) := by
  have htends := f.desk.start_tends now call
  refine ⟨land_layered htends ?_, land_single htends h.single hsweep, ?_⟩
  · rw [← List.append_assoc]
    cases hback : f.desk.givenBack call with
    | none =>
      rw [Provenance.returning_none, Option.toList_none, List.map_nil, List.append_nil]
      exact h.layered
    | some s => exact h.layered.returning (horderly.givenBack_apart hback).2 now
  · intro id hid
    refine (Step.begin f now call).openings ?_
    rcases List.mem_append.1 hid with hid | hid
    · exact h.opened id hid
    · obtain ⟨s, hs, rfl⟩ := List.mem_map.1 hid
      exact horderly.opened_of_places (horderly.givenBack_apart (Option.mem_toList.1 hs)).1

/-- Where one sweep goes on, no other is in progress. -/
theorem InRow.alone {before after : List (Nat × Pending)} {caller : Nat} {q : Pending}
    (h : f.InRow p) (hrunning : f.running = before ++ (caller, q) :: after) :
    ((before ++ after).filter fun e => e.2.isSweep).length ≤ 1 ∧
      (q.isSweep = true → (before ++ after).filter (fun e => e.2.isSweep) = []) := by
  have hperm : f.running.Perm ((caller, q) :: (before ++ after)) := by
    rw [hrunning]
    exact List.perm_middle
  have hcount := (hperm.filter fun e => e.2.isSweep).length_eq
  have hsingle := h.single
  unfold sweeps at hsingle
  rw [hcount, List.filter_cons] at hsingle
  refine ⟨?_, ?_⟩
  · split at hsingle
    · exact (Nat.le_succ _).trans hsingle
    · exact hsingle
  · intro hq
    rw [if_pos hq, List.length_cons] at hsingle
    exact List.length_eq_zero_iff.1 (by omega)

theorem setAside_of_no_sweeps {others : List (Nat × Pending)}
    (h : others.filter (fun e => e.2.isSweep) = []) :
    (others.flatMap fun e => e.2.setAside) = [] := by
  refine List.flatMap_eq_nil_iff.2 fun e he => Pending.setAside_of_not_isSweep ?_
  exact Bool.eq_false_iff.2 (List.filter_eq_nil_iff.1 h e he)

theorem goOn_inRow {known gone : Multiset (Nat × Nat)} (horderly : f.Orderly c known gone)
    (now : Seconds) {before after : List (Nat × Pending)} {caller : Nat} {q : Pending}
    {r : q.Reply} (hr : q.Regular r) (hrunning : f.running = before ++ (caller, q) :: after)
    (h : f.InRow p) :
    (f.goOn (before ++ after) caller now q r).InRow
      (p.stocking (q.stocked now f.desk.pool.nextId r)) := by
  let arrived := q.stocked now f.desk.pool.nextId r
  have htends : (f.desk.proceed caller now q r).Tends
      (arrived ++ (q.setAside ++ f.desk.pool.idle)) (q.isSweep = true) :=
    f.desk.proceed_tends caller now q r
  obtain ⟨hothers, halone⟩ := h.alone hrunning
  have hset : f.setAside = (before.flatMap fun e => e.2.setAside) ++
      (q.setAside ++ after.flatMap fun e => e.2.setAside) := by
    rw [setAside, hrunning, List.flatMap_append, List.flatMap_cons]
  -- Either nothing but this operation has set anything aside, or this one has not.
  have hrow : ((before ++ after).flatMap fun e => e.2.setAside) ++
      (arrived ++ (q.setAside ++ f.desk.pool.idle)) =
        arrived ++ (f.setAside ++ f.desk.pool.idle) := by
    rw [hset]
    cases hq : q.isSweep with
    | true =>
      have hnothing := setAside_of_no_sweeps (halone hq)
      have hboth := hnothing
      rw [List.flatMap_append, List.append_eq_nil_iff] at hboth
      rw [hnothing, hboth.1, hboth.2]
      simp
    | false =>
      have harrived : arrived = [] := Pending.stocked_of_not_isSweep hq now _ r
      rw [harrived, Pending.setAside_of_not_isSweep hq, List.flatMap_append]
      simp
  refine ⟨land_layered htends ?_, land_single htends hothers halone, ?_⟩
  · rw [hrow]
    exact h.layered.stocking fun s hs hreturned =>
      horderly.stocked_new now q r s hs (h.opened s.id hreturned)
  · exact fun id hid => (Step.goOn f now r hr hrunning).openings (h.opened id hid)

/-- What a sweep has set aside and what rests stay in a row. -/
theorem Tended.inRow (h : Tended c name f p) : f.InRow p := by
  induction h with
  | new => exact new_inRow c name
  | begin hrun now call hsweep ih =>
    obtain ⟨known, gone, horderly⟩ := hrun.reachable.orderly
    exact begin_inRow horderly now call hsweep ih
  | spoil hrun lease ih => exact ⟨ih.layered, ih.single, ih.opened⟩
  | goOn hrun now r hr hrunning ih =>
    obtain ⟨known, gone, horderly⟩ := hrun.reachable.orderly
    exact goOn_inRow horderly now hr hrunning ih

/-! ### What callers get -/

/-- A stretch in which a checkout looks for a connection: its first one, or one in which it goes on
looking. -/
inductive Looks (f : Floor) : Desk.Stretch → Prop where
  | comes (now : Seconds) (timeout : Option Seconds) :
      f.Looks (f.desk.start now (.checkout timeout)).2
  | again {caller : Nat} {q : Pending} (now : Seconds) (r : q.Reply)
      (hrunning : (caller, q) ∈ f.running) (hseeks : q.Seeks r) :
      f.Looks (f.desk.proceed caller now q r)

/-- A caller that looks for a connection in an open pool gets the one at the warm end. -/
theorem Looks.takes {t : Desk.Stretch} {s : Slot} (h : f.Looks t)
    (hopen : f.desk.pool.closing = false) (hlast : f.desk.pool.idle.getLast? = some s) :
    t.state.pool.idle = f.desk.pool.idle.dropLast ∧ t.obtained = [s] := by
  cases h with
  | comes now timeout =>
    simp only [Desk.start, Desk.settle_pool, Desk.settle_obtained]
    exact Pool.seek_takes hopen hlast
  | again now r hrunning hseeks =>
    simp only [Desk.proceed, Desk.settle_pool, Desk.settle_obtained]
    exact Pool.proceed_takes _ now hseeks hopen hlast

/-- How connections rest, and which of them callers get. -/
structure WarmFirst (f : Floor) (p : Provenance) : Prop where
  /-- At the cold end are connections that sweeps have opened and nobody has returned, at the warm
  end those that were returned, in the order of their last return. -/
  layered : p.Layered f.desk.pool.idle
  /-- A checkout that looks for a connection takes the one at the warm end, if there is any. -/
  takes : ∀ t s, f.Looks t → f.desk.pool.closing = false → f.desk.pool.idle.getLast? = some s →
    t.state.pool.idle = f.desk.pool.idle.dropLast ∧ t.obtained = [s]
  /-- Any other that was returned was so for the last time before the one at the warm end. -/
  warmest : ∀ s, f.desk.pool.idle.getLast? = some s →
    ∀ x ∈ f.desk.pool.idle.dropLast, x.id ∈ p.returned → p.LastBefore x.id s.id
  /-- Nobody has returned the one at the warm end only if a sweep has opened it and none at rest was
  ever returned. -/
  unused : ∀ s, f.desk.pool.idle.getLast? = some s → s.id ∉ p.returned →
    s.id ∈ p.stocked ∧ ∀ x ∈ f.desk.pool.idle, x.id ∉ p.returned
  /-- A checkout that does not look for a connection leaves those at rest alone. -/
  elsewhere : ∀ caller q (r : q.Reply) now, (caller, q) ∈ f.running → q.IsVisit →
    f.Looks (f.desk.proceed caller now q r) ∨
      (f.desk.proceed caller now q r).state.pool.idle = f.desk.pool.idle

/-- However checkouts, returns, closings and one sweep at a time overlap, what rests is ordered
from connections nobody has returned to the one that was returned last, and callers get the
latter first. -/
theorem Tended.warmFirst (h : Tended c name f p) : f.WarmFirst p := by
  have hlayered : p.Layered f.desk.pool.idle :=
    h.inRow.layered.sublist (List.sublist_append_right _ _)
  refine ⟨hlayered, fun t s hlooks => hlooks.takes, fun s hs => (hlayered.last hs).1,
    fun s hs => (hlayered.last hs).2, ?_⟩
  intro caller q r now hrunning hq
  by_cases hseeks : q.Seeks r
  · exact .inl (.again now r hrunning hseeks)
  · right
    rw [Desk.proceed, Desk.settle_pool]
    exact Pool.proceed_idle caller now hq hseeks

/-- A pool that keeps three connections and has room for a fourth. -/
def roomy : PoolConfig := { maxSize := 4, minIdle := 3 }

/-- Of two callers one has returned its connection, and a sweep tests it when the other one returns
its own. -/
def overtaken : Floor :=
  let lent := (new roomy "default").begin 0 (.checkout (some 5))
  let lent := lent.goOn [] 0 1 (.opening (.visit ⟨0, some 5⟩)) (.ok 7)
  let both := lent.begin 2 (.checkout (some 5))
  let both := both.goOn [] 1 3 (.opening (.visit ⟨2, some 5⟩)) (.ok 8)
  ((both.begin 4 (.giveBack 0)).begin 5 .sweep).begin 6 (.giveBack 1)

/-- The sweep has put the first connection back and has opened a third one. -/
def restocked : Floor :=
  let alive := overtaken.goOn [] 3 7 (.testing ⟨7, 1, 1, 4⟩ (.sweep [] [])) (.ok true)
  let back := alive.goOn [] 3 8 (.pausing (.tests [⟨7, 1, 1, 4⟩])) ()
  let filling := back.goOn [] 3 9 (.pausing .fill) ()
  filling.goOn [] 3 10 (.opening .reserve) (.ok 9)

/-- The only operation in progress goes on. -/
theorem Tended.goOn_alone (h : Tended c name f p) (caller : Nat) (now : Seconds) (q : Pending)
    (r : q.Reply) (hr : q.Regular r) (hrunning : f.running = [(caller, q)]) :
    Tended c name (f.goOn [] caller now q r) (p.stocking (q.stocked now f.desk.pool.nextId r)) :=
  @Tended.goOn c name f p h now [] [] caller q r hr hrunning

theorem restocked_tended :
    ∃ p, Tended roomy "default" restocked p ∧ p.stocked = [3] ∧ p.returned = [1, 2] := by
  have hquiet : ∀ {f : Floor} {call : DeskCall}, call ≠ .sweep → call = .sweep → f.sweeps = [] :=
    fun hne heq => absurd heq hne
  have hnew : Tended roomy "default" (new roomy "default") {} := .new
  have hfirst := (hnew.begin 0 (.checkout (some 5)) (hquiet (by decide))).goOn_alone 0 1
    (.opening (.visit ⟨0, some 5⟩)) (.ok 7) trivial (by decide +kernel)
  have hsecond := (hfirst.begin 2 (.checkout (some 5)) (hquiet (by decide))).goOn_alone 1 3
    (.opening (.visit ⟨2, some 5⟩)) (.ok 8) trivial (by decide +kernel)
  have hovertaken := ((hsecond.begin 4 (.giveBack 0) (hquiet (by decide))).begin 5 .sweep
    (fun _ => by decide +kernel)).begin 6 (.giveBack 1) (hquiet (by decide))
  have hback := (hovertaken.goOn_alone 3 7 (.testing ⟨7, 1, 1, 4⟩ (.sweep [] [])) (.ok true)
    (fun _ hf => nomatch hf) (by decide +kernel)).goOn_alone 3 8
      (.pausing (.tests [⟨7, 1, 1, 4⟩])) () trivial (by decide +kernel)
  have hfilling := hback.goOn_alone 3 9 (.pausing .fill) () trivial (by decide +kernel)
  have hrestocked := hfilling.goOn_alone 3 10 (.opening .reserve) (.ok 9) trivial
    (by decide +kernel)
  exact ⟨_, hrestocked, by decide +kernel, by decide +kernel⟩

/-- The connection that was tested stands before the one that was returned meanwhile, and the new
one before both. -/
theorem warmFirst_restocked :
    ∃ p, Tended roomy "default" restocked p ∧ p.stocked = [3] ∧ p.returned = [1, 2] ∧
      restocked.desk.pool.idle.map Slot.id = [3, 1, 2] ∧ restocked.WarmFirst p := by
  obtain ⟨p, htended, hstocked, hreturned⟩ := restocked_tended
  exact ⟨p, htended, hstocked, hreturned, by decide +kernel, htended.warmFirst⟩

end Floor

end SqlGateway
