import SqlGateway.Proofs.Pool.Floor
set_option autoImplicit false

/-!
# Pool: who owns a connection

Every connection that the provider has opened is kept at exactly one place, or it has
been handed to the provider to be closed, exactly once.  The places are the pool, a
lease that has not been given back, and an operation in progress.  From this it follows
that nothing happens to a connection any more once it is to be closed.
-/

namespace SqlGateway

namespace Pending

/-- The connections of an operation that are not being closed. -/
def kept (q : Pending) : List Slot := q.owned.drop q.leaving.length

theorem leaving_append_kept (q : Pending) : q.leaving ++ q.kept = q.owned := by
  cases q <;> rfl

end Pending

/-! ## Hand-outs -/

namespace Desk

/-- A stretch that ends with a lease has just made it. -/
def Stretch.Lends (t : Stretch) : Prop :=
  ∀ lease, t.progress = .done (.ok (some lease)) →
    ∃ s, t.state.leases[lease]? = some { slot := s }

theorem settle_lends (d : Desk) (t : Pool.Stretch) : (d.settle t).Lends := by
  intro lease hlease
  unfold settle at hlease ⊢
  split at hlease
  · cases hlease
  · cases hlease
  · cases hlease
  next s hs =>
    cases hlease
    exact ⟨s, by simp⟩

theorem giveBack_lends (d : Desk) (now : Seconds) (lease : Nat) : (d.giveBack now lease).Lends := by
  unfold giveBack
  split
  · intro n hn
    cases hn
  · split
    · intro n hn
      cases hn
    · exact settle_lends _ _

theorem start_lends (d : Desk) (now : Seconds) (q : DeskCall) : (d.start now q).2.Lends := by
  cases q with
  | giveBack lease => exact giveBack_lends _ now lease
  | _ => exact settle_lends _ _

end Desk

namespace Happening

/-- What may still happen after something else: once a connection is to be closed, it is not
tested, closed or handed out any more. -/
def Allows : Happening → Happening → Prop
  | .closed s, .tested t | .closed s, .closed t | .closed s, .lent t => t.raw ≠ s.raw
  | _, _ => True

theorem opened_allows (s : Slot) (e : Happening) : Allows (.opened s) e := by
  cases e <;> trivial

/-- At most one thing happens at the end of a stretch. -/
theorem after_pairwise (t : Desk.Stretch) : (after t).Pairwise Allows := by
  unfold after
  split
  · exact List.pairwise_singleton _ _
  · exact List.pairwise_singleton _ _
  next lease hlease =>
    cases t.state.leases[lease]? <;> simp
  · exact List.Pairwise.nil

end Happening

namespace Floor

variable {f : Floor} {c : PoolConfig} {known gone : Multiset (Nat × Nat)}

/-! ## Places -/

/-- Every connection, at every place where there is one. -/
def places (f : Floor) : List Slot :=
  f.desk.pool.idle ++ f.desk.lent.map Lease.slot ++ f.running.flatMap fun e => e.2.owned

/-- The connections that are not being closed. -/
def keepers (f : Floor) : List Slot :=
  f.desk.pool.idle ++ f.desk.lent.map Lease.slot ++ f.running.flatMap fun e => e.2.kept

/-- The provider never opened the same connection twice. -/
def Fresh (f : Floor) : Prop := ((Happening.openings f.history).map Slot.raw).Nodup

theorem inProgress_keys (f : Floor) :
    f.inProgress.keys =
      ((f.running.flatMap fun e => e.2.owned).map Slot.key : Multiset (Nat × Nat)) := by
  unfold inProgress
  induction f.running with
  | nil => rfl
  | cons e rest ih =>
    simp [Pending.stake_keys, ih]

theorem owned_perm (f : Floor) :
    (f.running.flatMap fun e => e.2.owned).Perm
      (f.leaving ++ f.running.flatMap fun e => e.2.kept) := by
  have howned : (fun e : Nat × Pending => e.2.owned) = fun e => e.2.leaving ++ e.2.kept := by
    funext e
    exact e.2.leaving_append_kept.symm
  rw [howned]
  exact (List.flatMap_append_perm _ _ _).symm

/-- What is on record is what the places hold. -/
theorem Orderly.places (h : f.Orderly c known gone) :
    (f.places.map Slot.key : Multiset (Nat × Nat)) = known := by
  have hkeys := h.settled.keys
  simp only [Stake.keys_add, inProgress_keys, Desk.stake_keys] at hkeys
  rw [← hkeys]
  simp only [Floor.places, List.map_append, ← Multiset.coe_add]
  abel

/-- Every connection that was opened is kept at one place, or was to be closed, once. -/
theorem Orderly.partition (h : f.Orderly c known gone) :
    ((f.keepers ++ Happening.closings f.history).map Slot.key).Perm
      ((Happening.openings f.history).map Slot.key) := by
  have hplaces := h.places
  have howned := Multiset.coe_eq_coe.2 ((owned_perm f).map Slot.key)
  rw [← Multiset.coe_eq_coe, h.opened, ← hplaces, List.map_append, ← Multiset.coe_add, h.closed]
  simp only [Floor.places, keepers, List.map_append, ← Multiset.coe_add] at howned ⊢
  rw [howned]
  abel

/-- With a provider that opens fresh connections, no connection is at two places, and none is both
kept and closed. -/
theorem Orderly.raws_nodup (h : f.Orderly c known gone) (hfresh : f.Fresh) :
    ((f.keepers ++ Happening.closings f.history).map Slot.raw).Nodup := by
  have hraws := h.partition.map Prod.fst
  simp only [List.map_map] at hraws
  exact hraws.nodup_iff.2 hfresh

/-- What is kept is not to be closed. -/
theorem Orderly.kept_ne_closed (h : f.Orderly c known gone) (hfresh : f.Fresh) {s t : Slot}
    (hs : .closed s ∈ f.history) (ht : t ∈ f.keepers) : t.raw ≠ s.raw := by
  have hnodup := h.raws_nodup hfresh
  rw [List.map_append, List.nodup_append] at hnodup
  have hclosed : s ∈ Happening.closings f.history :=
    List.mem_filterMap.2 ⟨.closed s, hs, rfl⟩
  exact hnodup.2.2 _ (List.mem_map_of_mem ht) _ (List.mem_map_of_mem hclosed)

/-! ## Histories -/

/-- A new floor's history shows what the operations do from then on. -/
theorem Fresh.of_land {others : List (Nat × Pending)} {arrived : List Slot} {caller : Nat}
    {t : Desk.Stretch} (h : (f.land others (arrived.map .opened) caller t).Fresh) : f.Fresh := by
  unfold Fresh at h ⊢
  rw [openings_land, List.map_append] at h
  exact (List.nodup_append.1 h).1

/-- What is tested or handed out at the end of a stretch is kept after it. -/
theorem keepers_of_after {others : List (Nat × Pending)} {news : List Happening} {caller : Nat}
    {t : Desk.Stretch} (hlends : t.Lends) {s : Slot}
    (hs : .tested s ∈ Happening.after t ∨ .lent s ∈ Happening.after t) :
    s ∈ (f.land others news caller t).keepers := by
  unfold Happening.after at hs
  split at hs
  next s' use hneeds =>
    obtain rfl : s = s' := by simpa using hs
    simp [keepers, land, hneeds, Pending.kept, Pending.owned, Pending.leaving, Pending.borrowed,
      Pending.unsettled]
    cases use <;> simp
  · simp at hs
  next lease hdone =>
    obtain ⟨s', hget⟩ := hlends lease hdone
    obtain rfl : s = s' := by simpa [hget] using hs
    have hlent : { slot := s } ∈ t.state.lent :=
      List.mem_filter.2 ⟨List.mem_of_getElem? hget, rfl⟩
    simp only [keepers, land, List.mem_append, List.mem_map]
    exact .inl (.inr ⟨_, hlent, rfl⟩)
  · simp at hs

/-- Nothing is closed at the end of a stretch that was to be closed before. -/
theorem closed_ne_after {others : List (Nat × Pending)} {arrived : List Slot} {caller : Nat}
    {t : Desk.Stretch}
    (h : (f.land others (arrived.map .opened) caller t).Orderly c known gone)
    (hfresh : (f.land others (arrived.map .opened) caller t).Fresh) {s s' : Slot}
    (hs : .closed s ∈ f.history) (hs' : .closed s' ∈ Happening.after t) : s'.raw ≠ s.raw := by
  have hraws := h.raws_nodup hfresh
  rw [List.map_append, List.nodup_append, closings_land, List.map_append,
    List.nodup_append] at hraws
  obtain ⟨-, ⟨-, -, hne⟩, -⟩ := hraws
  have hbefore : s ∈ Happening.closings f.history :=
    List.mem_filterMap.2 ⟨.closed s, hs, rfl⟩
  have hlater : s' ∈ leavingAfter t := by
    rw [← closings_after]
    exact List.mem_filterMap.2 ⟨.closed s', hs', rfl⟩
  exact (hne _ (List.mem_map_of_mem hbefore) _ (List.mem_map_of_mem hlater)).symm

/-- A stretch adds only what its floor's history allows. -/
theorem land_allowed {others : List (Nat × Pending)} {arrived : List Slot} {caller : Nat}
    {t : Desk.Stretch} (hlends : t.Lends)
    (h : (f.land others (arrived.map .opened) caller t).Orderly c known gone)
    (hfresh : (f.land others (arrived.map .opened) caller t).Fresh)
    (hhistory : f.history.Pairwise Happening.Allows) :
    (f.land others (arrived.map .opened) caller t).history.Pairwise Happening.Allows := by
  have hlanded : (f.land others (arrived.map .opened) caller t).history =
      f.history ++ (arrived.map Happening.opened ++ Happening.after t) := by
    simp [land]
  rw [hlanded, List.pairwise_append, List.pairwise_append, List.pairwise_map]
  refine ⟨hhistory, ⟨?_, Happening.after_pairwise t, ?_⟩, ?_⟩
  · exact List.pairwise_of_forall fun s s' => Happening.opened_allows s (.opened s')
  · intro e he e' _
    obtain ⟨s, -, rfl⟩ := List.mem_map.1 he
    exact Happening.opened_allows s e'
  · intro e he e' he'
    cases e with
    | closed s =>
      have hs : .closed s ∈ (f.land others (arrived.map .opened) caller t).history := by
        rw [hlanded]
        exact List.mem_append_left _ he
      cases e' with
      | opened s' => trivial
      | tested s' =>
        have hafter : .tested s' ∈ Happening.after t := by simpa using he'
        exact h.kept_ne_closed hfresh hs (keepers_of_after hlends (.inl hafter))
      | lent s' =>
        have hafter : .lent s' ∈ Happening.after t := by simpa using he'
        exact h.kept_ne_closed hfresh hs (keepers_of_after hlends (.inr hafter))
      | closed s' =>
        have hafter : .closed s' ∈ Happening.after t := by simpa using he'
        exact closed_ne_after h hfresh he hafter
    | _ => cases e' <;> trivial

/-- One step adds only what the history allows. -/
theorem Step.allowed {g : Floor} (hstep : Step f g) (h : g.Orderly c known gone)
    (hfresh : g.Fresh) :
    f.Fresh ∧ (f.history.Pairwise Happening.Allows → g.history.Pairwise Happening.Allows) := by
  cases hstep with
  | begin now q =>
    have hlends := Desk.start_lends f.desk now q
    have hnews : f.begin now q =
        f.land f.running (([] : List Slot).map .opened) (f.desk.start now q).1
          (f.desk.start now q).2 := rfl
    rw [hnews] at h hfresh ⊢
    exact ⟨Fresh.of_land hfresh, land_allowed hlends h hfresh⟩
  | spoil lease => exact ⟨hfresh, id⟩
  | goOn now r hr hrunning =>
    exact ⟨Fresh.of_land hfresh, land_allowed (Desk.settle_lends _ _) h hfresh⟩

/-- So does a run. -/
theorem Reachable.allowed {name : String} (h : Reachable c name f) :
    f.Fresh → f.history.Pairwise Happening.Allows := by
  induction h with
  | new => exact fun _ => List.Pairwise.nil
  | step hreachable hstep ih =>
    intro hfresh
    obtain ⟨known, gone, horderly⟩ := (hreachable.step hstep).orderly
    obtain ⟨hbefore, hkeeps⟩ := hstep.allowed horderly hfresh
    exact hkeeps (ih hbefore)

/-! ## Owners -/

/-- What tells apart the connections that were opened tells apart those at the places. -/
theorem Orderly.places_nodup {β : Type} (h : f.Orderly c known gone) (g : Nat × Nat → β)
    (hopenings : ((Happening.openings f.history).map fun s => g s.key).Nodup) :
    (f.places.map fun s => g s.key).Nodup := by
  have hle : (f.places.map Slot.key : Multiset (Nat × Nat)) ≤
      (Happening.openings f.history).map Slot.key := by
    rw [h.places, h.opened]
    exact Multiset.le_add_right known gone
  have hmapped := Multiset.map_le_map (f := g) hle
  simp only [Multiset.map_coe, List.map_map] at hmapped
  exact Multiset.coe_nodup.1 (Multiset.nodup_of_le hmapped (Multiset.coe_nodup.2 hopenings))

/-- No two connections have the same number of the pool. -/
theorem Orderly.ids_nodup (h : f.Orderly c known gone) :
    ((Happening.openings f.history).map Slot.id).Nodup := by
  rw [h.numbered]
  exact List.nodup_range'

/-- A connection is at one place at a time; no number is given twice; nothing is closed twice; and
what is to be closed neither rests, nor is tested, nor handed out again. -/
theorem Reachable.exclusive {name : String} (h : Reachable c name f) (hfresh : f.Fresh) :
    (f.places.map Slot.raw).Nodup ∧ (f.places.map Slot.id).Nodup ∧
      ((Happening.openings f.history).map Slot.id).Nodup ∧
      ((Happening.closings f.history).map Slot.raw).Nodup ∧
      ∀ s earlier later, f.history = earlier ++ .closed s :: later →
        ∀ t : Slot, t.raw = s.raw →
          t ∉ f.desk.pool.idle ∧ .tested t ∉ later ∧ .lent t ∉ later ∧ .closed t ∉ later := by
  obtain ⟨known, gone, horderly⟩ := h.orderly
  have hnodup := horderly.raws_nodup hfresh
  rw [List.map_append] at hnodup
  refine ⟨horderly.places_nodup Prod.fst hfresh,
    horderly.places_nodup Prod.snd horderly.ids_nodup, horderly.ids_nodup,
    (List.nodup_append.1 hnodup).2.1, ?_⟩
  intro s earlier later hhistory t hraw
  have hallowed := h.allowed hfresh
  rw [hhistory, List.pairwise_append, List.pairwise_cons] at hallowed
  obtain ⟨-, ⟨hlater, -⟩, -⟩ := hallowed
  refine ⟨?_, fun ht => hlater _ ht hraw, fun ht => hlater _ ht hraw, fun ht => hlater _ ht hraw⟩
  intro hidle
  have hclosed : .closed s ∈ f.history := by
    rw [hhistory]
    exact List.mem_append_right _ List.mem_cons_self
  have hkept : t ∈ f.keepers := List.mem_append_left _ (List.mem_append_left _ hidle)
  exact horderly.kept_ne_closed hfresh hclosed hkept hraw

/-- While a spoiled connection is being closed it is at its place with the operation, and a caller
waits for it in vain. -/
theorem exclusive_crowded :
    Reachable single "default" crowded ∧ crowded.Fresh ∧ (crowded.places.map Slot.raw) = [7] ∧
      (crowded.places.map Slot.raw).Nodup ∧ (crowded.places.map Slot.id).Nodup ∧
      ((Happening.openings crowded.history).map Slot.id).Nodup ∧
      ((Happening.closings crowded.history).map Slot.raw).Nodup ∧
      ∀ s earlier later, crowded.history = earlier ++ .closed s :: later →
        ∀ t : Slot, t.raw = s.raw →
          t ∉ crowded.desk.pool.idle ∧ .tested t ∉ later ∧ .lent t ∉ later ∧
            .closed t ∉ later := by
  have hfresh : crowded.Fresh := by
    unfold Fresh
    decide +kernel
  exact ⟨crowded_reachable, hfresh, by decide +kernel, crowded_reachable.exclusive hfresh⟩

end Floor

end SqlGateway
