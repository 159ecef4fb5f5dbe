import Mathlib.Data.List.Nodup
import SqlGateway.Proofs.Pool.Stake
set_option autoImplicit false

/-!
# Pool: what a sweep retires

A sweep sorts the connections at rest once, from the coldest on, into those to retire
and those to keep.  A connection that has lived for too long is retired in any case.
One that has only rested for too long is retired while more than the least number
live, and each connection that has been retired before it counts as gone.
-/

namespace SqlGateway

namespace Pool

variable {c : PoolConfig} {now : Seconds} {remaining : Int} {slots : List Slot} {s : Slot}

/-- The warmer connections are sorted when the colder ones that are retired have left. -/
theorem triage_append (c : PoolConfig) (now : Seconds) (cold warm : List Slot) : ∀ remaining : Int,
    triage c now remaining (cold ++ warm) =
      ((triage c now remaining cold).1 ++
          (triage c now (remaining - (triage c now remaining cold).1.length) warm).1,
        (triage c now remaining cold).2 ++
          (triage c now (remaining - (triage c now remaining cold).1.length) warm).2) := by
  induction cold with
  | nil => intro remaining; simp [triage]
  | cons s cold ih =>
    intro remaining
    simp only [List.cons_append, triage]
    split
    · simp only [ih, List.cons_append, List.length_cons]
      have hgone : ∀ n : Nat, remaining - 1 - (n : Int) = remaining - ((n + 1 : Nat) : Int) := by
        intro n; omega
      rw [hgone]
    · simp only [ih, List.cons_append]

/-- Both parts are in the order of the connections at rest. -/
theorem triage_sublists (c : PoolConfig) (now : Seconds) (slots : List Slot) :
    ∀ remaining : Int, ((triage c now remaining slots).1.map Prod.fst).Sublist slots ∧
      (triage c now remaining slots).2.Sublist slots := by
  induction slots with
  | nil => intro remaining; exact ⟨.refl _, .refl _⟩
  | cons s rest ih =>
    intro remaining
    simp only [triage]
    split
    · exact ⟨(ih (remaining - 1)).1.cons_cons s, (ih (remaining - 1)).2.cons s⟩
    · exact ⟨(ih remaining).1.cons s, (ih remaining).2.cons_cons s⟩

/-- What is retired has lived for too long, or has only rested for too long. -/
theorem triage_reason (slots : List Slot) : ∀ (remaining : Int) (x : Slot × RetireReason),
    x ∈ (triage c now remaining slots).1 →
      (x.2 = .maxLifetime ∧ livedOut c x.1 now = true) ∨
        (x.2 = .idleTimeout ∧ livedOut c x.1 now = false ∧ restedOut c x.1 now = true) := by
  induction slots with
  | nil => intro remaining x hx; simp [triage] at hx
  | cons s rest ih =>
    intro remaining x hx
    simp only [triage] at hx
    split at hx
    next reason hreason =>
      rcases List.mem_cons.1 hx with rfl | hlater
      · split at hreason
        next hold => exact .inl ⟨by simpa using hreason.symm, hold⟩
        next hyoung =>
          split at hreason
          next hrested =>
            simp only [Bool.and_eq_true] at hrested
            exact .inr ⟨by simpa using hreason.symm, by simpa using hyoung, hrested.1⟩
          next => cases hreason
      · exact ih _ x hlater
    next => exact ih _ x hx

/-- What is kept has not lived for too long. -/
theorem triage_young (slots : List Slot) : ∀ remaining : Int,
    ∀ s ∈ (triage c now remaining slots).2, livedOut c s now = false := by
  induction slots with
  | nil => intro remaining s hs; simp [triage] at hs
  | cons first rest ih =>
    intro remaining s hs
    simp only [triage] at hs
    split at hs
    next => exact ih _ s hs
    next hreason =>
      rcases List.mem_cons.1 hs with rfl | hlater
      · refine Bool.eq_false_iff.2 fun hold => ?_
        rw [if_pos hold] at hreason
        cases hreason
      · exact ih _ s hlater

/-- No connection is on both sides, when none is at rest twice. -/
theorem triage_disjoint (hnodup : slots.Nodup) :
    ((triage c now remaining slots).1.map Prod.fst).Disjoint (triage c now remaining slots).2 :=
  List.disjoint_of_nodup_append ((triage_perm c now slots remaining).nodup_iff.2 hnodup)

theorem triage_mem_or (remaining : Int) (hs : s ∈ slots) :
    s ∈ (triage c now remaining slots).1.map Prod.fst ∨ s ∈ (triage c now remaining slots).2 :=
  List.mem_append.1 ((triage_perm c now slots remaining).mem_iff.2 hs)

/-- A connection is retired for its age exactly if it has lived for too long. -/
theorem triage_old (remaining : Int) (slots : List Slot) (s : Slot) :
    (s, RetireReason.maxLifetime) ∈ (triage c now remaining slots).1 ↔
      s ∈ slots ∧ livedOut c s now = true := by
  constructor
  · intro hs
    have hmem := (triage_sublists c now slots remaining).1.subset (List.mem_map_of_mem hs)
    rcases triage_reason slots remaining _ hs with ⟨-, hold⟩ | ⟨hreason, -⟩
    · exact ⟨hmem, hold⟩
    · cases hreason
  · rintro ⟨hs, hold⟩
    rcases triage_mem_or remaining hs with hretired | hkept
    · obtain ⟨⟨t, reason⟩, hx, rfl⟩ := List.mem_map.1 hretired
      rcases triage_reason slots remaining _ hx with ⟨hreason, -⟩ | ⟨-, hyoung, -⟩
      · cases hreason
        exact hx
      · exact absurd (hyoung.symm.trans hold) (by decide)
    · have hyoung := triage_young slots remaining s hkept
      exact absurd (hyoung.symm.trans hold) (by decide)

/-- Among the colder connections, those that are retired are counted. -/
theorem triage_countP (remaining : Int) (hnodup : slots.Nodup) :
    slots.countP (fun t => t ∈ (triage c now remaining slots).1.map Prod.fst) =
      (triage c now remaining slots).1.length := by
  have hgone : (triage c now remaining slots).2.countP
      (fun t => t ∈ (triage c now remaining slots).1.map Prod.fst) = 0 := by
    refine List.countP_eq_zero.2 fun t ht hretired => ?_
    exact triage_disjoint hnodup (of_decide_eq_true hretired) ht
  have hall : ((triage c now remaining slots).1.map Prod.fst).countP
      (fun t => t ∈ (triage c now remaining slots).1.map Prod.fst) =
        ((triage c now remaining slots).1.map Prod.fst).length :=
    List.countP_eq_length.2 fun t ht => decide_eq_true ht
  rw [← (triage_perm c now slots remaining).countP_eq, List.countP_append, hgone, hall,
    List.length_map, Nat.add_zero]

/-- A connection is retired for its rest exactly if that has been too long, its life has not, and
more than the least number still live when those colder than it have been retired. -/
theorem triage_rested {cold warm : List Slot} (hnodup : (cold ++ s :: warm).Nodup) :
    (s, RetireReason.idleTimeout) ∈ (triage c now remaining (cold ++ s :: warm)).1 ↔
      livedOut c s now = false ∧ restedOut c s now = true ∧
        (c.minIdle : Int) < remaining - (cold.countP fun t =>
          t ∈ (triage c now remaining (cold ++ s :: warm)).1.map Prod.fst : Nat) := by
  obtain ⟨hcold, hrest, hapart⟩ := List.nodup_append'.1 hnodup
  obtain ⟨hs, -⟩ := List.nodup_cons.1 hrest
  have hsplit := triage_append c now cold (s :: warm) remaining
  let left := remaining - ((triage c now remaining cold).1.length : Int)
  -- Of the colder connections, those count that were retired when they were sorted.
  have hcount : (cold.countP fun t =>
      t ∈ (triage c now remaining (cold ++ s :: warm)).1.map Prod.fst) =
        (triage c now remaining cold).1.length := by
    rw [← triage_countP remaining hcold]
    refine List.countP_congr fun t ht => ?_
    have hlater : t ∉ (triage c now left (s :: warm)).1.map Prod.fst := fun hmem =>
      hapart ht ((triage_sublists c now (s :: warm) left).1.subset hmem)
    simp only [hsplit, List.map_append, List.mem_append, decide_eq_true_eq]
    exact or_iff_left hlater
  have hearlier : (s, RetireReason.idleTimeout) ∉ (triage c now remaining cold).1 := fun hmem =>
    hapart ((triage_sublists c now cold remaining).1.subset (List.mem_map_of_mem hmem))
      List.mem_cons_self
  have hwarmer : ∀ n, (s, RetireReason.idleTimeout) ∉ (triage c now n warm).1 := fun n hmem =>
    hs ((triage_sublists c now warm n).1.subset (List.mem_map_of_mem hmem))
  rw [hcount, hsplit, List.mem_append, or_iff_right hearlier]
  simp only [triage]
  cases hold : livedOut c s now with
  | true => simp [hwarmer]
  | false =>
    cases hlong : restedOut c s now with
    | false => simp [hwarmer]
    | true =>
      by_cases hmore :
        (c.minIdle : Int) < remaining - ((triage c now remaining cold).1.length : Int)
      · simp [hmore]
      · simp [hmore, hwarmer]

end Pool

end SqlGateway
