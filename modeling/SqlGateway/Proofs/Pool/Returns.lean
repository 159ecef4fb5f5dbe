import Mathlib.Logic.Relation
import SqlGateway.Proofs.Pool.Ownership
set_option autoImplicit false

/-!
# Pool: returns

A connection that is returned in health rests, unless the pool is closed or the
connection has lived for too long.  One that is not healthy is to be closed for just that
reason, whatever else may be true of it; and once a connection is to be closed, nothing
that follows brings it back.
-/

namespace SqlGateway

namespace Desk

variable {d : Desk} {lease : Nat} {slot : Slot} {healthy : Bool}

/-- Where a stretch puts the connection that is returned in it: it is the last to rest, or it is to
be closed for a reason, and what rests stays as it was. -/
def Stretch.Puts (t : Stretch) (idle : List Slot) (now : Seconds) (s : Slot) :
    Option RetireReason → Prop
  | none => t.progress = .done (.ok none) ∧ t.state.pool.idle = idle ++ [{ s with lastUsed := now }]
  | some reason => t.progress = .needs (.closing s reason .returned) ∧ t.state.pool.idle = idle

/-- What becomes of a connection that is returned: nothing but its health decides whether it is
closed as unhealthy, and in health it is closed only where it could not rest. -/
theorem start_giveBack_puts (now : Seconds)
    (hlease : d.leases[lease]? = some ⟨slot, healthy, false⟩) :
    ∃ fate, (d.start now (.giveBack lease)).2.Puts d.pool.idle now slot fate ∧
      (fate = some .unhealthy ↔ healthy = false) ∧
      (fate = none ∨ fate = some .unhealthy ∨ (fate = some .poolClosed ∧ d.pool.closing = true) ∨
        (fate = some .maxLifetime ∧ Pool.livedOut d.pool.config slot now = true)) := by
  have hstart : (d.start now (.giveBack lease)).2 =
      ({ d with nextCaller := d.nextCaller + 1,
                leases := d.leases.set lease ⟨slot, healthy, true⟩ } : Desk).settle
        (d.pool.startReturn now slot healthy) := by
    simp [start, giveBack, hlease]
  rw [hstart]
  cases healthy with
  | false => exact ⟨some .unhealthy, ⟨rfl, rfl⟩, by simp, .inr (.inl rfl)⟩
  | true =>
    unfold Pool.startReturn
    cases hclosing : d.pool.closing with
    | true => exact ⟨some .poolClosed, ⟨rfl, rfl⟩, by simp, .inr (.inr (.inl ⟨rfl, rfl⟩))⟩
    | false =>
      cases hold : Pool.livedOut d.pool.config slot now with
      | true =>
        refine ⟨some .maxLifetime, ⟨?_, ?_⟩, by simp, .inr (.inr (.inr ⟨rfl, rfl⟩))⟩
        all_goals simp [hold, settle, Turn.asks]
      | false =>
        refine ⟨none, ⟨?_, ?_⟩, by simp, .inl rfl⟩
        all_goals simp [hold, settle, Turn.ends, Pool.call]

end Desk

namespace Floor

variable {f g : Floor} {c : PoolConfig} {name : String} {lease : Nat} {slot : Slot}

/-! ## What follows -/

theorem Reachable.steps (h : Reachable c name f) (hsteps : Relation.ReflTransGen Step f g) :
    Reachable c name g := by
  induction hsteps with
  | refl => exact h
  | tail _ hstep ih => exact ih.step hstep

/-- A step adds to what has happened. -/
theorem Step.history (h : Step f g) : f.history <+: g.history := by
  cases h with
  | begin now q => exact ⟨[] ++ _, (List.append_assoc ..).symm⟩
  | spoil lease => exact List.prefix_refl _
  | goOn now r hr hrunning => exact ⟨_ ++ _, (List.append_assoc ..).symm⟩

theorem steps_history (hsteps : Relation.ReflTransGen Step f g) : f.history <+: g.history := by
  induction hsteps with
  | refl => exact List.prefix_refl _
  | tail _ hstep ih => exact ih.trans hstep.history

/-- The floor is done with a connection: it has asked the provider to close it, and whatever
follows, as long as the provider opens fresh connections, it is neither handed out nor tested nor
closed once more, and does not rest. -/
def DoneWith (f : Floor) (slot : Slot) : Prop :=
  .closed slot ∈ f.history ∧ ∀ g, Relation.ReflTransGen Step f g → g.Fresh →
    ∃ later, g.history = f.history ++ later ∧ ∀ s : Slot, s.raw = slot.raw →
      s ∉ g.desk.pool.idle ∧ .tested s ∉ later ∧ .lent s ∉ later ∧ .closed s ∉ later

/-- The return of an unhealthy connection is the last that happens to it. -/
theorem Reachable.doneWith (h : Reachable c name f) (now : Seconds)
    (hlease : f.desk.leases[lease]? = some ⟨slot, false, false⟩) :
    (f.begin now (.giveBack lease)).DoneWith slot := by
  have hneeds : (f.desk.start now (.giveBack lease)).2.progress =
      .needs (.closing slot .unhealthy .returned) := by
    obtain ⟨fate, hputs, hunhealthy, -⟩ := Desk.start_giveBack_puts now hlease
    rw [hunhealthy.2 rfl] at hputs
    exact hputs.1
  have hbegun : (f.begin now (.giveBack lease)).history = f.history ++ [.closed slot] := by
    simp [begin, land, Happening.after, hneeds]
  refine ⟨by simp [hbegun], fun g hsteps hfresh => ?_⟩
  obtain ⟨later, hlater⟩ := steps_history hsteps
  have hreachable : Reachable c name g := (h.step (.begin f now (.giveBack lease))).steps hsteps
  obtain ⟨-, -, -, -, hover⟩ := hreachable.exclusive hfresh
  refine ⟨later, hlater.symm, hover slot f.history later ?_⟩
  rw [← hlater, hbegun, List.append_assoc]
  rfl

end Floor

end SqlGateway
