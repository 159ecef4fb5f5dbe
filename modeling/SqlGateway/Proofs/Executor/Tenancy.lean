import SqlGateway.Proofs.Executor.TransactionLife
import SqlGateway.Proofs.Pool.Ownership
set_option autoImplicit false

/-!
# Executor: leases at an office

A host at an office has its leases at a desk that others use too.  They are at the desk
whenever a caller is not: while the driver, the provider or the clock is asked, and
while something is reported.  `Outside` says how much they may change meanwhile, as a
relation between the desk before and after.  From it follows the custody of a lease,
and with it what a transaction leaves behind in the pool.
-/

namespace SqlGateway

/-! ## What happens outside -/

namespace Office

variable {σ : Type}

/-- Whatever happens outside a desk stays within a relation between the desk before and after. -/
structure Outside (o : Office σ) (calls : DriverCalls σ) (R : Desk → Desk → Prop) : Prop where
  tell (n : Notice) (s : σ) : R (o.desk s) (o.desk (o.tell n s).2)
  now (s : σ) : R (o.desk s) (o.desk (o.surroundings.now s).2)
  close (raw : Nat) (s : σ) : R (o.desk s) (o.desk (o.surroundings.closeConnection raw s).2)
  begin (conn : Nat) (s : σ) : R (o.desk s) (o.desk ((calls.begin conn).run s).2)
  commit (conn : Nat) (s : σ) : R (o.desk s) (o.desk ((calls.commit conn).run s).2)
  rollback (conn : Nat) (s : σ) : R (o.desk s) (o.desk ((calls.rollback conn).run s).2)
  interrupt (conn : Nat) (s : σ) : R (o.desk s) (o.desk ((calls.interrupt conn).run s).2)
  execute (conn : Nat) (sql : String) (params : List Native) (alarm : Option Seconds)
    (onAlarm : StateM σ Unit) (halarm : ∀ s, R (o.desk s) (o.desk (onAlarm s).2)) (s : σ) :
    R (o.desk s) (o.desk (calls.execute conn sql params alarm onAlarm s).2)

variable {o : Office σ} {calls : DriverCalls σ} {R : Desk → Desk → Prop} {s : σ}
  {t : Desk.Stretch} {q : Pending} {caller fuel : Nat}

/-! ### Turns -/

theorem carryOn_done {r : Except Failure (Option Nat)} (h : t.progress = .done r) :
    o.carryOn caller fuel t s = (r, (o.take t s).2) := by
  unfold carryOn
  simp [bind, StateT.bind, h]
  rfl

theorem carryOn_spent (h : t.progress = .needs q) :
    o.carryOn caller 0 t s = (.error unfinished, (o.take t s).2) := by
  unfold carryOn
  simp [bind, StateT.bind, h]
  rfl

theorem carryOn_needs {r : q.Reply} {now : Seconds} {s₁ s₂ : σ} (h : t.progress = .needs q)
    (hreply : o.surroundings.reply q (o.take t s).2 = (r, s₁))
    (hnow : o.surroundings.now s₁ = (now, s₂)) :
    o.carryOn caller (fuel + 1) t s =
      o.carryOn caller fuel ((o.desk s₂).proceed caller now q r) s₂ := by
  conv_lhs => unfold carryOn
  rcases htake : o.take t s with ⟨_, s₀⟩
  rw [htake] at hreply
  simp [bind, StateT.bind, h, htake, hreply, hnow]
  rfl

/-- A call that comes to an end has a last stretch, and what holds of the first and is kept from
one to the next holds of the last. -/
theorem carryOn_ends {Inv : Desk.Stretch → Prop} {r : Except Failure (Option Nat)} {s' : σ}
    (hgoesOn : ∀ {t s q r s₁ now s₂}, Inv t → t.progress = .needs q →
      o.surroundings.reply q (o.take t s).2 = (r, s₁) → o.surroundings.now s₁ = (now, s₂) →
        Inv ((o.desk s₂).proceed caller now q r))
    (ht : Inv t) (hcarried : o.carryOn caller fuel t s = (r, s')) (hends : r ≠ .error unfinished) :
    ∃ last s₀, Inv last ∧ last.progress = .done r ∧ s' = (o.take last s₀).2 := by
  induction fuel generalizing t s with
  | zero =>
    cases hp : t.progress with
    | needs q =>
      rw [carryOn_spent hp] at hcarried
      cases hcarried
      exact absurd rfl hends
    | done r =>
      rw [carryOn_done hp] at hcarried
      cases hcarried
      exact ⟨t, s, ht, hp, rfl⟩
  | succ fuel ih =>
    cases hp : t.progress with
    | needs q =>
      rcases hreply : o.surroundings.reply q (o.take t s).2 with ⟨reply, s₁⟩
      rcases hnow : o.surroundings.now s₁ with ⟨now, s₂⟩
      rw [carryOn_needs hp hreply hnow] at hcarried
      exact ih (hgoesOn ht hp hreply hnow) hcarried
    | done r =>
      rw [carryOn_done hp] at hcarried
      cases hcarried
      exact ⟨t, s, ht, hp, rfl⟩

theorem call_eq {now : Seconds} {s₁ : σ} (c : DeskCall) (hnow : o.surroundings.now s = (now, s₁)) :
    o.call c s =
      o.carryOn ((o.desk s₁).start now c).1 o.turns ((o.desk s₁).start now c).2 s₁ := by
  unfold call
  simp [bind, StateT.bind, hnow]
  rfl

namespace Outside

variable [IsPreorder Desk R]

theorem tellAll (hout : o.Outside calls R) (notices : List Notice) (s : σ) :
    R (o.desk s) (o.desk (notices.forM o.tell s).2) := by
  induction notices generalizing s with
  | nil => exact refl_of R _
  | cons n rest ih => exact trans_of R (hout.tell n s) (ih _)

/-- What a stretch leaves at the desk, others find there. -/
theorem take (hout : o.Outside calls R) (t : Desk.Stretch) (s : σ) :
    R t.state (o.desk (o.take t s).2) := by
  have htold := hout.tellAll t.notices (o.setDesk t.state s)
  rw [o.desk_setDesk] at htold
  exact htold

theorem interruptStatement (hout : o.Outside calls R) (driver : Driver)
    (patience : Option Seconds) (conn : Nat) (s : σ) :
    R (o.desk s) (o.desk ((o.host driver calls patience).interruptStatement conn s).2) := by
  have hinterrupt := hout.interrupt conn s
  rcases hr : (calls.interrupt conn).run s with ⟨f | delivered, s'⟩ <;> rw [hr] at hinterrupt
  · by_cases hf : f.isOrdinary
    · simp only [Host.interruptStatement, host, bind, StateT.bind, hr, hf, if_true]
      exact trans_of R hinterrupt (hout.tell _ s')
    · simp only [Host.interruptStatement, host, bind, StateT.bind, hr, hf]
      exact hinterrupt
  · simp only [Host.interruptStatement, host, bind, StateT.bind, hr]
    exact trans_of R hinterrupt (hout.tell _ s')

end Outside

end Office

/-! ## Custody at a desk -/

/-- What is asked of a desk for the custody of a lease: only a mark makes its connection unhealthy
and only its return makes it over, whatever others do meanwhile. -/
structure Desk.Custody (R : Desk → Desk → Prop) (lease : Nat) (Has : Bool → Bool → Desk → Prop) :
    Prop where
  entry {healthy ended d} :
    Has healthy ended d → ∃ slot, d.leases[lease]? = some ⟨slot, healthy, ended⟩
  outside {healthy ended d d'} : R d d' → Has healthy ended d → Has healthy ended d'
  mark {healthy d} : Has healthy false d → Has false false (d.markUnhealthy lease)
  giveBack {healthy d} (now : Seconds) :
    Has healthy false d → Has healthy true (d.start now (.giveBack lease)).2.state
  closed {healthy d} (caller : Nat) (now : Seconds) (slot : Slot) (reason : RetireReason)
    (r : Except Failure Unit) :
    Has healthy true d →
      Has healthy true (d.proceed caller now (.closing slot reason .returned) r).state

/-- Custody of a lease of which not everything is known. -/
theorem Desk.Custody.exists {ι : Type} {R : Desk → Desk → Prop} {lease : Nat}
    {Has : ι → Bool → Bool → Desk → Prop} (hd : ∀ i, Custody R lease (Has i)) :
    Custody R lease fun healthy ended d => ∃ i, Has i healthy ended d where
  entry := fun ⟨i, h⟩ => (hd i).entry h
  outside := fun hR ⟨i, h⟩ => ⟨i, (hd i).outside hR h⟩
  mark := fun ⟨i, h⟩ => ⟨i, (hd i).mark h⟩
  giveBack := fun now ⟨i, h⟩ => ⟨i, (hd i).giveBack now h⟩
  closed := fun caller now slot reason r ⟨i, h⟩ => ⟨i, (hd i).closed caller now slot reason r h⟩

namespace Desk

variable {d : Desk} {lease : Nat}

theorem startReturn_progress (p : Pool) (now : Seconds) (s : Slot) (healthy : Bool) :
    (p.startReturn now s healthy).progress = .done (.ok none) ∨
      ∃ reason, (p.startReturn now s healthy).progress = .needs (.closing s reason .returned) := by
  unfold Pool.startReturn
  dsimp only
  split
  · exact .inr ⟨_, rfl⟩
  · exact .inl rfl

/-- A return ends at once, or closes the connection first. -/
theorem start_giveBack_progress (d : Desk) (now : Seconds) (lease : Nat) :
    (d.start now (.giveBack lease)).2.progress = .done (.ok none) ∨
      ∃ slot reason, (d.start now (.giveBack lease)).2.progress =
        .needs (.closing slot reason .returned) := by
  simp only [start, giveBack]
  split
  · exact .inl rfl
  next l hl =>
    split
    · exact .inl rfl
    · rcases startReturn_progress d.pool now l.slot l.healthy with hdone | ⟨reason, hneeds⟩
      · exact .inl (by simp [settle, hdone])
      · exact .inr ⟨l.slot, reason, by simp [settle, hneeds]⟩

/-- With the closing of its connection a return ends. -/
theorem proceed_returned_progress (d : Desk) (caller : Nat) (now : Seconds) (slot : Slot)
    (reason : RetireReason) (r : Except Failure Unit) :
    (d.proceed caller now (.closing slot reason .returned) r).progress =
      .done (match r with
        | .ok () => .ok none
        | .error f => if f.isOrdinary then .ok none else .error f) := by
  cases r with
  | ok _ => rfl
  | error f =>
    cases hf : f.isOrdinary <;>
      simp [proceed, Pool.proceed, Pool.closed, settle, hf, Turn.after, Turn.ends]

/-- Only a hand-out makes a lease. -/
theorem settle_leases (d : Desk) {t : Pool.Stretch}
    (h : ∀ s, t.progress ≠ .done (.ok (some s))) : (d.settle t).state.leases = d.leases := by
  unfold settle
  split
  · rfl
  · rfl
  · rfl
  next s hs => exact absurd hs (h s)

/-- What a return leaves: the lease is over, and the connection rests only if it is healthy. -/
theorem start_giveBack_state {slot : Slot} {healthy : Bool} (now : Seconds)
    (hlease : d.leases[lease]? = some ⟨slot, healthy, false⟩) :
    (d.start now (.giveBack lease)).2.state.leases[lease]? = some ⟨slot, healthy, true⟩ ∧
      (d.start now (.giveBack lease)).2.state.pool.inUse = d.pool.inUse - 1 ∧
      (healthy = false → (d.start now (.giveBack lease)).2.state.pool.idle = d.pool.idle) := by
  have hlt : lease < d.leases.length := (List.getElem?_eq_some_iff.1 hlease).1
  have hkeeps : ∀ s, (d.pool.startReturn now slot healthy).progress ≠ .done (.ok (some s)) := by
    intro s hs
    rcases startReturn_progress d.pool now slot healthy with h | ⟨reason, h⟩ <;>
      rw [h] at hs <;> cases hs
  simp only [start, giveBack, hlease, Bool.false_eq_true, if_false]
  refine ⟨?_, ?_, ?_⟩
  · rw [settle_leases _ hkeeps]
    simp [hlt]
  · rw [settle_pool]
    unfold Pool.startReturn
    dsimp only
    split <;> rfl
  · rintro rfl
    rw [settle_pool]
    rfl

theorem proceed_returned_state (d : Desk) (caller : Nat) (now : Seconds) (slot : Slot)
    (reason : RetireReason) (r : Except Failure Unit) :
    (d.proceed caller now (.closing slot reason .returned) r).state.leases = d.leases ∧
      (d.proceed caller now (.closing slot reason .returned) r).state.pool.inUse =
        d.pool.inUse ∧
      (d.proceed caller now (.closing slot reason .returned) r).state.pool.idle =
        d.pool.idle := by
  cases r with
  | ok _ => exact ⟨rfl, rfl, rfl⟩
  | error f =>
    cases hf : f.isOrdinary <;>
      simp [proceed, Pool.proceed, Pool.closed, settle, hf, Turn.after, Turn.ends, Pool.callAll]

end Desk

/-! ## Custody at an office -/

namespace Office

variable {σ : Type} {o : Office σ} {calls : DriverCalls σ} {R : Desk → Desk → Prop}
  [IsPreorder Desk R] {lease : Nat} {Has : Bool → Bool → Desk → Prop} {healthy : Bool} {s : σ}

/-- A lease that is given back is over.  Nothing fails, if there is a turn for closing the
connection and the closing fails in no way but an ordinary one. -/
theorem Outside.giveBack (hout : o.Outside calls R) (hd : Desk.Custody R lease Has)
    (hs : Has healthy false (o.desk s)) :
    Has healthy true (o.desk (o.call (.giveBack lease) s).2) ∧
      (1 ≤ o.turns →
        (∀ raw s f, (o.surroundings.closeConnection raw s).1 = .error f → f.isOrdinary) →
        (o.call (.giveBack lease) s).1 = .ok none) := by
  have hleft := hout.now s
  rcases hnow : o.surroundings.now s with ⟨now, s₁⟩
  rw [hnow] at hleft
  rw [call_eq _ hnow]
  have hstarted := hd.giveBack now (hd.outside hleft hs)
  have htaken := hd.outside (hout.take _ s₁) hstarted
  rcases Desk.start_giveBack_progress (o.desk s₁) now lease with hdone | ⟨slot, reason, hneeds⟩
  · rw [carryOn_done hdone]
    exact ⟨htaken, fun _ _ => rfl⟩
  · cases hturns : o.turns with
    | zero =>
      rw [carryOn_spent hneeds]
      exact ⟨htaken, fun h => absurd h (by decide)⟩
    | succ fuel =>
      have hclosing := hd.outside (hout.close slot.raw _) htaken
      rcases hclose : o.surroundings.closeConnection slot.raw
        (o.take ((o.desk s₁).start now (.giveBack lease)).2 s₁).2 with ⟨r, s₂⟩
      rw [hclose] at hclosing
      have hleft' := hd.outside (hout.now s₂) hclosing
      rcases hnow' : o.surroundings.now s₂ with ⟨now', s₃⟩
      rw [hnow'] at hleft'
      rw [carryOn_needs hneeds hclose hnow', carryOn_done (Desk.proceed_returned_progress ..)]
      refine ⟨hd.outside (hout.take _ s₃) (hd.closed _ now' slot reason r hleft'), ?_⟩
      intro _ hordinary
      cases r with
      | ok _ => rfl
      | error f =>
        have hf : f.isOrdinary := hordinary slot.raw _ f (by rw [hclose])
        simp [hf]

/-- A host at an office has custody of the leases that its desk has. -/
theorem Outside.custody (hout : o.Outside calls R) (hd : Desk.Custody R lease Has)
    (driver : Driver) (patience : Option Seconds) :
    (o.host driver calls patience).Custody lease
      fun healthy ended s => Has healthy ended (o.desk s) where
  tell n hs := hd.outside (hout.tell n _) hs
  now hs := hd.outside (hout.now _) hs
  commit conn hs := hd.outside (hout.commit conn _) hs
  rollback conn hs := hd.outside (hout.rollback conn _) hs
  execute conn sql params alarm hs := by
    have hwatched := hout.interruptStatement driver patience conn
    exact hd.outside (hout.execute conn sql params alarm _ hwatched _) hs
  mark {_ s} hs := by
    have hmark := hd.mark hs
    rw [← o.desk_setDesk ((o.desk s).markUnhealthy lease) s] at hmark
    exact hmark
  healthy {_ _ s} hs := by
    obtain ⟨slot, hentry⟩ := hd.entry hs
    have hread : (o.host driver calls patience).healthy lease s =
        ((((o.desk s).leases[lease]?).map Lease.healthy).getD false, s) := rfl
    rw [hread, hentry]
    rfl
  giveBack hs := (hout.giveBack hd hs).1

/-- At an office with turns to spare a lease can always be given back, if closing a connection fails
in no way but an ordinary one. -/
theorem Outside.returns (hout : o.Outside calls R) (hd : Desk.Custody R lease Has)
    (driver : Driver) (patience : Option Seconds) (hturns : 1 ≤ o.turns)
    (hclose : ∀ raw s f, (o.surroundings.closeConnection raw s).1 = .error f → f.isOrdinary) :
    (o.host driver calls patience).Returns lease
      fun healthy ended s => Has healthy ended (o.desk s) := by
  intro healthy s hs
  have hcall : (((o.host driver calls patience).giveBack lease).run s).1 =
      (o.call (.giveBack lease) s).1.map fun _ => () := rfl
  rw [hcall, (hout.giveBack hd hs).2 hturns hclose]
  rfl

/-! ## The beginning -/

/-- What lends a lease has just made it; it is there until others are at the desk. -/
theorem Outside.carryOn_lends (hout : o.Outside calls R) {caller fuel : Nat} {t : Desk.Stretch}
    {s' : σ} (hlends : t.Lends) (hcarried : o.carryOn caller fuel t s = (.ok (some lease), s')) :
    ∃ d slot, d.leases[lease]? = some { slot } ∧ R d (o.desk s') := by
  obtain ⟨last, s₀, hlast, hp, rfl⟩ :=
    carryOn_ends (fun _ _ _ _ => Desk.settle_lends _ _) hlends hcarried nofun
  obtain ⟨slot, hslot⟩ := hlast lease hp
  exact ⟨last.state, slot, hslot, hout.take last s₀⟩

theorem Outside.call_lends (hout : o.Outside calls R) {c : DeskCall} {s' : σ}
    (hcall : o.call c s = (.ok (some lease), s')) :
    ∃ d slot, d.leases[lease]? = some { slot } ∧ R d (o.desk s') := by
  rcases hnow : o.surroundings.now s with ⟨now, s₁⟩
  rw [call_eq c hnow] at hcall
  exact hout.carryOn_lends (Desk.start_lends _ now c) hcall

/-- A lease comes from the desk. -/
theorem host_checkout (driver : Driver) (patience timeout : Option Seconds)
    {r : Except Failure (Option Nat)} {s' : σ} (hcall : o.call (.checkout timeout) s = (r, s'))
    (Q : Except Failure Nat → σ → Prop) :
    ((o.host driver calls patience).checkout timeout).Ensures s Q ↔
      Q (match r with
        | .ok (some lease) => .ok lease
        | .ok none => .error unfinished
        | .error f => .error f) s' := by
  have hcall' : (ExceptT.mk (o.call (.checkout timeout)) : Task σ (Option Nat)).run s = (r, s') :=
    hcall
  unfold host
  simp only [Task.ensures_bind, Task.ensures_run hcall']
  rcases r with f | _ | lease <;> rfl

/-- The connection of a lease, as its desk knows it. -/
def connectionAt (d : Desk) (lease : Nat) : Except Failure Nat :=
  match d.leases[lease]? with
  | some l => l.raw
  | none => .error noLease

theorem host_connection (driver : Driver) (patience : Option Seconds) (lease : Nat)
    (Q : Except Failure Nat → σ → Prop) :
    ((o.host driver calls patience).connection lease).Ensures s Q ↔
      Q (connectionAt (o.desk s) lease) s := by
  have hlease : (o.leaseAt lease).run s = (match (o.desk s).leases[lease]? with
      | some l => .ok l
      | none => .error noLease, s) := by
    have hread : (o.leaseAt lease).run s = ((match (o.desk s).leases[lease]? with
        | some l => pure l
        | none => throw noLease : Task σ Lease)).run s := rfl
    rw [hread]
    cases (o.desk s).leases[lease]? <;> rfl
  unfold host connectionAt
  simp only [Task.ensures_bind, Task.ensures_run hlease]
  cases (o.desk s).leases[lease]? <;> rfl

end Office

/-! ## What a transaction leaves in the pool -/

namespace Desk

variable {lease : Nat} {slot : Slot} {away : Prop}

/-- Others leave a lease as it is, and do not put its connection to rest for as long as the pool
must not have it: until the lease is over, and for ever if the connection is unhealthy. -/
def Spares (lease : Nat) (d d' : Desk) : Prop :=
  ∀ l, d.leases[lease]? = some l → d'.leases[lease]? = some l ∧
    ((l.healthy && l.released) = false → l.slot.key ∉ d.pool.idle.map Slot.key →
      l.slot.key ∉ d'.pool.idle.map Slot.key)

instance : IsPreorder Desk (Spares lease) where
  refl _ _ hl := ⟨hl, fun _ haway => haway⟩
  trans _ _ _ hab hbc l hl :=
    ⟨((hbc l (hab l hl).1).1), fun hopen haway =>
      (hbc l (hab l hl).1).2 hopen ((hab l hl).2 hopen haway)⟩

/-- The lease of a connection that did not rest when it was lent: it rests only if it was returned
in health. -/
def Tenancy (lease : Nat) (slot : Slot) (away : Prop) (healthy ended : Bool) (d : Desk) : Prop :=
  d.leases[lease]? = some ⟨slot, healthy, ended⟩ ∧
    (away → (healthy && ended) = false → slot.key ∉ d.pool.idle.map Slot.key)

theorem tenancy_custody : Custody (Spares lease) lease (Tenancy lease slot away) where
  entry h := ⟨slot, h.1⟩
  outside hspares h :=
    ⟨(hspares _ h.1).1, fun haway hopen => (hspares _ h.1).2 hopen (h.2 haway hopen)⟩
  mark h := by
    refine ⟨?_, fun haway _ => h.2 haway (Bool.and_false _)⟩
    simp [markUnhealthy, h.1]
  giveBack now h := by
    obtain ⟨hlease, -, hidle⟩ := start_giveBack_state now h.1
    refine ⟨hlease, fun haway hspoiled => ?_⟩
    rw [Bool.and_true] at hspoiled
    rw [hidle hspoiled]
    exact h.2 haway (Bool.and_false _)
  closed {_ d} caller now s reason r h := by
    obtain ⟨hleases, -, hidle⟩ := proceed_returned_state d caller now s reason r
    refine ⟨?_, ?_⟩
    · rw [hleases]
      exact h.1
    · rw [hidle]
      exact h.2

end Desk

namespace Office

variable {α σ : Type} {o : Office σ} {calls : DriverCalls σ} {s s' : σ}
  {journal journal' : List (Entry α)} {tx : Transaction}

/-- A transaction begins with a new lease and the connection that it is for. -/
theorem Outside.begin_stands {R : Desk → Desk → Prop} [IsPreorder Desk R]
    (hout : o.Outside calls R) (driver : Driver) (patience timeout : Option Seconds)
    (hkeeps : ∀ d d' l, R d d' → d.leases[tx.lease]? = some l → d'.leases[tx.lease]? = some l)
    (hbegin : ((Host.noted (o.host driver calls patience)).begin timeout).run (s, journal) =
      (.ok tx, (s', journal'))) :
    ∃ slot, (o.desk s').leases[tx.lease]? = some { slot } ∧ tx.conn = slot.raw ∧
      tx.state = .active ∧ journal' = journal ++ [.begin tx.conn none] := by
  suffices hensures : ((Host.noted (o.host driver calls patience)).begin timeout).Ensures
      (s, journal) fun r st => r = .ok tx → ∃ slot,
        (o.desk st.1).leases[tx.lease]? = some { slot } ∧ tx.conn = slot.raw ∧
        tx.state = .active ∧ st.2 = journal ++ [.begin tx.conn none] by
    rw [Task.ensures_run hbegin] at hensures
    exact hensures rfl
  unfold Host.begin
  rcases hcall : o.call (.checkout timeout) s with ⟨r, s₁⟩
  simp only [Task.ensures_bind, Host.noted_checkout, host_checkout driver patience timeout hcall]
  rcases r with f | _ | lease
  · nofun
  · nofun
  obtain ⟨d, slot, hslot, hR⟩ := hout.call_lends hcall
  simp only [Host.noted_connection, host_connection]
  rcases hread : connectionAt (o.desk s₁) lease with f | conn
  · nofun
  simp only [Task.ensures_outcome, Host.noted_begin]
  have hkept := hout.begin conn s₁
  rcases hr : ((o.host driver calls patience).calls.begin conn).run s₁ with ⟨f | _, s₂⟩ <;>
    rw [Task.ensures_run hr]
  · dsimp only
    split
    · simp only [Task.ensures_bind, Task.ensures_state, Host.noted_mark, Host.noted_giveBack]
      rcases hg : ((o.host driver calls patience).giveBack lease).run
        ((o.host driver calls patience).markUnhealthy lease s₂).2 with ⟨g | _, s₃⟩ <;>
        rw [Task.ensures_run hg] <;> nofun
    · nofun
  · intro htx
    cases htx
    have hentry := hkeeps _ _ _ hR hslot
    have hraw : slot.raw = conn := by
      rw [connectionAt, hentry] at hread
      exact Except.ok.inj hread
    have hcalled : ((calls.begin conn).run s₁).2 = s₂ := congrArg Prod.snd hr
    rw [hcalled] at hkept
    exact ⟨slot, hkeeps _ _ _ hkept hentry, hraw.symm, rfl, rfl⟩

end Office

namespace Transaction

open TransactionState

variable {α σ : Type} {o : Office σ} {calls : DriverCalls σ}

/-- The life of a transaction at an office, whatever is done with it and whatever the driver does.
It moves from where it stands only as it may.  The driver is sent its beginning, then statements,
and then at most one ending; after a statement that failed or was interrupted nothing but one
rollback.  The lease is given back with the ending, once, and the connection, which was away from
the pool when the transaction began, rests there again only if all went well. -/
theorem Lives.lifeCycle (driver : Driver) (patience timeout : Option Seconds) {s : σ}
    {journal : List (Entry α)} {tx₀ tx : Transaction} {st₀ st : σ × List (Entry α)}
    (hout : o.Outside calls (Desk.Spares tx₀.lease))
    (hcommit : ∀ conn s f, ((calls.commit conn).run s).1 = .error f → f.isDriver)
    (hrollback : ∀ conn s f, ((calls.rollback conn).run s).1 = .error f → f.isDriver)
    (hbegin : ((Host.noted (o.host driver calls patience)).begin timeout).run (s, journal) =
      (.ok tx₀, st₀))
    (hlives : Lives (Host.noted (o.host driver calls patience)) tx₀ st₀ tx st) :
    (∀ c : TransactionCall, tx.state.Leads
        ((c.on (Host.noted (o.host driver calls patience))).runIn tx st).1.2.state) ∧
      ∃ slot statements closing, tx₀.conn = slot.raw ∧
        st.2 = journal ++ .begin tx₀.conn none :: statements ++ closing ∧
        (∀ e ∈ statements, ∃ sql interrupted failure,
          e = .statement tx₀.conn sql interrupted failure) ∧
        (∀ e ∈ statements.dropLast, e.isClean) ∧
        Ending tx₀.lease tx₀.conn tx.state closing ∧
        ((∃ e ∈ statements, ¬e.isClean) → closing = [] ∨
          ∃ refusal, closing = [.rollback tx₀.conn refusal, .release tx₀.lease]) ∧
        (o.desk st.1).leases[tx₀.lease]? =
          some ⟨slot, (statements ++ closing).all Entry.isClean, tx.state.isFinal⟩ ∧
        (slot.key ∉ (o.desk st₀.1).pool.idle.map Slot.key →
          slot.key ∈ (o.desk st.1).pool.idle.map Slot.key →
            ∀ e ∈ statements ++ closing, e.isClean) := by
  obtain ⟨s₀, journal₀⟩ := st₀
  obtain ⟨slot, hentry, hconn, hactive, hjournal⟩ :=
    hout.begin_stands driver patience timeout (fun d d' l hspares hl => (hspares l hl).1) hbegin
  have htenancy : Desk.Tenancy tx₀.lease slot (slot.key ∉ (o.desk s₀).pool.idle.map Slot.key)
      true false (o.desk s₀) := ⟨hentry, fun haway _ => haway⟩
  have hd : Desk.Custody (Desk.Spares tx₀.lease) tx₀.lease (Desk.Tenancy tx₀.lease slot
      (slot.key ∉ (o.desk s₀).pool.idle.map Slot.key)) := Desk.tenancy_custody
  have hc := hout.custody hd driver patience
  have hstart : Stands (fun healthy ended s => Desk.Tenancy tx₀.lease slot
      (slot.key ∉ (o.desk s₀).pool.idle.map Slot.key) healthy ended (o.desk s)) tx₀.lease tx₀.conn
      tx₀ [(.begin tx₀.conn none : Entry α)] s₀ := by
    refine ⟨rfl, rfl, ?_, ?_⟩
    · rw [hactive]
      exact .opened
    · rw [hactive]
      exact htenancy
  obtain ⟨news, hnews, hstands⟩ := hlives.stands hc hcommit hrollback hstart
  obtain ⟨statements, closing, hes, hkinds, hclean, hending, hbroken⟩ := hstands.course.parts
  have hparts : news = statements ++ closing := (List.cons.inj hes).2
  have hhas := hstands.has
  rw [hparts, List.all_append] at hhas
  have hbegun : [(.begin tx₀.conn none : Entry α)].all Entry.isClean = true := rfl
  rw [hbegun, Bool.true_and] at hhas
  refine ⟨?_, slot, statements, closing, hconn, ?_, hkinds, hclean, hending, hbroken, hhas.1, ?_⟩
  · intro c
    obtain ⟨-, -, -, hmoves⟩ := hc.within_call hcommit hrollback c _ _ _ hstands
    exact hmoves
  · rw [hnews, hjournal, hparts]
    simp
  · intro haway hrests
    have hreturned : ((statements ++ closing).all Entry.isClean && tx.state.isFinal) = true := by
      by_contra hspoiled
      exact hhas.2 haway (Bool.eq_false_iff.2 hspoiled) hrests
    rw [Bool.and_eq_true, List.all_eq_true] at hreturned
    exact hreturned.1

/-- An office that nobody else visits, at a pool with room for one connection. -/
def quietOffice : Office Desk where
  desk := id
  setDesk d _ := d
  surroundings := {
    openConnection := pure (.ok 7)
    testConnection _ := pure (.ok true)
    closeConnection _ := pure (.ok ())
    sleep _ := pure (.ok ())
    now := pure 0 }
  tell _ := pure ()
  turns := 3

/-- A driver that refuses every statement. -/
def refusingCalls : DriverCalls Desk where
  begin _ := pure ()
  commit _ := pure ()
  rollback _ := pure ()
  execute _ _ _ _ _ := pure (false, .error (.make (.driver .null .null) "syntax error"))
  interrupt _ := pure true

def plainDriver : Driver where
  dialer := .plain
  title := "Driver"
  config := {}
  memoryTag := ""

def refusingHost : Host (Desk × List (Entry Unit)) :=
  Host.noted (quietOffice.host plainDriver refusingCalls none)

/-- The transaction as it begins. -/
def refusedStart : Desk × List (Entry Unit) :=
  ((refusingHost.begin none).run ((Floor.new Floor.single "default").desk, [])).2

/-- A statement without parameters. -/
def refusedStatement : Request :=
  .bound { sql := "UPDATE t", binds := [], style := .qmark, dialect := none, balanced := by decide }

/-- The transaction after a statement was refused. -/
def refusedRun : (Except Failure Unit × Transaction) × Desk × List (Entry Unit) :=
  ((TransactionCall.run refusedStatement {}).on refusingHost).runIn ⟨0, 7, .active⟩ refusedStart

/-- The transaction after the commit that follows. -/
def refusedEnd : (Except Failure Unit × Transaction) × Desk × List (Entry Unit) :=
  (TransactionCall.commit.on refusingHost).runIn refusedRun.1.2 refusedRun.2

theorem refusing_outside (R : Desk → Desk → Prop) [IsPreorder Desk R] :
    quietOffice.Outside refusingCalls R where
  tell _ _ := refl_of R _
  now _ := refl_of R _
  close _ _ := refl_of R _
  begin _ _ := refl_of R _
  commit _ _ := refl_of R _
  rollback _ _ := refl_of R _
  interrupt _ _ := refl_of R _
  execute _ _ _ _ _ _ _ := refl_of R _

/-- The commit after a refused statement is a rollback, and the connection is not used again. -/
theorem lifeCycle_refused :
    (refusingHost.begin none).run ((Floor.new Floor.single "default").desk, []) =
        (.ok ⟨0, 7, .active⟩, refusedStart) ∧
      Lives refusingHost ⟨0, 7, .active⟩ refusedStart refusedEnd.1.2 refusedEnd.2 ∧
      refusedEnd.1.2.state = .rolledBack ∧ refusedEnd.2.2.length = 4 ∧
      (∀ c : TransactionCall, refusedEnd.1.2.state.Leads
        ((c.on refusingHost).runIn refusedEnd.1.2 refusedEnd.2).1.2.state) ∧
      ∃ slot statements closing, 7 = slot.raw ∧
        refusedEnd.2.2 = [] ++ .begin 7 none :: statements ++ closing ∧
        (∀ e ∈ statements, ∃ sql interrupted failure,
          e = .statement 7 sql interrupted failure) ∧
        (∀ e ∈ statements.dropLast, e.isClean) ∧
        Ending 0 7 refusedEnd.1.2.state closing ∧
        ((∃ e ∈ statements, ¬e.isClean) → closing = [] ∨
          ∃ refusal, closing = [.rollback 7 refusal, .release 0]) ∧
        refusedEnd.2.1.leases[0]? =
          some ⟨slot, (statements ++ closing).all Entry.isClean, refusedEnd.1.2.state.isFinal⟩ ∧
        (slot.key ∉ refusedStart.1.pool.idle.map Slot.key →
          slot.key ∈ refusedEnd.2.1.pool.idle.map Slot.key →
            ∀ e ∈ statements ++ closing, e.isClean) := by
  have hbegin : (refusingHost.begin none).run ((Floor.new Floor.single "default").desk, []) =
      (.ok ⟨0, 7, .active⟩, refusedStart) := rfl
  have hlives : Lives refusingHost ⟨0, 7, .active⟩ refusedStart refusedEnd.1.2 refusedEnd.2 :=
    .call .commit (.call (.run refusedStatement {}) .begun)
  exact ⟨hbegin, hlives, rfl, rfl, hlives.lifeCycle plainDriver none none
    (refusing_outside _) (fun _ _ _ h => nomatch h) (fun _ _ _ h => nomatch h) hbegin⟩

end Transaction

end SqlGateway
