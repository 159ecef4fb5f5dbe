import SqlGateway.Proofs.Executor.Journal
set_option autoImplicit false

/-!
# Executor: a statement under watch

A statement with limits is run by two.  The caller sends it and waits for the driver's
answer; its watch looks again and again whether the call has been broken off or its time
is over, and if so interrupts the connection.  Either may go on at any moment, and so may
everybody else.  `Vigil.Step` is one such move, and a reachable vigil is what a statement
and its watch can come to.

What is marked of a vigil is no more than what happens in it: `Vigil.Reachable.asked` takes
the same steps with a driver that keeps a journal of the connections that it is asked to
interrupt, and finds in it the interruptions that are marked.

`Host.runOn` is the course in which the driver is asked to keep the watch itself, by way
of an alarm: `Host.runOn_reachable` shows that it is one of the courses of a vigil.
-/

namespace SqlGateway

namespace CallLimits

/-- The time of a call that is watched since a moment is over. -/
def expiredBy (l : CallLimits) (begun now : Seconds) : Bool :=
  match l.timeout with
  | some t => decide (begun + t ≤ now)
  | none => false

/-- A call that is watched since a moment is to be broken off by now: somebody has done so already,
or its time is over. -/
def DueBy (l : CallLimits) (begun now : Seconds) : Prop :=
  l.cancelledBy now = true ∨ l.expiredBy begun now = true

/-- A call is to be broken off by a moment just if its alarm has gone off by then. -/
theorem dueBy_iff (l : CallLimits) (begun now : Seconds) :
    l.DueBy begun now ↔ ∃ t, l.alarm begun = some t ∧ t ≤ now := by
  unfold DueBy
  cases hcancel : l.cancelAt <;> cases htimeout : l.timeout <;>
    simp only [cancelledBy, expiredBy, alarm, hcancel, htimeout, decide_eq_true_eq,
      Option.some.injEq, exists_eq_left', Bool.false_eq_true, false_or, or_false, reduceCtorEq,
      false_and, exists_const]
  rename_i c t
  unfold Seconds.earlier
  split
  next hle => exact ⟨fun h => h.elim (Rat.le_trans hle) id, .inr⟩
  next hgt =>
    exact ⟨fun h => h.elim id (Rat.le_trans (Rat.le_total.resolve_left hgt)), .inl⟩

end CallLimits

namespace Host

variable {σ : Type} (h : Host σ)

/-- What is done before a statement is sent: its parameters are written, and it is checked that the
call has not been broken off. -/
def ready (b : BoundStatement) (limits : CallLimits) : Task σ (List Native × Seconds) := do
  let params ← Task.ofExcept (h.parameters b)
  let started ← h.now
  if limits.cancelledBy started then
    throw (h.atStatement b (.make (.cancelled false) "Statement cancelled before it was sent"))
  else return (params, started)

/-- A statement is ready at a moment at which the call has not been broken off. -/
theorem ready_ok {b : BoundStatement} {limits : CallLimits} {params : List Native}
    {started : Seconds} {s s' : σ}
    (hready : (h.ready b limits).run s = (.ok (params, started), s')) :
    h.parameters b = .ok params ∧ h.now s = (started, s') ∧
      limits.cancelledBy started = false := by
  have hensures : (h.ready b limits).Ensures s fun r s' => ∀ params started,
      r = .ok (params, started) → h.parameters b = .ok params ∧ h.now s = (started, s') ∧
        limits.cancelledBy started = false := by
    unfold ready
    rw [Task.ensures_bind, Task.ensures_ofExcept]
    cases h.parameters b with
    | error f => nofun
    | ok params =>
      rcases hnow : h.now s with ⟨now, s₁⟩
      simp only [Task.ensures_bind, Task.ensures_state, hnow]
      cases hcancelled : limits.cancelledBy now with
      | true => nofun
      | false =>
        rintro params' started ⟨⟩
        exact ⟨rfl, rfl, hcancelled⟩
  rw [Task.ensures_run hready] at hensures
  exact hensures params started rfl

/-- A statement is made ready, runs, and is concluded. -/
theorem runOn_eq (lease conn : Nat) (b : BoundStatement) (limits : CallLimits) :
    h.runOn lease conn b limits = (do
      let (params, started) ← h.ready b limits
      let (fired, r) ← h.calls.execute conn b.sql params (limits.alarm started)
        (h.interruptStatement conn)
      h.conclude lease b started fired r) := by
  unfold runOn ready
  simp only [bind_assoc]
  refine bind_congr fun params => bind_congr fun started => ?_
  split <;> simp

end Host

/-! ## Two threads -/

namespace Vigil

/-- Where the caller of a statement is. -/
inductive Caller where
  /-- It has done nothing yet. -/
  | arriving
  /-- The statement can be sent, and its watch, if it needs one, is set. -/
  | prepared (started : Seconds)
  /-- The driver runs the statement. -/
  | running (started : Seconds)
  /-- The driver has answered. -/
  | answered (started : Seconds) (r : Except Failure DriverResult)
  /-- The watch has been called off and is waited for. -/
  | joining (started : Seconds) (r : Except Failure DriverResult)
  /-- The call is over. -/
  | left (r : Except Failure DriverResult)

/-- Where the watch of a statement is. -/
inductive Watch where
  /-- There is none. -/
  | absent
  /-- It does not know yet since when it watches. -/
  | setting
  /-- It looks whether it has been called off, -/
  | checking (begun : Seconds)
  /-- whether the call has been broken off, -/
  | asking (begun : Seconds)
  /-- whether the time of the call is over, -/
  | timing (begun : Seconds)
  /-- and waits for a while. -/
  | resting (begun : Seconds)
  /-- It is about to fire, -/
  | firing
  /-- has fired, -/
  | striking
  /-- and waits for the driver to interrupt the connection. -/
  | interrupting
  | gone

/-- The watch does nothing any more. -/
def Watch.isOver : Watch → Bool
  | .absent | .gone => true
  | _ => false

/-- What is noted of a statement and its watch. -/
inductive Mark where
  /-- The statement is sent on a connection. -/
  | sent (conn : Nat) (sql : String)
  | answered (r : Except Failure DriverResult)
  /-- The call ends with what the caller sees. -/
  | left (r : Except Failure DriverResult)
  /-- The watch begins at a moment. -/
  | watching (begun : Seconds)
  /-- The watch finds that the call is to be broken off by now. -/
  | due (now : Seconds)
  /-- The driver is asked to interrupt a connection. -/
  | interrupt (conn : Nat)
  /-- The driver has interrupted it, or failed to. -/
  | interrupted

namespace Mark

/-- The caller's marks; the others are those of the watch. -/
def isCallers : Mark → Bool
  | .sent .. | .answered _ | .left _ => true
  | _ => false

def isInterrupt : Mark → Bool
  | .interrupt _ => true
  | _ => false

end Mark

end Vigil

/-- A statement and its watch: where both are, what they share, and what is noted of them. -/
structure Vigil (σ : Type) where
  state : σ
  caller : Vigil.Caller := .arriving
  watch : Vigil.Watch := .absent
  /-- The watch has been called off. -/
  done : Bool := false
  /-- The watch has fired. -/
  fired : Bool := false
  marks : List Vigil.Mark := []

namespace Vigil

variable {σ : Type}

/-- One thing that can happen next to a statement on the connection of a lease: others do something,
the caller goes on, or the watch does.  The driver may answer anything at any time, and the watch
may rest as long as it likes. -/
inductive Step (h : Host σ) (Elsewhere : σ → σ → Prop) (lease conn : Nat) (b : BoundStatement)
    (limits : CallLimits) : Vigil σ → Vigil σ → Prop where
  | elsewhere {v : Vigil σ} {s : σ} (helse : Elsewhere v.state s) :
      Step h Elsewhere lease conn b limits v { v with state := s }
  | refuse {v : Vigil σ} {f : Failure} {s : σ} (hcaller : v.caller = .arriving)
      (hready : (h.ready b limits).run v.state = (.error f, s)) :
      Step h Elsewhere lease conn b limits v
        { v with state := s, caller := .left (.error f), marks := v.marks ++ [.left (.error f)] }
  /-- There is a watch if the call has limits.  A call that somebody may break off, though nobody
  ever does, is watched too. -/
  | prepare {v : Vigil σ} {params : List Native} {started : Seconds} {s : σ} {watch : Watch}
      (hcaller : v.caller = .arriving)
      (hready : (h.ready b limits).run v.state = (.ok (params, started), s))
      (hwatch : watch = .setting ∨
        watch = .absent ∧ limits.timeout = none ∧ limits.cancelAt = none) :
      Step h Elsewhere lease conn b limits v
        { v with state := s, caller := .prepared started, watch }
  | send {v : Vigil σ} {started : Seconds} (hcaller : v.caller = .prepared started) :
      Step h Elsewhere lease conn b limits v
        { v with caller := .running started, marks := v.marks ++ [.sent conn b.sql] }
  | answer {v : Vigil σ} {started : Seconds} (hcaller : v.caller = .running started)
      (r : Except Failure DriverResult) :
      Step h Elsewhere lease conn b limits v
        { v with caller := .answered started r, marks := v.marks ++ [.answered r] }
  | callOff {v : Vigil σ} {started : Seconds} {r : Except Failure DriverResult}
      (hcaller : v.caller = .answered started r) :
      Step h Elsewhere lease conn b limits v
        { v with caller := .joining started r, done := true }
  | leave {v : Vigil σ} {started : Seconds} {r r' : Except Failure DriverResult} {s : σ}
      (hcaller : v.caller = .joining started r) (hwatch : v.watch.isOver = true)
      (hconclude : (h.conclude lease b started v.fired r).run v.state = (r', s)) :
      Step h Elsewhere lease conn b limits v
        { v with state := s, caller := .left r', marks := v.marks ++ [.left r'] }
  | set {v : Vigil σ} {begun : Seconds} {s : σ} (hwatch : v.watch = .setting)
      (hnow : h.now v.state = (begun, s)) :
      Step h Elsewhere lease conn b limits v
        { v with state := s, watch := .checking begun, marks := v.marks ++ [.watching begun] }
  | check {v : Vigil σ} {begun : Seconds} (hwatch : v.watch = .checking begun) :
      Step h Elsewhere lease conn b limits v
        { v with watch := if v.done then .gone else .asking begun }
  | ask {v : Vigil σ} {begun now : Seconds} {s : σ} (hwatch : v.watch = .asking begun)
      (hnow : h.now v.state = (now, s)) (hno : limits.cancelledBy now = false) :
      Step h Elsewhere lease conn b limits v { v with state := s, watch := .timing begun }
  | cancel {v : Vigil σ} {begun now : Seconds} {s : σ} (hwatch : v.watch = .asking begun)
      (hnow : h.now v.state = (now, s)) (hcancelled : limits.cancelledBy now = true) :
      Step h Elsewhere lease conn b limits v
        { v with state := s, watch := .firing, marks := v.marks ++ [.due now] }
  | time {v : Vigil σ} {begun now : Seconds} {s : σ} (hwatch : v.watch = .timing begun)
      (hnow : h.now v.state = (now, s)) (hno : limits.expiredBy begun now = false) :
      Step h Elsewhere lease conn b limits v { v with state := s, watch := .resting begun }
  | expire {v : Vigil σ} {begun now : Seconds} {s : σ} (hwatch : v.watch = .timing begun)
      (hnow : h.now v.state = (now, s)) (hexpired : limits.expiredBy begun now = true) :
      Step h Elsewhere lease conn b limits v
        { v with state := s, watch := .firing, marks := v.marks ++ [.due now] }
  | rest {v : Vigil σ} {begun : Seconds} (hwatch : v.watch = .resting begun) :
      Step h Elsewhere lease conn b limits v { v with watch := .checking begun }
  | fire {v : Vigil σ} (hwatch : v.watch = .firing) :
      Step h Elsewhere lease conn b limits v { v with watch := .striking, fired := true }
  | strike {v : Vigil σ} (hwatch : v.watch = .striking) :
      Step h Elsewhere lease conn b limits v
        { v with watch := .interrupting, marks := v.marks ++ [.interrupt conn] }
  | struck {v : Vigil σ} (hwatch : v.watch = .interrupting) :
      Step h Elsewhere lease conn b limits v
        { v with
          state := (h.interruptStatement conn v.state).2
          watch := .gone
          marks := v.marks ++ [.interrupted] }

/-- What a statement that begins at a state can come to. -/
inductive Reachable (h : Host σ) (Elsewhere : σ → σ → Prop) (lease conn : Nat)
    (b : BoundStatement) (limits : CallLimits) (s : σ) : Vigil σ → Prop where
  | start : Reachable h Elsewhere lease conn b limits s { state := s }
  | step {v w : Vigil σ} : Reachable h Elsewhere lease conn b limits s v →
      Step h Elsewhere lease conn b limits v w → Reachable h Elsewhere lease conn b limits s w

/-! ## What is noted -/

/-- What a caller has noted by the time it is somewhere. -/
def Caller.Tells (conn : Nat) (sql : String) : Caller → List Mark → Prop
  | .arriving, marks | .prepared _, marks => marks = []
  | .running _, marks => marks = [.sent conn sql]
  | .answered _ r, marks | .joining _ r, marks => marks = [.sent conn sql, .answered r]
  | .left r, marks => (∃ f, r = .error f ∧ marks = [.left r]) ∨
      ∃ answer, marks = [.sent conn sql, .answered answer, .left r]

/-- What a watch has noted by the time it is somewhere, and whether it has fired.  It fires only
when it has found the call broken off or its time over, and then has the connection interrupted
once. -/
def Watch.Tells (limits : CallLimits) (conn : Nat) : Watch → Bool → List Mark → Prop
  | .absent, fired, marks | .setting, fired, marks => fired = false ∧ marks = []
  | .checking begun, fired, marks | .asking begun, fired, marks | .timing begun, fired, marks
  | .resting begun, fired, marks => fired = false ∧ marks = [.watching begun]
  | .firing, fired, marks => fired = false ∧
      ∃ begun now, limits.DueBy begun now ∧ marks = [.watching begun, .due now]
  | .striking, fired, marks => fired = true ∧
      ∃ begun now, limits.DueBy begun now ∧ marks = [.watching begun, .due now]
  | .interrupting, fired, marks => fired = true ∧
      ∃ begun now, limits.DueBy begun now ∧
        marks = [.watching begun, .due now, .interrupt conn]
  | .gone, fired, marks => (fired = false ∧ ∃ begun, marks = [.watching begun]) ∨
      fired = true ∧ ∃ begun now, limits.DueBy begun now ∧
        marks = [.watching begun, .due now, .interrupt conn, .interrupted]

/-- What a statement and its watch keep to.  Both note what belongs to where they are, and when the
call is over the watch is too: nothing is noted any more. -/
structure Kept (limits : CallLimits) (conn : Nat) (sql : String) (v : Vigil σ) : Prop where
  caller : v.caller.Tells conn sql (v.marks.filter Mark.isCallers)
  watch : v.watch.Tells limits conn v.fired (v.marks.filter fun m => !m.isCallers)
  unset : v.caller = .arriving → v.watch = .absent
  joined : ∀ r, v.caller = .left r → v.watch.isOver = true
  last : ∀ r, v.caller = .left r → v.marks.getLast? = some (.left r)

variable {h : Host σ} {Elsewhere : σ → σ → Prop} {lease conn : Nat} {b : BoundStatement}
  {limits : CallLimits} {v w : Vigil σ} {s : σ}

theorem start_kept (limits : CallLimits) (conn : Nat) (sql : String) (s : σ) :
    ({ state := s } : Vigil σ).Kept limits conn sql :=
  ⟨rfl, ⟨rfl, rfl⟩, fun _ => rfl, nofun, nofun⟩

/-- A watch that still does something belongs to a call that has been prepared and is not over. -/
theorem Kept.busy {sql : String} (hk : v.Kept limits conn sql) (hbusy : v.watch.isOver = false) :
    v.caller ≠ .arriving ∧ ∀ r, v.caller ≠ .left r := by
  refine ⟨fun hcaller => ?_, fun r hcaller => ?_⟩
  · rw [hk.unset hcaller] at hbusy
    cases hbusy
  · rw [hk.joined r hcaller] at hbusy
    cases hbusy

/-- The watch goes on: it changes nothing that the caller keeps to. -/
theorem Kept.watched {sql : String} (hk : v.Kept limits conn sql)
    (hbusy : v.watch.isOver = false) (s : σ) (watch : Watch) (fired : Bool)
    {marks news : List Mark} (hmarks : marks = v.marks ++ news)
    (hnews : ∀ m ∈ news, m.isCallers = false)
    (htells : watch.Tells limits conn fired ((v.marks.filter fun m => !m.isCallers) ++ news)) :
    ({ v with state := s, watch, fired, marks } : Vigil σ).Kept limits conn sql := by
  obtain ⟨hset, hopen⟩ := hk.busy hbusy
  have hnone : news.filter Mark.isCallers = [] :=
    List.filter_eq_nil_iff.2 fun m hm => by simp [hnews m hm]
  have hall : (news.filter fun m => !m.isCallers) = news :=
    List.filter_eq_self.2 fun m hm => by simp [hnews m hm]
  subst hmarks
  refine ⟨?_, ?_, fun h => absurd h hset, fun r h => absurd h (hopen r),
    fun r h => absurd h (hopen r)⟩
  · rw [List.filter_append, hnone, List.append_nil]
    exact hk.caller
  · rw [List.filter_append, hall]
    exact htells

/-- The caller goes on: it changes nothing that the watch keeps to, but may set it. -/
theorem Kept.called {sql : String} (s : σ) (caller : Caller) (watch : Watch) (done : Bool)
    {marks news : List Mark} (hmarks : marks = v.marks ++ news)
    (hnews : ∀ m ∈ news, m.isCallers = true)
    (htells : caller.Tells conn sql (v.marks.filter Mark.isCallers ++ news))
    (hwatch : watch.Tells limits conn v.fired (v.marks.filter fun m => !m.isCallers))
    (hset : caller ≠ .arriving)
    (hleft : ∀ r, caller = .left r → watch.isOver = true ∧ news = [.left r]) :
    ({ v with state := s, caller, watch, done, marks } : Vigil σ).Kept limits conn sql := by
  have hall : news.filter Mark.isCallers = news := List.filter_eq_self.2 hnews
  have hnone : (news.filter fun m => !m.isCallers) = [] :=
    List.filter_eq_nil_iff.2 fun m hm => by simp [hnews m hm]
  subst hmarks
  refine ⟨?_, ?_, fun h => absurd h hset, fun r h => (hleft r h).1, fun r h => ?_⟩
  · rw [List.filter_append, hall]
    exact htells
  · rw [List.filter_append, hnone, List.append_nil]
    exact hwatch
  · rw [(hleft r h).2]
    exact List.getLast?_concat

/-- One step keeps to it. -/
theorem Step.kept (hstep : Step h Elsewhere lease conn b limits v w)
    (hk : v.Kept limits conn b.sql) : w.Kept limits conn b.sql := by
  have hcallers := hk.caller
  have hwatch := hk.watch
  -- What is noted now comes after what has been noted so far; most steps note nothing.
  have hquiet : v.marks = v.marks ++ [] := (List.append_nil _).symm
  cases hstep with
  | elsewhere => exact ⟨hk.caller, hk.watch, hk.unset, hk.joined, hk.last⟩
  | @refuse f s hcaller =>
    rw [hcaller] at hcallers
    refine Kept.called _ _ _ _ rfl (by simp [Mark.isCallers]) ?_ hwatch nofun ?_
    · rw [hcallers]
      exact .inl ⟨f, rfl, rfl⟩
    · rintro r ⟨⟩
      exact ⟨by rw [hk.unset hcaller]; rfl, rfl⟩
  | prepare hcaller _ hset =>
    rw [hcaller] at hcallers
    rw [hk.unset hcaller] at hwatch
    refine Kept.called _ _ _ _ hquiet nofun (by rw [hcallers]; rfl) ?_ nofun nofun
    obtain rfl | ⟨rfl, -⟩ := hset <;> exact hwatch
  | send hcaller =>
    rw [hcaller] at hcallers
    exact Kept.called _ _ _ _ rfl (by simp [Mark.isCallers]) (by rw [hcallers]; rfl) hwatch nofun
      nofun
  | answer hcaller r =>
    rw [hcaller] at hcallers
    exact Kept.called _ _ _ _ rfl (by simp [Mark.isCallers]) (by rw [hcallers]; rfl) hwatch nofun
      nofun
  | callOff hcaller =>
    rw [hcaller] at hcallers
    exact Kept.called _ _ _ _ hquiet nofun (by rw [hcallers]; rfl) hwatch nofun nofun
  | @leave started r r' s hcaller hover _ =>
    rw [hcaller] at hcallers
    refine Kept.called _ _ _ _ rfl (by simp [Mark.isCallers]) ?_ hwatch nofun ?_
    · rw [hcallers]
      exact .inr ⟨r, rfl⟩
    · rintro r'' ⟨⟩
      exact ⟨hover, rfl⟩
  | set hat =>
    rw [hat] at hwatch
    exact hk.watched (by rw [hat]; rfl) _ _ _ rfl (by simp [Mark.isCallers])
      ⟨hwatch.1, by rw [hwatch.2]; rfl⟩
  | check hat =>
    rw [hat] at hwatch
    refine hk.watched (by rw [hat]; rfl) _ _ _ hquiet nofun ?_
    rw [List.append_nil]
    cases v.done with
    | true => exact .inl ⟨hwatch.1, _, hwatch.2⟩
    | false => exact hwatch
  | ask hat | time hat | rest hat =>
    rw [hat] at hwatch
    refine hk.watched (by rw [hat]; rfl) _ _ _ hquiet nofun ?_
    rw [List.append_nil]
    exact hwatch
  | cancel hat _ hdue =>
    rw [hat] at hwatch
    exact hk.watched (by rw [hat]; rfl) _ _ _ rfl (by simp [Mark.isCallers])
      ⟨hwatch.1, _, _, .inl hdue, by rw [hwatch.2]; rfl⟩
  | expire hat _ hdue =>
    rw [hat] at hwatch
    exact hk.watched (by rw [hat]; rfl) _ _ _ rfl (by simp [Mark.isCallers])
      ⟨hwatch.1, _, _, .inr hdue, by rw [hwatch.2]; rfl⟩
  | fire hat =>
    rw [hat] at hwatch
    refine hk.watched (by rw [hat]; rfl) _ _ _ hquiet nofun ?_
    rw [List.append_nil]
    exact ⟨rfl, hwatch.2⟩
  | strike hat =>
    rw [hat] at hwatch
    obtain ⟨hfired, begun, now, hdue, hmarks⟩ := hwatch
    exact hk.watched (by rw [hat]; rfl) _ _ _ rfl (by simp [Mark.isCallers])
      ⟨hfired, begun, now, hdue, by rw [hmarks]; rfl⟩
  | struck hat =>
    rw [hat] at hwatch
    obtain ⟨hfired, begun, now, hdue, hmarks⟩ := hwatch
    exact hk.watched (by rw [hat]; rfl) _ _ _ rfl (by simp [Mark.isCallers])
      (.inr ⟨hfired, begun, now, hdue, by rw [hmarks]; rfl⟩)

/-- So does a run. -/
theorem Reachable.kept (hreach : Reachable h Elsewhere lease conn b limits s v) :
    v.Kept limits conn b.sql := by
  induction hreach with
  | start => exact start_kept limits conn b.sql s
  | step _ hstep ih => exact hstep.kept ih

/-- A watch has its connection interrupted at most once, and only when it has fired, having begun
and found before that the call was to be broken off. -/
theorem Watch.Tells.interrupts {watch : Watch} {fired : Bool} {marks : List Mark}
    (htells : watch.Tells limits conn fired marks) :
    marks.filter Mark.isInterrupt = [] ∨
      fired = true ∧ marks.filter Mark.isInterrupt = [.interrupt conn] ∧
        ∃ begun now, limits.DueBy begun now ∧
          List.Sublist [.watching begun, .due now, .interrupt conn] marks := by
  cases watch with
  | absent | setting | checking begun | asking begun | timing begun | resting begun =>
    exact .inl (by rw [htells.2]; rfl)
  | firing | striking =>
    obtain ⟨-, begun, now, -, rfl⟩ := htells
    exact .inl rfl
  | interrupting =>
    obtain ⟨hfired, begun, now, hdue, rfl⟩ := htells
    exact .inr ⟨hfired, rfl, begun, now, hdue, List.Sublist.refl _⟩
  | gone =>
    rcases htells with ⟨-, begun, rfl⟩ | ⟨hfired, begun, now, hdue, rfl⟩
    · exact .inl rfl
    · exact .inr ⟨hfired, rfl, begun, now, hdue, List.sublist_append_left _ [Mark.interrupted]⟩

/-- A watch that is over has fired just if it has had its connection interrupted, and the driver has
done with that. -/
theorem Watch.Tells.over {watch : Watch} {fired : Bool} {marks : List Mark}
    (htells : watch.Tells limits conn fired marks) (hover : watch.isOver = true) :
    (fired = true ↔ .interrupt conn ∈ marks) ∧ (fired = true → .interrupted ∈ marks) := by
  cases watch with
  | absent => simp [htells.1, htells.2]
  | gone =>
    rcases htells with ⟨rfl, begun, rfl⟩ | ⟨rfl, begun, now, -, rfl⟩ <;> simp
  | _ => cases hover

theorem filter_isInterrupt_watch (marks : List Mark) :
    (marks.filter fun m => !m.isCallers).filter Mark.isInterrupt =
      marks.filter Mark.isInterrupt := by
  rw [List.filter_filter]
  refine List.filter_congr fun m _ => ?_
  cases m <;> rfl

/-- The connection is interrupted at most once, and only when the watch has fired, having begun and
found before that the call was to be broken off. -/
theorem Kept.interrupts {sql : String} (hk : v.Kept limits conn sql) :
    v.marks.filter Mark.isInterrupt = [] ∨
      v.fired = true ∧ v.marks.filter Mark.isInterrupt = [.interrupt conn] ∧
        ∃ begun now, limits.DueBy begun now ∧
          List.Sublist [.watching begun, .due now, .interrupt conn] v.marks := by
  rw [← filter_isInterrupt_watch]
  refine hk.watch.interrupts.imp_right ?_
  rintro ⟨hfired, hone, begun, now, hdue, hsub⟩
  exact ⟨hfired, hone, begun, now, hdue, hsub.trans List.filter_sublist⟩

/-- By the end of the call the watch has fired just if the connection has been interrupted, and the
driver has done with that. -/
theorem Kept.over {sql : String} (hk : v.Kept limits conn sql) (hover : v.watch.isOver = true) :
    (v.fired = true ↔ .interrupt conn ∈ v.marks) ∧ (v.fired = true → .interrupted ∈ v.marks) := by
  obtain ⟨hfired, hdone⟩ := hk.watch.over hover
  refine ⟨?_, fun h => (List.mem_filter.1 (hdone h)).1⟩
  rw [hfired, List.mem_filter]
  exact and_iff_left rfl

end Vigil

/-! ## What the driver is asked -/

namespace Host

variable {σ : Type}

/-- The host whose driver keeps a journal of the connections that it is asked to interrupt.  What it
interrupts by itself, when an alarm goes off while it runs a statement, is not in the journal. -/
def asked (h : Host σ) : Host (σ × List Nat) :=
  { h.alongside with
    calls := { h.alongside.calls with
      interrupt conn := ExceptT.mk (noting (h.calls.interrupt conn).run fun _ => conn) } }

variable (h : Host σ) (s : σ) (conns : List Nat)

/-- An interruption is in the journal once, under the connection that it is for. -/
theorem asked_interruptStatement (conn : Nat) :
    (h.asked.interruptStatement conn (s, conns)).2 =
      ((h.interruptStatement conn s).2, conns ++ [conn]) := by
  rcases hr : (h.calls.interrupt conn).run s with ⟨f | delivered, s'⟩
  · by_cases hf : f.isOrdinary
    · simp [interruptStatement, asked, noting, bind, StateT.bind, hr, hf]
      rfl
    · simp [interruptStatement, asked, noting, bind, StateT.bind, hr, hf]
      rfl
  · simp [interruptStatement, asked, noting, bind, StateT.bind, hr]
    rfl

/-- To make a statement ready asks for no interruption, -/
theorem asked_ready (b : BoundStatement) (limits : CallLimits) :
    (h.asked.ready b limits).run (s, conns) =
      (((h.ready b limits).run s).1, ((h.ready b limits).run s).2, conns) := by
  have hparameters : h.asked.parameters b = h.parameters b := rfl
  unfold ready
  rw [hparameters]
  cases h.parameters b with
  | error f => rfl
  | ok params =>
    -- The clock is read once, and what it shows decides.
    change (if limits.cancelledBy (h.now s).1 then _ else _ : Task _ _).run _ =
      (((if limits.cancelledBy (h.now s).1 then _ else _ : Task _ _).run _).1,
        ((if limits.cancelledBy (h.now s).1 then _ else _ : Task _ _).run _).2, conns)
    split <;> rfl

/-- and neither does the end of one. -/
theorem asked_conclude (lease : Nat) (b : BoundStatement) (started : Seconds) (fired : Bool)
    (r : Except Failure DriverResult) :
    (h.asked.conclude lease b started fired r).run (s, conns) =
      (((h.conclude lease b started fired r).run s).1,
        ((h.conclude lease b started fired r).run s).2, conns) := by
  unfold conclude
  cases r with
  | ok result => cases fired <;> rfl
  | error f =>
    cases hdriver : f.isDriver with
    | false => simp only [hdriver]; rfl
    | true => cases fired <;> simp only [hdriver] <;> rfl

end Host

namespace Vigil

variable {σ : Type}

/-- What others do beside a journal that they do not write in. -/
def Beside (Elsewhere : σ → σ → Prop) (st st' : σ × List Nat) : Prop :=
  Elsewhere st.1 st'.1 ∧ st'.2 = st.2

/-- A statement and its watch beside a journal of interruptions. -/
def asked (v : Vigil σ) (conns : List Nat) : Vigil (σ × List Nat) where
  state := (v.state, conns)
  caller := v.caller
  watch := v.watch
  done := v.done
  fired := v.fired
  marks := v.marks

/-- The connection of an interruption. -/
def Mark.struck? : Mark → Option Nat
  | .interrupt conn => some conn
  | _ => none

/-- The connection of an interruption that the driver has still to take note of. -/
def Watch.unheeded (conn : Nat) : Watch → List Nat
  | .interrupting => [conn]
  | _ => []

/-- The journal holds the interruptions that are marked, but for one that is under way. -/
def Minded (conn : Nat) (v : Vigil σ) (conns : List Nat) : Prop :=
  v.marks.filterMap Mark.struck? = conns ++ v.watch.unheeded conn

variable {h : Host σ} {Elsewhere : σ → σ → Prop} {lease conn : Nat} {b : BoundStatement}
  {limits : CallLimits} {v w : Vigil σ} {s : σ} {conns : List Nat}

/-- A step that asks for no interruption leaves the journal as it is. -/
theorem Minded.quiet (hm : v.Minded conn conns) {news : List Mark}
    (hmarks : w.marks = v.marks ++ news) (hnews : news.filterMap Mark.struck? = [])
    (hwatch : w.watch.unheeded conn = v.watch.unheeded conn) : w.Minded conn conns := by
  unfold Minded at hm ⊢
  rw [hmarks, List.filterMap_append, hnews, List.append_nil, hm, hwatch]

/-- Each step can be taken beside a journal, and what is marked of it is then in the journal. -/
theorem Step.asked (hstep : Step h Elsewhere lease conn b limits v w)
    (hk : v.Kept limits conn b.sql) (hm : v.Minded conn conns) :
    ∃ conns', Step h.asked (Beside Elsewhere) lease conn b limits (v.asked conns)
      (w.asked conns') ∧ w.Minded conn conns' := by
  have hquiet : v.marks = v.marks ++ [] := (List.append_nil _).symm
  cases hstep with
  | elsewhere helse => exact ⟨conns, .elsewhere ⟨helse, rfl⟩, hm⟩
  | @refuse f s hcaller hready =>
    refine ⟨conns, .refuse hcaller ?_, hm.quiet rfl rfl rfl⟩
    exact (h.asked_ready v.state conns b limits).trans (by rw [hready])
  | @prepare params started s watch hcaller hready hwatch =>
    have hasked : (h.asked.ready b limits).run (v.asked conns).state =
        (.ok (params, started), s, conns) :=
      (h.asked_ready v.state conns b limits).trans (by rw [hready])
    refine ⟨conns, .prepare hcaller hasked hwatch, hm.quiet hquiet rfl ?_⟩
    rw [hk.unset hcaller]
    obtain rfl | ⟨rfl, -⟩ := hwatch <;> rfl
  | send hcaller => exact ⟨conns, .send hcaller, hm.quiet rfl rfl rfl⟩
  | answer hcaller r =>
    exact ⟨conns, Step.answer (v := v.asked conns) hcaller r, hm.quiet rfl rfl rfl⟩
  | callOff hcaller => exact ⟨conns, .callOff hcaller, hm⟩
  | @leave started r r' s hcaller hwatch hconclude =>
    refine ⟨conns, .leave hcaller hwatch ?_, hm.quiet rfl rfl rfl⟩
    exact (h.asked_conclude v.state conns lease b started v.fired r).trans (by rw [hconclude])
  | set hwatch hnow =>
    refine ⟨conns, .set hwatch ?_, hm.quiet rfl rfl (by rw [hwatch]; rfl)⟩
    exact congrArg (fun r => (r.1, r.2, conns)) hnow
  | check hwatch =>
    refine ⟨conns, .check hwatch, hm.quiet hquiet rfl ?_⟩
    rw [hwatch]
    cases v.done <;> rfl
  | ask hwatch hnow hno =>
    refine ⟨conns, .ask hwatch ?_ hno, hm.quiet hquiet rfl (by rw [hwatch]; rfl)⟩
    exact congrArg (fun r => (r.1, r.2, conns)) hnow
  | cancel hwatch hnow hcancelled =>
    refine ⟨conns, .cancel hwatch ?_ hcancelled, hm.quiet rfl rfl (by rw [hwatch]; rfl)⟩
    exact congrArg (fun r => (r.1, r.2, conns)) hnow
  | time hwatch hnow hno =>
    refine ⟨conns, .time hwatch ?_ hno, hm.quiet hquiet rfl (by rw [hwatch]; rfl)⟩
    exact congrArg (fun r => (r.1, r.2, conns)) hnow
  | expire hwatch hnow hexpired =>
    refine ⟨conns, .expire hwatch ?_ hexpired, hm.quiet rfl rfl (by rw [hwatch]; rfl)⟩
    exact congrArg (fun r => (r.1, r.2, conns)) hnow
  | rest hwatch => exact ⟨conns, .rest hwatch, hm.quiet hquiet rfl (by rw [hwatch]; rfl)⟩
  | fire hwatch => exact ⟨conns, .fire hwatch, hm.quiet hquiet rfl (by rw [hwatch]; rfl)⟩
  | strike hwatch =>
    refine ⟨conns, .strike hwatch, ?_⟩
    unfold Minded at hm ⊢
    rw [List.filterMap_append, hm, hwatch]
    exact congrArg (· ++ [conn]) (List.append_nil conns)
  | struck hwatch =>
    refine ⟨conns ++ [conn], ?_, ?_⟩
    · have hstruck : Step h.asked (Beside Elsewhere) lease conn b limits (v.asked conns) _ :=
        .struck hwatch
      have hstate : (h.asked.interruptStatement conn (v.asked conns).state).2 = _ :=
        h.asked_interruptStatement v.state conns conn
      rw [hstate] at hstruck
      exact hstruck
    · unfold Minded at hm ⊢
      rw [List.filterMap_append, hm, hwatch]
      rfl

/-- So can a run: what it marks as an interruption is what the driver is asked to interrupt. -/
theorem Reachable.asked (hreach : Reachable h Elsewhere lease conn b limits s v) :
    ∃ conns, Reachable h.asked (Beside Elsewhere) lease conn b limits (s, []) (v.asked conns) ∧
      v.Minded conn conns := by
  induction hreach with
  | start => exact ⟨[], .start, rfl⟩
  | step hbefore hstep ih =>
    obtain ⟨conns, hbeside, hm⟩ := ih
    obtain ⟨conns', hnext, hm'⟩ := hstep.asked hbefore.kept hm
    exact ⟨conns', hbeside.step hnext, hm'⟩

theorem filterMap_struck (marks : List Mark) :
    marks.filterMap Mark.struck? = (marks.filter Mark.isInterrupt).filterMap Mark.struck? := by
  rw [List.filterMap_filter]
  congr 1
  funext m
  cases m <;> rfl

/-- The driver is asked at most once to interrupt a connection, and only that of the statement, once
the watch has fired. -/
theorem Minded.once {sql : String} (hm : v.Minded conn conns) (hk : v.Kept limits conn sql) :
    conns = [] ∨ v.fired = true ∧ conns = [conn] := by
  rw [Minded, filterMap_struck] at hm
  rcases hk.interrupts with hnone | ⟨hfired, hone, -⟩
  · rw [hnone] at hm
    exact .inl (List.append_eq_nil_iff.1 hm.symm).1
  · rw [hone] at hm
    refine (List.append_eq_singleton_iff.1 hm.symm).imp (fun h => h.1) fun h => ⟨hfired, h.1⟩

/-- By the end of the call it has been asked just if the watch has fired. -/
theorem Minded.over {sql : String} (hm : v.Minded conn conns) (hk : v.Kept limits conn sql)
    (hover : v.watch.isOver = true) : conns = [conn] ↔ v.fired = true := by
  constructor
  · rintro rfl
    exact ((hm.once hk).resolve_left (List.cons_ne_nil conn [])).1
  · intro hfired
    have hstruck : conn ∈ v.marks.filterMap Mark.struck? :=
      List.mem_filterMap.2 ⟨_, (hk.over hover).1.1 hfired, rfl⟩
    have hheeded : v.watch.unheeded conn = [] := by
      cases hwatch : v.watch with
      | interrupting => rw [hwatch] at hover; cases hover
      | _ => rfl
    rw [hm, hheeded, List.append_nil] at hstruck
    exact ((hm.once hk).resolve_left (List.ne_nil_of_mem hstruck)).2

end Vigil

/-! ## The driver keeps the watch -/

/-- The driver keeps the alarms that it is given: only when one has gone off it has the statement
interrupted, and says so.  All else that it does happens elsewhere, and the clock does not run on
by being read. -/
structure Host.KeepsAlarms {σ : Type} (h : Host σ) (Elsewhere : σ → σ → Prop) : Prop where
  still (s : σ) : (h.now s).2 = s
  quiet {conn : Nat} {sql : String} {params : List Native} {alarm : Option Seconds}
    {r : Except Failure DriverResult} {s s' : σ}
    (hran : h.calls.execute conn sql params alarm (h.interruptStatement conn) s =
      ((false, r), s')) : Elsewhere s s'
  alarmed {conn : Nat} {sql : String} {params : List Native} {alarm : Option Seconds}
    {r : Except Failure DriverResult} {s s' : σ}
    (hran : h.calls.execute conn sql params alarm (h.interruptStatement conn) s =
      ((true, r), s')) :
    ∃ t s₁, alarm = some t ∧ t ≤ (h.now s₁).1 ∧ Elsewhere s s₁ ∧
      Elsewhere (h.interruptStatement conn s₁).2 s'

namespace Line

variable {σ : Type} {l : Line σ} {conn cursor : Nat} {sql : String} {params : List Native}
  {alarm : Option Seconds} {onAlarm : StateM σ Unit} {s : σ}

/-- An alarm goes off only when the client library wakes up at it. -/
theorem runCursor_fired (hfired : (l.runCursor cursor sql params alarm onAlarm s).1.1 = true) :
    ∃ s₀, (l.client.await cursor alarm s₀).1 = true := by
  unfold runCursor at hfired
  rw [StateM.bind_apply] at hfired
  rcases hsent : (l.client.send cursor sql params).run s with ⟨f | _, s₁⟩ <;> rw [hsent] at hfired
  · cases hfired
  · simp only [StateM.bind_apply] at hfired
    refine ⟨s₁, ?_⟩
    cases hawait : (l.client.await cursor alarm s₁).1 with
    | true => rfl
    | false =>
      rw [hawait] at hfired
      cases hfired

theorem runStatement_fired
    (hfired : (l.runStatement conn sql params alarm onAlarm s).1.1 = true) :
    ∃ cursor s₀, (l.client.await cursor alarm s₀).1 = true := by
  unfold runStatement at hfired
  rw [StateM.bind_apply] at hfired
  rcases hopened : (l.client.cursor conn).run s with ⟨f | cursor, s₁⟩ <;> rw [hopened] at hfired
  · cases hfired
  · simp only [StateM.bind_apply] at hfired
    have hcursor : (l.runCursor cursor sql params alarm onAlarm s₁).1.1 = true := by
      cases hclosed : ((l.client.closeCursor cursor).run
          (l.runCursor cursor sql params alarm onAlarm s₁).2).1 <;>
        rw [hclosed] at hfired <;> exact hfired
    exact ⟨cursor, runCursor_fired hcursor⟩

end Line

/-- A driver at work keeps the alarms that it is given, if its client library wakes up at an alarm
only when that has gone off. -/
theorem Line.keepsAlarms {σ : Type} {h : Host σ} {l : Line σ} (hcalls : h.calls = l.calls)
    (hstill : ∀ s, (h.now s).2 = s)
    (hwakes : ∀ cursor alarm s, (l.client.await cursor alarm s).1 = true →
      ∃ t, alarm = some t ∧ t ≤ (h.now (l.client.await cursor alarm s).2).1) :
    h.KeepsAlarms fun _ _ => True where
  still := hstill
  quiet _ := trivial
  alarmed {conn sql params alarm r s s'} hran := by
    have hcalled : l.executeWatched conn sql params alarm (h.interruptStatement conn) s =
        ((true, r), s') := by
      rw [hcalls] at hran
      exact hran
    have hwatched :
        (l.executeWatched conn sql params alarm (h.interruptStatement conn) s).1.1 = true := by
      rw [hcalled]
    obtain ⟨cursor, s₀, hawait⟩ := runStatement_fired hwatched
    obtain ⟨t, halarm, hpast⟩ := hwakes cursor alarm s₀ hawait
    exact ⟨t, _, halarm, hpast, trivial, trivial⟩

namespace Vigil

section

variable {σ : Type} {h : Host σ} {Elsewhere : σ → σ → Prop} {lease conn : Nat} {b : BoundStatement}
  {limits : CallLimits} {s : σ}

/-- When the driver has answered, and the watch is over or still looks whether it is to be, the call
ends with what is concluded from the answer. -/
theorem Reachable.concluded {v : Vigil σ} {started : Seconds} {r r' : Except Failure DriverResult}
    {s' : σ} (hreach : Reachable h Elsewhere lease conn b limits s v)
    (hcaller : v.caller = .running started)
    (hwatch : v.watch.isOver = true ∨ ∃ begun, v.watch = .checking begun)
    (hconclude : (h.conclude lease b started v.fired r).run v.state = (r', s')) :
    ∃ w, Reachable h Elsewhere lease conn b limits s w ∧ w.caller = .left r' ∧ w.state = s' := by
  have hanswered := hreach.step (.answer hcaller r)
  have hcalledOff := hanswered.step (.callOff rfl)
  rcases hwatch with hover | ⟨begun, hchecking⟩
  · exact ⟨_, hcalledOff.step (.leave rfl hover hconclude), rfl, rfl⟩
  · have hgone := hcalledOff.step (.check hchecking)
    exact ⟨_, hgone.step (.leave rfl rfl hconclude), rfl, rfl⟩

/-- A statement for which the driver keeps the watch takes one of the courses of a vigil. -/
theorem runOn_reachable (hk : h.KeepsAlarms Elsewhere) (lease conn : Nat) (b : BoundStatement)
    (limits : CallLimits) (s : σ) :
    (h.runOn lease conn b limits).Ensures s fun r s' =>
      ∃ v, Reachable h Elsewhere lease conn b limits s v ∧ v.caller = .left r ∧ v.state = s' := by
  rw [Host.runOn_eq, Task.ensures_bind]
  rcases hready : (h.ready b limits).run s with ⟨f | ⟨params, started⟩, s₀⟩ <;>
    rw [Task.ensures_run hready]
  · exact ⟨_, Reachable.start.step (.refuse rfl hready), rfl, rfl⟩
  dsimp only
  rw [Task.ensures_bind, Task.ensures_state]
  rcases hran : h.calls.execute conn b.sql params (limits.alarm started)
    (h.interruptStatement conn) s₀ with ⟨⟨fired, r⟩, s₁⟩
  obtain ⟨-, hnow, -⟩ := h.ready_ok hready
  obtain rfl : s = s₀ := (hk.still s).symm.trans (congrArg Prod.snd hnow)
  -- The watch begins at once, while the clock is where it was when the statement was made ready.
  have hprepared : Reachable h Elsewhere lease conn b limits s
      { state := s, caller := .prepared started, watch := .setting } :=
    Reachable.start.step (.prepare rfl hready (.inl rfl))
  have hsent := (hprepared.step (.set rfl hnow)).step (.send rfl)
  cases fired with
  | false =>
    have hquiet := hsent.step (.elsewhere (hk.quiet hran))
    exact hquiet.concluded rfl (.inr ⟨_, rfl⟩) rfl
  | true =>
    obtain ⟨t, s₂, halarm, hpast, hbefore, hafter⟩ := hk.alarmed hran
    have hasking := (hsent.step (.elsewhere hbefore)).step (.check rfl)
    have hnow₂ : h.now s₂ = ((h.now s₂).1, s₂) := Prod.ext rfl (hk.still s₂)
    have hfiring : ∃ marks, Reachable h Elsewhere lease conn b limits s
        { state := s₂, caller := .running started, watch := .firing, marks } := by
      cases hcancelled : limits.cancelledBy (h.now s₂).1 with
      | true => exact ⟨_, hasking.step (.cancel rfl hnow₂ hcancelled)⟩
      | false =>
        have hexpired : limits.expiredBy started (h.now s₂).1 = true :=
          ((limits.dueBy_iff started (h.now s₂).1).2 ⟨t, halarm, hpast⟩).resolve_left
            (by simp [hcancelled])
        exact ⟨_, (hasking.step (.ask rfl hnow₂ hcancelled)).step (.expire rfl hnow₂ hexpired)⟩
    obtain ⟨marks, hfiring⟩ := hfiring
    have hstruck := ((hfiring.step (.fire rfl)).step (.strike rfl)).step (.struck rfl)
    exact (hstruck.step (.elsewhere hafter)).concluded rfl (.inl rfl) rfl

end

end Vigil

end SqlGateway
