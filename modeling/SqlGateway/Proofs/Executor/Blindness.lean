import SqlGateway.Proofs.Executor.Coupling
import SqlGateway.Proofs.Executor.Tenancy
set_option autoImplicit false

/-!
# Executor: diagnostics without values

What is told of a statement, and the failure that it ends in, show its text and the kinds
of its values.  They never show a value: two runs that differ only in the values, and to
which all else answers alike, are told of alike and end alike.  Only durations may differ,
since the clock runs on by itself.

`Alike` says what the two runs have in common.  Each part of a run is then coupled with
itself for the other values.
-/

namespace SqlGateway

namespace Notice

/-- The names of durations in notices. -/
def durations : List String := ["duration_ms", "wait_ms"]

/-- A notice without its durations. -/
def untimed : Notice → Notice
  | .event name attributes => .event name (attributes.filter fun a => !durations.contains a.1)
  | .log level message fields =>
    .log level message (fields.filter fun a => !durations.contains a.1)

end Notice

/-- The same notices in the same order, durations apart. -/
def SameTold (notices notices' : List Notice) : Prop :=
  notices.map Notice.untimed = notices'.map Notice.untimed

theorem SameTold.refl (notices : List Notice) : SameTold notices notices := rfl

theorem SameTold.append {notices notices' more more' : List Notice} (h : SameTold notices notices')
    (hmore : SameTold more more') : SameTold (notices ++ more) (notices' ++ more') := by
  unfold SameTold at *
  rw [List.map_append, List.map_append, h, hmore]

/-- Two runs are in step: the states are related, and the same has been told, durations apart. -/
def InStep {σ : Type} (R : σ → σ → Prop) (told : σ → List Notice) (s s' : σ) : Prop :=
  R s s' ∧ SameTold (told s) (told s')

/-- Telling the same, durations apart, keeps two runs in step. -/
theorem coupled_tell {σ : Type} {R : σ → σ → Prop} {told : σ → List Notice}
    {tell : Notice → StateM σ Unit} {n n' : Notice}
    (hwritten : ∀ n s, told (tell n s).2 = told s ++ [n])
    (hkeeps : ∀ s s', R s s' → R (tell n s).2 (tell n' s').2) (hn : n.untimed = n'.untimed) :
    Coupled (InStep R told) Eq (tell n) (tell n') := by
  rintro s s' ⟨hs, htold⟩
  refine ⟨rfl, hkeeps s s' hs, ?_⟩
  rw [hwritten, hwritten]
  exact htold.append (congrArg (fun n => [n]) hn)

/-- The limits of a call in two runs, when it has its lease: as they were, or with the time that
the clock of each run has left. -/
inductive CallLimits.Left (T : Seconds → Seconds → Prop) (l : CallLimits) :
    CallLimits → CallLimits → Prop where
  | whole : Left T l l l
  | rest {t a a' b b' : Seconds} (ht : l.timeout = some t) (ha : T a a') (hb : T b b') :
    Left T l { l with timeout := some (Seconds.later 0 (t - (b - a))) }
      { l with timeout := some (Seconds.later 0 (t - (b' - a'))) }

theorem CallLimits.Left.cancelledBy {T : Seconds → Seconds → Prop} {limits l l' : CallLimits}
    (h : limits.Left T l l') (t : Seconds) :
    l.cancelledBy t = limits.cancelledBy t ∧ l'.cancelledBy t = limits.cancelledBy t := by
  cases h <;> exact ⟨rfl, rfl⟩

/-- Where the clocks read the same, as much is left. -/
theorem CallLimits.Left.eq {limits l l' : CallLimits} (h : limits.Left Eq l l') : l = l' := by
  cases h with
  | whole => rfl
  | rest ht ha hb => rw [ha, hb]

namespace Host

variable {σ : Type}

/-- What two runs of a statement have in common, one with the parameters `params` and the other
with `params'`.  The states stay in step, readings of the clock stay related by `T`, and the pool
and the driver give the same answers, to the statement too. -/
structure Alike (h : Host σ) (R : σ → σ → Prop) (T : Seconds → Seconds → Prop)
    (told : σ → List Notice) (limits : CallLimits) (sql : String) (params params' : List Native) :
    Prop where
  /-- Whatever is told is written down at the end. -/
  written (n : Notice) (s : σ) : told (h.tell n s).2 = told s ++ [n]
  tell {n n' : Notice} (hn : n.untimed = n'.untimed) {s s' : σ} (hs : R s s') :
    R (h.tell n s).2 (h.tell n' s').2
  now : Coupled (InStep R told) T h.now h.now
  /-- Another caller has broken both calls off, or neither. -/
  cancelled {t t' : Seconds} (ht : T t t') : limits.cancelledBy t = limits.cancelledBy t'
  checkout (timeout : Option Seconds) :
    Task.Coupled (InStep R told) Eq (h.checkout timeout) (h.checkout timeout)
  giveBack (lease : Nat) : Task.Coupled (InStep R told) Eq (h.giveBack lease) (h.giveBack lease)
  mark (lease : Nat) : Coupled (InStep R told) Eq (h.markUnhealthy lease) (h.markUnhealthy lease)
  healthy (lease : Nat) : Coupled (InStep R told) Eq (h.healthy lease) (h.healthy lease)
  connection (lease : Nat) :
    Task.Coupled (InStep R told) Eq (h.connection lease) (h.connection lease)
  interrupt (conn : Nat) :
    Task.Coupled (InStep R told) Eq (h.calls.interrupt conn) (h.calls.interrupt conn)
  /-- The driver ends both statements in the same way, and interrupts both or neither. -/
  execute (conn : Nat) {l l' : CallLimits} (hl : limits.Left T l l') {t t' : Seconds} (ht : T t t')
    {onAlarm : StateM σ Unit} (halarm : Coupled (InStep R told) Eq onAlarm onAlarm) :
    Coupled (InStep R told) Eq (h.calls.execute conn sql params (l.alarm t) onAlarm)
      (h.calls.execute conn sql params' (l'.alarm t') onAlarm)

namespace Alike

variable {h : Host σ} {R : σ → σ → Prop} {T : Seconds → Seconds → Prop} {told : σ → List Notice}
  {limits l l' : CallLimits} {b b' : BoundStatement} {params params' : List Native}

/-! ## Reports -/

section

variable (ha : h.Alike R T told limits b.sql params params')

include ha

theorem told_alike {n n' : Notice} (hn : n.untimed = n'.untimed) :
    Coupled (InStep R told) Eq (h.tell n) (h.tell n') :=
  coupled_tell ha.written (fun _ _ => ha.tell hn) hn

theorem reportAll {notices notices' : List Notice} (hn : SameTold notices notices') :
    Task.Coupled (InStep R told) Eq (h.reportAll notices) (h.reportAll notices') := by
  induction notices generalizing notices' with
  | nil =>
    obtain rfl : notices' = [] := List.map_eq_nil_iff.1 hn.symm
    exact Task.coupled_pure rfl
  | cons n rest ih =>
    cases notices' with
    | nil => cases hn
    | cons n' rest' =>
      obtain ⟨hhead, htail⟩ := List.cons.inj hn
      exact (Task.coupled_state (ha.told_alike hhead)).bind fun _ _ _ => ih htail

theorem interruptStatement (conn : Nat) :
    Coupled (InStep R told) Eq (h.interruptStatement conn) (h.interruptStatement conn) := by
  refine Coupled.bind (ha.interrupt conn) ?_
  rintro r r' hr
  cases hr with
  | ok hdelivered => exact hdelivered ▸ ha.told_alike rfl
  | error f =>
    dsimp only
    split
    · exact ha.told_alike rfl
    · exact .pure rfl

end

/-! ## The statement -/

/-- The shape of a statement does not show its values. -/
theorem shape_eq (hsql : b.sql = b'.sql) (hkinds : b.bindKinds = b'.bindKinds) :
    b.shape = b'.shape := by
  unfold BoundStatement.shape
  rw [hsql, hkinds]

/-- Where a failure happened is the same for statements of one shape. -/
theorem atStatement_eq (hsql : b.sql = b'.sql) (hkinds : b.bindKinds = b'.bindKinds) (f : Failure) :
    h.atStatement b f = h.atStatement b' f := by
  unfold Host.atStatement
  rw [shape_eq hsql hkinds]

/-- What is told of a statement that ran differs in its duration. -/
theorem reportDone_same (hsql : b.sql = b'.sql) (d d' : Seconds) (r : DriverResult) :
    SameTold (h.reportDone b d r) (h.reportDone b' d' r) := by
  simp [SameTold, Host.reportDone, Notice.untimed, Notice.durations, hsql]

section

variable (ha : h.Alike R T told limits b.sql params params') (hsql : b.sql = b'.sql)
  (hkinds : b.bindKinds = b'.bindKinds)

include ha hsql hkinds

/-- A statement ends alike: in the same result, or the same failure. -/
theorem conclude (lease : Nat) {t t' : Seconds} (fired : Bool) (r : Except Failure DriverResult) :
    Task.Coupled (InStep R told) Eq (h.conclude lease b t fired r)
      (h.conclude lease b' t' fired r) := by
  have hmark : Task.Coupled (InStep R told) Eq (liftM (h.markUnhealthy lease) : Task σ Unit)
      (liftM (h.markUnhealthy lease)) :=
    Task.coupled_state (ha.mark lease)
  unfold Host.conclude
  cases r with
  | ok result =>
    have hdone : Task.Coupled (InStep R told) Eq
        (do h.reportAll (h.reportDone b ((← h.now) - t) result); return result)
        (do h.reportAll (h.reportDone b' ((← h.now) - t') result); return result) :=
      (Task.coupled_state ha.now).bind fun _ _ _ =>
        (ha.reportAll (reportDone_same hsql _ _ result)).bind fun _ _ _ => Task.coupled_pure rfl
    cases fired with
    | false => exact hdone
    | true => exact hmark.bind fun _ _ _ => hdone
  | error f =>
    refine hmark.bind fun _ _ _ => ?_
    rw [atStatement_eq hsql hkinds, atStatement_eq hsql hkinds]
    have hrefused : h.reportRefused b f = h.reportRefused b' f := by
      unfold Host.reportRefused
      rw [hsql]
    have haborted : h.reportAborted b f = h.reportAborted b' f := by
      unfold Host.reportAborted
      rw [hsql]
    rw [hrefused, haborted]
    split
    · split
      · exact Task.coupled_throw _
      · exact (ha.reportAll (.refl _)).bind fun _ _ _ => Task.coupled_throw _
    · exact (ha.reportAll (.refl _)).bind fun _ _ _ => Task.coupled_throw _

/-- A statement runs alike on one connection, whatever is left of the time of its call. -/
theorem runOn (hb : h.parameters b = .ok params) (hb' : h.parameters b' = .ok params')
    (lease conn : Nat) (hl : limits.Left T l l') :
    Task.Coupled (InStep R told) Eq (h.runOn lease conn b l) (h.runOn lease conn b' l') := by
  unfold Host.runOn
  rw [hb, hb']
  have hparams : Agree (fun p p' => p = params ∧ p' = params') (.ok params) (.ok params') :=
    .ok ⟨rfl, rfl⟩
  refine (Task.coupled_ofExcept hparams).bind ?_
  rintro _ _ ⟨rfl, rfl⟩
  refine (Task.coupled_state ha.now).bind ?_
  intro started started' hstarted
  rw [(hl.cancelledBy started).1, (hl.cancelledBy started').2, ha.cancelled hstarted,
    atStatement_eq hsql hkinds, ← hsql]
  split
  · exact Task.coupled_throw _
  · have hexecute := ha.execute conn hl hstarted (ha.interruptStatement conn)
    refine (Task.coupled_state hexecute).bind ?_
    rintro ⟨fired, r⟩ _ rfl
    exact ha.conclude hsql hkinds lease fired r

end

/-! ## The places where a statement runs -/

section

variable (ha : h.Alike R T told limits b.sql params params')

include ha

/-- A lease is given back alike after actions that are coupled. -/
theorem withLease {α : Type} {t t' : Task σ α} (lease : Nat)
    (ht : Task.Coupled (InStep R told) Eq t t') :
    Task.Coupled (InStep R told) Eq (h.withLease lease t) (h.withLease lease t') := by
  unfold Host.withLease
  refine ht.outcome.bind ?_
  rintro r r' hr
  cases hr with
  | ok hab => exact (ha.giveBack lease).bind fun _ _ _ => Task.coupled_pure hab
  | error f =>
    have hback : Task.Coupled (InStep R told) Eq (do h.giveBack lease; throw f : Task σ α)
        (do h.giveBack lease; throw f) :=
      (ha.giveBack lease).bind fun _ _ _ => Task.coupled_throw f
    dsimp only
    split
    · exact (Task.coupled_state (ha.mark lease)).bind fun _ _ _ => hback
    · exact hback

/-- Both calls get the same lease or neither, and each keeps what its clock has left of the
time. -/
theorem checkoutWithin :
    Task.Coupled (InStep R told) (fun r r' => r.1 = r'.1 ∧ limits.Left T r.2 r'.2)
      (h.checkoutWithin limits) (h.checkoutWithin limits) := by
  unfold Host.checkoutWithin
  refine (Task.coupled_state ha.now).bind ?_
  intro started started' hstarted
  rw [ha.cancelled hstarted]
  split
  · exact Task.coupled_throw _
  · split
    · exact (ha.checkout none).bind fun _ _ hlease => Task.coupled_pure ⟨hlease, .whole⟩
    next t ht =>
      exact (ha.checkout _).bind fun _ _ hlease =>
        (Task.coupled_state ha.now).bind fun _ _ hnow =>
          Task.coupled_pure ⟨hlease, .rest ht hstarted hnow⟩

variable (hsql : b.sql = b'.sql) (hkinds : b.bindKinds = b'.bindKinds)
  (hb : h.parameters b = .ok params) (hb' : h.parameters b' = .ok params')

include hsql hkinds hb hb'

theorem perform : Task.Coupled (InStep R told) Eq (h.perform b limits) (h.perform b' limits) := by
  unfold Host.perform
  refine ha.checkoutWithin.bind ?_
  rintro ⟨lease, l⟩ ⟨_, l'⟩ ⟨rfl, hl⟩
  refine ha.withLease lease ((ha.connection lease).bind ?_)
  rintro conn _ rfl
  exact ha.runOn hsql hkinds hb hb' lease conn hl

theorem performIn :
    TransactionTask.Coupled (InStep R told) Eq (h.performIn b limits) (h.performIn b' limits) := by
  unfold Host.performIn
  refine TransactionTask.coupled_current.bind ?_
  rintro tx _ rfl
  split
  · exact TransactionTask.coupled_throw _
  · have hfinish {t : TransactionTask σ DriverResult}
        (ht : TransactionTask.Coupled (InStep R told) Eq t t) :
        TransactionTask.Coupled (InStep R told) Eq
          (do
            if !(← h.healthy tx.lease) then TransactionTask.moveTo .failed
            t)
          (do
            if !(← h.healthy tx.lease) then TransactionTask.moveTo .failed
            t) := by
      refine (TransactionTask.coupled_state (ha.healthy tx.lease)).bind ?_
      rintro healthy _ rfl
      cases healthy with
      | true => exact ht
      | false => exact (TransactionTask.coupled_moveTo .failed).bind fun _ _ _ => ht
    have hrun := ha.runOn hsql hkinds hb hb' tx.lease tx.conn .whole
    refine (TransactionTask.coupled_task hrun).outcome.bind ?_
    rintro r r' hr
    cases hr with
    | ok hab => exact hab ▸ hfinish (TransactionTask.coupled_pure rfl)
    | error f => exact hfinish (TransactionTask.coupled_throw f)

end

end Alike

end Host

/-! ## Runs at an office

A pool answers alike by itself, if what it works with does and the clock reads the same. -/

/-- The states of two runs at an office: the desk is the same, and the rest is related. -/
def Office.SameDesk {σ : Type} (o : Office σ) (E : σ → σ → Prop) (s s' : σ) : Prop :=
  o.desk s = o.desk s' ∧ E s s'

/-- What two runs at an office have in common, one with the parameters `params` and the other with
`params'`: what the surroundings of the pool and the driver answer. -/
structure Office.Alike {σ : Type} (o : Office σ) (calls : DriverCalls σ) (E : σ → σ → Prop)
    (told : σ → List Notice) (sql : String) (params params' : List Native) : Prop where
  written (n : Notice) (s : σ) : told (o.tell n s).2 = told s ++ [n]
  tell {n n' : Notice} (hn : n.untimed = n'.untimed) {s s' : σ} (hs : o.SameDesk E s s') :
    o.SameDesk E (o.tell n s).2 (o.tell n' s').2
  told_setDesk (d : Desk) (s : σ) : told (o.setDesk d s) = told s
  setDesk (d : Desk) {s s' : σ} (hs : E s s') : E (o.setDesk d s) (o.setDesk d s')
  now : Coupled (InStep (o.SameDesk E) told) Eq o.surroundings.now o.surroundings.now
  reply (q : Pending) :
    Coupled (InStep (o.SameDesk E) told) Eq (o.surroundings.reply q) (o.surroundings.reply q)
  interrupt (conn : Nat) :
    Task.Coupled (InStep (o.SameDesk E) told) Eq (calls.interrupt conn) (calls.interrupt conn)
  execute (conn : Nat) (alarm : Option Seconds) {onAlarm : StateM σ Unit}
    (halarm : Coupled (InStep (o.SameDesk E) told) Eq onAlarm onAlarm) :
    Coupled (InStep (o.SameDesk E) told) Eq (calls.execute conn sql params alarm onAlarm)
      (calls.execute conn sql params' alarm onAlarm)

namespace Office.Alike

variable {σ : Type} {o : Office σ} {calls : DriverCalls σ} {E : σ → σ → Prop}
  {told : σ → List Notice} {sql : String} {params params' : List Native}

/-- The desk that is read is the same. -/
theorem desk_alike : Coupled (InStep (o.SameDesk E) told) (fun s s' => o.desk s = o.desk s')
    (get : StateM σ σ) get :=
  fun _ _ hs => ⟨hs.1.1, hs⟩

/-- A lease is looked up alike. -/
theorem leaseAt (lease : Nat) :
    Task.Coupled (InStep (o.SameDesk E) told) Eq (o.leaseAt lease) (o.leaseAt lease) := by
  unfold Office.leaseAt
  refine Task.Coupled.bind (Task.coupled_state desk_alike) fun s s' hdesk => ?_
  rw [hdesk]
  split
  · exact Task.coupled_pure rfl
  · exact Task.coupled_throw _

variable (ha : o.Alike calls E told sql params params')

include ha

theorem told_alike {n n' : Notice} (hn : n.untimed = n'.untimed) :
    Coupled (InStep (o.SameDesk E) told) Eq (o.tell n) (o.tell n') :=
  coupled_tell ha.written (fun _ _ => ha.tell hn) hn

theorem setDesk_alike {s s' : σ} (d : Desk) (hs : InStep (o.SameDesk E) told s s') :
    InStep (o.SameDesk E) told (o.setDesk d s) (o.setDesk d s') := by
  refine ⟨⟨?_, ha.setDesk d hs.1.2⟩, ?_⟩
  · rw [o.desk_setDesk, o.desk_setDesk]
  · rw [ha.told_setDesk, ha.told_setDesk]
    exact hs.2

theorem take (t : Desk.Stretch) :
    Coupled (InStep (o.SameDesk E) told) Eq (o.take t) (o.take t) := by
  have htellAll (notices : List Notice) :
      Coupled (InStep (o.SameDesk E) told) Eq (notices.forM o.tell) (notices.forM o.tell) := by
    induction notices with
    | nil => exact .pure rfl
    | cons n rest ih => exact (ha.told_alike rfl).bind fun _ _ _ => ih
  intro s s' hs
  exact htellAll t.notices _ _ (ha.setDesk_alike t.state hs)

/-- An operation is carried on alike: it goes on from the same desk with the same reply. -/
theorem carryOn (caller fuel : Nat) (t : Desk.Stretch) :
    Coupled (InStep (o.SameDesk E) told) Eq (o.carryOn caller fuel t)
      (o.carryOn caller fuel t) := by
  induction fuel generalizing t with
  | zero =>
    unfold Office.carryOn
    refine (ha.take t).bind fun _ _ _ => ?_
    split <;> exact .pure rfl
  | succ fuel ih =>
    unfold Office.carryOn
    refine (ha.take t).bind fun _ _ _ => ?_
    split
    · exact .pure rfl
    next q _ =>
      refine (ha.reply q).bind ?_
      rintro r _ rfl
      refine ha.now.bind ?_
      rintro now _ rfl
      refine desk_alike.bind fun s s' hdesk => ?_
      rw [hdesk]
      exact ih _

theorem call (c : DeskCall) : Coupled (InStep (o.SameDesk E) told) Eq (o.call c) (o.call c) := by
  unfold Office.call
  refine ha.now.bind ?_
  rintro now _ rfl
  refine desk_alike.bind fun s s' hdesk => ?_
  rw [hdesk]
  exact ha.carryOn _ _ _

/-- Runs of a host at an office are alike. -/
theorem host (driver : Driver) (patience : Option Seconds) (limits : CallLimits) :
    (o.host driver calls patience).Alike (o.SameDesk E) Eq told limits sql params params' where
  written := ha.written
  tell hn _ _ hs := ha.tell hn hs
  now := ha.now
  cancelled ht := ht ▸ rfl
  checkout timeout := by
    refine (Task.coupled_mk (ha.call (.checkout timeout))).bind ?_
    rintro r _ rfl
    cases r with
    | none => exact Task.coupled_throw _
    | some lease => exact Task.coupled_pure rfl
  giveBack lease :=
    Task.coupled_mk ((ha.call (.giveBack lease)).bind fun _ _ hr => .pure (by rw [hr]))
  mark lease s s' hs := by
    have hdesk : o.desk s = o.desk s' := hs.1.1
    have hset := ha.setDesk_alike ((o.desk s).markUnhealthy lease) hs
    refine ⟨rfl, ?_⟩
    conv at hset => rhs; rw [hdesk]
    exact hset
  healthy lease := desk_alike.bind fun s s' hdesk => .pure (by rw [hdesk])
  connection lease := (leaseAt lease).bind fun l l' hl =>
    Task.coupled_ofExcept (hl ▸ .refl l.raw)
  interrupt := ha.interrupt
  execute conn l l' hl t t' ht onAlarm halarm := by
    obtain rfl := hl.eq
    obtain rfl := ht
    exact ha.execute conn _ halarm

end Office.Alike

namespace Host.Alike

variable {σ : Type} {h : Host σ} {R : σ → σ → Prop} {T : Seconds → Seconds → Prop}
  {told : σ → List Notice} {limits : CallLimits} {b b' : BoundStatement}
  {params params' : List Native}

/-- Diagnostics never depend on values.  Of two bound statements with the same text and the same
kinds of values, in whatever way all else answers, both runs end in the same result or the same
failure, and the same is told of them, durations apart: on a connection of their own, and in a
transaction, which they leave at the same place. -/
theorem diagnostics_blind (ha : h.Alike R T told limits b.sql params params')
    (hsql : b.sql = b'.sql) (hkinds : b.bindKinds = b'.bindKinds)
    (hb : h.parameters b = .ok params) (hb' : h.parameters b' = .ok params') {s s' : σ}
    (hs : InStep R told s s') :
    ((h.executor.run (.bound b) limits).run s).1 = ((h.executor.run (.bound b') limits).run s').1 ∧
      SameTold (told ((h.executor.run (.bound b) limits).run s).2)
        (told ((h.executor.run (.bound b') limits).run s').2) ∧
      ∀ tx,
        ((h.inTransaction.run (.bound b) limits).runIn tx s).1 =
            ((h.inTransaction.run (.bound b') limits).runIn tx s').1 ∧
          SameTold (told ((h.inTransaction.run (.bound b) limits).runIn tx s).2)
            (told ((h.inTransaction.run (.bound b') limits).runIn tx s').2) := by
  have hown : Task.Coupled (InStep R told) Eq (h.executor.run (.bound b) limits)
      (h.executor.run (.bound b') limits) :=
    (ha.perform hsql hkinds hb hb').bind fun _ _ hr => hr ▸ Task.coupled_lift _
  have hwithin : TransactionTask.Coupled (InStep R told) Eq (h.inTransaction.run (.bound b) limits)
      (h.inTransaction.run (.bound b') limits) :=
    (ha.performIn hsql hkinds hb hb').bind fun _ _ hr => hr ▸ TransactionTask.coupled_lift _
  obtain ⟨houtcome, -, htold⟩ := hown s s' hs
  refine ⟨houtcome.eq, htold, fun tx => ?_⟩
  obtain ⟨⟨houtcome, hstate⟩, -, htold⟩ := hwithin tx s s' hs
  exact ⟨Prod.ext houtcome.eq hstate, htold⟩

/-! ### Two runs of one statement -/

/-- The state of an office that writes down what is told, and the text that its driver was given. -/
structure Recording where
  desk : Desk
  told : List Notice := []
  given : Option String := none

/-- An office that nobody else visits and that writes down what is told. -/
def recordingOffice : Office Recording where
  desk := Recording.desk
  setDesk d s := { s with desk := d }
  surroundings := {
    openConnection := pure (.ok 7)
    testConnection _ := pure (.ok true)
    closeConnection _ := pure (.ok ())
    sleep _ := pure (.ok ())
    now := pure 0 }
  tell n := modify fun s => { s with told := s.told ++ [n] }
  turns := 3

/-- A driver that keeps what it is given and ends every statement in the same way. -/
def recordingCalls (r : Except Failure DriverResult) : DriverCalls Recording where
  begin _ := pure ()
  commit _ := pure ()
  rollback _ := pure ()
  execute _ _ params _ _ := do
    let name := match params with
      | [.text name] => some name
      | _ => none
    modify fun s => { s with given := name }
    return (false, r)
  interrupt _ := pure true

/-- A host whose statements take as long as the text that they are given. -/
def recordingHost (r : Except Failure DriverResult) : Host Recording :=
  { recordingOffice.host Transaction.plainDriver (recordingCalls r) none with
    now := fun s => ((s.given.map String.length).getD 0, s) }

/-- An update with one text as its value. -/
def naming (name : String) : BoundStatement where
  sql := "UPDATE t SET name = ?"
  binds := [.text name]
  style := .qmark
  dialect := none
  balanced := show _ = 1 by decide

/-- The statement may take ten seconds, and nobody breaks it off. -/
def patient : CallLimits := { timeout := some 10 }

theorem recordingOffice_alike (r : Except Failure DriverResult) (sql : String)
    (params params' : List Native) :
    recordingOffice.Alike (recordingCalls r) (fun _ _ => True) Recording.told sql params
      params' where
  written _ _ := rfl
  tell _ _ _ hs := hs
  told_setDesk _ _ := rfl
  setDesk _ _ _ _ := trivial
  now := .pure rfl
  reply q := by cases q <;> exact .pure rfl
  interrupt _ := Task.coupled_pure rfl
  execute _ _ _ _ _ _ hs := ⟨rfl, hs⟩

theorem recordingHost_alike (r : Except Failure DriverResult) (sql : String)
    (params params' : List Native) :
    (recordingHost r).Alike (recordingOffice.SameDesk fun _ _ => True) (fun _ _ => True)
      Recording.told patient sql params params' :=
  { (recordingOffice_alike r sql params params').host Transaction.plainDriver none patient with
    now := fun _ _ hs => ⟨trivial, hs⟩
    cancelled := fun _ => rfl
    execute := fun _ _ _ _ _ _ _ _ _ _ _ hs => ⟨rfl, hs⟩ }

/-- The pool has no connections yet. -/
def recordingStart : Recording := { desk := (Floor.new Floor.single "default").desk }

/-- A statement on a connection of its own. -/
def recordedRun (r : Except Failure DriverResult) (name : String) :
    Except Failure ResultSet × Recording :=
  ((recordingHost r).executor.run (.bound (naming name)) patient).run recordingStart

/-- A statement within a transaction. -/
def recordedRunIn (r : Except Failure DriverResult) (name : String) (tx : Transaction) :
    (Except Failure ResultSet × Transaction) × Recording :=
  ((recordingHost r).inTransaction.run (.bound (naming name)) patient).runIn tx recordingStart

/-- The engine refuses the statement. -/
def duplicate : Except Failure DriverResult :=
  .error (.make (.driver .null .null) "duplicate key")

/-- The driver sees two names, and is busy with one of them for longer.  What is told differs in the
durations at most, whether it answers or refuses. -/
theorem diagnostics_blind_named :
    (naming "ann").sql = (naming "robert").sql ∧
      (naming "ann").bindKinds = (naming "robert").bindKinds ∧
      (recordingHost duplicate).parameters (naming "ann") = .ok [.text "ann"] ∧
      (recordingHost duplicate).parameters (naming "robert") = .ok [.text "robert"] ∧
      (recordedRun duplicate "ann").2.given = some "ann" ∧
      (recordedRun duplicate "robert").2.given = some "robert" ∧
      (recordedRun duplicate "ann").2.told.length = 8 ∧
      (recordedRun duplicate "ann").1 = (recordedRun duplicate "robert").1 ∧
      SameTold (recordedRun duplicate "ann").2.told (recordedRun duplicate "robert").2.told ∧
      (∀ tx, (recordedRunIn duplicate "ann" tx).1 = (recordedRunIn duplicate "robert" tx).1 ∧
        SameTold (recordedRunIn duplicate "ann" tx).2.told
          (recordedRunIn duplicate "robert" tx).2.told) ∧
      SameTold (recordedRun (.ok {}) "ann").2.told (recordedRun (.ok {}) "robert").2.told := by
  have hblind (r : Except Failure DriverResult) :=
    (recordingHost_alike r (naming "ann").sql [.text "ann"] [.text "robert"]).diagnostics_blind
      (rfl : _ = (naming "robert").sql) rfl rfl rfl
      (⟨⟨rfl, trivial⟩, rfl⟩ : InStep _ Recording.told recordingStart recordingStart)
  obtain ⟨hfailure, htold, hwithin⟩ := hblind duplicate
  exact ⟨rfl, rfl, rfl, rfl, rfl, rfl, rfl, hfailure, htold, hwithin, (hblind (.ok {})).2.1⟩

end Host.Alike

end SqlGateway
