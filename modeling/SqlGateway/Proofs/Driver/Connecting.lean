import SqlGateway.Proofs.Executor.Journal
set_option autoImplicit false

/-!
# Drivers: what a connect leaves open

A driver opens a connection and then sets it up, before anybody else knows of it.  If a
step of the set-up fails, the connection is neither returned nor closed.  `Connects` has
one constructor for each way that a connect can end, with the calls that the client
library has had by then.  From it follows what stays open, and how an error of the client
library comes out.
-/

namespace SqlGateway

/-! ## Set-up -/

/-- What is done to a connection between its opening and its first use. -/
inductive SetUp where
  | statement (sql : String)
  | autocommit
  | readonly
  | uuid
  deriving DecidableEq, Repr

namespace SetUp

variable {σ : Type}

/-- Do a step of the set-up of a connection. -/
def on (c : Client σ) (conn : Nat) : SetUp → Task σ Unit
  | .statement sql => c.executeDirect conn sql
  | .autocommit => c.setAutocommit conn true
  | .readonly => c.setReadonly conn
  | .uuid => c.registerUuid conn

/-- Do steps in order, until one fails. -/
def all (c : Client σ) (conn : Nat) : List SetUp → Task σ Unit
  | [] => return
  | step :: rest => do
    step.on c conn
    all c conn rest

end SetUp

namespace Driver

/-- The set-up of a connection, in order. -/
def setUp (d : Driver) : List SetUp :=
  match d.dialer with
  | .sqlite =>
    .statement "PRAGMA foreign_keys = ON" ::
      if d.config.readonly.holds then [.statement "PRAGMA query_only = ON"] else []
  | .postgresql => .autocommit :: if d.config.readonly.holds then [.readonly, .uuid] else [.uuid]
  | _ => []

/-- Client errors of the set-up count as failures to connect. -/
def guardsSetUp (d : Driver) : Bool := d.dialer == .sqlite

/-- What comes out of a connect where the client library failed: its own errors in the words of the
driver, and all others as they are. -/
def unconnected (d : Driver) (f : Failure) : Failure := if isClientError f then d.refused f else f

end Driver

/-! ## Clients with a journal -/

/-- A call to a client library that opens a connection, sets it up or closes it, with what came of
it. -/
inductive ClientCall where
  | connect (r : Except Failure Nat)
  | setUp (conn : Nat) (step : SetUp) (failure : Option Failure)
  | close (conn : Nat)

namespace ClientCall

/-- The connections that were opened, in order. -/
def opened (calls : List ClientCall) : List Nat :=
  calls.filterMap fun
    | .connect (.ok n) => some n
    | _ => none

/-- The connections that the client library was asked to close, in order. -/
def closed (calls : List ClientCall) : List Nat :=
  calls.filterMap fun
    | .close n => some n
    | _ => none

/-- The connections that were opened and not closed. -/
def leftOpen (calls : List ClientCall) : List Nat :=
  (opened calls).filter fun n => !(closed calls).contains n

/-- How a call failed, if it did. -/
def failure? : ClientCall → Option Failure
  | .connect (.error f) => some f
  | .setUp _ _ failure => failure
  | _ => none

def isSetUp : ClientCall → Bool
  | .setUp .. => true
  | _ => false

end ClientCall

section

variable {α ε σ : Type}

/-- An action beside a journal. -/
def Task.alongside (t : Task σ α) : Task (σ × List ε) α :=
  ExceptT.mk fun (s, journal) => ((t.run s).1, (t.run s).2, journal)

/-- An action that is put down in a journal, with its outcome. -/
def Task.entered (t : Task σ α) (entry : Except Failure α → ε) : Task (σ × List ε) α :=
  ExceptT.mk fun (s, journal) => ((t.run s).1, (t.run s).2, journal ++ [entry (t.run s).1])

theorem Task.ensures_entered (t : Task σ α) (entry : Except Failure α → ε) (s : σ)
    (journal : List ε) (Q : Except Failure α → σ × List ε → Prop) :
    (t.entered entry).Ensures (s, journal) Q ↔
      t.Ensures s fun r s' => Q r (s', journal ++ [entry r]) :=
  Iff.rfl

/-- What is caught of an action is handled where it ended. -/
theorem Task.ensures_tryCatch (t : Task σ α) (k : Failure → Task σ α) (s : σ)
    (Q : Except Failure α → σ → Prop) :
    (tryCatch t k).Ensures s Q ↔
      t.Ensures s fun r s' =>
        match r with
        | .ok a => Q (.ok a) s'
        | .error f => (k f).Ensures s' Q := by
  unfold Ensures
  rcases ht : t.run s with ⟨f | a, s'⟩
  · have ht' : t s = _ := ht
    simp only [tryCatch, tryCatchThe, MonadExceptOf.tryCatch, ExceptT.tryCatch, ExceptT.run,
      ExceptT.mk, bind, StateT.bind, ht']
  · have ht' : t s = _ := ht
    simp only [tryCatch, tryCatchThe, MonadExceptOf.tryCatch, ExceptT.tryCatch, ExceptT.run,
      ExceptT.mk, bind, StateT.bind, ht']
    exact Iff.rfl

/-- A client library with a journal of the calls that concern a connection as a whole. -/
def Client.noted (c : Client σ) : Client (σ × List ClientCall) where
  installed := c.installed
  connect positional named := (c.connect positional named).entered .connect
  executeDirect n sql :=
    (c.executeDirect n sql).entered fun r => .setUp n (.statement sql) (failure? r)
  setAutocommit n v := (c.setAutocommit n v).entered fun r => .setUp n .autocommit (failure? r)
  setReadonly n := (c.setReadonly n).entered fun r => .setUp n .readonly (failure? r)
  registerUuid n := (c.registerUuid n).entered fun r => .setUp n .uuid (failure? r)
  cursor n := (c.cursor n).alongside
  send cursor sql params := (c.send cursor sql params).alongside
  await cursor alarm := fun (s, journal) =>
    ((c.await cursor alarm s).1, (c.await cursor alarm s).2, journal)
  reply cursor := (c.reply cursor).alongside
  fetchAll cursor := (c.fetchAll cursor).alongside
  closeCursor cursor := (c.closeCursor cursor).alongside
  ping n := (c.ping n).alongside
  threadId n := fun (s, journal) => ((c.threadId n s).1, (c.threadId n s).2, journal)
  isClosed n := fun (s, journal) => ((c.isClosed n s).1, (c.isClosed n s).2, journal)
  interrupt n := (c.interrupt n).alongside
  close n := (c.close n).entered fun _ => .close n

/-- The driver at work whose client library has a journal. -/
def Line.noted (l : Line σ) : Line (σ × List ClientCall) where
  driver := l.driver
  client := l.client.noted
  tell n := fun (s, journal) => ((l.tell n s).1, (l.tell n s).2, journal)

end

/-! ## How a connect ends -/

/-- How a connect ends, with the calls that the client library has had. -/
inductive Driver.Connects (d : Driver) (installed : Bool) :
    Except Failure Nat → List ClientCall → Prop where
  /-- The client library is missing. -/
  | uninstalled {f : Failure} (hlibrary : d.missingLibrary installed = some f) :
      Connects d installed (.error f) []
  /-- The configuration gives no arguments for a connection. -/
  | unfit {f : Failure} (harguments : d.arguments = .error f) : Connects d installed (.error f) []
  /-- No connection was opened. -/
  | refused (f : Failure) :
      Connects d installed (.error (d.unconnected f)) [.connect (.error f)]
  /-- A step of the set-up failed. -/
  | broken (n : Nat) (f : Failure) {before after : List SetUp} {step : SetUp}
      (hsteps : d.setUp = before ++ step :: after) :
      Connects d installed (.error (if d.guardsSetUp then d.unconnected f else f))
        (.connect (.ok n) :: before.map (.setUp n · none) ++ [.setUp n step (some f)])
  /-- The connection has been set up. -/
  | connected (n : Nat) :
      Connects d installed (.ok n) (.connect (.ok n) :: d.setUp.map (.setUp n · none))

namespace Line

variable {σ : Type} {l : Line σ} {s : σ} {journal : List ClientCall}

theorem prepare_eq (n : Nat) : l.prepare n =
    SetUp.all l.client n (if l.driver.guardsSetUp then l.driver.setUp else []) := by
  unfold prepare Driver.guardsSetUp Driver.setUp
  cases l.driver.dialer with
  | sqlite => cases l.driver.config.readonly.holds <;> simp [SetUp.all, SetUp.on]
  | _ => rfl

theorem settle_eq (n : Nat) : l.settle n =
    SetUp.all l.client n (if l.driver.guardsSetUp then [] else l.driver.setUp) := by
  unfold settle Driver.guardsSetUp Driver.setUp
  cases l.driver.dialer with
  | postgresql => cases l.driver.config.readonly.holds <;> simp [SetUp.all, SetUp.on]
  | _ => rfl

theorem ensures_step (c : Client σ) (n : Nat) (step : SetUp)
    (Q : Except Failure Unit → σ × List ClientCall → Prop) :
    (step.on c.noted n).Ensures (s, journal) Q ↔
      (step.on c n).Ensures s fun r s' => Q r (s', journal ++ [.setUp n step (failure? r)]) := by
  cases step <;> exact Iff.rfl

/-- Steps of the set-up are taken in order until one fails. -/
theorem ensures_all (c : Client σ) (n : Nat) (steps : List SetUp) :
    (SetUp.all c.noted n steps).Ensures (s, journal) fun r st =>
      (r = .ok () ∧ st.2 = journal ++ steps.map (.setUp n · none)) ∨
        ∃ before step after f, steps = before ++ step :: after ∧ r = .error f ∧
          st.2 = journal ++ (before.map (.setUp n · none) ++ [.setUp n step (some f)]) := by
  induction steps generalizing s journal with
  | nil => exact .inl ⟨rfl, (List.append_nil journal).symm⟩
  | cons step rest ih =>
    unfold SetUp.all
    rw [Task.ensures_bind, ensures_step]
    rcases hstep : (step.on c n).run s with ⟨f | _, s'⟩ <;> rw [Task.ensures_run hstep]
    · exact .inr ⟨[], step, rest, f, rfl, rfl, rfl⟩
    · refine ih.imp ?_
      rintro r st (⟨rfl, hjournal⟩ | ⟨before, later, after, f, rfl, rfl, hjournal⟩)
      · refine .inl ⟨rfl, ?_⟩
        rw [hjournal]
        simp [failure?]
      · refine .inr ⟨step :: before, later, after, f, rfl, rfl, ?_⟩
        rw [hjournal]
        simp [failure?]

/-- A connection is opened and prepared, then settled and reported. -/
theorem connect_eq (l : Line σ) (hengine : l.driver.dialer ≠ .plain)
    (hlibrary : l.driver.missingLibrary l.client.installed = none) :
    l.connect = (do
      let (positional, named) ← Task.ofExcept l.driver.arguments
      let n ← l.connecting do
        let n ← l.client.connect positional named
        l.prepare n
        return n
      l.settle n
      l.report (.log .debug "driver_connected" l.connectionFields)
      return n) := by
  unfold connect
  rw [hlibrary]
  cases hdialer : l.driver.dialer with
  | plain => exact absurd hdialer hengine
  | _ => rfl

theorem ensures_connecting {α : Type} (action : Task σ α) (Q : Except Failure α → σ → Prop) :
    (l.connecting action).Ensures s Q ↔
      action.Ensures s fun r s' => Q (r.mapError l.driver.unconnected) s' := by
  unfold connecting
  rw [Task.ensures_tryCatch]
  unfold Task.Ensures
  cases (action.run s).1 <;> exact Iff.rfl

variable (l s journal) in
/-- A connection that was opened is set up, and a connect ends as that does. -/
theorem ensures_setUp (n : Nat) :
    (SetUp.all l.client.noted n l.driver.setUp).Ensures (s, journal ++ [.connect (.ok n)])
      fun r st => ∃ news, st.2 = journal ++ news ∧ l.driver.Connects l.client.installed
        ((r.map fun _ => n).mapError fun f =>
          if l.driver.guardsSetUp then l.driver.unconnected f else f) news := by
  refine (ensures_all l.client n l.driver.setUp).imp ?_
  rintro r st (⟨rfl, hjournal⟩ | ⟨before, step, after, f, hsteps, rfl, hjournal⟩)
  · exact ⟨_, hjournal.trans (List.append_assoc ..), .connected n⟩
  · exact ⟨_, hjournal.trans (List.append_assoc ..), .broken n f hsteps⟩

/-- A connect of a driver for an engine ends in one of these ways. -/
theorem connect_connects (l : Line σ) (hengine : l.driver.dialer ≠ .plain) :
    l.noted.connect.Ensures (s, journal) fun r st =>
      ∃ news, st.2 = journal ++ news ∧ l.driver.Connects l.client.installed r news := by
  cases hlibrary : l.driver.missingLibrary l.client.installed with
  | some f =>
    have hconnect : l.noted.connect = throw f := by
      unfold connect
      have hmissing : l.noted.driver.missingLibrary l.noted.client.installed = some f := hlibrary
      rw [hmissing]
    rw [hconnect]
    exact ⟨[], (List.append_nil journal).symm, .uninstalled hlibrary⟩
  | none =>
    rw [l.noted.connect_eq hengine hlibrary]
    have hdriver : l.noted.driver = l.driver := rfl
    rw [Task.ensures_bind, Task.ensures_ofExcept, hdriver]
    cases harguments : l.driver.arguments with
    | error f => exact ⟨[], (List.append_nil journal).symm, .unfit harguments⟩
    | ok arguments =>
      have hopens : ∀ Q, (l.noted.client.connect arguments.1 arguments.2).Ensures (s, journal) Q ↔
          (l.client.connect arguments.1 arguments.2).Ensures s fun r s' =>
            Q r (s', journal ++ [.connect r]) := fun _ => Iff.rfl
      simp only [Task.ensures_bind, ensures_connecting, prepare_eq, settle_eq, hdriver, hopens]
      rcases hrun : (l.client.connect arguments.1 arguments.2).run s with ⟨f | n, s'⟩ <;>
        rw [Task.ensures_run hrun]
      · exact ⟨_, rfl, .refused f⟩
      have hsetUp := ensures_setUp l s' journal n
      -- A set-up that is guarded comes before the errors are worded, any other one after that.
      cases hguards : l.driver.guardsSetUp with
      | true =>
        simp only [if_true]
        refine hsetUp.imp ?_
        rintro r st ⟨news, hjournal, hconnects⟩
        simp only [hguards, if_true] at hconnects
        cases r <;> exact ⟨news, hjournal, hconnects⟩
      | false =>
        simp only [Bool.false_eq_true, if_false, SetUp.all, Task.ensures_pure]
        refine hsetUp.imp ?_
        rintro r st ⟨news, hjournal, hconnects⟩
        simp only [hguards, Bool.false_eq_true, if_false] at hconnects
        cases r <;> exact ⟨news, hjournal, hconnects⟩

end Line

/-! ## What a connect leaves -/

/-- What a connect leaves, with the calls that the client library has had. -/
structure Driver.Leaves (d : Driver) (r : Except Failure Nat) (calls : List ClientCall) :
    Prop where
  /-- A connection that is returned is the only one open, and has been set up in full. -/
  returned : ∀ n, r = .ok n → ClientCall.leftOpen calls = [n] ∧
    calls.filter ClientCall.isSetUp = d.setUp.map (.setUp n · none)
  /-- Where none is returned, one stays open just if a step of its set-up failed. -/
  forgotten : ∀ f, r = .error f → ∀ n,
    n ∈ ClientCall.leftOpen calls ↔ ∃ step g, .setUp n step (some g) ∈ calls
  /-- A driver without a set-up leaves nothing open. -/
  bare : d.dialer = .mysql → ∀ f, r = .error f → ClientCall.leftOpen calls = []
  /-- An error of the client library is a failure to connect, unless it comes from a set-up that
  is not guarded. -/
  worded : ∀ call ∈ calls, ∀ g, call.failure? = some g → isClientError g = true →
    if call.isSetUp && d.dialer == .postgresql then r = .error g
    else r = .error (d.refused g) ∧ (d.refused g).name = "DatabaseConnectionError" ∧
      (d.refused g).cause? = some g
  /-- Any other failure comes out as it is. -/
  foreign : ∀ call ∈ calls, ∀ g, call.failure? = some g → isClientError g = false → r = .error g

namespace Driver

variable {d : Driver} {installed : Bool} {r : Except Failure Nat} {calls : List ClientCall}

/-- Where a step of the set-up fails outside the guard, the driver is one for PostgreSQL. -/
theorem guardsSetUp_of_step {before after : List SetUp} {step : SetUp}
    (hsteps : d.setUp = before ++ step :: after) :
    d.guardsSetUp = !(d.dialer == .postgresql) := by
  unfold setUp at hsteps
  unfold guardsSetUp
  cases hdialer : d.dialer with
  | sqlite | postgresql => rfl
  | plain | mysql =>
    rw [hdialer] at hsteps
    simp at hsteps

theorem filter_isSetUp (n : Nat) (steps : List SetUp) :
    (steps.map (ClientCall.setUp n · none)).filter ClientCall.isSetUp =
      steps.map (ClientCall.setUp n · none) :=
  List.filter_eq_self.2 fun call hcall => by
    obtain ⟨step, -, rfl⟩ := List.mem_map.1 hcall
    rfl

/-- The set-up neither opens nor closes anything. -/
theorem leftOpen_setUp (n : Nat) (later : List ClientCall)
    (hlater : ∀ call ∈ later, ClientCall.isSetUp call = true) :
    ClientCall.leftOpen (.connect (.ok n) :: later) = [n] := by
  have hopened : ClientCall.opened later = [] := by
    refine List.filterMap_eq_nil_iff.2 fun call hcall => ?_
    cases call <;> first | rfl | exact nomatch hlater _ hcall
  have hclosed : ClientCall.closed later = [] := by
    refine List.filterMap_eq_nil_iff.2 fun call hcall => ?_
    cases call <;> first | rfl | exact nomatch hlater _ hcall
  have hfirst : ClientCall.opened (.connect (.ok n) :: later) = n :: ClientCall.opened later := rfl
  have hnone : ClientCall.closed (.connect (.ok n) :: later) = ClientCall.closed later := rfl
  rw [ClientCall.leftOpen, hfirst, hnone, hopened, hclosed]
  rfl

theorem leaves_nothing (f : Failure) : d.Leaves (.error f) [] :=
  ⟨nofun, fun _ _ _ => by simp [ClientCall.leftOpen, ClientCall.opened], fun _ _ _ => rfl, nofun,
    nofun⟩

theorem leaves_refused (f : Failure) :
    d.Leaves (.error (d.unconnected f)) [.connect (.error f)] := by
  refine ⟨nofun, fun _ _ _ => by simp [ClientCall.leftOpen, ClientCall.opened],
    fun _ _ _ => rfl, ?_, ?_⟩
  · intro call hcall g hg hclient
    cases List.mem_singleton.1 hcall
    cases hg
    rw [unconnected, if_pos hclient]
    exact ⟨rfl, rfl, rfl⟩
  · intro call hcall g hg hother
    cases List.mem_singleton.1 hcall
    cases hg
    simp [unconnected, hother]

theorem failure?_done {n : Nat} {steps : List SetUp} {call : ClientCall}
    (hcall : call ∈ ClientCall.connect (.ok n) :: steps.map (.setUp n · none)) :
    call.failure? = none := by
  rcases List.mem_cons.1 hcall with rfl | hcall
  · rfl
  · obtain ⟨step, -, rfl⟩ := List.mem_map.1 hcall
    rfl

/-- Where a step of the set-up fails, it is the only call that did. -/
theorem failure?_broken {n : Nat} {f g : Failure} {before : List SetUp} {step : SetUp}
    {call : ClientCall} (hcall : call ∈ ClientCall.connect (.ok n) ::
      before.map (.setUp n · none) ++ [.setUp n step (some f)]) (hg : call.failure? = some g) :
    call = .setUp n step (some f) ∧ g = f := by
  rcases List.mem_append.1 hcall with hdone | hlast
  · rw [failure?_done hdone] at hg
    cases hg
  · cases List.mem_singleton.1 hlast
    cases hg
    exact ⟨rfl, rfl⟩

theorem leaves_broken (n : Nat) (f : Failure) {before after : List SetUp} {step : SetUp}
    (hsteps : d.setUp = before ++ step :: after) :
    d.Leaves (.error (if d.guardsSetUp then d.unconnected f else f))
      (.connect (.ok n) :: before.map (.setUp n · none) ++ [.setUp n step (some f)]) := by
  have hopen := leftOpen_setUp n (before.map (.setUp n · none) ++ [.setUp n step (some f)])
    (by simp [ClientCall.isSetUp, or_imp, forall_and])
  rw [← List.cons_append] at hopen
  refine ⟨nofun, ?_, ?_, ?_, ?_⟩
  · intro e he m
    rw [hopen, List.mem_singleton]
    constructor
    · rintro rfl
      exact ⟨step, f, by simp⟩
    · rintro ⟨other, g, hmem⟩
      obtain ⟨hsame, -⟩ := failure?_broken hmem rfl
      cases hsame
      rfl
  · intro hmysql
    simp [setUp, hmysql] at hsteps
  · intro call hcall g hg hclient
    obtain ⟨rfl, rfl⟩ := failure?_broken hcall hg
    rw [guardsSetUp_of_step hsteps, unconnected, if_pos hclient]
    cases d.dialer == .postgresql with
    | true => rfl
    | false => exact ⟨rfl, rfl, rfl⟩
  · intro call hcall g hg hother
    obtain ⟨rfl, rfl⟩ := failure?_broken hcall hg
    simp [unconnected, hother]

theorem leaves_connected (n : Nat) :
    d.Leaves (.ok n) (.connect (.ok n) :: d.setUp.map (.setUp n · none)) := by
  have hsetUp := filter_isSetUp n d.setUp
  refine ⟨?_, nofun, nofun, ?_, ?_⟩
  · rintro m ⟨⟩
    refine ⟨leftOpen_setUp n _ fun call hcall => ?_, ?_⟩
    · rw [← hsetUp] at hcall
      exact (List.mem_filter.1 hcall).2
    · rw [List.filter_cons_of_neg (by simp [ClientCall.isSetUp]), hsetUp]
  · intro call hcall g hg
    rw [failure?_done hcall] at hg
    cases hg
  · intro call hcall g hg
    rw [failure?_done hcall] at hg
    cases hg

/-- What a connect leaves is settled by how it ends. -/
theorem Connects.leaves (h : d.Connects installed r calls) : d.Leaves r calls := by
  cases h with
  | uninstalled | unfit => exact leaves_nothing _
  | refused f => exact leaves_refused f
  | broken n f hsteps => exact leaves_broken n f hsteps
  | connected n => exact leaves_connected n

end Driver

/-- A connect of a driver for an engine returns the one connection that it has opened, set up in
full; or it fails, and then a connection stays open just if a step of its set-up failed.  An error
of the client library comes out as a failure to connect, with the error as its cause, but for
those of the set-up of PostgreSQL, which come out as they are. -/
theorem Line.connect_leaves {σ : Type} (l : Line σ) (hengine : l.driver.dialer ≠ .plain) (s : σ)
    (journal : List ClientCall) :
    l.noted.connect.Ensures (s, journal) fun r st =>
      ∃ news, st.2 = journal ++ news ∧ l.driver.Leaves r news := by
  refine (l.connect_connects hengine).imp ?_
  rintro r st ⟨news, hjournal, hconnects⟩
  exact ⟨news, hjournal, hconnects.leaves⟩

namespace Line

/-- A client library that opens connections and fails to set them up. -/
def brittleClient : Client Unit where
  installed := true
  connect _ _ := pure 4
  executeDirect _ _ := throw (.primitive .client "disk I/O error")
  setAutocommit _ _ := pure ()
  setReadonly _ := throw (.primitive .client "read-only sessions are not supported")
  registerUuid _ := pure ()
  cursor _ := pure 0
  send _ _ _ := pure ()
  await _ _ := pure false
  reply _ := pure {}
  fetchAll _ := pure []
  closeCursor _ := pure ()
  ping _ := pure ()
  threadId _ := pure none
  isClosed _ := pure false
  interrupt _ := pure ()
  close _ := pure ()

/-- A driver that connects by means of that library. -/
def brittle (dialer : Dialer) (config : DatabaseConfig) : Line Unit where
  driver := { dialer, title := dialer.title, config, memoryTag := "" }
  client := brittleClient
  tell _ := pure ()

/-- What comes of connecting to a file, and the calls that it takes. -/
def brittleRun : Except Failure Nat × Unit × List ClientCall :=
  (brittle .sqlite {}).noted.connect.run ((), [])

/-- The first statement on a new connection fails: so does the connect, and the connection stays
open. -/
theorem connect_forgets : brittleRun.1 = .error ((brittle .sqlite {}).driver.refused
      (.primitive .client "disk I/O error")) ∧
    ClientCall.leftOpen brittleRun.2.2 = [4] :=
  ⟨rfl, rfl⟩

/-- Where a session cannot be made read-only, the error of the client library comes out as it is. -/
theorem connect_leaves_readonly : Dialer.postgresql ≠ .plain ∧
    ∃ r news, (brittle .postgresql { readonly := .bool true }).noted.connect.run ((), []) =
        (r, (), news) ∧
      r = .error (.primitive .client "read-only sessions are not supported") ∧
      ClientCall.leftOpen news = [4] ∧
      (brittle .postgresql { readonly := .bool true }).driver.Leaves r news := by
  have hengine : (brittle .postgresql { readonly := .bool true }).driver.dialer ≠ .plain := nofun
  obtain ⟨news, hnews, hleaves⟩ :=
    (brittle .postgresql { readonly := .bool true }).connect_leaves hengine () []
  have hcalls : news = [.connect (.ok 4), .setUp 4 .autocommit none, .setUp 4 .readonly
    (some (.primitive .client "read-only sessions are not supported"))] := hnews.symm
  subst hcalls
  exact ⟨hengine, _, _, rfl, rfl, rfl, hleaves⟩

end Line

end SqlGateway
