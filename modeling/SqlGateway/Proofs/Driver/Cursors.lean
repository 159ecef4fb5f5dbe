import SqlGateway.Proofs.Driver.Connecting
set_option autoImplicit false

/-!
# Drivers: what a statement does with its cursor

A statement runs on a cursor of its own.  Any call to the client library may fail, also the one
that closes the cursor, and then its failure takes the place of what came before.  `OnCursor` has
one constructor for each way that the work on a cursor can end, and `OnConnection` for each way
that the whole statement can, with the calls that the client library has had by then.  From them
follows that the statement is sent once on its cursor, that the cursor is closed once in every
case, and how a failure comes out.
-/

namespace SqlGateway

/-! ## Clients with a journal -/

/-- A call to a client library that concerns a cursor, with what came of it. -/
inductive CursorCall where
  | cursor (conn : Nat) (r : Except Failure Nat)
  | send (cursor : Nat) (sql : String) (params : List Native) (failure : Option Failure)
  | reply (cursor : Nat) (r : Except Failure Reply)
  | fetchAll (cursor : Nat) (r : Except Failure (List (List Native)))
  | close (cursor : Nat) (failure : Option Failure)

namespace CursorCall

/-- How a call failed, if it did. -/
def failure? : CursorCall → Option Failure
  | .cursor _ r => SqlGateway.failure? r
  | .send _ _ _ failure | .close _ failure => failure
  | .reply _ r => SqlGateway.failure? r
  | .fetchAll _ r => SqlGateway.failure? r

/-- The failure that calls leave behind: each takes the place of those before it. -/
def leaving? (calls : List CursorCall) : Option Failure := (calls.filterMap failure?).getLast?

/-- A call that asks for a cursor. -/
def isOpening : CursorCall → Bool
  | .cursor .. => true
  | _ => false

/-- A call that sends a statement. -/
def isSending : CursorCall → Bool
  | .send .. => true
  | _ => false

/-- A call that closes a cursor. -/
def isClosing : CursorCall → Bool
  | .close .. => true
  | _ => false

end CursorCall

section

variable {α ε σ : Type}

/-- An action that does not touch the journal beside it. -/
def apart (m : StateM σ α) : StateM (σ × List ε) α :=
  fun (s, journal) => ((m s).1, (m s).2, journal)

/-- A client library with a journal of the calls that concern a cursor. -/
def Client.followed (c : Client σ) : Client (σ × List CursorCall) where
  installed := c.installed
  connect positional named := (c.connect positional named).alongside
  executeDirect n sql := (c.executeDirect n sql).alongside
  setAutocommit n v := (c.setAutocommit n v).alongside
  setReadonly n := (c.setReadonly n).alongside
  registerUuid n := (c.registerUuid n).alongside
  cursor n := (c.cursor n).entered (.cursor n)
  send cursor sql params :=
    (c.send cursor sql params).entered fun r => .send cursor sql params (failure? r)
  await cursor alarm := apart (c.await cursor alarm)
  reply cursor := (c.reply cursor).entered (.reply cursor)
  fetchAll cursor := (c.fetchAll cursor).entered (.fetchAll cursor)
  closeCursor cursor := (c.closeCursor cursor).entered fun r => .close cursor (failure? r)
  ping n := (c.ping n).alongside
  threadId n := apart (c.threadId n)
  isClosed n := apart (c.isClosed n)
  interrupt n := (c.interrupt n).alongside
  close n := (c.close n).alongside

/-- The driver at work whose client library has that journal. -/
def Line.followed (l : Line σ) : Line (σ × List CursorCall) where
  driver := l.driver
  client := l.client.followed
  tell n := apart (l.tell n)

end

namespace Line

variable {σ : Type} (l : Line σ) {s : σ} {journal : List CursorCall}

/-! ## How a statement ends -/

/-- What a statement comes to, from what its cursor knows and the rows that it gave. -/
def resultOf (r : Reply) (rows : List (List Native)) : DriverResult where
  columns := r.columns
  rows
  rowcount := r.rowcount.getD (-1)
  lastRowId := l.lastRowId r

/-- How a statement that is over is read from its cursor. -/
inductive Collects (cursor : Nat) : Except Failure DriverResult → List CursorCall → Prop where
  | unanswered (f : Failure) : Collects cursor (.error f) [.reply cursor (.error f)]
  /-- Without columns there are no rows to be fetched. -/
  | bare (r : Reply) (hcolumns : r.columns = []) :
      Collects cursor (.ok (l.resultOf r [])) [.reply cursor (.ok r)]
  | unfetched (r : Reply) (f : Failure) :
      Collects cursor (.error f) [.reply cursor (.ok r), .fetchAll cursor (.error f)]
  | fetched (r : Reply) (rows : List (List Native)) (hcolumns : r.columns ≠ []) :
      Collects cursor (.ok (l.resultOf r rows))
        [.reply cursor (.ok r), .fetchAll cursor (.ok rows)]

/-- How the work on a cursor ends. -/
inductive OnCursor (cursor : Nat) (sql : String) (params : List Native) :
    Except Failure DriverResult → List CursorCall → Prop where
  | unsent (f : Failure) :
      OnCursor cursor sql params (.error f) [.send cursor sql params (some f)]
  | sent {r : Except Failure DriverResult} {calls : List CursorCall}
      (hcollects : l.Collects cursor r calls) :
      OnCursor cursor sql params r (.send cursor sql params none :: calls)

/-- What comes of a statement when its cursor is closed: a failure to do that takes the place of
whatever came before. -/
def overruled (r : Except Failure DriverResult) : Option Failure → Except Failure DriverResult
  | some f => .error f
  | none => r

/-- How a statement ends on a connection, before its failure is worded. -/
inductive OnConnection (conn : Nat) (sql : String) (params : List Native) :
    Except Failure DriverResult → List CursorCall → Prop where
  | unopened (f : Failure) :
      OnConnection conn sql params (.error f) [.cursor conn (.error f)]
  | opened {cursor : Nat} {r : Except Failure DriverResult} {calls : List CursorCall}
      (hcursor : l.OnCursor cursor sql params r calls) (failure : Option Failure) :
      OnConnection conn sql params (overruled r failure)
        (.cursor conn (.ok cursor) :: calls ++ [.close cursor failure])

variable {l}

theorem collect_eq (cursor : Nat) : l.collect cursor = (do
    let r ← l.client.reply cursor
    let rows ← (if r.columns.isEmpty then pure [] else l.client.fetchAll cursor : Task σ _)
    return l.resultOf r rows) := by
  unfold collect
  congr 1
  funext r
  cases r.columns.isEmpty <;> rfl

theorem collect_collects (cursor : Nat) (s : σ) (journal : List CursorCall) :
    (l.followed.collect cursor).Ensures (s, journal) fun r st =>
      ∃ news, st.2 = journal ++ news ∧ l.Collects cursor r news := by
  have hreply : ∀ Q, (l.followed.client.reply cursor).Ensures (s, journal) Q ↔
      (l.client.reply cursor).Ensures s fun r s' => Q r (s', journal ++ [.reply cursor r]) :=
    Task.ensures_entered _ _ s journal
  have hfetchAll : ∀ s journal Q, (l.followed.client.fetchAll cursor).Ensures (s, journal) Q ↔
      (l.client.fetchAll cursor).Ensures s fun rows s' =>
        Q rows (s', journal ++ [.fetchAll cursor rows]) :=
    Task.ensures_entered _ _
  rw [collect_eq, Task.ensures_bind, hreply]
  rcases hreplied : (l.client.reply cursor).run s with ⟨f | r, s'⟩ <;>
    rw [Task.ensures_run hreplied]
  · exact ⟨_, rfl, .unanswered f⟩
  dsimp only
  rw [Task.ensures_bind]
  by_cases hcolumns : r.columns = []
  · rw [if_pos (List.isEmpty_iff.2 hcolumns)]
    exact ⟨_, rfl, .bare r hcolumns⟩
  · rw [if_neg fun hempty => hcolumns (List.isEmpty_iff.1 hempty), hfetchAll]
    rcases hfetched : (l.client.fetchAll cursor).run s' with ⟨f | rows, s''⟩ <;>
      rw [Task.ensures_run hfetched]
    · exact ⟨_, List.append_assoc .., .unfetched r f⟩
    · exact ⟨_, List.append_assoc .., .fetched r rows hcolumns⟩

/-- The work on a cursor, whatever is done about an alarm meanwhile. -/
theorem runCursor_onCursor (cursor : Nat) (sql : String) (params : List Native)
    (alarm : Option Seconds) (onAlarm : StateM σ Unit) (s : σ) (journal : List CursorCall) :
    ∃ fired r s' news, l.followed.runCursor cursor sql params alarm (apart onAlarm) (s, journal) =
        ((fired, r), s', journal ++ news) ∧ l.OnCursor cursor sql params r news := by
  have hsend : ((l.followed.client.send cursor sql params).run (s, journal)) =
      (((l.client.send cursor sql params).run s).1, ((l.client.send cursor sql params).run s).2,
        journal ++ [.send cursor sql params
          (failure? ((l.client.send cursor sql params).run s).1)]) :=
    rfl
  -- Whatever the alarm brings, the statement is read from the state that it leaves.
  have hread : ∀ s', ∃ r s'' news,
      (l.followed.collect cursor).run (s', journal ++ [.send cursor sql params none]) =
          (r, s'', journal ++ .send cursor sql params none :: news) ∧
        l.OnCursor cursor sql params r (.send cursor sql params none :: news) := by
    intro s'
    obtain ⟨news, hjournal, hcollects⟩ :=
      collect_collects cursor s' (journal ++ [.send cursor sql params none])
    rw [List.append_assoc] at hjournal
    exact ⟨_, _, news, Prod.ext rfl (Prod.ext rfl hjournal), .sent hcollects⟩
  unfold runCursor
  rw [StateM.bind_apply, hsend]
  rcases hsent : (l.client.send cursor sql params).run s with ⟨f | _, s₁⟩
  · exact ⟨false, .error f, s₁, _, rfl, .unsent f⟩
  · simp only [failure?]
    have hawait : l.followed.client.await cursor alarm
        (s₁, journal ++ [.send cursor sql params none]) =
        ((l.client.await cursor alarm s₁).1, (l.client.await cursor alarm s₁).2,
          journal ++ [.send cursor sql params none]) :=
      rfl
    rw [StateM.bind_apply, hawait]
    cases hfired : (l.client.await cursor alarm s₁).1 with
    | false =>
      obtain ⟨r, s₂, news, hrun, hcursor⟩ := hread (l.client.await cursor alarm s₁).2
      refine ⟨false, r, s₂, _, ?_, hcursor⟩
      simp only [Bool.false_eq_true, if_false, StateM.bind_apply, hrun]
      rfl
    | true =>
      obtain ⟨r, s₂, news, hrun, hcursor⟩ := hread (onAlarm (l.client.await cursor alarm s₁).2).2
      refine ⟨true, r, s₂, _, ?_, hcursor⟩
      simp only [if_true, StateM.bind_apply, apart, hrun]
      rfl

/-- A statement on a connection, whatever is done about an alarm meanwhile. -/
theorem runStatement_onConnection (conn : Nat) (sql : String) (params : List Native)
    (alarm : Option Seconds) (onAlarm : StateM σ Unit) (s : σ) (journal : List CursorCall) :
    ∃ fired r s' news,
      l.followed.runStatement conn sql params alarm (apart onAlarm) (s, journal) =
          ((fired, r), s', journal ++ news) ∧
        l.OnConnection conn sql params r news := by
  have hopen : (l.followed.client.cursor conn).run (s, journal) =
      (((l.client.cursor conn).run s).1, ((l.client.cursor conn).run s).2,
        journal ++ [.cursor conn ((l.client.cursor conn).run s).1]) :=
    rfl
  have hclose : ∀ cursor s journal, (l.followed.client.closeCursor cursor).run (s, journal) =
      (((l.client.closeCursor cursor).run s).1, ((l.client.closeCursor cursor).run s).2,
        journal ++ [.close cursor (failure? ((l.client.closeCursor cursor).run s).1)]) :=
    fun _ _ _ => rfl
  unfold runStatement
  rw [StateM.bind_apply, hopen]
  rcases hopened : (l.client.cursor conn).run s with ⟨f | cursor, s₁⟩
  · exact ⟨false, .error f, s₁, _, rfl, .unopened f⟩
  · obtain ⟨fired, r, s₂, calls, hrun, hcursor⟩ :=
      runCursor_onCursor cursor sql params alarm onAlarm s₁ (journal ++ [.cursor conn (.ok cursor)])
    dsimp only
    rw [StateM.bind_apply, hrun]
    dsimp only
    rw [StateM.bind_apply, hclose]
    rcases hclosed : (l.client.closeCursor cursor).run s₂ with ⟨f | _, s₃⟩
    · refine ⟨fired, .error f, s₃, _, ?_, .opened hcursor (some f)⟩
      rw [List.append_assoc, List.append_assoc]
      rfl
    · refine ⟨fired, r, s₃, _, ?_, .opened hcursor none⟩
      rw [List.append_assoc, List.append_assoc]
      rfl

/-! ## Failures of a statement -/

namespace Collects

variable {cursor : Nat} {r : Except Failure DriverResult} {calls : List CursorCall}

theorem failures (h : l.Collects cursor r calls) :
    calls.filterMap CursorCall.failure? = (failure? r).toList := by
  cases h <;> rfl

/-- Reading a cursor neither asks for one nor closes one, and sends nothing. -/
theorem reads (h : l.Collects cursor r calls) :
    ∀ call ∈ calls, call.isOpening = false ∧ call.isClosing = false ∧ call.isSending = false := by
  cases h <;> simp [CursorCall.isOpening, CursorCall.isClosing, CursorCall.isSending]

end Collects

namespace OnCursor

variable {cursor : Nat} {sql : String} {params : List Native} {r : Except Failure DriverResult}
  {calls : List CursorCall}

/-- At most one call on a cursor fails, and the work on it ends with that failure. -/
theorem failures (h : l.OnCursor cursor sql params r calls) :
    calls.filterMap CursorCall.failure? = (failure? r).toList := by
  cases h with
  | unsent f => rfl
  | sent hcollects => exact hcollects.failures

theorem works (h : l.OnCursor cursor sql params r calls) :
    ∀ call ∈ calls, call.isOpening = false ∧ call.isClosing = false := by
  cases h with
  | unsent f => simp [CursorCall.isOpening, CursorCall.isClosing]
  | sent hcollects =>
    intro call hcall
    rcases List.mem_cons.1 hcall with hfirst | hlater
    · rw [hfirst]
      exact ⟨rfl, rfl⟩
    · obtain ⟨hopening, hclosing, -⟩ := hcollects.reads call hlater
      exact ⟨hopening, hclosing⟩

/-- The statement is sent with its parameters, before anything else and not again. -/
theorem sends (h : l.OnCursor cursor sql params r calls) :
    ∃ failure rest, calls = .send cursor sql params failure :: rest ∧
      ∀ call ∈ rest, call.isSending = false := by
  cases h with
  | unsent f => exact ⟨some f, [], rfl, nofun⟩
  | sent hcollects => exact ⟨none, _, rfl, fun call hcall => (hcollects.reads call hcall).2.2⟩

/-- A result was read from the cursor. -/
theorem read {result : DriverResult} (h : l.OnCursor cursor sql params (.ok result) calls) :
    ∃ reply rows, result = l.resultOf reply rows ∧ .reply cursor (.ok reply) ∈ calls ∧
      (reply.columns = [] → rows = []) ∧
      (reply.columns ≠ [] → .fetchAll cursor (.ok rows) ∈ calls) := by
  cases h with
  | sent hcollects =>
    cases hcollects with
    | bare reply hcolumns => exact ⟨reply, [], rfl, by simp, by simp [hcolumns]⟩
    | fetched reply rows hcolumns => exact ⟨reply, rows, rfl, by simp, by simp [hcolumns]⟩

end OnCursor

namespace OnConnection

variable {conn : Nat} {sql : String} {params : List Native} {r : Except Failure DriverResult}
  {calls : List CursorCall}

/-- What the calls leave behind is the failure that the statement ends in. -/
theorem leaving (h : l.OnConnection conn sql params r calls) :
    CursorCall.leaving? calls = failure? r := by
  unfold CursorCall.leaving?
  cases h with
  | unopened f => rfl
  | @opened cursor r calls hcursor failure =>
    have hopened : (CursorCall.cursor conn (.ok cursor)).failure? = none := rfl
    rw [List.filterMap_append, List.filterMap_cons_none hopened, hcursor.failures]
    cases failure with
    | some f => exact List.getLast?_concat
    | none => cases r <;> rfl

/-- One cursor is asked for, before all else. -/
theorem opens (h : l.OnConnection conn sql params r calls) :
    ∃ opening rest, calls = .cursor conn opening :: rest ∧
      ∀ call ∈ rest, call.isOpening = false := by
  cases h with
  | unopened f => exact ⟨_, [], rfl, nofun⟩
  | opened hcursor failure =>
    refine ⟨_, _, rfl, ?_⟩
    intro call hcall
    rcases List.mem_append.1 hcall with hwork | hlast
    · exact (hcursor.works call hwork).1
    · rw [List.mem_singleton.1 hlast]
      rfl

/-- Where no cursor is opened there is no other call. -/
theorem unopened_only (h : l.OnConnection conn sql params r calls) {f : Failure}
    (hfailed : .cursor conn (.error f) ∈ calls) : calls = [.cursor conn (.error f)] := by
  obtain ⟨opening, rest, hcalls, honly⟩ := h.opens
  cases h with
  | unopened g =>
    cases List.mem_singleton.1 hfailed
    rfl
  | opened hwork failure =>
    cases hcalls
    rcases List.mem_cons.1 hfailed with hfirst | hlater
    · cases hfirst
    · exact nomatch honly _ hlater

/-- A cursor that was opened is the one that the statement runs on. -/
theorem on (h : l.OnConnection conn sql params r calls) {cursor : Nat}
    (hcursor : .cursor conn (.ok cursor) ∈ calls) :
    ∃ r' work failure, l.OnCursor cursor sql params r' work ∧
      calls = .cursor conn (.ok cursor) :: work ++ [.close cursor failure] := by
  obtain ⟨opening, rest, hcalls, honly⟩ := h.opens
  cases h with
  | unopened f => cases List.mem_singleton.1 hcursor
  | @opened cursor' r' work hwork failure =>
    cases hcalls
    rcases List.mem_cons.1 hcursor with hfirst | hlater
    · cases hfirst
      exact ⟨r', work, failure, hwork, rfl⟩
    · exact nomatch honly _ hlater

/-- The statement is sent on the cursor that was opened, with its parameters, once and before
anything else is done with the cursor. -/
theorem sends (h : l.OnConnection conn sql params r calls) {cursor : Nat}
    (hcursor : .cursor conn (.ok cursor) ∈ calls) :
    ∃ failure rest, calls = .cursor conn (.ok cursor) :: .send cursor sql params failure :: rest ∧
      ∀ call ∈ rest, call.isSending = false := by
  obtain ⟨r', work, closing, hwork, rfl⟩ := h.on hcursor
  obtain ⟨failure, rest, rfl, honly⟩ := hwork.sends
  refine ⟨failure, rest ++ [.close cursor closing], rfl, ?_⟩
  intro call hcall
  rcases List.mem_append.1 hcall with hwork | hlast
  · exact honly call hwork
  · rw [List.mem_singleton.1 hlast]
    rfl

/-- A cursor that was opened is closed once, behind all else. -/
theorem closes (h : l.OnConnection conn sql params r calls) {cursor : Nat}
    (hcursor : .cursor conn (.ok cursor) ∈ calls) :
    ∃ before failure, calls = before ++ [.close cursor failure] ∧
      ∀ call ∈ before, call.isClosing = false := by
  obtain ⟨r', work, failure, hwork, rfl⟩ := h.on hcursor
  refine ⟨_, failure, rfl, ?_⟩
  intro call hcall
  rcases List.mem_cons.1 hcall with hfirst | hcall
  · rw [hfirst]
    rfl
  · exact (hwork.works call hcall).2

/-- A statement that gives a result has read it from its cursor. -/
theorem read (h : l.OnConnection conn sql params r calls) {result : DriverResult}
    (hresult : r = .ok result) :
    ∃ cursor reply rows, result = l.resultOf reply rows ∧ .cursor conn (.ok cursor) ∈ calls ∧
      .reply cursor (.ok reply) ∈ calls ∧ (reply.columns = [] → rows = []) ∧
      (reply.columns ≠ [] → .fetchAll cursor (.ok rows) ∈ calls) := by
  cases h with
  | unopened f => cases hresult
  | @opened cursor r calls hcursor failure =>
    cases failure with
    | some f => cases hresult
    | none =>
      obtain rfl : r = .ok result := hresult
      obtain ⟨reply, rows, hread, hreply, hbare, hfetched⟩ := hcursor.read
      refine ⟨cursor, reply, rows, hread, by simp, by simp [hreply], hbare, ?_⟩
      intro hcolumns
      simp [hfetched hcolumns]

end OnConnection

end Line

/-! ## Failures in the words of the driver -/

/-- An error of an engine's client library becomes a failure of the driver: a violated constraint
if the library says so.  It keeps the error as its cause, and names the engine. -/
theorem Driver.worded_fault (d : Driver) (hengine : d.dialer ≠ .plain) (f : Failure) :
    ∃ kind details, d.worded f = .fault kind details (some f) none ∧
      kind.name = (if isViolation f then "IntegrityViolationError" else "DriverError") ∧
      kind.isDriver = true ∧ details.context.engine = .text d.name := by
  unfold Driver.worded
  have hdialer : (d.dialer != .plain) = true := by simpa using hengine
  rw [hdialer, Bool.true_and]
  cases isViolation f <;> exact ⟨_, _, rfl, rfl, rfl, rfl⟩

/-! ## What comes of a statement -/

/-- What comes of a statement, with the calls that the client library has had. -/
structure Line.Serves {σ : Type} (l : Line σ) (conn : Nat) (sql : String) (params : List Native)
    (r : Except Failure DriverResult) (calls : List CursorCall) : Prop where
  /-- One cursor is asked for, before all else. -/
  opens : ∃ opening rest, calls = .cursor conn opening :: rest ∧
    ∀ call ∈ rest, call.isOpening = false
  /-- If it is not opened, nothing else is asked for. -/
  unopened : ∀ f, .cursor conn (.error f) ∈ calls → calls = [.cursor conn (.error f)]
  /-- If it is, the statement is sent on it with its parameters, once and before all that is done
  with the cursor. -/
  sends : ∀ cursor, .cursor conn (.ok cursor) ∈ calls →
    ∃ failure rest, calls = .cursor conn (.ok cursor) :: .send cursor sql params failure :: rest ∧
      ∀ call ∈ rest, call.isSending = false
  /-- Then it is closed once, behind all else. -/
  closes : ∀ cursor, .cursor conn (.ok cursor) ∈ calls →
    ∃ before failure, calls = before ++ [.close cursor failure] ∧
      ∀ call ∈ before, call.isClosing = false
  /-- An error of the client library that the calls leave behind comes out as a failure of the
  driver: a violated constraint just if the library says so. -/
  worded : ∀ f, CursorCall.leaving? calls = some f → Driver.isClientError f = true →
    ∃ kind details, r = .error (.fault kind details (some f) none) ∧
      kind.name =
        (if Driver.isViolation f then "IntegrityViolationError" else "DriverError") ∧
      kind.isDriver = true ∧ details.context.engine = .text l.driver.name
  /-- Any other failure that they leave behind comes out as it is. -/
  foreign : ∀ f, CursorCall.leaving? calls = some f → Driver.isClientError f = false →
    r = .error f
  /-- Where no call failed, the result has the columns that the cursor which was opened knows of,
  and the rows that it gave, as it gave them; without columns there are none. -/
  returned : CursorCall.leaving? calls = none → ∃ cursor reply rows,
    r = .ok {
      columns := reply.columns
      rows
      rowcount := reply.rowcount.getD (-1)
      lastRowId := l.lastRowId reply } ∧
    .cursor conn (.ok cursor) ∈ calls ∧ .reply cursor (.ok reply) ∈ calls ∧
    (reply.columns = [] → rows = []) ∧ (reply.columns ≠ [] → .fetchAll cursor (.ok rows) ∈ calls)

namespace Line

variable {σ : Type} {l : Line σ} {conn : Nat} {sql : String} {params : List Native}
  {r : Except Failure DriverResult} {calls : List CursorCall}

/-- What surfaces of a statement is settled by how it ends on its connection. -/
theorem OnConnection.serves (h : l.OnConnection conn sql params r calls)
    (hengine : l.driver.dialer ≠ .plain)
    (hlibrary : l.driver.missingLibrary l.client.installed = none) :
    l.Serves conn sql params (r.mapError (l.driver.surfaced l.client.installed)) calls where
  opens := h.opens
  unopened _ hfailed := h.unopened_only hfailed
  sends _ hcursor := h.sends hcursor
  closes _ hcursor := h.closes hcursor
  worded f hleaving hclient := by
    rw [h.leaving] at hleaving
    cases r with
    | ok result => cases hleaving
    | error g =>
      cases hleaving
      obtain ⟨kind, details, hworded, hkind⟩ := l.driver.worded_fault hengine f
      refine ⟨kind, details, congrArg Except.error ?_, hkind⟩
      rw [Driver.surfaced, if_pos hclient, Driver.translate, hlibrary]
      exact hworded
  foreign f hleaving hforeign := by
    rw [h.leaving] at hleaving
    cases r with
    | ok result => cases hleaving
    | error g =>
      cases hleaving
      refine congrArg Except.error ?_
      rw [Driver.surfaced, if_neg (by simp [hforeign])]
  returned hnone := by
    rw [h.leaving] at hnone
    cases r with
    | error f => cases hnone
    | ok result =>
      obtain ⟨cursor, reply, rows, hresult, hread⟩ := h.read rfl
      exact ⟨cursor, reply, rows, congrArg Except.ok hresult, hread⟩

/-- **A statement and its cursor.**  However the calls to the client library end, a driver for an
engine sends a statement once on the cursor that it opened for it, and closes that cursor once and
behind all else.  What the calls
leave behind, the failure to close the cursor before any other, comes out in the words of the
driver if it is an error of the client library, and as it is if it is not.  If none failed, the
result is what the cursor gave.  This holds whether or not the statement is watched, and whatever is
done when the alarm goes off.  The library can be loaded, as the connection has come from it. -/
theorem statement_served (l : Line σ) (hengine : l.driver.dialer ≠ .plain)
    (hlibrary : l.driver.missingLibrary l.client.installed = none) (conn : Nat) (sql : String)
    (params : List Native) (s : σ) (journal : List CursorCall) :
    ((l.followed.execute conn sql params).Ensures (s, journal) fun r st =>
        ∃ news, st.2 = journal ++ news ∧ l.Serves conn sql params r news) ∧
      ∀ alarm onAlarm, ∃ fired r s' news,
        l.followed.executeWatched conn sql params alarm (apart onAlarm) (s, journal) =
            ((fired, r), s', journal ++ news) ∧ l.Serves conn sql params r news := by
  have hwatched : ∀ alarm onAlarm, ∃ fired r s' news,
      l.followed.executeWatched conn sql params alarm (apart onAlarm) (s, journal) =
          ((fired, r), s', journal ++ news) ∧ l.Serves conn sql params r news := by
    intro alarm onAlarm
    obtain ⟨fired, r, s', news, hrun, hconnection⟩ :=
      runStatement_onConnection (l := l) conn sql params alarm onAlarm s journal
    refine ⟨fired, _, s', news, ?_, hconnection.serves hengine hlibrary⟩
    unfold executeWatched
    rw [StateM.bind_apply, hrun]
    rfl
  refine ⟨?_, hwatched⟩
  obtain ⟨fired, r, s', news, hrun, hserves⟩ := hwatched none (pure ())
  have hexecute : (l.followed.execute conn sql params).run (s, journal) =
      (r, s', journal ++ news) := by
    have hunwatched : (l.followed.execute conn sql params).run (s, journal) =
        (((l.followed.executeWatched conn sql params none (apart (pure ())) (s, journal)).1).2,
          (l.followed.executeWatched conn sql params none (apart (pure ())) (s, journal)).2) :=
      rfl
    rw [hunwatched, hrun]
  rw [Task.ensures_run hexecute]
  exact ⟨news, rfl, hserves⟩

/-- A driver whose client library finds a constraint violated when the rows are fetched, and then
fails to close the cursor. -/
def losing : Line Unit :=
  { brittle .mysql {} with
    client := { brittleClient with
      cursor := fun _ => pure 3
      reply := fun _ => pure { columns := ["id"] }
      fetchAll := fun _ => throw (.primitive .clientIntegrity "duplicate key")
      closeCursor := fun _ => throw (.primitive .client "connection lost") } }

/-- The failure to close the cursor is what comes out, in the words of the driver. -/
theorem statement_served_losing : losing.driver.dialer ≠ .plain ∧
    losing.driver.missingLibrary losing.client.installed = none ∧
    ∃ r news, (losing.followed.execute 1 "SELECT id FROM t" []).run ((), []) = (r, (), news) ∧
      losing.Serves 1 "SELECT id FROM t" [] r news ∧
      news.filter CursorCall.isClosing = [.close 3 (some (.primitive .client "connection lost"))] ∧
      ∃ kind details, kind.name = "DriverError" ∧ details.message = "mysql: connection lost" ∧
        r = .error (.fault kind details (some (.primitive .client "connection lost")) none) := by
  have hengine : losing.driver.dialer ≠ .plain := nofun
  obtain ⟨⟨news, hnews, hserves⟩, -⟩ :=
    losing.statement_served hengine rfl 1 "SELECT id FROM t" [] () []
  have hcalls : news = [.cursor 1 (.ok 3), .send 3 "SELECT id FROM t" [] none,
      .reply 3 (.ok { columns := ["id"] }),
      .fetchAll 3 (.error (.primitive .clientIntegrity "duplicate key")),
      .close 3 (some (.primitive .client "connection lost"))] := hnews.symm
  subst hcalls
  exact ⟨hengine, rfl, _, _, rfl, hserves, rfl, .driver .null .null, _, rfl, rfl, rfl⟩

end Line

end SqlGateway
