import SqlGateway.Proofs.Executor.Sending
import SqlGateway.Proofs.Query.Built
import SqlGateway.Repository.Basic
set_option autoImplicit false

/-!
# Repositories: what a write comes to

Whatever a repository writes is settled before anything runs: either it cannot be put
into a statement, or there is nothing to write, or there is one statement to be sent.
`Write.plan` says which, without a database, and a write does what its plan says wherever
statements run, on a connection of its own or in a transaction.  `Sent` says what the
driver is sent for a plan, and what the answer is then.
-/

namespace SqlGateway

namespace Repository

/-- What there is to do for a write: nothing, and the answer is known, or one statement, and the
answer is read from its result. -/
inductive Move (α : Type) where
  | rest (a : α)
  | send (s : Statement) (read : ResultSet → α)

/-- Do what there is to do: a statement is rendered, performed once and without a limit, and the
answer is read from what that gave. -/
def Move.on {m : Type → Type} [Monad m] [MonadExceptOf Failure m] {α : Type} (on : Runner m) :
    Move α → m α
  | .rest a => return a
  | .send s read => do
    let (b, notices) ← Runner.lift (on.dialect.prepare (.statement s))
    notices.forM on.tell
    let result ← on.perform b {}
    let rows ← Runner.lift (result.toResultSet on.dialect.codec)
    return read rows

/-- Do what a plan says, or fail as it says. -/
def carryOut {m : Type → Type} [Monad m] [MonadExceptOf Failure m] {α : Type} (on : Runner m)
    (plan : Except Failure (Move α)) : m α := do
  (← Runner.lift plan).on on

/-- What a repository is asked to write. -/
inductive Write where
  | insert (record : Record)
  | insertMany (records : List Record)
  | save (record : Record)
  | saveOrUpdate (record : Record)
  | updateWhere (values : List (String × Native)) (filter : Term)
  | delete (key : Native)
  | deleteMany (keys : List Native)
  | deleteWhere (filter : Term)

namespace Write

/-- What a write answers. -/
abbrev Gain : Write → Type
  | .insert _ | .saveOrUpdate _ => Native
  | _ => Int

/-- Write. -/
def on {m : Type → Type} [Monad m] [MonadExceptOf Failure m] (r : Repository) (on : Runner m) :
    (w : Write) → m w.Gain
  | .insert record => r.insert on record
  | .insertMany records => r.insertMany on records
  | .save record => r.save on record
  | .saveOrUpdate record => r.saveOrUpdate on record
  | .updateWhere values filter => r.updateWhere on values filter
  | .delete key => r.delete on key
  | .deleteMany keys => r.deleteMany on keys
  | .deleteWhere filter => r.deleteWhere on filter

end Write

/-! ## Plans -/

variable (r : Repository)

/-- The key that the driver reports. -/
def reportedKey (result : ResultSet) : Native :=
  match result.lastRowId with
  | some id => .int id
  | none => .null

/-- What the insertion of a record comes to.  The dialect decides whether the statement asks for the
key that the engine makes. -/
def insertPlan (returning : Bool) (record : Record) :
    Except Failure (Move Native) := do
  let row ← r.encodeNew record
  let s ← r.insertion [row]
  if r.descriptor.primaryKey.isNone then return .send (.insert s) fun _ => .null
  else
    let f ← r.descriptor.keyField
    match valueIn? row f.column with
    | some key => return .send (.insert s) fun _ => .ofValue key
    | none =>
      if returning then
        let s ← built (s.withReturning [.text f.column])
        return .send (.insert s) ResultSet.scalar
      else return .send (.insert s) reportedKey

/-- Send a statement, if there is one. -/
def moveOf {α β : Type} (a : α) (read : ResultSet → α) (statement : β → Statement) :
    Option β → Move α
  | none => .rest a
  | some s => .send (statement s) read

/-- What a write comes to, where the dialect can or cannot return what a statement wrote. -/
def Write.plan (returning : Bool) : (w : Write) → Except Failure (Move w.Gain)
  | .insert record => r.insertPlan returning record
  | .insertMany records => (r.insertionOf records).map (moveOf 0 ResultSet.rowcount .insert)
  | .save record => (r.update record).map (moveOf 0 ResultSet.rowcount .update)
  | .saveOrUpdate record => do
    let f ← r.descriptor.keyField
    let row ← r.encode record
    let key ← valueIn row f.column
    if key.isNull then r.insertPlan returning record
    else (r.update record).map (moveOf (.ofValue key) (fun _ => .ofValue key) .update)
  | .updateWhere values filter =>
    (r.updating values (.ok filter)).map fun s => .send (.update s) ResultSet.rowcount
  | .delete key => (r.deletion key).map fun s => .send (.delete s) ResultSet.rowcount
  | .deleteMany keys => (r.deletionOf keys).map (moveOf 0 ResultSet.rowcount .delete)
  | .deleteWhere filter =>
    (r.deleting (.ok filter)).map fun s => .send (.delete s) ResultSet.rowcount

/-! ## A write does what its plan says -/

section

variable {m : Type → Type} [Monad m] [LawfulMonad m] [MonadExceptOf Failure m] {α β : Type}
  (on : Runner m)

theorem carryOut_pure (mv : Move α) : carryOut on (pure mv) = mv.on on := pure_bind _ _

omit [LawfulMonad m] in
theorem carryOut_error (hstops : Runner.Stops m) (f : Failure) :
    carryOut on (.error f : Except Failure (Move α)) = throw f :=
  hstops f _

theorem carryOut_bind (hstops : Runner.Stops m) (x : Except Failure β)
    (k : β → Except Failure (Move α)) :
    carryOut on (x >>= k) = Runner.lift x >>= fun b => carryOut on (k b) := by
  cases x with
  | error f => exact (carryOut_error on hstops f).trans (hstops f _).symm
  | ok b =>
    have hlift : (Runner.lift (.ok b) : m β) = pure b := rfl
    rw [hlift, pure_bind]
    rfl

theorem carryOut_map (hstops : Runner.Stops m) (x : Except Failure β) (k : β → Move α) :
    carryOut on (x.map k) = Runner.lift x >>= fun b => (k b).on on := by
  have hmap : x.map k = x >>= fun b => pure (k b) := by cases x <;> rfl
  rw [hmap, carryOut_bind on hstops]
  exact bind_congr fun b => carryOut_pure on (k b)

/-- To send a statement and read the answer from its rows is to do what there is to do. -/
theorem send_eq (hstops : Runner.Stops m) (s : Statement) (read : ResultSet → α) :
    (do return read (← send on s)) = (Move.send s read).on on := by
  have hcall : send on s = (RunnerCall.run (.statement s) {}).on on := rfl
  rw [hcall, RunnerCall.on_eq_of_stops hstops]
  simp [Move.on, RunnerCall.prepared, RunnerCall.read, RunnerCall.limits]

variable {on} {r}

theorem insert_eq (hstops : Runner.Stops m) (record : Record) :
    r.insert on record = carryOut on (r.insertPlan on.dialect.returning record) := by
  unfold insert insertPlan
  rw [carryOut_bind on hstops]
  refine bind_congr fun row => ?_
  rw [carryOut_bind on hstops]
  refine bind_congr fun s => ?_
  split
  · rw [carryOut_pure]
    exact send_eq on hstops _ _
  rw [carryOut_bind on hstops]
  refine bind_congr fun f => ?_
  cases valueIn? row f.column with
  | some key =>
    dsimp only
    rw [carryOut_pure]
    exact send_eq on hstops _ _
  | none =>
    dsimp only
    unfold insertForKey
    split
    · rw [carryOut_bind on hstops]
      refine bind_congr fun s => ?_
      rw [carryOut_pure]
      exact send_eq on hstops _ _
    · rw [carryOut_pure, ← send_eq on hstops]
      refine bind_congr fun result => ?_
      unfold reportedKey
      cases result.lastRowId <;> rfl

theorem saveOrUpdate_eq (hstops : Runner.Stops m) (record : Record) :
    r.saveOrUpdate on record =
      carryOut on ((Write.saveOrUpdate record).plan r on.dialect.returning) := by
  unfold saveOrUpdate Write.plan
  rw [carryOut_bind on hstops]
  refine bind_congr fun f => ?_
  rw [carryOut_bind on hstops]
  refine bind_congr fun row => ?_
  rw [carryOut_bind on hstops]
  refine bind_congr fun key => ?_
  split
  · exact insert_eq hstops record
  · rw [carryOut_map on hstops]
    unfold save
    rw [bind_assoc]
    refine bind_congr fun s => ?_
    cases s with
    | none => exact pure_bind _ _
    | some s => exact (bind_assoc _ _ _).trans (by simp [moveOf, ← send_eq on hstops])

/-- Wherever statements run, a write does what its plan says. -/
theorem Write.on_eq (hstops : Runner.Stops m) (w : Write) :
    w.on r on = carryOut on (w.plan r on.dialect.returning) := by
  cases w with
  | insert record => exact insert_eq hstops record
  | insertMany | save | deleteMany =>
    refine Eq.trans ?_ (carryOut_map on hstops _ _).symm
    refine bind_congr fun s => ?_
    cases s with
    | none => rfl
    | some s => exact send_eq on hstops _ _
  | saveOrUpdate record => exact saveOrUpdate_eq hstops record
  | updateWhere | delete | deleteWhere =>
    refine Eq.trans ?_ (carryOut_map on hstops _ _).symm
    exact bind_congr fun _ => send_eq on hstops _ _

end

/-! ## What is sent for a plan -/

/-- What comes of a plan, and what the driver is sent for it: nothing where the plan is a refusal or
there is nothing to do, and one statement otherwise, of whose result the answer is read. -/
inductive Sent {α σ : Type} (h : Host σ) (Unlent Unreturned : Failure → Prop) :
    Except Failure (Move α) → Except Failure α → List Dispatch → Prop where
  | refused (f : Failure) : Sent h Unlent Unreturned (.error f) (.error f) []
  | rested (a : α) : Sent h Unlent Unreturned (.ok (.rest a)) (.ok a) []
  /-- The statement cannot be rendered, so it is not sent. -/
  | unrendered {s : Statement} {read : ResultSet → α} {f : Failure}
      (hprepared : h.dialect.prepare (.statement s) = .error f) :
      Sent h Unlent Unreturned (.ok (.send s read)) (.error f) []
  /-- It had no connection, could not be sent on it, or failed. -/
  | failed {s : Statement} {read : ResultSet → α} {b : BoundStatement} {notices : List Notice}
      {f : Failure} {news : List Dispatch}
      (hprepared : h.dialect.prepare (.statement s) = .ok (b, notices))
      (hperformed : h.Performed b {} Unlent Unreturned (.error f) news) :
      Sent h Unlent Unreturned (.ok (.send s read)) (.error f) news
  /-- It was sent, and its rows cannot be read. -/
  | unread {s : Statement} {read : ResultSet → α} {b : BoundStatement} {notices : List Notice}
      {conn : Nat} {params : List Native} {interrupted : Bool} {result : DriverResult} {f : Failure}
      (hprepared : h.dialect.prepare (.statement s) = .ok (b, notices))
      (hencoded : h.parameters b = .ok params)
      (hread : result.toResultSet h.dialect.codec = .error f) :
      Sent h Unlent Unreturned (.ok (.send s read)) (.error f)
        [⟨conn, b.sql, params, interrupted, .ok result⟩]
  /-- It was sent, and the answer is read from what the driver gave. -/
  | answered {s : Statement} {read : ResultSet → α} {b : BoundStatement} {notices : List Notice}
      {conn : Nat} {params : List Native} {interrupted : Bool} {result : DriverResult}
      {rows : ResultSet} (hprepared : h.dialect.prepare (.statement s) = .ok (b, notices))
      (hencoded : h.parameters b = .ok params)
      (hread : result.toResultSet h.dialect.codec = .ok rows) :
      Sent h Unlent Unreturned (.ok (.send s read)) (.ok (read rows))
        [⟨conn, b.sql, params, interrupted, .ok result⟩]

section

variable {α σ : Type} {h : Host σ} {Unlent Unreturned : Failure → Prop}

/-- Where the plan is a refusal, nothing is sent and the answer is the refusal. -/
theorem Sent.of_refusal {f : Failure} {answer : Except Failure α} {news : List Dispatch}
    (hsent : Sent h Unlent Unreturned (.error f) answer news) : answer = .error f ∧ news = [] := by
  cases hsent
  exact ⟨rfl, rfl⟩

/-- Of a result that was performed, the answer is what can be read. -/
theorem Sent.of_result {s : Statement} {read : ResultSet → α} {b : BoundStatement}
    {notices : List Notice} {result : DriverResult} {answer : Except Failure α}
    {news : List Dispatch} (hprepared : h.dialect.prepare (.statement s) = .ok (b, notices))
    (hperformed : h.Performed b {} Unlent Unreturned (.ok result) news)
    (hanswer : (result.toResultSet h.dialect.codec).map read = answer) :
    Sent h Unlent Unreturned (.ok (.send s read)) answer news := by
  obtain ⟨conn, params, interrupted, hencoded, rfl⟩ := hperformed.answered
  cases hread : result.toResultSet h.dialect.codec with
  | error f =>
    rw [← hanswer, hread]
    exact .unread hprepared hencoded hread
  | ok rows =>
    rw [← hanswer, hread]
    exact .answered hprepared hencoded hread

variable (h)

/-- A statement on a connection of its own is sent at most once. -/
theorem send_executor (statement : Statement) (read : ResultSet → α) (s : σ)
    (sent : List Dispatch) :
    ((Move.send statement read).on h.recorded.executor).Ensures (s, sent) fun answer st =>
      ∃ news, st.2 = sent ++ news ∧
        Sent h h.Unlent h.Unreturned (.ok (.send statement read)) answer news := by
  have hdialect : h.recorded.executor.dialect = h.dialect := rfl
  simp only [Move.on, Task.ensures_bind, RunnerCall.ensures_lift, hdialect]
  cases hprepared : h.dialect.prepare (.statement statement) with
  | error f => exact ⟨[], (List.append_nil sent).symm, .unrendered hprepared⟩
  | ok p =>
    obtain ⟨b, notices⟩ := p
    refine (h.recorded_reportAll notices (s, sent)).imp ?_
    rintro told ⟨s', sent'⟩ ⟨rfl, hsent⟩
    obtain rfl : sent' = sent := hsent
    refine (h.recorded_perform s' sent' b {}).imp ?_
    rintro r st ⟨news, hnews, hperformed⟩
    cases r with
    | error f => exact ⟨news, hnews, .failed hprepared hperformed⟩
    | ok result =>
      dsimp only
      cases hread : result.toResultSet h.dialect.codec <;>
        exact ⟨news, hnews, .of_result hprepared hperformed (by rw [hread]; rfl)⟩

/-- Reports in a transaction do not fail, and leave it as it is. -/
theorem tell_inTransaction (notices : List Notice) (tx : Transaction) (st : σ × List Dispatch) :
    (notices.forM h.recorded.inTransaction.tell).Ensures tx st fun r tx' st' =>
      r = .ok () ∧ tx' = tx ∧ st'.2 = st.2 := by
  induction notices generalizing st with
  | nil => exact ⟨rfl, rfl, rfl⟩
  | cons n rest ih => exact (TransactionTask.ensures_bind _ _ _).2 (ih (h.recorded.tell n st).2)

/-- A statement in a transaction is sent at most once. -/
theorem send_inTransaction (statement : Statement) (read : ResultSet → α) (tx : Transaction)
    (s : σ) (sent : List Dispatch) :
    ((Move.send statement read).on h.recorded.inTransaction).Ensures tx (s, sent)
      fun answer _ st => ∃ news, st.2 = sent ++ news ∧
        Sent h tx.Unusable (fun _ => False) (.ok (.send statement read)) answer news := by
  have hdialect : h.recorded.inTransaction.dialect = h.dialect := rfl
  simp only [Move.on, TransactionTask.ensures_bind, RunnerCall.ensures_liftIn, hdialect]
  cases hprepared : h.dialect.prepare (.statement statement) with
  | error f => exact ⟨[], (List.append_nil sent).symm, .unrendered hprepared⟩
  | ok p =>
    obtain ⟨b, notices⟩ := p
    refine (tell_inTransaction h notices tx (s, sent)).imp ?_
    rintro told tx' ⟨s', sent'⟩ ⟨rfl, rfl, hsent⟩
    obtain rfl : sent' = sent := hsent
    refine (h.recorded_performIn s' sent' tx' b {}).imp ?_
    rintro r tx'' st ⟨news, hnews, hperformed⟩
    cases r with
    | error f => exact ⟨news, hnews, .failed hprepared hperformed⟩
    | ok result =>
      dsimp only
      cases hread : result.toResultSet h.dialect.codec <;>
        exact ⟨news, hnews, .of_result hprepared hperformed (by rw [hread]; rfl)⟩

/-- What is sent for a plan on connections of their own. -/
theorem carryOut_executor (plan : Except Failure (Move α)) (s : σ) (sent : List Dispatch) :
    (carryOut h.recorded.executor plan).Ensures (s, sent) fun answer st =>
      ∃ news, st.2 = sent ++ news ∧ Sent h h.Unlent h.Unreturned plan answer news := by
  cases plan with
  | error f => exact ⟨[], (List.append_nil sent).symm, .refused f⟩
  | ok move =>
    cases move with
    | rest a => exact ⟨[], (List.append_nil sent).symm, .rested a⟩
    | send statement read => exact send_executor h statement read s sent

/-- What is sent for a plan in a transaction. -/
theorem carryOut_inTransaction (plan : Except Failure (Move α)) (tx : Transaction) (s : σ)
    (sent : List Dispatch) :
    (carryOut h.recorded.inTransaction plan).Ensures tx (s, sent) fun answer _ st =>
      ∃ news, st.2 = sent ++ news ∧ Sent h tx.Unusable (fun _ => False) plan answer news := by
  cases plan with
  | error f => exact ⟨[], (List.append_nil sent).symm, .refused f⟩
  | ok move =>
    cases move with
    | rest a => exact ⟨[], (List.append_nil sent).symm, .rested a⟩
    | send statement read => exact send_inTransaction h statement read tx s sent

end

/-- A write follows a plan: wherever statements run it does what the plan says, and whatever state
it begins in, what the driver is sent and what is answered is what the plan says. -/
structure Write.Follows {σ : Type} (w : Write) (r : Repository) (h : Host σ)
    (plan : Except Failure (Move w.Gain)) : Prop where
  executor : w.on r h.executor = carryOut h.executor plan
  inTransaction : w.on r h.inTransaction = carryOut h.inTransaction plan
  /-- On a connection of its own, -/
  sends : ∀ s sent, (w.on r h.recorded.executor).Ensures (s, sent) fun answer st =>
    ∃ news, st.2 = sent ++ news ∧ Sent h h.Unlent h.Unreturned plan answer news
  /-- and in a transaction, whatever it has come to. -/
  sendsIn : ∀ tx s sent, (w.on r h.recorded.inTransaction).Ensures tx (s, sent) fun answer _ st =>
    ∃ news, st.2 = sent ++ news ∧ Sent h tx.Unusable (fun _ => False) plan answer news

/-- Every write follows its plan. -/
theorem Write.follows {σ : Type} (w : Write) (h : Host σ) :
    w.Follows r h (w.plan r h.dialect.returning) where
  executor := on_eq (task_stops σ) w
  inTransaction := on_eq (transactionTask_stops σ) w
  sends s sent := by
    rw [on_eq (task_stops _) w]
    exact carryOut_executor h _ s sent
  sendsIn tx s sent := by
    rw [on_eq (transactionTask_stops _) w]
    exact carryOut_inTransaction h _ tx s sent

end Repository

end SqlGateway
