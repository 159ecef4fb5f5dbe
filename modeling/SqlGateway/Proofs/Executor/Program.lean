import SqlGateway.Proofs.Executor.TransactionLife
set_option autoImplicit false

/-!
# Executor: programs in a transaction

The steps of a transaction are programs that use the transaction only to run statements.
They take what comes of a statement as it is, be it a failure, and go on from it as they
like.  A program keeps its transaction on its course and never ends it.  The journal
notes when a step is called and what came of it, so it tells which steps were taken and
in which order.
-/

namespace SqlGateway

/-! ## Diaries -/

namespace Entry

variable {α : Type}

/-- The entry is about a step of a program. -/
def isStep : Entry α → Bool
  | .called _ | .returned _ _ | .raised _ _ => true
  | _ => false

/-- The entries of steps that gave something, by number. -/
def diary (n : Nat) (as : List α) : List (Entry α) :=
  (as.zipIdx n).flatMap fun (a, i) => [.called i, .returned i a]

theorem diary_cons (n : Nat) (a : α) (as : List α) :
    diary n (a :: as) = .called n :: .returned n a :: diary (n + 1) as := by
  simp [diary]

end Entry

/-- No course has steps in it. -/
theorem Transaction.Course.no_steps {α : Type} {lease conn : Nat} {st : TransactionState}
    {es : List (Entry α)} (h : Course lease conn st es) : ∀ e ∈ es, e.isStep = false := by
  induction h with
  | opened => simp [Entry.isStep]
  | _ => simp_all [Entry.isStep, or_imp]

/-! ## Programs -/

/-- A program that uses a transaction only to run statements. -/
inductive Operation (σ α : Type) : Type 1 where
  | give (a : α)
  | raise (f : Failure)
  /-- Do something else first. -/
  | also {β : Type} (action : StateM σ β) (next : β → Operation σ α)
  | run (q : Request) (limits : CallLimits) (next : Except Failure ResultSet → Operation σ α)
  | execute (q : Request) (limits : CallLimits) (next : Except Failure Answer → Operation σ α)
  | executeRaw (sql args : Native) (limits : CallLimits)
      (next : Except Failure Answer → Operation σ α)
  | fetch (q : Request) (target : FetchTarget) (mapper : Option RecordMapper)
      (limits : CallLimits) (next : Except Failure (List Record) → Operation σ α)
  | fetchOne (q : Request) (target : FetchTarget) (mapper : Option RecordMapper)
      (limits : CallLimits) (next : Except Failure (Option Record) → Operation σ α)

namespace Operation

variable {σ α : Type}

/-- Run a program in a transaction of a host with a journal. -/
def play (h : Host σ) : Operation σ α → TransactionTask (σ × List (Entry α)) α
  | .give a => return a
  | .raise f => throw f
  | .also action next => do
    let b ← (beside action : StateM (σ × List (Entry α)) _)
    (next b).play h
  | .run q limits next => do
    let r ← TransactionTask.outcome (h.noted.inTransaction.run q limits)
    (next r).play h
  | .execute q limits next => do
    let r ← TransactionTask.outcome (h.noted.inTransaction.execute q limits)
    (next r).play h
  | .executeRaw sql args limits next => do
    let r ← TransactionTask.outcome (h.noted.inTransaction.executeRaw sql args limits)
    (next r).play h
  | .fetch q target mapper limits next => do
    let r ← TransactionTask.outcome (h.noted.inTransaction.fetch q target mapper limits)
    (next r).play h
  | .fetchOne q target mapper limits next => do
    let r ← TransactionTask.outcome (h.noted.inTransaction.fetchOne q target mapper limits)
    (next r).play h

/-- Make an entry in the journal. -/
def note (e : Entry α) : StateM (σ × List (Entry α)) Unit :=
  modify fun (s, journal) => (s, journal ++ [e])

/-- Run a program as a step, and note that it is called and what it gives. -/
def step (h : Host σ) (n : Nat) (op : Operation σ α) :
    TransactionTask (σ × List (Entry α)) α := do
  (note (.called n) : StateM (σ × List (Entry α)) Unit)
  match ← TransactionTask.outcome (op.play h) with
  | .ok a =>
    (note (.returned n a) : StateM (σ × List (Entry α)) Unit)
    return a
  | .error f =>
    (note (.raised n f) : StateM (σ × List (Entry α)) Unit)
    throw f

/-- Programs as steps, by number. -/
def steps (h : Host σ) (n : Nat) (ops : List (Operation σ α)) :
    List (TransactionTask (σ × List (Entry α)) α) :=
  (ops.zipIdx n).map fun (op, i) => op.step h i

/-- What a program does beside its statements stays within a relation. -/
def Stays (R : σ → σ → Prop) : Operation σ α → Prop
  | .give _ | .raise _ => True
  | .also action next => (∀ s, R s (action s).2) ∧ ∀ b, (next b).Stays R
  | .run _ _ next => ∀ r, (next r).Stays R
  | .execute _ _ next => ∀ r, (next r).Stays R
  | .executeRaw _ _ _ next => ∀ r, (next r).Stays R
  | .fetch _ _ _ _ next => ∀ r, (next r).Stays R
  | .fetchOne _ _ _ _ next => ∀ r, (next r).Stays R

/-! ### On its course -/

open TransactionTask Transaction TransactionState

variable {h : Host σ} {lease conn : Nat} {Has : Bool → Bool → σ → Prop} {R : σ → σ → Prop}

/-- A program keeps its transaction on its course, and does not end it. -/
theorem within_play (hc : h.Custody lease Has)
    (hR : ∀ {healthy ended s s'}, R s s' → Has healthy ended s → Has healthy ended s')
    (op : Operation σ α) (hstays : op.Stays R) :
    Within (Advances Works Has lease conn) (op.play h) := by
  have htell : ∀ n, Within (Advances Works Has lease conn)
      ((Host.noted h : Host (σ × List (Entry α))).inTransaction.tell n) := hc.within_tell
  have hperform : ∀ b limits, Within (Advances Works Has lease conn)
      ((Host.noted h : Host (σ × List (Entry α))).inTransaction.perform b limits) :=
    hc.within_perform
  induction op with
  | give a => exact within_pure a
  | raise f => exact within_throw f
  | also action next ih =>
    refine within_bind ?_ fun b => ih b (hstays.2 b)
    rintro tx ⟨s, journal⟩ es ⟨hlease, hconn, hcourse, hhas⟩
    refine ⟨[], (List.append_nil journal).symm, ?_, refl_of Works _⟩
    rw [List.append_nil]
    exact ⟨hlease, hconn, hcourse, hR (hstays.1 s) hhas⟩
  | run q limits next ih =>
    exact within_bind (within_run htell hperform q limits) fun r => ih r (hstays r)
  | execute q limits next ih =>
    exact within_bind (within_execute htell hperform q limits) fun r => ih r (hstays r)
  | executeRaw sql args limits next ih =>
    exact within_bind (within_executeRaw hperform sql args limits) fun r => ih r (hstays r)
  | fetch q target mapper limits next ih =>
    exact within_bind (within_fetch htell hperform q target mapper limits)
      fun r => ih r (hstays r)
  | fetchOne q target mapper limits next ih =>
    exact within_bind (within_fetchOne htell hperform q target mapper limits)
      fun r => ih r (hstays r)

/-- A program raises nothing but what may be handled. -/
def Raises (h : Host σ) (op : Operation σ α) : Prop :=
  ∀ tx st f, ((op.play h).runIn tx st).1.1 = .error f → f.isOrdinary

variable {tx : Transaction} {s : σ} {es journal : List (Entry α)}

/-- Around what a course adds, the notes of a step are all that is about steps. -/
theorem filter_around (e e' : Entry α) {news : List (Entry α)} (he : e.isStep = true)
    (he' : e'.isStep = true) (hs : Stands Has lease conn tx (es ++ news) s) :
    (e :: news ++ [e']).filter Entry.isStep = [e, e'] ∧
      ((e :: news ++ [e']).filter fun e => !e.isStep) = news := by
  have hnone : ∀ e ∈ news, e.isStep = false :=
    fun e he => hs.course.no_steps e (List.mem_append_right es he)
  have hsteps : news.filter Entry.isStep = [] :=
    List.filter_eq_nil_iff.2 fun e he => by simp [hnone e he]
  have hcalls : (news.filter fun e => !e.isStep) = news :=
    List.filter_eq_self.2 fun e he => by simp [hnone e he]
  refine ⟨?_, ?_⟩
  · rw [List.filter_append, List.filter_cons_of_pos he, hsteps, List.filter_cons_of_pos he']
    rfl
  · rw [List.filter_append, List.filter_cons_of_neg (by simp [he]), hcalls,
      List.filter_cons_of_neg (by simp [he'])]
    exact List.append_nil news

/-- A step is noted around what it sends. -/
theorem step_stands (hc : h.Custody lease Has)
    (hR : ∀ {healthy ended s s'}, R s s' → Has healthy ended s → Has healthy ended s')
    (op : Operation σ α) (hstays : op.Stays R) (hraises : op.Raises h) (n : Nat)
    (hs : Stands Has lease conn tx es s) :
    (op.step h n).Ensures tx (s, journal) fun r tx' st =>
      ∃ news, st.2 = journal ++ news ∧
        Stands Has lease conn tx' (es ++ news.filter fun e => !e.isStep) st.1 ∧
        tx.state.Works tx'.state ∧
        match r with
        | .ok a => news.filter Entry.isStep = [.called n, .returned n a]
        | .error f => news.filter Entry.isStep = [.called n, .raised n f] ∧ f.isOrdinary := by
  have hplayed : (op.play h).Ensures tx (s, journal ++ [.called n]) fun r tx' st =>
      (∃ news, st.2 = journal ++ [.called n] ++ news ∧
        Stands Has lease conn tx' (es ++ news) st.1 ∧ tx.state.Works tx'.state) ∧
      ∀ f, r = .error f → f.isOrdinary :=
    ⟨within_play hc hR op hstays tx _ es hs, hraises tx _⟩
  unfold step
  rw [ensures_bind, ensures_state, ensures_bind, ensures_outcome]
  refine hplayed.imp ?_
  rintro r tx' st ⟨⟨sent, hsent, hstands, hworks⟩, hordinary⟩
  cases r with
  | ok a =>
    obtain ⟨hnotes, hcalls⟩ := filter_around (.called n) (.returned n a) rfl rfl hstands
    simp only [ensures_bind, ensures_state, ensures_pure]
    refine ⟨.called n :: sent ++ [.returned n a], ?_, ?_, hworks, hnotes⟩
    · change st.2 ++ [.returned n a] = _
      rw [hsent]
      simp
    · rw [hcalls]
      exact hstands
  | error f =>
    obtain ⟨hnotes, hcalls⟩ := filter_around (.called n) (.raised n f) rfl rfl hstands
    simp only [ensures_bind, ensures_state, ensures_throw]
    refine ⟨.called n :: sent ++ [.raised n f], ?_, ?_, hworks, hnotes, hordinary f rfl⟩
    · change st.2 ++ [.raised n f] = _
      rw [hsent]
      simp
    · rw [hcalls]
      exact hstands

/-- Steps are taken in order, each once, and none after the first that fails. -/
theorem takeSteps_stands (hc : h.Custody lease Has)
    (hR : ∀ {healthy ended s s'}, R s s' → Has healthy ended s → Has healthy ended s')
    (ops : List (Operation σ α)) (hstays : ∀ op ∈ ops, op.Stays R)
    (hraises : ∀ op ∈ ops, op.Raises h) (n : Nat) (hs : Stands Has lease conn tx es s) :
    (Host.takeSteps n (steps h n ops)).Ensures tx (s, journal) fun r tx' st =>
      ∃ news, st.2 = journal ++ news ∧
        Stands Has lease conn tx' (es ++ news.filter fun e => !e.isStep) st.1 ∧
        tx.state.Works tx'.state ∧
        ((∃ as, r = .ok (.ok as) ∧ as.length = ops.length ∧
            news.filter Entry.isStep = Entry.diary n as) ∨
          ∃ as f, r = .ok (.error (n + as.length, f)) ∧ as.length < ops.length ∧
            news.filter Entry.isStep =
              Entry.diary n as ++ [.called (n + as.length), .raised (n + as.length) f]) := by
  -- The course so far goes along with the induction: a step adds to it, and so do the rest.
  induction ops generalizing n tx s es journal with
  | nil =>
    have hsame : Stands Has lease conn tx (es ++ []) s := by rwa [List.append_nil]
    exact ⟨[], (List.append_nil journal).symm, hsame, refl_of Works _, .inl ⟨[], rfl, rfl, rfl⟩⟩
  | cons op rest ih =>
    have hsteps : steps h n (op :: rest) = op.step h n :: steps h (n + 1) rest := by
      simp [steps, List.zipIdx_cons]
    rw [hsteps]
    unfold Host.takeSteps
    rw [ensures_bind, ensures_outcome]
    refine (step_stands hc hR op (hstays op List.mem_cons_self) (hraises op List.mem_cons_self) n
      hs).imp ?_
    rintro r tx' ⟨s', journal'⟩ ⟨news, hnews, hstands, hworks, hnotes⟩
    cases r with
    | error f =>
      simp only [hnotes.2, if_true, ensures_pure]
      exact ⟨news, hnews, hstands, hworks, .inr ⟨[], f, rfl, Nat.succ_pos _, hnotes.1⟩⟩
    | ok a =>
      simp only [ensures_bind]
      refine (ih (fun op hop => hstays op (List.mem_cons_of_mem _ hop))
        (fun op hop => hraises op (List.mem_cons_of_mem _ hop)) (n + 1) hstands).imp ?_
      rintro r tx'' st ⟨later, hlater, hstands', hworks', htaken⟩
      have hnews' : st.2 = journal ++ (news ++ later) := by
        rw [hlater, ← List.append_assoc]
        exact congrArg (· ++ later) hnews
      have hstands'' : Stands Has lease conn tx''
          (es ++ (news ++ later).filter fun e => !e.isStep) st.1 := by
        rw [List.filter_append, ← List.append_assoc]
        exact hstands'
      have hworks'' := trans_of Works hworks hworks'
      rcases htaken with ⟨as, rfl, hlength, hdiary⟩ | ⟨as, f, rfl, hlength, hdiary⟩
      · refine ⟨_, hnews', hstands'', hworks'', .inl ⟨a :: as, rfl, by simp [hlength], ?_⟩⟩
        rw [List.filter_append, hnotes, hdiary, Entry.diary_cons]
        rfl
      · have hnext : n + 1 + as.length = n + (a :: as).length := by
          rw [List.length_cons]
          omega
        rw [hnext] at hdiary ⊢
        refine ⟨_, hnews', hstands'', hworks'', .inr ⟨a :: as, f, rfl, by simpa using hlength, ?_⟩⟩
        rw [List.filter_append, hnotes, hdiary, Entry.diary_cons]
        rfl

end Operation

end SqlGateway
