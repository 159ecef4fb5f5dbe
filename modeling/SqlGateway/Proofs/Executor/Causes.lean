import SqlGateway.Proofs.Executor.Interrupts
set_option autoImplicit false

/-!
# Executor: causes

A transaction that is given up says why.  The journal tells what went wrong first: a
statement, a step, or the commit.  What a step raised and why a commit was refused are
named as causes.  A statement that failed is named only as far as a step passes its
failure on: the transaction remembers that it failed, and not of what.
-/

namespace SqlGateway

namespace Entry

variable {α : Type}

/-- The entry tells of something that a transaction does not survive. -/
def isTrouble : Entry α → Bool
  | .statement _ _ interrupted failure => interrupted || failure.isSome
  | .commit _ failure => failure.isSome
  | .raised _ _ => true
  | _ => false

theorem isTrouble_eq {e : Entry α} (hcall : ∃ conn sql interrupted failure,
    e = .statement conn sql interrupted failure) : e.isTrouble = !e.isClean := by
  obtain ⟨conn, sql, interrupted, failure, rfl⟩ := hcall
  cases interrupted <;> cases failure <;> rfl

end Entry

namespace Host

open TransactionTask Transaction TransactionState

variable {α β σ : Type} {h : Host σ} {b : BoundStatement} {s : σ} {journal : List (Entry α)}

/-! ## What is told of a statement that failed -/

/-- What a caller sees of the failure of a statement: the failure itself, or that the statement was
broken off. -/
def Shows (h : Host σ) (sql : String) (interrupted : Bool) (g f : Failure) : Prop :=
  ∃ b errors, b.sql = sql ∧ h.Concludes b interrupted (.error g) (.error f) errors

/-- If a statement failed, and nothing went wrong before it, its failure is told. -/
def Told (h : Host σ) (news : List (Entry α)) (tells : Failure → Prop) : Prop :=
  ∀ conn sql interrupted g,
    news.find? Entry.isTrouble = some (.statement conn sql interrupted (some g)) →
      ∃ f, tells f ∧ h.Shows sql interrupted g f

theorem Told.of_none {news : List (Entry α)} {tells : Failure → Prop}
    (hnone : ∀ conn sql interrupted g, .statement conn sql interrupted (some g) ∉ news) :
    h.Told news tells := fun conn sql interrupted g hfirst =>
  absurd (List.mem_of_find?_eq_some hfirst) (hnone conn sql interrupted g)

theorem Told.imp {news : List (Entry α)} {tells tells' : Failure → Prop} (htold : h.Told news tells)
    (himp : ∀ f, tells f → tells' f) : h.Told news tells' := by
  intro conn sql interrupted g hfirst
  obtain ⟨f, hf, hshows⟩ := htold conn sql interrupted g hfirst
  exact ⟨f, himp f hf, hshows⟩

/-- Where nothing failed, there was nothing to tell. -/
theorem Told.of_ok {news : List (Entry α)} {tells : Failure → Prop} {b : β}
    (htold : h.Told news fun f => (.ok b : Except Failure β) = .error f) : h.Told news tells := by
  refine htold.imp ?_
  rintro f hf
  cases hf

/-- What is told of the first part of a journal, or of the rest if that was quiet, is told. -/
theorem Told.append {news later : List (Entry α)} {tells : Failure → Prop}
    (hnews : h.Told news tells) (hlater : h.Told later tells) : h.Told (news ++ later) tells := by
  intro conn sql interrupted g hfirst
  rw [List.find?_append] at hfirst
  cases hfound : news.find? Entry.isTrouble with
  | none =>
    rw [hfound] at hfirst
    exact hlater conn sql interrupted g hfirst
  | some e =>
    rw [hfound] at hfirst
    cases hfirst
    exact hnews conn sql interrupted g hfound

/-- The end of a statement shows the failure that it had. -/
theorem noted_conclude (lease : Nat) (started : Seconds) (fired : Bool)
    (answer : Except Failure DriverResult) :
    ((noted h).conclude lease b started fired answer).Ensures (s, journal) fun r st =>
      st.2 = journal ∧ ∃ errors, h.Concludes b fired answer r errors := by
  unfold Host.conclude
  cases answer with
  | ok result =>
    cases fired with
    | false =>
      simp only [Bool.false_eq_true, if_false, Task.ensures_bind, Task.ensures_pure,
        Task.ensures_state]
      exact (noted_reportAll ..).2 ⟨rfl, [], .done false result⟩
    | true =>
      simp only [if_true, Task.ensures_bind, Task.ensures_pure, Task.ensures_state]
      exact (noted_reportAll ..).2 ⟨rfl, [], .done true result⟩
  | error f =>
    simp only [Task.ensures_bind, Task.ensures_state]
    cases hdriver : f.isDriver with
    | false =>
      simp only [Bool.false_eq_true, if_false, Task.ensures_bind]
      exact (noted_reportAll ..).2 ⟨rfl, [], .aborted fired hdriver⟩
    | true =>
      cases fired with
      | false =>
        simp only [Bool.false_eq_true, if_false, if_true, Task.ensures_bind]
        exact (noted_reportAll ..).2 ⟨rfl, _, .refused hdriver⟩
      | true => exact ⟨rfl, [], .broken hdriver⟩

/-! ### Actions that tell -/

/-- What comes of an action tells of the first statement that failed in it. -/
def Tells (h : Host σ) (t : TransactionTask (σ × List (Entry α)) β) : Prop :=
  ∀ tx s journal, t.Ensures tx (s, journal) fun r _ st =>
    ∃ news, st.2 = journal ++ news ∧ h.Told news fun f => r = .error f

theorem tells_quiet {t : TransactionTask (σ × List (Entry α)) β}
    (hquiet : ∀ tx s journal, t.Ensures tx (s, journal) fun _ _ st => st.2 = journal) :
    h.Tells t := fun tx s journal =>
  (hquiet tx s journal).imp fun _ _ _ hjournal =>
    ⟨[], hjournal.trans (List.append_nil journal).symm, .of_none nofun⟩

theorem tells_pure (b : β) : h.Tells (α := α) (pure b) := tells_quiet fun _ _ _ => rfl

theorem tells_throw (f : Failure) : h.Tells (α := α) (β := β) (throw f) :=
  tells_quiet fun _ _ _ => rfl

theorem tells_lift (e : Except Failure β) : h.Tells (α := α) (Runner.lift e) := by
  cases e with
  | ok b => exact tells_pure b
  | error f => exact tells_throw f

theorem tells_bind {γ : Type} {t : TransactionTask (σ × List (Entry α)) β}
    {k : β → TransactionTask (σ × List (Entry α)) γ} (ht : h.Tells t)
    (hk : ∀ b, h.Tells (k b)) : h.Tells (t >>= k) := by
  intro tx s journal
  rw [ensures_bind]
  refine (ht tx s journal).imp ?_
  rintro r tx' ⟨s', journal'⟩ ⟨news, rfl, htold⟩
  cases r with
  | error f => exact ⟨news, rfl, htold.imp fun _ hf => congrArg _ (Except.error.inj hf)⟩
  | ok b =>
    refine (hk b tx' s' _).imp ?_
    rintro r tx'' st ⟨later, hlater, htold'⟩
    exact ⟨news ++ later, hlater.trans (List.append_assoc ..), .append htold.of_ok htold'⟩

/-- An action whose failure is passed on tells what it told. -/
theorem tells_outcome_bind {γ : Type} {t : TransactionTask (σ × List (Entry α)) β}
    {k : Except Failure β → TransactionTask (σ × List (Entry α)) γ} (ht : h.Tells t)
    (hpasses : ∀ f, k (.error f) = throw f) (hk : ∀ b, h.Tells (k (.ok b))) :
    h.Tells (TransactionTask.outcome t >>= k) := by
  intro tx s journal
  have hbind := tells_bind ht hk tx s journal
  rw [ensures_bind] at hbind ⊢
  rw [ensures_outcome]
  refine hbind.imp ?_
  intro r tx' st hafter
  cases r with
  | ok b => exact hafter
  | error f =>
    dsimp only
    rw [hpasses]
    exact hafter

/-- A statement that was sent tells of its own failure. -/
theorem told_of_concludes {conn : Nat} {fired : Bool} {answer r : Except Failure DriverResult}
    {errors : List Notice} (hconcludes : h.Concludes b fired answer r errors) :
    h.Told [(.statement conn b.sql fired (failure? answer) : Entry α)] fun f => r = .error f := by
  intro c q i g hfirst
  have hsame := List.mem_singleton.1 (List.mem_of_find?_eq_some hfirst)
  cases hconcludes with
  | done => cases hsame
  | broken hdriver => cases hsame; exact ⟨_, rfl, b, _, rfl, .broken hdriver⟩
  | refused hdriver => cases hsame; exact ⟨_, rfl, b, _, rfl, .refused hdriver⟩
  | aborted fired hother => cases hsame; exact ⟨_, rfl, b, _, rfl, .aborted fired hother⟩

theorem runOn_tells (lease conn : Nat) (b : BoundStatement) (limits : CallLimits) :
    ((noted h).runOn lease conn b limits).Ensures (s, journal) fun r st =>
      ∃ news, st.2 = journal ++ news ∧ h.Told news fun f => r = .error f := by
  have hunsent : ∀ {r : Except Failure DriverResult}, ∃ news, journal = journal ++ news ∧
      h.Told news fun f => r = .error f :=
    ⟨[], (List.append_nil journal).symm, .of_none nofun⟩
  unfold Host.runOn
  rw [Task.ensures_bind, Task.ensures_ofExcept]
  cases (noted h : Host (σ × List (Entry α))).parameters b with
  | error f => exact hunsent
  | ok params =>
    simp only [Task.ensures_bind, Task.ensures_state]
    split
    · exact hunsent
    · simp only [Task.ensures_bind, Task.ensures_state, noted_now, noted_execute]
      refine noted_conclude .. |>.imp ?_
      rintro r st ⟨hjournal, errors, hconcludes⟩
      exact ⟨_, hjournal, told_of_concludes hconcludes⟩

/-- A statement in a transaction tells of its own failure. -/
theorem tells_performIn (b : BoundStatement) (limits : CallLimits) :
    h.Tells (α := α) ((noted h).performIn b limits) := by
  intro tx s journal
  unfold Host.performIn
  rw [ensures_bind, ensures_current]
  cases hstate : unusable? tx.state with
  | some f =>
    simp only [hstate]
    exact tells_throw f tx s journal
  | none =>
    simp only [hstate, ensures_bind, ensures_outcome, ensures_task]
    refine (runOn_tells tx.lease tx.conn b limits).imp ?_
    rintro r ⟨s', journal'⟩ htells
    rw [ensures_state, noted_healthy]
    cases (h.healthy tx.lease s').1 <;> cases r <;> exact htells

/-- Whatever is asked of a transaction, it tells of the failure of its statement. -/
theorem tells_call (c : RunnerCall) :
    h.Tells (c.on (noted h : Host (σ × List (Entry α))).inTransaction) := by
  rw [RunnerCall.on_eq_of_stops (transactionTask_stops _)]
  refine tells_bind (tells_lift _) fun prepared => ?_
  refine tells_bind ?_ fun _ => ?_
  · induction prepared.2 with
    | nil => exact tells_pure _
    | cons n rest ih => exact tells_bind (tells_quiet fun _ _ _ => rfl) fun _ => ih
  · exact tells_bind (tells_performIn _ _) fun _ => tells_lift _

end Host

namespace Operation

open TransactionTask

variable {α σ : Type} {h : Host σ}

/-! ## Programs that pass failures on -/

/-- Where a statement fails, the program raises its failure. -/
def Passes : Operation σ α → Prop
  | .give _ | .raise _ => True
  | .also _ next => ∀ b, (next b).Passes
  | .run _ _ next => (∀ f, next (.error f) = .raise f) ∧ ∀ a, (next (.ok a)).Passes
  | .execute _ _ next => (∀ f, next (.error f) = .raise f) ∧ ∀ a, (next (.ok a)).Passes
  | .executeRaw _ _ _ next => (∀ f, next (.error f) = .raise f) ∧ ∀ a, (next (.ok a)).Passes
  | .fetch _ _ _ _ next => (∀ f, next (.error f) = .raise f) ∧ ∀ a, (next (.ok a)).Passes
  | .fetchOne _ _ _ _ next => (∀ f, next (.error f) = .raise f) ∧ ∀ a, (next (.ok a)).Passes

/-- A program that passes failures on tells of the first statement that failed in it. -/
theorem tells_play (op : Operation σ α) (hpasses : op.Passes) : h.Tells (op.play h) := by
  have hcall : ∀ (c : RunnerCall) {next : Except Failure c.Gain → Operation σ α},
      (∀ f, next (.error f) = .raise f) → (∀ a, h.Tells ((next (.ok a)).play h)) →
        h.Tells (TransactionTask.outcome (c.on (Host.noted h).inTransaction) >>= fun r =>
          (next r).play h) := by
    intro c next hraises hnext
    refine Host.tells_outcome_bind (Host.tells_call c) (fun f => ?_) hnext
    rw [hraises]
    rfl
  induction op with
  | give a => exact Host.tells_pure a
  | raise f => exact Host.tells_throw f
  | also action next ih =>
    exact Host.tells_bind (Host.tells_quiet fun _ _ _ => rfl) fun b => ih b (hpasses b)
  | run q limits next ih =>
    exact hcall (.run q limits) hpasses.1 fun a => ih _ (hpasses.2 a)
  | execute q limits next ih =>
    exact hcall (.execute q limits) hpasses.1 fun a => ih _ (hpasses.2 a)
  | executeRaw sql args limits next ih =>
    exact hcall (.executeRaw sql args limits) hpasses.1 fun a => ih _ (hpasses.2 a)
  | fetch q target mapper limits next ih =>
    exact hcall (.fetch q target mapper limits) hpasses.1 fun a => ih _ (hpasses.2 a)
  | fetchOne q target mapper limits next ih =>
    exact hcall (.fetchOne q target mapper limits) hpasses.1 fun a => ih _ (hpasses.2 a)

theorem tells_step (op : Operation σ α) (hpasses : op.Passes) (n : Nat) :
    h.Tells (op.step h n) := by
  intro tx s journal
  have hcalled : ∀ {tells : Failure → Prop}, h.Told [(.called n : Entry α)] tells :=
    .of_none (by simp)
  unfold step
  rw [ensures_bind, ensures_state, ensures_bind, ensures_outcome]
  refine (tells_play op hpasses tx s (journal ++ [.called n])).imp ?_
  rintro r tx' ⟨s', journal'⟩ ⟨news, rfl, htold⟩
  cases r with
  | ok a =>
    simp only [ensures_bind, ensures_state, ensures_pure]
    refine ⟨[.called n] ++ news ++ [.returned n a], ?_,
      .append (hcalled.append htold.of_ok) (.of_none (by simp))⟩
    change journal ++ [.called n] ++ news ++ [.returned n a] = _
    simp
  | error f =>
    simp only [ensures_bind, ensures_state, ensures_throw]
    refine ⟨[.called n] ++ news ++ [.raised n f], ?_,
      .append (hcalled.append (htold.imp ?_)) (.of_none (by simp))⟩
    · change journal ++ [.called n] ++ news ++ [.raised n f] = _
      simp
    · exact fun _ hf => congrArg _ (Except.error.inj hf)

/-- Programs that pass failures on tell of the first statement that failed in any of them. -/
theorem takeSteps_told (ops : List (Operation σ α)) (hpasses : ∀ op ∈ ops, op.Passes) (n : Nat)
    (tx : Transaction) (s : σ) (journal : List (Entry α)) :
    (Host.takeSteps n (steps h n ops)).Ensures tx (s, journal) fun r _ st =>
      ∃ news, st.2 = journal ++ news ∧
        h.Told news fun f => r = .error f ∨ ∃ i, r = .ok (.error (i, f)) := by
  induction ops generalizing n tx s journal with
  | nil => exact ⟨[], (List.append_nil journal).symm, .of_none nofun⟩
  | cons op rest ih =>
    have hsteps : steps h n (op :: rest) = op.step h n :: steps h (n + 1) rest := by
      simp [steps, List.zipIdx_cons]
    rw [hsteps]
    unfold Host.takeSteps
    rw [ensures_bind, ensures_outcome]
    refine (tells_step op (hpasses op List.mem_cons_self) n tx s journal).imp ?_
    rintro r tx' ⟨s', journal'⟩ ⟨news, rfl, htold⟩
    cases r with
    | error f =>
      dsimp only
      split
      · exact ⟨news, rfl, htold.imp fun _ hf => .inr ⟨n, by cases hf; rfl⟩⟩
      · exact ⟨news, rfl, htold.imp fun _ hf => .inl (by cases hf; rfl)⟩
    | ok a =>
      simp only [ensures_bind]
      refine (ih (fun op hop => hpasses op (List.mem_cons_of_mem _ hop)) (n + 1) tx' s' _).imp ?_
      rintro r tx'' st ⟨later, hlater, htold'⟩
      have hnews : st.2 = journal ++ (news ++ later) := hlater.trans (List.append_assoc ..)
      rcases r with f | ⟨i, f⟩ | as
      · exact ⟨_, hnews, .append htold.of_ok htold'⟩
      · exact ⟨_, hnews, .append htold.of_ok htold'⟩
      · refine ⟨_, hnews, .append htold.of_ok (htold'.imp ?_)⟩
        rintro f (hf | ⟨i, hf⟩) <;> cases hf

end Operation

namespace Host

open TransactionTask Transaction TransactionState

variable {α σ : Type} {h : Host σ} {lease conn : Nat} {tx : Transaction} {s : σ}
  {news journal : List (Entry α)}

/-! ## What went wrong first -/

/-- Until a transaction is over, only a statement or a step can have gone wrong. -/
theorem trouble_of_open {st : TransactionState}
    (hcourse : Course lease conn st (news.filter fun e => !e.isStep)) (hopen : st.isFinal = false)
    {e : Entry α} (he : e ∈ news) (htrouble : e.isTrouble) :
    (∃ c sql interrupted failure, e = .statement c sql interrupted failure) ∨
      ∃ n f, e = .raised n f := by
  obtain ⟨statements, hsent, hkinds, -⟩ := hcourse.statements hopen
  cases hstep : e.isStep with
  | true =>
    cases e with
    | raised n f => exact .inr ⟨n, f, rfl⟩
    | _ => first | cases htrouble | cases hstep
  | false =>
    have hcall : e ∈ .begin conn none :: statements := by
      rw [← hsent]
      exact List.mem_filter.2 ⟨he, by simp [hstep]⟩
    rcases List.mem_cons.1 hcall with rfl | hstatement
    · cases htrouble
    · obtain ⟨sql, interrupted, failure, rfl⟩ := hkinds e hstatement
      exact .inl ⟨conn, sql, interrupted, failure, rfl⟩

/-- As long as a transaction is active and no step raised, nothing went wrong. -/
theorem quiet_of_active (hcourse : Course lease conn .active (news.filter fun e => !e.isStep))
    (hnone : ∀ n f, .raised n f ∉ news) : ∀ e ∈ news, e.isTrouble = false := by
  intro e he
  rw [Bool.eq_false_iff]
  intro htrouble
  rcases trouble_of_open hcourse rfl he htrouble with ⟨c, sql, interrupted, failure, rfl⟩ |
    ⟨n, f, rfl⟩
  · have hclean := List.all_eq_true.1 (hcourse.clean rfl) _ (List.mem_filter.2 ⟨he, rfl⟩)
    rw [Entry.isTrouble_eq ⟨c, sql, interrupted, failure, rfl⟩, hclean] at htrouble
    cases htrouble
  · exact hnone n f he

/-- Where a transaction failed and no step raised, a statement went wrong first. -/
theorem first_of_failed (hcourse : Course lease conn .failed (news.filter fun e => !e.isStep))
    (hnone : ∀ n f, .raised n f ∉ news) : ∃ c sql interrupted failure,
      news.find? Entry.isTrouble = some (.statement c sql interrupted failure) := by
  cases hfirst : news.find? Entry.isTrouble with
  | none =>
    have hquiet : ∀ e ∈ news.filter fun e => !e.isStep, ¬e.isTrouble := fun e he =>
      List.find?_eq_none.1 hfirst e (List.mem_filter.1 he).1
    generalize hes : news.filter (fun e => !e.isStep) = es at hcourse hquiet
    cases hcourse with
    | failed sql interrupted failure hfailed _ =>
      refine absurd ?_ (hquiet _ (List.mem_append_right _ (List.mem_singleton_self _)))
      simpa [Entry.isTrouble] using hfailed
  | some e =>
    rcases trouble_of_open hcourse rfl (List.mem_of_find?_eq_some hfirst)
      (List.find?_some hfirst) with ⟨c, sql, interrupted, failure, rfl⟩ | ⟨n, f, rfl⟩
    · exact ⟨c, sql, interrupted, failure, rfl⟩
    · exact absurd (List.mem_of_find?_eq_some hfirst) (hnone n f)

/-! ## Why a transaction is given up -/

/-- Why a transaction is given up, and what is named as the cause, by what the journal tells. -/
inductive Explains (h : Host σ) (news : List (Entry α)) : Failure → Prop where
  /-- A step raised before anything else went wrong, -/
  | raised {n : Nat} {f : Failure} {refusal : Option Failure}
      (hfirst : news.find? Entry.isTrouble = some (.raised n f)) :
      Explains h news (h.aborted (some n)
        ("Transaction aborted at step " ++ toString n ++ ": " ++ f.text) (some f) refusal)
  /-- or the commit was refused: either is the cause. -/
  | refused {conn : Nat} {f : Failure} {refusal : Option Failure}
      (hfirst : news.find? Entry.isTrouble = some (.commit conn (some f))) :
      Explains h news (h.aborted none ("Commit failed: " ++ f.text) (some f) refusal)
  /-- If it was a statement, the cause is what a step raised thereupon. -/
  | followed {conn : Nat} {sql : String} {interrupted : Bool} {failure : Option Failure} {n : Nat}
      {f : Failure} {refusal : Option Failure}
      (hfirst : news.find? Entry.isTrouble = some (.statement conn sql interrupted failure))
      (hraised : .raised n f ∈ news) :
      Explains h news (h.aborted (some n)
        ("Transaction aborted at step " ++ toString n ++ ": " ++ f.text) (some f) refusal)
  /-- Where every step kept the failure to itself, no cause is named. -/
  | kept {conn : Nat} {sql : String} {interrupted : Bool} {failure : Option Failure}
      {refusal : Option Failure}
      (hfirst : news.find? Entry.isTrouble = some (.statement conn sql interrupted failure))
      (hnone : ∀ n f, .raised n f ∉ news) :
      Explains h news (h.aborted none "Cannot commit a failed transaction; it was rolled back" none
        refusal)

theorem cause?_aborted (h : Host σ) (step : Option Nat) (message : String)
    (cause refusal : Option Failure) : (h.aborted step message cause refusal).cause? = cause :=
  rfl

/-- A transaction is given up without a cause just if a statement went wrong first and no step
raised anything. -/
theorem Explains.cause?_eq_none {e : Failure} (hexplains : h.Explains news e) :
    e.cause? = none ↔ (∃ c sql interrupted failure,
        news.find? Entry.isTrouble = some (.statement c sql interrupted failure)) ∧
      ∀ n f, .raised n f ∉ news := by
  cases hexplains with
  | raised hfirst =>
    rw [cause?_aborted]
    refine iff_of_false nofun ?_
    rintro ⟨⟨c, sql, interrupted, failure, hstatement⟩, -⟩
    rw [hstatement] at hfirst
    cases hfirst
  | refused hfirst =>
    rw [cause?_aborted]
    refine iff_of_false nofun ?_
    rintro ⟨⟨c, sql, interrupted, failure, hstatement⟩, -⟩
    rw [hstatement] at hfirst
    cases hfirst
  | followed hfirst hraised =>
    rw [cause?_aborted]
    exact iff_of_false nofun fun hkept => hkept.2 _ _ hraised
  | kept hfirst hnone =>
    rw [cause?_aborted]
    exact iff_of_true rfl ⟨⟨_, _, _, _, hfirst⟩, hnone⟩

variable {Has : Bool → Bool → σ → Prop}

/-- A commit that fails is explained by what went before it, or by the refusal of the engine. -/
theorem Custody.commit_explained (hc : h.Custody lease Has) (hreturns : h.Returns lease Has)
    (hcommit : ∀ conn s f, ((h.calls.commit conn).run s).1 = .error f → f.isDriver)
    (hrollback : ∀ conn s f, ((h.calls.rollback conn).run s).1 = .error f → f.isDriver)
    (hopen : tx.state.isFinal = false)
    (hs : Stands Has lease conn tx (news.filter fun e => !e.isStep) s)
    (hnone : ∀ n f, .raised n f ∉ news) :
    (noted h).commit.Ensures tx (s, journal) fun r _ st =>
      ∃ closing, st.2 = journal ++ closing ∧
        (∀ c sql interrupted failure, .statement c sql interrupted failure ∉ closing) ∧
        ∀ e, r = .error e → h.Explains (news ++ closing) e := by
  obtain ⟨rfl, rfl, hcourse, hhas⟩ := hs
  cases hstate : tx.state with
  | committed | rolledBack =>
    rw [hstate] at hopen
    cases hopen
  | active =>
    rw [hstate] at hcourse hhas
    rw [hcourse.clean rfl] at hhas
    have hquiet : news.find? Entry.isTrouble = none :=
      List.find?_eq_none.2 fun e he => by simp [quiet_of_active hcourse hnone e he]
    refine (hc.commit_active hcommit hrollback hstate hhas).imp ?_
    rintro r tx' st (⟨-, hclosing, -, hends⟩ | ⟨f, refusal, -, hclosing, -, -, hends⟩)
    · cases hends hreturns
      exact ⟨_, hclosing, by simp, nofun⟩
    · cases hends hreturns
      have hrefused : (news ++ ([.commit tx.conn (some f), .rollback tx.conn refusal,
          .release tx.lease] : List (Entry α))).find? Entry.isTrouble =
            some (.commit tx.conn (some f)) := by
        rw [List.find?_append, hquiet]
        rfl
      refine ⟨_, hclosing, by simp, ?_⟩
      rintro e ⟨⟩
      exact .refused hrefused
  | failed =>
    rw [hstate] at hcourse hhas
    obtain ⟨c, sql, interrupted, failure, hfirst⟩ := first_of_failed hcourse hnone
    refine (hc.commit_failed hrollback hstate hhas).imp ?_
    rintro r tx' st ⟨refusal, -, hclosing, -, -, hends⟩
    cases hends hreturns
    have hstatement : (news ++ ([.rollback tx.conn refusal, .release tx.lease] :
        List (Entry α))).find? Entry.isTrouble =
          some (.statement c sql interrupted failure) := by
      rw [List.find?_append, hfirst]
      rfl
    refine ⟨_, hclosing, by simp, ?_⟩
    rintro e ⟨⟩
    refine .kept hstatement fun n f hmem => ?_
    rcases List.mem_append.1 hmem with hnews | hclosed
    · exact hnone n f hnews
    · simp at hclosed

/-- Where a step raised, that is the cause, whatever went wrong first. -/
theorem explains_raised {st : TransactionState} {n : Nat} {f : Failure} {closing : List (Entry α)}
    (refusal : Option Failure)
    (hcourse : Course lease conn st (news.filter fun e => !e.isStep)) (hopen : st.isFinal = false)
    (hraised : .raised n f ∈ news) (honce : ∀ m g, .raised m g ∈ news → m = n ∧ g = f) :
    h.Explains (news ++ closing) (h.aborted (some n)
      ("Transaction aborted at step " ++ toString n ++ ": " ++ f.text) (some f) refusal) := by
  cases hfirst : news.find? Entry.isTrouble with
  | none => exact absurd rfl (List.find?_eq_none.1 hfirst _ hraised)
  | some e =>
    have he := List.mem_of_find?_eq_some hfirst
    have hfound : (news ++ closing).find? Entry.isTrouble = some e := by
      rw [List.find?_append, hfirst]
      rfl
    rcases trouble_of_open hcourse hopen he (List.find?_some hfirst) with
      ⟨c, sql, interrupted, failure, rfl⟩ | ⟨m, g, rfl⟩
    · exact .followed hfound (List.mem_append_left _ hraised)
    · obtain ⟨rfl, rfl⟩ := honce m g he
      exact .raised hfound

/-- How steps are taken in a transaction that has just begun: at most one raises, and if they pass
failures on, it tells of what went wrong first. -/
theorem Custody.takeSteps_troubles {R : σ → σ → Prop} (hc : h.Custody lease Has)
    (hR : ∀ {healthy ended s s'}, R s s' → Has healthy ended s → Has healthy ended s')
    (ops : List (Operation σ α)) (hstays : ∀ op ∈ ops, op.Stays R)
    (hraises : ∀ op ∈ ops, op.Raises h) (conn : Nat) (journal : List (Entry α))
    (hs : Has true false s) :
    (takeSteps 0 (Operation.steps h 0 ops)).Ensures ⟨lease, conn, .active⟩ (s, journal)
      fun r tx st => ∃ work, st.2 = journal ++ work ∧
        Stands Has lease conn tx ((.begin conn none :: work).filter fun e => !e.isStep) st.1 ∧
        tx.state.isFinal = false ∧
        ((∀ op ∈ ops, op.Passes) → h.Told (.begin conn none :: work) fun f =>
          r = .error f ∨ ∃ i, r = .ok (.error (i, f))) ∧
        ((∃ as, r = .ok (.ok as) ∧ ∀ n f, .raised n f ∉ .begin conn none :: work) ∨
          ∃ n f, r = .ok (.error (n, f)) ∧ .raised n f ∈ .begin conn none :: work ∧
            ∀ m g, .raised m g ∈ .begin conn none :: work → m = n ∧ g = f) := by
  have hbegun : Stands Has lease conn ⟨lease, conn, .active⟩ [(.begin conn none : Entry α)] s :=
    ⟨rfl, rfl, .opened, hs⟩
  have htaken : (takeSteps 0 (Operation.steps h 0 ops)).Ensures ⟨lease, conn, .active⟩
      (s, journal) _ := Operation.takeSteps_stands hc hR ops hstays hraises 0 hbegun
  have htold := fun hpasses => Operation.takeSteps_told (h := h) ops hpasses 0
    ⟨lease, conn, .active⟩ s journal
  unfold TransactionTask.Ensures at htaken htold ⊢
  obtain ⟨work, hjournal, hstands, hworks, hsteps⟩ := htaken
  have hraised : ∀ n f, .raised n f ∈ .begin conn none :: work ↔
      .raised n f ∈ work.filter Entry.isStep := by
    simp [Entry.isStep]
  refine ⟨work, hjournal, hstands, hworks.2, fun hpasses => ?_, ?_⟩
  · obtain ⟨news, hnews, htold⟩ := htold hpasses
    obtain rfl := List.append_cancel_left (hnews.symm.trans hjournal)
    have hbegin : ∀ {tells : Failure → Prop}, h.Told [(.begin conn none : Entry α)] tells :=
      .of_none (by simp)
    exact hbegin.append htold
  · simp only [hraised]
    rcases hsteps with ⟨as, hr, -, hdiary⟩ | ⟨as, f, hr, -, hdiary⟩ <;> rw [hdiary]
    · exact .inl ⟨as, hr, fun n f => Entry.raised_notMem_diary 0 as n f⟩
    · refine .inr ⟨0 + as.length, f, hr, by simp, fun m g hmem => ?_⟩
      rcases List.mem_append.1 hmem with hold | hlast
      · exact absurd hold (Entry.raised_notMem_diary 0 as m g)
      · simpa using hlast

/-- Steps in a transaction that has just begun end in a failure that is explained, and if they pass
failures on, its cause is what went wrong first. -/
theorem Custody.allOrNothing_explained {R : σ → σ → Prop} (hc : h.Custody lease Has)
    (hreturns : h.Returns lease Has)
    (hcommit : ∀ conn s f, ((h.calls.commit conn).run s).1 = .error f → f.isDriver)
    (hrollback : ∀ conn s f, ((h.calls.rollback conn).run s).1 = .error f → f.isDriver)
    (hR : ∀ {healthy ended s s'}, R s s' → Has healthy ended s → Has healthy ended s')
    (ops : List (Operation σ α)) (hstays : ∀ op ∈ ops, op.Stays R)
    (hraises : ∀ op ∈ ops, op.Raises h) (conn : Nat) (journal : List (Entry α))
    (hs : Has true false s) :
    ((noted h).allOrNothing (Operation.steps h 0 ops)).Ensures ⟨lease, conn, .active⟩
      (s, journal) fun r _ st => ∃ news, st.2 = journal ++ news ∧ ∀ e, r = .error e →
        h.Explains (.begin conn none :: news) e ∧
          ((∀ op ∈ ops, op.Passes) →
            h.Told (.begin conn none :: news) fun f => e.cause? = some f) := by
  unfold Host.allOrNothing
  rw [ensures_bind]
  refine (hc.takeSteps_troubles hR ops hstays hraises conn journal hs).imp ?_
  rintro r tx ⟨s', journal'⟩ ⟨work, rfl, hstands, hopen, htold, htaken⟩
  have hclosed : ∀ {closing : List (Entry α)} {e : Failure},
      (∀ c sql interrupted failure, .statement c sql interrupted failure ∉ closing) →
      (∀ f, r = .error f ∨ (∃ i, r = .ok (.error (i, f))) → e.cause? = some f) →
      (∀ op ∈ ops, op.Passes) →
        h.Told (.begin conn none :: (work ++ closing)) fun f => e.cause? = some f :=
    fun hnone hcause hpasses => .append ((htold hpasses).imp hcause)
      (.of_none fun c sql interrupted g => hnone c sql interrupted (some g))
  obtain ⟨as, rfl, hnone⟩ | ⟨n, f, rfl, hraised, honce⟩ := htaken
  · simp only [ensures_bind]
    refine (hc.commit_explained hreturns hcommit hrollback hopen hstands hnone).imp ?_
    rintro r tx' st ⟨closing, hclosing, hstatements, hexplains⟩
    cases r with
    | ok _ => exact ⟨work ++ closing, hclosing.trans (List.append_assoc ..), nofun⟩
    | error f =>
      refine ⟨work ++ closing, hclosing.trans (List.append_assoc ..), ?_⟩
      rintro e ⟨⟩
      exact ⟨hexplains f rfl, hclosed hstatements (by simp)⟩
  · obtain ⟨rfl, rfl, hcourse, hhas⟩ := hstands
    rw [hopen] at hhas
    simp only [ensures_bind]
    refine (hc.abort tx hrollback rfl hopen hhas).imp ?_
    rintro r tx' st ⟨refusal, rfl, hclosing, hover, hrefusal, hends⟩
    cases hends hreturns
    simp only [ensures_task, ensures_throw]
    refine ⟨_, hclosing.trans (List.append_assoc ..), ?_⟩
    rintro e ⟨⟩
    refine ⟨explains_raised refusal hcourse hopen hraised honce, hclosed (by simp) ?_⟩
    rintro g (hg | ⟨i, hg⟩) <;> cases hg
    rfl

end Host

namespace Office

open Transaction

variable {α σ : Type} {o : Office σ} {calls : DriverCalls σ} {s : σ} {lease : Nat}

/-! ## At an office -/

/-- A transaction that lives at an office and is not over fails to commit only with an explanation.
-/
theorem Surrounded.commit_explained (hsur : o.Surrounded calls (Desk.Balances lease))
    (hord : o.Orderly) (hturns : 1 ≤ o.turns)
    (hcommit : ∀ conn s f, ((calls.commit conn).run s).1 = .error f → f.isDriver)
    (hrollback : ∀ conn s f, ((calls.rollback conn).run s).1 = .error f → f.isDriver)
    (driver : Driver) (patience timeout : Option Seconds) {journal : List (Entry α)}
    {tx₀ tx : Transaction} {st₀ st : σ × List (Entry α)} (hlease : tx₀.lease = lease)
    (hbegin : ((Host.noted (o.host driver calls patience)).begin timeout).run (s, journal) =
      (.ok tx₀, st₀))
    (hlives : Lives (Host.noted (o.host driver calls patience)) tx₀ st₀ tx st)
    (hopen : tx.state.isFinal = false) :
    (Host.noted (o.host driver calls patience)).commit.Ensures tx st fun r _ st' =>
      ∃ news, st'.2 = journal ++ news ∧
        ∀ e, r = .error e → (o.host driver calls patience).Explains news e := by
  subst hlease
  obtain ⟨s₀, journal₀⟩ := st₀
  obtain ⟨slot, hentry, -, hactive, hjournal⟩ := hsur.begin_stands driver patience timeout
    (fun _ _ l hbalances => hbalances.2 l) hbegin
  have hd : Desk.Custody (Desk.Balances tx₀.lease) tx₀.lease (Desk.Occupies tx₀.lease slot
      ((o.desk s₀).pool.inUse - 1) (Desk.Level (Desk.Balances tx₀.lease))) :=
    Desk.occupies_custody fun _ _ l hbalances => hbalances.2 l
  have hc := hsur.custody hd driver patience
  have hstart : Stands (fun healthy ended s => Desk.Occupies tx₀.lease slot
      ((o.desk s₀).pool.inUse - 1) (Desk.Level (Desk.Balances tx₀.lease)) healthy ended
      (o.desk s)) tx₀.lease tx₀.conn tx₀ [(.begin tx₀.conn none : Entry α)] s₀ := by
    refine ⟨rfl, rfl, ?_, ?_⟩
    · rw [hactive]
      exact .opened
    · rw [hactive]
      exact ⟨hentry, fun _ => by simp [TransactionState.isFinal]⟩
  obtain ⟨news, hnews, hstands⟩ := hlives.stands hc hcommit hrollback hstart
  have hcalls : ([.begin tx₀.conn none] ++ news : List (Entry α)).filter (fun e => !e.isStep) =
      [.begin tx₀.conn none] ++ news :=
    List.filter_eq_self.2 fun e he => by simp [hstands.course.no_steps e he]
  have hnone : ∀ n f, .raised n f ∉ ([.begin tx₀.conn none] ++ news : List (Entry α)) := by
    intro n f hmem
    have hstep := hstands.course.no_steps _ hmem
    cases hstep
  rw [← hcalls] at hstands
  refine (hc.commit_explained (hsur.returns hd driver patience hturns hord.close) hcommit hrollback
    hopen hstands hnone).imp ?_
  rintro r tx' st' ⟨closing, hclosing, -, hexplains⟩
  refine ⟨[.begin tx₀.conn none] ++ news ++ closing, ?_, hexplains⟩
  rw [hclosing, hnews, hjournal]
  simp

/-- Whatever fails in a transaction at an office, the failure that it is given up with names a
cause, unless a statement went wrong first and no step raised anything.  If the steps pass failures
on, the cause is what went wrong first.  Whoever commits a transaction on his own learns of the
commit that the engine refused, but not of a statement that failed before. -/
theorem Surrounded.causes_explained (hsur : o.Surrounded calls (Desk.Balances lease))
    (hord : o.Orderly) (hturns : 1 ≤ o.turns)
    (hbegin : ∀ conn s f, ((calls.begin conn).run s).1 = .error f → f.isDriver)
    (hcommit : ∀ conn s f, ((calls.commit conn).run s).1 = .error f → f.isDriver)
    (hrollback : ∀ conn s f, ((calls.rollback conn).run s).1 = .error f → f.isDriver)
    (driver : Driver) (patience : Option Seconds) (journal : List (Entry α))
    (hends : (o.call (.checkout none) s).1 ≠ .error unfinished)
    (hlease : ∀ l, (o.call (.checkout none) s).1 = .ok (some l) → l = lease)
    (ops : List (Operation σ α))
    (hstays : ∀ op ∈ ops, op.Stays fun s s' => Desk.Balances lease (o.desk s) (o.desk s'))
    (hraises : ∀ op ∈ ops, op.Raises (o.host driver calls patience)) :
    ((Host.noted (o.host driver calls patience)).executeInTransaction
      (Operation.steps (o.host driver calls patience) 0 ops)).Ensures (s, journal)
        (fun r st => ∃ news, st.2 = journal ++ news ∧
          ∀ e conn, r = .error e → .begin conn none ∈ news →
            (o.host driver calls patience).Explains news e ∧
              ((∀ op ∈ ops, op.Passes) →
                (o.host driver calls patience).Told news fun f => e.cause? = some f)) ∧
      ∀ {timeout : Option Seconds} {s₀ : σ} {journal₀ : List (Entry α)} {tx₀ tx : Transaction}
        {st₀ st : σ × List (Entry α)},
        ((Host.noted (o.host driver calls patience)).begin timeout).run (s₀, journal₀) =
          (.ok tx₀, st₀) →
        tx₀.lease = lease →
        Lives (Host.noted (o.host driver calls patience)) tx₀ st₀ tx st →
        tx.state.isFinal = false →
        (Host.noted (o.host driver calls patience)).commit.Ensures tx st fun r _ st' =>
          ∃ news, st'.2 = journal₀ ++ news ∧
            ∀ e, r = .error e → (o.host driver calls patience).Explains news e := by
  refine ⟨?_, fun hbegun hlease hlives hopen => hsur.commit_explained hord hturns hcommit hrollback
    driver patience _ hlease hbegun hlives hopen⟩
  have hd : Desk.Custody (Desk.Balances lease) lease
      (Desk.Counted lease (o.desk s).pool.inUse) := Desk.counted_custody
  have hc := hsur.custody hd driver patience
  have hreturns : (o.host driver calls patience).Returns lease fun healthy ended s' =>
      Desk.Counted lease (o.desk s).pool.inUse healthy ended (o.desk s') :=
    hsur.returns hd driver patience hturns hord.close
  unfold Host.executeInTransaction Host.wholeInTransaction
  rw [bind_assoc, Task.ensures_bind]
  refine (hsur.begin_counted hord hturns hbegin driver patience none journal hends hlease).imp ?_
  rintro r ⟨s₁, journal₁⟩ hbegun
  cases r with
  | error f =>
    obtain ⟨-, rfl | ⟨conn, rfl⟩⟩ := hbegun
    · exact ⟨[], (List.append_nil _).symm, fun _ _ _ hnone => nomatch hnone⟩
    · exact ⟨_, rfl, fun _ _ _ hnone => by simp at hnone⟩
  | ok tx =>
    obtain ⟨conn, rfl, hcounted, rfl⟩ := hbegun
    have hall := hc.allOrNothing_explained hreturns hcommit hrollback
      (fun hR h => hd.outside hR h) ops hstays hraises conn (journal ++ [.begin conn none]) hcounted
    unfold TransactionTask.Ensures at hall
    rcases hrun : ((Host.noted (o.host driver calls patience)).allOrNothing
      (Operation.steps (o.host driver calls patience) 0 ops)).runIn ⟨lease, conn, .active⟩
      (s₁, journal ++ [.begin conn none]) with ⟨⟨r, tx⟩, st⟩
    rw [hrun] at hall
    obtain ⟨news, hnews, hexplained⟩ := hall
    simp only [Task.ensures_bind, Task.ensures_state, Task.ensures_ofExcept, hrun]
    exact ⟨.begin conn none :: news, hnews.trans (List.append_assoc ..),
      fun e _ he _ => hexplained e he⟩

open Transaction (quietOffice plainDriver refusingCalls refusedStatement refusing_outside)

/-- A program that keeps it to itself that its statement was refused. -/
def keptPrograms : List (Operation Desk Nat) := [.run refusedStatement {} fun _ => .give 5]

/-- What comes of the program, and what is left. -/
def keptResult : Except Failure (List Nat) × Desk × List (Entry Nat) :=
  ((Host.noted quietHost).executeInTransaction
    (Operation.steps quietHost 0 keptPrograms)).run (quietDesk, [])

/-- The engine refuses a statement, the program goes on as if nothing had been, and the transaction
is given up at its commit without a cause. -/
theorem cause_forgotten : ∃ e, keptResult.1 = .error e ∧ e.cause? = none ∧
    keptResult.2.2[2]? = some (.statement 7 "UPDATE t" false
      (some (.make (.driver .null .null) "syntax error"))) :=
  ⟨quietHost.aborted none "Cannot commit a failed transaction; it was rolled back" none none, rfl,
    rfl, rfl⟩

/-- A program raises something of its own after its statement was refused, and that is the cause. -/
theorem causes_explained_refused : ∃ e news, refusedResult.1 = .error e ∧
    refusedResult.2.2 = [] ++ news ∧ quietHost.Explains news e ∧ e.cause? = some givesUp := by
  have hlent : (quietOffice.call (.checkout none) quietDesk).1 = .ok (some 0) := rfl
  have hends : (quietOffice.call (.checkout none) quietDesk).1 ≠ .error unfinished := by
    rw [hlent]
    nofun
  have hlease : ∀ l, (quietOffice.call (.checkout none) quietDesk).1 = .ok (some l) → l = 0 := by
    rw [hlent]
    rintro l ⟨⟩
    rfl
  have hstays : ∀ op ∈ refusedPrograms, op.Stays fun s s' =>
      Desk.Balances 0 (quietOffice.desk s) (quietOffice.desk s') := by
    simp [refusedPrograms, Operation.Stays]
  have hraises : ∀ op ∈ refusedPrograms, op.Raises quietHost := by
    intro op hop tx st f hf
    simp only [refusedPrograms, List.mem_cons, List.not_mem_nil, or_false] at hop
    obtain rfl | rfl | rfl := hop
    · cases hf
    · cases hf
      rfl
    · cases hf
  have hplain : ∀ (conn : Nat) (d : Desk) (f : Failure),
      ((refusingCalls.begin conn).run d).1 = .error f → f.isDriver := by
    intro conn d f hf
    cases hf
  have hcauses := (refusing_surrounded (Desk.Balances 0)).causes_explained
    (s := quietDesk) quiet_orderly (by decide) hplain hplain hplain plainDriver
    none [] hends hlease refusedPrograms hstays hraises
  obtain ⟨news, hnews, hexplains⟩ := hcauses.1
  have hfailed : refusedResult.1 = .error (quietHost.aborted (some 1)
      "Transaction aborted at step 1: gives up" (some givesUp) none) := rfl
  have hbegun : .begin 7 none ∈ news := by
    have hfirst : refusedResult.2.2.head? = some (.begin 7 none) := rfl
    have hsame : refusedResult.2.2 = news := hnews
    rw [← hsame]
    exact List.mem_of_mem_head? hfirst
  exact ⟨_, news, hfailed, hnews, (hexplains _ 7 hfailed hbegun).1, rfl⟩

end Office

end SqlGateway
