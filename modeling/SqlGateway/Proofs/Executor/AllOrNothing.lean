import SqlGateway.Proofs.Executor.Program
import SqlGateway.Proofs.Executor.Tenancy
import SqlGateway.Proofs.Pool.Usage
set_option autoImplicit false

/-!
# Executor: all or nothing

Programs that are run as steps of one transaction are committed as a whole or not at
all.  `AllOrNothing` says so of the results and of the journal, and a host that has
custody of the lease keeps to it, whatever the programs do and whatever the driver does.
At an office the lease comes from a pool, and in the end the pool lends no more than it
did before.
-/

namespace SqlGateway

namespace Entry

variable {α : Type}

/-- The entry is made while a transaction is at work: it is about a statement or a step. -/
def isWork : Entry α → Bool
  | .statement .. | .called _ | .returned _ _ | .raised _ _ => true
  | _ => false

def isRollback : Entry α → Bool
  | .rollback _ _ => true
  | _ => false

/-- Steps that gave something raised nothing. -/
theorem raised_notMem_diary (n : Nat) (as : List α) (m : Nat) (f : Failure) :
    .raised m f ∉ diary n as := by
  simp [diary]

end Entry

namespace Host

variable {α σ : Type}

/-! ## Results and journal -/

/-- What may come of so many steps in a transaction of their own, with the journal of it. -/
structure AllOrNothing (h : Host σ) (count : Nat) (r : Except Failure (List α))
    (news : List (Entry α)) : Prop where
  /-- The steps are taken in order, each at most once, and none after one that raised. -/
  inOrder : ∃ as : List α, as.length ≤ count ∧
    (news.filter Entry.isStep = Entry.diary 0 as ∨
      ∃ f, as.length < count ∧ news.filter Entry.isStep =
        Entry.diary 0 as ++ [.called as.length, .raised as.length f])
  /-- No step is taken where nothing has begun. -/
  unbegun : (∀ conn, .begin conn none ∉ news) → news.filter Entry.isStep = []
  /-- Results are what every step gave, and come after a commit, the last that the driver is
  sent. -/
  committed : ∀ as, r = .ok as → as.length = count ∧
    news.filter Entry.isStep = Entry.diary 0 as ∧
    ∃ work lease conn, (∀ e ∈ work, e.isWork) ∧
      news = .begin conn none :: work ++ [.commit conn none, .release lease]
  /-- A failure after the beginning comes with one rollback and no commit, and tells which step
  raised what, if one did. -/
  rolledBack : ∀ e, r = .error e → ∀ conn, .begin conn none ∈ news →
    (∀ c, .commit c none ∉ news) ∧
    ∃ step message cause refusal, e = h.aborted step message cause refusal ∧
      news.filter Entry.isRollback = [.rollback conn refusal] ∧
      (∀ g, refusal = some g → g.isDriver) ∧
      (∀ n f, .raised n f ∈ news → step = some n ∧ cause = some f) ∧
      ((∀ n f, .raised n f ∉ news) → step = none)

section

variable {h : Host σ} {count lease conn : Nat} {as : List α} {work closing : List (Entry α)}

theorem filter_isStep_course (conn : Nat) (work closing : List (Entry α))
    (hclosing : ∀ e ∈ closing, e.isStep = false) :
    (.begin conn none :: work ++ closing).filter Entry.isStep = work.filter Entry.isStep := by
  have hnone : closing.filter Entry.isStep = [] :=
    List.filter_eq_nil_iff.2 fun e he => by simp [hclosing e he]
  rw [List.filter_append, hnone, List.append_nil]
  exact List.filter_cons_of_neg (by simp [Entry.isStep])

theorem mem_course {e : Entry α} (hwork : ∀ e ∈ work, e.isWork)
    (he : e ∈ .begin conn none :: work ++ closing) :
    e = .begin conn none ∨ e.isWork ∨ e ∈ closing := by
  rw [List.cons_append, List.mem_cons, List.mem_append] at he
  obtain hfirst | hworked | hclosed := he
  · exact .inl hfirst
  · exact .inr (.inl (hwork e hworked))
  · exact .inr (.inr hclosed)

theorem filter_isRollback_course (hwork : ∀ e ∈ work, e.isWork) :
    (.begin conn none :: work ++ closing).filter Entry.isRollback =
      closing.filter Entry.isRollback := by
  have hquiet : work.filter Entry.isRollback = [] := by
    refine List.filter_eq_nil_iff.2 fun e he hrollback => ?_
    cases e with
    | rollback => exact nomatch hwork _ he
    | _ => cases hrollback
  rw [List.filter_append, List.filter_cons_of_neg (by simp [Entry.isRollback]), hquiet]
  rfl

/-- Where nothing has begun, nothing is done. -/
theorem allOrNothing_unbegun {f : Failure} {news : List (Entry α)}
    (hnews : news = [] ∨ ∃ conn lease, news = [.begin conn (some f), .release lease]) :
    h.AllOrNothing count (.error f) news := by
  have hsteps : news.filter Entry.isStep = [] := by
    obtain rfl | ⟨conn, lease, rfl⟩ := hnews <;> rfl
  refine ⟨⟨[], Nat.zero_le _, .inl hsteps⟩, fun _ => hsteps, nofun, ?_⟩
  intro e _ conn hbegin
  obtain rfl | ⟨conn', lease, rfl⟩ := hnews <;> simp at hbegin

/-- Work that is committed. -/
theorem allOrNothing_committed (hwork : ∀ e ∈ work, e.isWork)
    (hsteps : work.filter Entry.isStep = Entry.diary 0 as) :
    h.AllOrNothing as.length (.ok as)
      (.begin conn none :: work ++ [.commit conn none, .release lease]) := by
  have hfilter := filter_isStep_course conn work [.commit conn none, .release lease]
    (by simp [Entry.isStep])
  rw [hsteps] at hfilter
  have hbegun : .begin conn none ∈
      (.begin conn none :: work ++ [.commit conn none, .release lease] : List (Entry α)) :=
    List.mem_cons_self
  refine ⟨⟨as, Nat.le_refl _, .inl hfilter⟩, fun hnever => absurd hbegun (hnever conn), ?_, ?_⟩
  · rintro as' ⟨⟩
    exact ⟨rfl, hfilter, work, lease, conn, hwork, rfl⟩
  · rintro _ ⟨⟩

/-- Work that is rolled back, be it at the commit. -/
theorem allOrNothing_rolledBack {step : Option Nat} {cause refusal : Option Failure}
    (message : String) (hwork : ∀ e ∈ work, e.isWork)
    (htaken : (as.length ≤ count ∧ step = none ∧
        work.filter Entry.isStep = Entry.diary 0 as) ∨
      ∃ f, as.length < count ∧ step = some as.length ∧ cause = some f ∧
        work.filter Entry.isStep =
          Entry.diary 0 as ++ [.called as.length, .raised as.length f])
    (hclosing : closing = [.rollback conn refusal, .release lease] ∨
      ∃ f, closing = [.commit conn (some f), .rollback conn refusal, .release lease])
    (hrefusal : ∀ g, refusal = some g → g.isDriver) :
    h.AllOrNothing count (.error (h.aborted step message cause refusal))
      (.begin conn none :: work ++ closing) := by
  have hfilter : (.begin conn none :: work ++ closing).filter Entry.isStep =
      work.filter Entry.isStep := by
    refine filter_isStep_course conn work closing ?_
    obtain rfl | ⟨f, rfl⟩ := hclosing <;> simp [Entry.isStep]
  have hbegun : .begin conn none ∈ .begin conn none :: work ++ closing := List.mem_cons_self
  refine ⟨⟨as, ?_⟩, fun hnever => absurd hbegun (hnever conn), by rintro _ ⟨⟩, ?_⟩
  · rw [hfilter]
    obtain ⟨hle, -, hsteps⟩ | ⟨f, hlt, -, -, hsteps⟩ := htaken
    · exact ⟨hle, .inl hsteps⟩
    · exact ⟨hlt.le, .inr ⟨f, hlt, hsteps⟩⟩
  · rintro e ⟨⟩ conn' hbegin
    have hconn : conn' = conn := by
      obtain hfirst | hworked | hclosed := mem_course hwork hbegin
      · exact (Entry.begin.inj hfirst).1
      · cases hworked
      · obtain rfl | ⟨f, rfl⟩ := hclosing <;> simp at hclosed
    subst hconn
    have hraised : ∀ n f, .raised n f ∈ work.filter Entry.isStep ↔
        .raised n f ∈ .begin conn' none :: work ++ closing := by
      intro n f
      rw [← hfilter, List.mem_filter]
      exact and_iff_left rfl
    refine ⟨?_, step, message, cause, refusal, rfl, ?_, hrefusal, ?_, ?_⟩
    · intro c hcommit
      obtain hfirst | hworked | hclosed := mem_course hwork hcommit
      · cases hfirst
      · cases hworked
      · obtain rfl | ⟨f, rfl⟩ := hclosing <;> simp at hclosed
    · rw [filter_isRollback_course hwork]
      obtain rfl | ⟨f, rfl⟩ := hclosing <;> rfl
    · intro n f hmem
      rw [← hraised] at hmem
      obtain ⟨-, -, hsteps⟩ | ⟨g, -, hstep, hcause, hsteps⟩ := htaken
      · rw [hsteps] at hmem
        exact absurd hmem (Entry.raised_notMem_diary 0 as n f)
      · rw [hsteps, List.mem_append] at hmem
        obtain hold | hlast := hmem
        · exact absurd hold (Entry.raised_notMem_diary 0 as n f)
        · simp only [List.mem_cons, reduceCtorEq, Entry.raised.injEq, List.not_mem_nil, or_false,
            false_or] at hlast
          rw [hstep, hcause, hlast.1, hlast.2]
          exact ⟨rfl, rfl⟩
    · intro hnone
      obtain ⟨-, hstep, -⟩ | ⟨g, -, -, -, hsteps⟩ := htaken
      · exact hstep
      · refine absurd ((hraised as.length g).1 ?_) (hnone as.length g)
        rw [hsteps]
        simp

end

/-! ## In custody of a lease -/

section

open TransactionTask Transaction TransactionState

variable {h : Host σ} {lease : Nat} {Has : Bool → Bool → σ → Prop} {R : σ → σ → Prop} {s : σ}

/-- What a transaction has done before it is over, is work. -/
theorem isWork_of_stands {conn : Nat} {tx : Transaction} {work : List (Entry α)}
    (hopen : tx.state.isFinal = false)
    (hs : Stands Has lease conn tx
      ([.begin conn none] ++ work.filter fun e => !e.isStep) s) :
    ∀ e ∈ work, e.isWork := by
  obtain ⟨statements, hsent, hkinds, -⟩ := hs.course.statements hopen
  have hcalls : (work.filter fun e => !e.isStep) = statements := (List.cons.inj hsent).2
  intro e he
  cases hstep : e.isStep with
  | true => cases e <;> first | rfl | cases hstep
  | false =>
    have hcall : e ∈ statements := by
      rw [← hcalls]
      exact List.mem_filter.2 ⟨he, by simp [hstep]⟩
    obtain ⟨sql, interrupted, failure, rfl⟩ := hkinds e hcall
    rfl

/-- Steps in a transaction that has just begun are committed as a whole or not at all, and in the
end the lease is over. -/
theorem Custody.allOrNothing (hc : h.Custody lease Has) (hreturns : h.Returns lease Has)
    (hcommit : ∀ conn s f, ((h.calls.commit conn).run s).1 = .error f → f.isDriver)
    (hrollback : ∀ conn s f, ((h.calls.rollback conn).run s).1 = .error f → f.isDriver)
    (hR : ∀ {healthy ended s s'}, R s s' → Has healthy ended s → Has healthy ended s')
    (ops : List (Operation σ α)) (hstays : ∀ op ∈ ops, op.Stays R)
    (hraises : ∀ op ∈ ops, op.Raises h) (conn : Nat) (journal : List (Entry α))
    (hs : Has true false s) :
    ((noted h).allOrNothing (Operation.steps h 0 ops)).Ensures ⟨lease, conn, .active⟩
      (s, journal) fun r tx st =>
        tx.state.isFinal ∧ (∃ healthy, Has healthy true st.1) ∧
        ∃ news, st.2 = journal ++ news ∧
          h.AllOrNothing ops.length r (.begin conn none :: news) := by
  have hbegun : Stands Has lease conn ⟨lease, conn, .active⟩ [(.begin conn none : Entry α)] s :=
    ⟨rfl, rfl, .opened, hs⟩
  unfold Host.allOrNothing
  rw [ensures_bind]
  refine (Operation.takeSteps_stands hc hR ops hstays hraises 0 hbegun).imp ?_
  rintro r tx ⟨s', journal'⟩ ⟨work, hjournal, hstands, hworks, htaken⟩
  have hopen : tx.state.isFinal = false := hworks.2
  have hwork := isWork_of_stands hopen hstands
  obtain ⟨rfl, rfl, hcourse, hhas⟩ := hstands
  rw [hopen] at hhas
  have hnews : ∀ {closing later}, later = journal' ++ closing →
      later = journal ++ (work ++ closing) := by
    rintro closing later rfl
    rw [← List.append_assoc]
    exact congrArg (· ++ closing) hjournal
  obtain ⟨as, rfl, hlength, hsteps⟩ | ⟨as, f, rfl, hlength, hsteps⟩ := htaken
  · simp only [ensures_bind]
    -- A program may have kept a failure to itself; then the transaction is not active here.
    cases hstate : tx.state with
    | committed | rolledBack =>
      rw [hstate] at hopen
      cases hopen
    | active =>
      rw [hcourse.clean hstate] at hhas
      refine (hc.commit_active hcommit hrollback hstate hhas).imp ?_
      rintro r tx' st (⟨rfl, hclosing, hover, hends⟩ |
        ⟨f, refusal, rfl, hclosing, hover, hrefusal, hends⟩)
      · cases hends hreturns
        refine ⟨rfl, ⟨true, hover⟩, _, hnews hclosing, ?_⟩
        rw [← hlength]
        exact allOrNothing_committed hwork hsteps
      · cases hends hreturns
        exact ⟨rfl, ⟨false, hover⟩, _, hnews hclosing, allOrNothing_rolledBack _ hwork
          (.inl ⟨hlength.le, rfl, hsteps⟩) (.inr ⟨f, rfl⟩) hrefusal⟩
    | failed =>
      refine (hc.commit_failed hrollback hstate hhas).imp ?_
      rintro r tx' st ⟨refusal, rfl, hclosing, hover, hrefusal, hends⟩
      cases hends hreturns
      exact ⟨rfl, ⟨_, hover⟩, _, hnews hclosing, allOrNothing_rolledBack _ hwork
        (.inl ⟨hlength.le, rfl, hsteps⟩) (.inl rfl) hrefusal⟩
  · rw [Nat.zero_add] at hsteps ⊢
    simp only [ensures_bind]
    refine (hc.abort tx hrollback rfl hopen hhas).imp ?_
    rintro r tx' st ⟨refusal, rfl, hclosing, hover, hrefusal, hends⟩
    cases hends hreturns
    simp only [ensures_task, ensures_throw]
    exact ⟨rfl, ⟨_, hc.tell _ hover⟩, _, hnews hclosing, allOrNothing_rolledBack _ hwork
      (.inr ⟨f, hlength, rfl, rfl, hsteps⟩) (.inl rfl) hrefusal⟩

end

end Host

/-! ## In use at a pool -/

namespace Desk

/-- Others leave a lease as it is. -/
def Keeps (R : Desk → Desk → Prop) (lease : Nat) : Prop :=
  ∀ d d' l, R d d' → d.leases[lease]? = some l → d'.leases[lease]? = some l

/-- Others leave as many connections in use as there were. -/
def Level (R : Desk → Desk → Prop) : Prop := ∀ d d', R d d' → d'.pool.inUse = d.pool.inUse

variable {R : Desk → Desk → Prop} {lease : Nat} {slot : Slot} {used : Int} {healthy ended : Bool}
  {d : Desk}

/-- The lease is for a connection, which is in use beside so many others until the lease is over, if
that number can only change by it. -/
def Occupies (lease : Nat) (slot : Slot) (used : Int) (level : Prop) (healthy ended : Bool)
    (d : Desk) : Prop :=
  d.leases[lease]? = some ⟨slot, healthy, ended⟩ ∧
    (level → d.pool.inUse = used + if ended then 0 else 1)

theorem occupies_custody (hkeeps : Keeps R lease) :
    Custody R lease (Occupies lease slot used (Level R)) where
  entry h := ⟨slot, h.1⟩
  outside hR h := ⟨hkeeps _ _ _ hR h.1, fun hlevel => (hlevel _ _ hR).trans (h.2 hlevel)⟩
  mark h := ⟨by simp [markUnhealthy, h.1], h.2⟩
  giveBack now h := by
    obtain ⟨hlease, hinUse, -⟩ := start_giveBack_state now h.1
    refine ⟨hlease, fun hlevel => ?_⟩
    rw [hinUse, h.2 hlevel]
    simp
  closed {_ d} caller now s reason r h := by
    obtain ⟨hleases, hinUse, -⟩ := proceed_returned_state d caller now s reason r
    refine ⟨?_, fun hlevel => ?_⟩
    · rw [hleases]
      exact h.1
    · rw [hinUse]
      exact h.2 hlevel

/-- Others leave a lease as it is, and as many connections in use as there were. -/
def Balances (lease : Nat) (d d' : Desk) : Prop :=
  d'.pool.inUse = d.pool.inUse ∧ ∀ l, d.leases[lease]? = some l → d'.leases[lease]? = some l

instance : IsPreorder Desk (Balances lease) where
  refl _ := ⟨rfl, fun _ hl => hl⟩
  trans _ _ _ hab hbc := ⟨hbc.1.trans hab.1, fun l hl => hbc.2 l (hab.2 l hl)⟩

/-- The lease counts for one connection in use beside so many others, until it is over. -/
def Counted (lease : Nat) (used : Int) (healthy ended : Bool) (d : Desk) : Prop :=
  (∃ slot, d.leases[lease]? = some ⟨slot, healthy, ended⟩) ∧
    d.pool.inUse = used + if ended then 0 else 1

theorem counted_iff : Counted lease used healthy ended d ↔
    ∃ slot, Occupies lease slot used (Level (Balances lease)) healthy ended d := by
  constructor
  · rintro ⟨⟨slot, hslot⟩, hused⟩
    exact ⟨slot, hslot, fun _ => hused⟩
  · rintro ⟨slot, hslot, hused⟩
    exact ⟨⟨slot, hslot⟩, hused fun _ _ hbalances => hbalances.1⟩

theorem counted_custody : Custody (Balances lease) lease (Counted lease used) := by
  have hcounted : Counted lease used = fun healthy ended d =>
      ∃ slot, Occupies lease slot used (Level (Balances lease)) healthy ended d := by
    funext healthy ended d
    exact propext counted_iff
  rw [hcounted]
  exact .exists fun slot => occupies_custody fun _ _ l hbalances => hbalances.2 l

end Desk

namespace Office

variable {α σ : Type} {o : Office σ} {calls : DriverCalls σ} {R : Desk → Desk → Prop} {s : σ}

/-- All that happens outside a desk stays within a relation between the desk before and after, and
so does what a checkout waits for. -/
structure Surrounded (o : Office σ) (calls : DriverCalls σ) (R : Desk → Desk → Prop) : Prop
    extends o.Outside calls R where
  openConnection (s : σ) : R (o.desk s) (o.desk (o.surroundings.openConnection s).2)
  testConnection (raw : Nat) (s : σ) :
    R (o.desk s) (o.desk (o.surroundings.testConnection raw s).2)
  sleep (limit : Option Seconds) (s : σ) : R (o.desk s) (o.desk (o.surroundings.sleep limit s).2)

/-- Connections are tested and closed without an interruption of the program. -/
structure Orderly (o : Office σ) : Prop where
  test : ∀ raw s f, (o.surroundings.testConnection raw s).1 = .error f → f.isOrdinary
  close : ∀ raw s f, (o.surroundings.closeConnection raw s).1 = .error f → f.isOrdinary

theorem Orderly.regular (hord : o.Orderly) (q : Pending) (s : σ) :
    q.Regular (o.surroundings.reply q s).1 := by
  cases q with
  | testing slot use => exact hord.test slot.raw s
  | closing slot reason next => exact hord.close slot.raw s
  | _ => trivial

section

variable [IsPreorder Desk R]

theorem Surrounded.reply (hsur : o.Surrounded calls R) (q : Pending) (s : σ) :
    R (o.desk s) (o.desk (o.surroundings.reply q s).2) := by
  cases q with
  | opening use => exact hsur.openConnection s
  | testing slot use => exact hsur.testConnection slot.raw s
  | closing slot reason next => exact hsur.close slot.raw s
  | sleeping limit use => exact hsur.sleep limit s
  | pausing use => exact refl_of R _

theorem Outside.take_visits (hout : o.Outside calls R)
    (hR : ∀ {d d'}, R d d' → d'.pool.inUse = d.pool.inUse) {n : Int} {t : Desk.Stretch}
    {r : Except Failure (Option Nat)} (s : σ) (hvisits : t.Visits n) (hp : t.progress = .done r) :
    (∀ lease, r = .ok (some lease) → (o.desk (o.take t s).2).pool.inUse = n + 1) ∧
      ((∀ lease, r ≠ .ok (some lease)) → (o.desk (o.take t s).2).pool.inUse = n) := by
  have hkept := hR (hout.take t s)
  refine ⟨?_, ?_⟩
  · rintro lease rfl
    exact hkept.trans (hvisits.lends lease hp)
  · intro hnone
    refine hkept.trans (hvisits.ends ?_ ?_)
    · intro q hq
      rw [hp] at hq
      cases hq
    · intro lease hlease
      rw [hp] at hlease
      exact hnone lease (Progress.done.inj hlease)

/-- A checkout that comes to an end leaves one more connection in use, or as many as there were if
it fails. -/
theorem Surrounded.carryOn_visits (hsur : o.Surrounded calls R) (hord : o.Orderly)
    (hR : ∀ {d d'}, R d d' → d'.pool.inUse = d.pool.inUse) {caller fuel : Nat} {n : Int}
    {t : Desk.Stretch} {r : Except Failure (Option Nat)} {s' : σ} (hvisits : t.Visits n)
    (hcarried : o.carryOn caller fuel t s = (r, s')) (hends : r ≠ .error unfinished) :
    (∀ lease, r = .ok (some lease) → (o.desk s').pool.inUse = n + 1) ∧
      ((∀ lease, r ≠ .ok (some lease)) → (o.desk s').pool.inUse = n) := by
  have hgoesOn : ∀ {t s q r s₁ now s₂}, t.Visits n → t.progress = .needs q →
      o.surroundings.reply q (o.take t s).2 = (r, s₁) → o.surroundings.now s₁ = (now, s₂) →
        ((o.desk s₂).proceed caller now q r).Visits n := by
    intro t s q r s₁ now s₂ hvisits hp hreply hnow
    have hregular := hord.regular q (o.take t s).2
    have hreplied := hsur.reply q (o.take t s).2
    have hleft := hsur.now s₁
    rw [hreply] at hregular hreplied
    rw [hnow] at hleft
    obtain ⟨hq, hinUse⟩ := hvisits.needs q hp
    -- Others have been at the desk since the last stretch: at its notices, during the reply
    -- and while the clock was asked.
    have hkept : (o.desk s₂).pool.inUse = t.state.pool.inUse :=
      hR (trans_of R (hsur.take t s) (trans_of R hreplied hleft))
    exact Desk.proceed_visits caller now hq hregular (hkept.trans hinUse)
  obtain ⟨last, s₀, hlast, hp, rfl⟩ := carryOn_ends hgoesOn hvisits hcarried hends
  exact hsur.take_visits hR s₀ hlast hp

theorem Surrounded.checkout_visits (hsur : o.Surrounded calls R) (hord : o.Orderly)
    (hR : ∀ {d d'}, R d d' → d'.pool.inUse = d.pool.inUse) {timeout : Option Seconds}
    {r : Except Failure (Option Nat)} {s' : σ} (hcall : o.call (.checkout timeout) s = (r, s'))
    (hends : r ≠ .error unfinished) :
    (∀ lease, r = .ok (some lease) → (o.desk s').pool.inUse = (o.desk s).pool.inUse + 1) ∧
      ((∀ lease, r ≠ .ok (some lease)) → (o.desk s').pool.inUse = (o.desk s).pool.inUse) := by
  have hleft := hR (hsur.now s)
  rcases hnow : o.surroundings.now s with ⟨now, s₁⟩
  rw [hnow] at hleft
  rw [call_eq _ hnow] at hcall
  exact hsur.carryOn_visits hord hR (Desk.checkout_visits timeout hleft) hcall hends

end

/-- A transaction begins with a lease that counts for one connection in use; where it does not
begin, nothing is left in use. -/
theorem Surrounded.begin_counted {lease : Nat} (hsur : o.Surrounded calls (Desk.Balances lease))
    (hord : o.Orderly) (hturns : 1 ≤ o.turns)
    (hbegin : ∀ conn s f, ((calls.begin conn).run s).1 = .error f → f.isDriver)
    (driver : Driver) (patience timeout : Option Seconds) (journal : List (Entry α))
    (hends : (o.call (.checkout timeout) s).1 ≠ .error unfinished)
    (hlease : ∀ l, (o.call (.checkout timeout) s).1 = .ok (some l) → l = lease) :
    ((Host.noted (o.host driver calls patience)).begin timeout).Ensures (s, journal) fun r st =>
      match r with
      | .ok tx => ∃ conn, tx = ⟨lease, conn, .active⟩ ∧
          Desk.Counted lease (o.desk s).pool.inUse true false (o.desk st.1) ∧
          st.2 = journal ++ [.begin conn none]
      | .error f => (o.desk st.1).pool.inUse = (o.desk s).pool.inUse ∧
          (st.2 = journal ∨ ∃ conn, st.2 = journal ++ [.begin conn (some f), .release lease]) := by
  have hd : Desk.Custody (Desk.Balances lease) lease
      (Desk.Counted lease (o.desk s).pool.inUse) := Desk.counted_custody
  have hc := hsur.custody hd driver patience
  have hreturns : (o.host driver calls patience).Returns lease fun healthy ended s' =>
      Desk.Counted lease (o.desk s).pool.inUse healthy ended (o.desk s') :=
    hsur.returns hd driver patience hturns hord.close
  rcases hcall : o.call (.checkout timeout) s with ⟨r, s₁⟩
  rw [hcall] at hends hlease
  obtain ⟨hlent, hfailed⟩ := hsur.checkout_visits hord (fun h => h.1) hcall hends
  unfold Host.begin
  simp only [Task.ensures_bind, Host.noted_checkout, host_checkout driver patience timeout hcall]
  rcases r with f | _ | l
  · exact ⟨hfailed nofun, .inl trivial⟩
  · exact ⟨hfailed nofun, .inl trivial⟩
  obtain rfl := hlease l rfl
  obtain ⟨d, slot, hslot, hbalances⟩ := hsur.call_lends hcall
  have hentry := hbalances.2 _ hslot
  have hconn : connectionAt (o.desk s₁) l = .ok slot.raw := by
    rw [connectionAt, hentry]
    rfl
  have hcounted : Desk.Counted l (o.desk s).pool.inUse true false (o.desk s₁) :=
    ⟨⟨slot, hentry⟩, hlent l rfl⟩
  have hkept := hd.outside (hsur.begin slot.raw s₁) hcounted
  have hdriver := hbegin slot.raw s₁
  simp only [Host.noted_connection, host_connection, hconn, Task.ensures_outcome,
    Host.noted_begin]
  change (calls.begin slot.raw).Ensures s₁ _
  rcases hr : (calls.begin slot.raw).run s₁ with ⟨f | _, s₂⟩ <;>
    rw [hr] at hkept hdriver <;> rw [Task.ensures_run hr]
  · simp only [hdriver f rfl, if_true, Task.ensures_bind, Task.ensures_state, Host.noted_mark,
      Host.noted_giveBack]
    refine (hc.release (hc.mark hkept)).imp ?_
    rintro r s₃ ⟨hover, hends⟩
    cases hends hreturns
    have hback := hover.2
    simp only [if_true, Int.add_zero] at hback
    simp only [Task.ensures_throw]
    exact ⟨hback, .inr ⟨slot.raw, by simp [failure?]⟩⟩
  · exact ⟨slot.raw, rfl, hkept, rfl⟩

/-- Steps that are run in a transaction of their own, at an office that others visit too, are
committed as a whole or not at all, and the pool has as many connections in use afterwards as
before.  The lease that the checkout gives, if it gives one, is what others have to leave alone. -/
theorem Surrounded.executeInTransaction_allOrNothing {lease : Nat}
    (hsur : o.Surrounded calls (Desk.Balances lease)) (hord : o.Orderly) (hturns : 1 ≤ o.turns)
    (hbegin : ∀ conn s f, ((calls.begin conn).run s).1 = .error f → f.isDriver)
    (hcommit : ∀ conn s f, ((calls.commit conn).run s).1 = .error f → f.isDriver)
    (hrollback : ∀ conn s f, ((calls.rollback conn).run s).1 = .error f → f.isDriver)
    (driver : Driver) (patience : Option Seconds) (journal : List (Entry α))
    (hends : (o.call (.checkout none) s).1 ≠ .error unfinished)
    (hlease : ∀ l, (o.call (.checkout none) s).1 = .ok (some l) → l = lease)
    (ops : List (Operation σ α))
    (hstays : ∀ op ∈ ops, op.Stays fun s s' => Desk.Balances lease (o.desk s) (o.desk s'))
    (hraises : ∀ op ∈ ops, op.Raises (o.host driver calls patience)) :
    ((Host.noted (o.host driver calls patience)).executeInTransaction
      (Operation.steps (o.host driver calls patience) 0 ops)).Ensures (s, journal) fun r st =>
        (o.desk st.1).pool.inUse = (o.desk s).pool.inUse ∧
        ∃ news, st.2 = journal ++ news ∧
          (o.host driver calls patience).AllOrNothing ops.length r news := by
  have hd : Desk.Custody (Desk.Balances lease) lease
      (Desk.Counted lease (o.desk s).pool.inUse) := Desk.counted_custody
  have hc := hsur.custody hd driver patience
  have hreturns : (o.host driver calls patience).Returns lease fun healthy ended s' =>
      Desk.Counted lease (o.desk s).pool.inUse healthy ended (o.desk s') :=
    hsur.returns hd driver patience hturns hord.close
  unfold Host.executeInTransaction Host.wholeInTransaction
  rw [bind_assoc, Task.ensures_bind]
  refine (hsur.begin_counted hord hturns hbegin driver patience none journal hends hlease).imp ?_
  rintro r ⟨s₁, journal₁⟩ hbegun
  cases r with
  | error f =>
    obtain ⟨hinUse, rfl | ⟨conn, rfl⟩⟩ := hbegun
    · exact ⟨hinUse, [], (List.append_nil _).symm, Host.allOrNothing_unbegun (.inl rfl)⟩
    · exact ⟨hinUse, _, rfl, Host.allOrNothing_unbegun (.inr ⟨conn, lease, rfl⟩)⟩
  | ok tx =>
    obtain ⟨conn, rfl, hcounted, rfl⟩ := hbegun
    have hall := hc.allOrNothing hreturns hcommit hrollback (fun hR h => hd.outside hR h) ops
      hstays hraises conn (journal ++ [.begin conn none]) hcounted
    unfold TransactionTask.Ensures at hall
    rcases hrun : ((Host.noted (o.host driver calls patience)).allOrNothing
      (Operation.steps (o.host driver calls patience) 0 ops)).runIn ⟨lease, conn, .active⟩
      (s₁, journal ++ [.begin conn none]) with ⟨⟨r, tx⟩, st⟩
    rw [hrun] at hall
    obtain ⟨-, ⟨healthy, hover⟩, news, hnews, hkept⟩ := hall
    simp only [Task.ensures_bind, Task.ensures_state, Task.ensures_ofExcept, hrun]
    refine ⟨?_, .begin conn none :: news, ?_, hkept⟩
    · have hback := hover.2
      simp only [if_true, Int.add_zero] at hback
      exact hback
    · exact hnews.trans (List.append_assoc ..)

open Transaction (quietOffice plainDriver refusingCalls refusedStatement refusing_outside)

/-- What a program raises when its statement was refused. -/
def givesUp : Failure := .primitive .value "gives up"

/-- Programs of which the second runs a statement and raises something of its own. -/
def refusedPrograms : List (Operation Desk Nat) :=
  [.give 5, .run refusedStatement {} fun _ => .raise givesUp, .give 6]

/-- A host at an office that nobody else visits, with a driver that refuses every statement. -/
def quietHost : Host Desk := quietOffice.host plainDriver refusingCalls none

def quietDesk : Desk := (Floor.new Floor.single "default").desk

theorem refusing_surrounded (R : Desk → Desk → Prop) [IsPreorder Desk R] :
    quietOffice.Surrounded refusingCalls R where
  toOutside := refusing_outside R
  openConnection _ := refl_of R _
  testConnection _ _ := refl_of R _
  sleep _ _ := refl_of R _

theorem quiet_orderly : quietOffice.Orderly where
  test _ _ _ h := nomatch h
  close _ _ _ h := nomatch h

/-- What comes of the programs, and what is left. -/
def refusedResult : Except Failure (List Nat) × Desk × List (Entry Nat) :=
  ((Host.noted quietHost).executeInTransaction
    (Operation.steps quietHost 0 refusedPrograms)).run (quietDesk, [])

/-- Of three programs the second raises: the third is not called, and the first is undone. -/
theorem allOrNothing_refused :
    refusedResult.1 = .error (quietHost.aborted (some 1)
      "Transaction aborted at step 1: gives up" (some givesUp) none) ∧
    .begin 7 none ∈ refusedResult.2.2 ∧
    refusedResult.2.1.pool.inUse = quietDesk.pool.inUse ∧
      ∃ news, refusedResult.2.2 = [] ++ news ∧
        quietHost.AllOrNothing 3 refusedResult.1 news := by
  have hlent : (quietOffice.call (.checkout none) quietDesk).1 = .ok (some 0) := rfl
  have hends : (quietOffice.call (.checkout none) quietDesk).1 ≠ .error unfinished := by
    rw [hlent]
    nofun
  have hlease : ∀ l, (quietOffice.call (.checkout none) quietDesk).1 = .ok (some l) → l = 0 := by
    rw [hlent]
    rintro l ⟨⟩
    rfl
  have hstays : ∀ op ∈ refusedPrograms, op.Stays fun s s' =>
      Desk.Balances 0 (quietOffice.desk s) (quietOffice.desk s') := by
    simp [refusedPrograms, Operation.Stays]
  have hraises : ∀ op ∈ refusedPrograms, op.Raises quietHost := by
    intro op hop tx st f hf
    simp only [refusedPrograms, List.mem_cons, List.not_mem_nil, or_false] at hop
    obtain rfl | rfl | rfl := hop
    · cases hf
    · cases hf
      rfl
    · cases hf
  have hall := (refusing_surrounded (Desk.Balances 0)).executeInTransaction_allOrNothing
    (s := quietDesk) quiet_orderly (by decide)
    (fun _ _ _ h => nomatch h) (fun _ _ _ h => nomatch h) (fun _ _ _ h => nomatch h) plainDriver
    none [] hends hlease refusedPrograms hstays hraises
  have hfailed : refusedResult.1 = .error (quietHost.aborted (some 1)
      "Transaction aborted at step 1: gives up" (some givesUp) none) := rfl
  have hbegun : refusedResult.2.2.head? = some (.begin 7 none) := rfl
  exact ⟨hfailed, List.mem_of_mem_head? hbegun, hall⟩

end Office

end SqlGateway
