import SqlGateway.Telemetry
set_option autoImplicit false

/-!
# Telemetry: who receives an event

Any hubs that were derived from one share its board.  What a sequence of calls to them leaves on
the board can be read off the calls alone: the subscriptions that no later call withdraws, in
their order (`standing`).  An event goes to those of them whose pattern covers its name, once to
each and in that order, however many of their handlers fail.  All of them are handed one event
(`handed`): where a handler changes its attributes, the later ones find them changed, and where
none does, each finds those that were given.
-/

namespace SqlGateway

/-! ## Patterns -/

namespace TelemetryEvent

/-- A pattern covers every name as `*`, one name, or the names that begin with what stands before
its last `*`, which follows a dot. -/
def Covers (pattern name : String) : Prop :=
  pattern = "*" ∨ pattern = name ∨
    ∃ family rest, pattern = family ++ ".*" ∧ name = family ++ "." ++ rest

theorem suffix_iff (pattern : String) :
    ".*".toList.isSuffixOf pattern.toList = true ↔ ∃ family, pattern = family ++ ".*" := by
  rw [List.isSuffixOf_iff_suffix]
  constructor
  · intro h
    obtain ⟨family, hfamily⟩ := h
    refine ⟨String.ofList family, ?_⟩
    rw [← String.toList_inj, String.toList_append, String.toList_ofList, hfamily]
  · intro h
    obtain ⟨family, hfamily⟩ := h
    rw [hfamily, String.toList_append]
    exact List.suffix_append _ _

/-- What a pattern of a family covers. -/
theorem prefix_iff (family name : String) :
    (family ++ ".*").toList.dropLast.isPrefixOf name.toList = true ↔
      ∃ rest, name = family ++ "." ++ rest := by
  have hdrop : (family ++ ".*").toList.dropLast = (family ++ ".").toList := by
    simp [String.toList_append, List.dropLast_append_of_ne_nil]
  rw [hdrop, List.isPrefixOf_iff_prefix]
  constructor
  · intro h
    obtain ⟨rest, hrest⟩ := h
    refine ⟨String.ofList rest, ?_⟩
    rw [← String.toList_inj, String.toList_append, String.toList_ofList, hrest]
  · intro h
    obtain ⟨rest, hrest⟩ := h
    rw [hrest, String.toList_append (s := family ++ ".")]
    exact List.prefix_append _ _

theorem nameMatches_iff (name pattern : String) :
    nameMatches name pattern = true ↔ Covers pattern name := by
  unfold nameMatches Covers
  by_cases hall : pattern = "*"
  · simp [hall]
  · rw [if_neg (by simpa using hall)]
    by_cases hfamily : ".*".toList.isSuffixOf pattern.toList = true
    · rw [if_pos hfamily]
      obtain ⟨family, rfl⟩ := (suffix_iff pattern).1 hfamily
      rw [prefix_iff]
      constructor
      · intro h
        obtain ⟨rest, hrest⟩ := h
        exact .inr (.inr ⟨family, rest, rfl, hrest⟩)
      · intro h
        rcases h with h | h | ⟨family', rest, hsame, hrest⟩
        · exact absurd h hall
        · exact ⟨"*", by rw [← h, String.append_assoc]; rfl⟩
        · have hfamilies : family = family' := by
            rw [← String.toList_inj]
            simpa [String.toList_append] using congrArg String.toList hsame
          exact ⟨rest, hfamilies ▸ hrest⟩
    · rw [if_neg hfamily, beq_iff_eq]
      constructor
      · intro h
        exact .inr (.inl h.symm)
      · intro h
        rcases h with h | h | ⟨family, rest, hsame, -⟩
        · exact absurd h hall
        · exact h.symm
        · exact absurd ((suffix_iff pattern).2 ⟨family, hsame⟩) hfamily

instance (pattern name : String) : Decidable (Covers pattern name) :=
  decidable_of_iff _ (nameMatches_iff name pattern)

end TelemetryEvent

/-! ## Handlers -/

section

variable {σ : Type}

/-- A handler that only ever fails with failures that may be handled. -/
def Subscriber.FailsOrdinarily (subscriber : Subscriber σ) : Prop :=
  ∀ e s f, (subscriber.handle e s).failure = some f → f.isOrdinary = true

/-- A handler that leaves the attributes of an event alone. -/
def Subscriber.LeavesAttributes (subscriber : Subscriber σ) : Prop :=
  ∀ e s, (subscriber.handle e s).attributes = e.attributes

theorem TelemetryHandler.leavesAttributes (handle : TelemetryHandler σ) :
    Subscriber.LeavesAttributes (TelemetryHandler.subscriber handle) :=
  fun _ _ => rfl

namespace Subscription

/-- The same subscription, which notes each call of its handler. -/
def noted (sub : Subscription σ) : Subscription (σ × List (Nat × TelemetryEvent)) where
  id := sub.id
  pattern := sub.pattern
  subscriber.handle e s := {
    state := ((sub.handle e s.1).state, s.2 ++ [(sub.id, e)])
    attributes := (sub.handle e s.1).attributes
    failure := (sub.handle e s.1).failure }

/-- What the subscribers know when each has handled an event, in order. -/
def handled : List (Subscription σ) → TelemetryEvent → σ → σ
  | [], _, s => s
  | sub :: rest, e, s => handled rest (sub.passedOn e s) (sub.handle e s).state

/-- What each subscription is handed then, beside its number: the event as the handlers before it
left it. -/
def handed : List (Subscription σ) → TelemetryEvent → σ → List (Nat × TelemetryEvent)
  | [], _, _ => []
  | sub :: rest, e, s => (sub.id, e) :: handed rest (sub.passedOn e s) (sub.handle e s).state

/-- Each subscription is handed something once, in order. -/
theorem handed_ids (subs : List (Subscription σ)) (e : TelemetryEvent) (s : σ) :
    (handed subs e s).map Prod.fst = subs.map Subscription.id := by
  induction subs generalizing e s with
  | nil => rfl
  | cons sub subs ih => exact congrArg (sub.id :: ·) (ih _ _)

/-- Nobody changes the name or the engine of an event. -/
theorem handed_stamp (subs : List (Subscription σ)) (e : TelemetryEvent) (s : σ) :
    ∀ call ∈ handed subs e s, call.2.name = e.name ∧ call.2.engine = e.engine := by
  induction subs generalizing e s with
  | nil => exact fun _ hcall => absurd hcall List.not_mem_nil
  | cons sub subs ih =>
    intro call hcall
    rcases List.mem_cons.1 hcall with rfl | hcall
    · exact ⟨rfl, rfl⟩
    · exact ih (sub.passedOn e s) _ call hcall

/-- Where nobody changes the attributes, all are handed the event as it was given. -/
theorem handed_alike {subs : List (Subscription σ)} (e : TelemetryEvent) (s : σ)
    (h : ∀ sub ∈ subs, sub.subscriber.LeavesAttributes) :
    handed subs e s = subs.map fun sub => (sub.id, e) := by
  induction subs generalizing s with
  | nil => rfl
  | cons sub subs ih =>
    have hsame : sub.passedOn e s = e := by
      unfold passedOn Subscription.handle
      rw [h sub List.mem_cons_self e s]
    rw [handed, hsame, ih _ fun sub' hsub => h sub' (List.mem_cons_of_mem sub hsub), List.map_cons]

theorem handled_noted (subs : List (Subscription σ)) (e : TelemetryEvent) (s : σ)
    (calls : List (Nat × TelemetryEvent)) :
    handled (subs.map noted) e (s, calls) = (handled subs e s, calls ++ handed subs e s) := by
  induction subs generalizing e s calls with
  | nil => exact congrArg (s, ·) (List.append_nil calls).symm
  | cons sub subs ih =>
    refine (ih (sub.passedOn e s) (sub.handle e s).state (calls ++ [(sub.id, e)])).trans ?_
    rw [List.append_assoc]
    rfl

end Subscription

end

namespace TelemetryBoard

variable {σ : Type}

/-- The same board, which notes each call of a handler. -/
def noted (b : TelemetryBoard σ) : TelemetryBoard (σ × List (Nat × TelemetryEvent)) :=
  { subscriptions := b.subscriptions.map Subscription.noted, next := b.next }

/-- Handlers that fail ordinarily are all called in order, each on what the one before it left. -/
theorem deliver_ordinary (e : TelemetryEvent) {subs : List (Subscription σ)} (s : σ)
    (h : ∀ sub ∈ subs, sub.subscriber.FailsOrdinarily) :
    (deliver e subs s).state = Subscription.handled subs e s ∧
      (deliver e subs s).interruption = none := by
  induction subs generalizing e s with
  | nil => exact ⟨rfl, rfl⟩
  | cons sub subs ih =>
    have hlater := ih (sub.passedOn e s) (sub.handle e s).state
      fun sub' hsub => h sub' (List.mem_cons_of_mem sub hsub)
    unfold deliver
    cases hfailure : (sub.handle e s).failure with
    | none => exact hlater
    | some f =>
      have hf : f.isOrdinary = true := h sub List.mem_cons_self e s f hfailure
      simp only [hf, if_true]
      exact hlater

/-- The subscriptions that a name concerns, in order. -/
def due (b : TelemetryBoard σ) (name : String) : List (Subscription σ) :=
  b.subscriptions.filter fun sub => TelemetryEvent.Covers sub.pattern name

theorem due_noted (b : TelemetryBoard σ) (name : String) :
    b.noted.due name = (b.due name).map Subscription.noted :=
  List.filter_map

theorem dispatch_eq (b : TelemetryBoard σ) (hub : TelemetryHub) (name : String)
    (attributes : List (String × Native)) (s : σ) :
    b.dispatch hub name attributes s =
      deliver { name, engine := hub.engine, attributes } (b.due name) s := by
  refine congrArg (fun subs => deliver _ subs s) (List.filter_congr fun sub _ => ?_)
  rw [Bool.eq_iff_iff, decide_eq_true_iff]
  exact TelemetryEvent.nameMatches_iff name sub.pattern

theorem dispatch_ordinary (b : TelemetryBoard σ) (hub : TelemetryHub) (name : String)
    (attributes : List (String × Native)) (s : σ)
    (h : ∀ sub ∈ b.subscriptions, sub.subscriber.FailsOrdinarily) :
    let e : TelemetryEvent := { name, engine := hub.engine, attributes }
    (b.dispatch hub name attributes s).state = Subscription.handled (b.due name) e s ∧
      (b.dispatch hub name attributes s).interruption = none ∧
      (b.noted.dispatch hub name attributes (s, [])).state =
        ((b.dispatch hub name attributes s).state, Subscription.handed (b.due name) e s) := by
  intro e
  have hordinary : ∀ sub ∈ b.due name, sub.subscriber.FailsOrdinarily := by
    intro sub hsub
    exact h sub (List.mem_filter.1 hsub).1
  have hnoted : ∀ sub ∈ (b.due name).map Subscription.noted,
      sub.subscriber.FailsOrdinarily := by
    intro sub hsub
    obtain ⟨sub', hsub', rfl⟩ := List.mem_map.1 hsub
    intro e s f hf
    exact hordinary sub' hsub' e s.1 f hf
  obtain ⟨hstate, hinterruption⟩ := deliver_ordinary e s hordinary
  rw [dispatch_eq, dispatch_eq, due_noted, (deliver_ordinary e (s, []) hnoted).1,
    Subscription.handled_noted, hstate]
  exact ⟨rfl, hinterruption, rfl⟩

end TelemetryBoard

/-! ## Hubs on one board -/

/-- What can be asked of hubs that share a board; the hub is told by its number. -/
inductive HubCall (σ : Type) where
  | subscribe (hub : Nat) (pattern : String) (subscriber : Subscriber σ)
  | unsubscribe (hub : Nat) (id : Nat)
  | emit (hub : Nat) (name : String) (attributes : List (String × Native))
  | bindEngine (hub : Nat) (engine : String)

namespace HubCall

variable {σ : Type}

/-- The number of the hub that is called. -/
def hub : HubCall σ → Nat
  | .subscribe hub .. | .unsubscribe hub _ | .emit hub .. | .bindEngine hub _ => hub

def isSubscribe : HubCall σ → Bool
  | .subscribe .. => true
  | _ => false

/-- The call withdraws a subscription. -/
def withdraws (id : Nat) : HubCall σ → Bool
  | .unsubscribe _ other => other == id
  | _ => false

/-- The engine that a call derives a hub for. -/
def engine? : HubCall σ → Option String
  | .bindEngine _ engine => some engine
  | _ => none

/-- The handler that a call brings fails with nothing but failures that may be handled. -/
def FailsOrdinarily : HubCall σ → Prop
  | .subscribe _ _ subscriber => subscriber.FailsOrdinarily
  | _ => True

/-- The handler that a call brings leaves the attributes of an event alone. -/
def LeavesAttributes : HubCall σ → Prop
  | .subscribe _ _ subscriber => subscriber.LeavesAttributes
  | _ => True

/-- Each call goes to a hub that is there by then, where there are `n` before the first call. -/
def Addressed : Nat → List (HubCall σ) → Prop
  | _, [] => True
  | n, call :: later => call.hub < n ∧ Addressed (n + call.engine?.toList.length) later

instance decidableAddressed : (n : Nat) → (calls : List (HubCall σ)) → Decidable (Addressed n calls)
  | _, [] => .isTrue trivial
  | _, _ :: later => @instDecidableAnd _ _ _ (decidableAddressed _ later)

end HubCall

/-- Hubs on one board, in the order in which they were derived, and what the subscribers know. -/
structure Switchboard (σ : Type) where
  board : TelemetryBoard σ := {}
  hubs : List TelemetryHub
  state : σ

namespace Switchboard

variable {σ : Type}

/-- The number of subscriptions that a hub tells. -/
def countAt (w : Switchboard σ) (hub : Nat) : Option Nat := w.hubs[hub]?.map fun _ => w.board.count

/-- Carry out a call to a hub that is there. -/
def step (w : Switchboard σ) : HubCall σ → Option (Switchboard σ)
  | .subscribe hub pattern subscriber =>
    w.hubs[hub]?.map fun _ => { w with board := (w.board.subscribe pattern subscriber).1 }
  | .unsubscribe hub id => w.hubs[hub]?.map fun _ => { w with board := w.board.unsubscribe id }
  | .emit hub name attributes =>
    w.hubs[hub]?.map fun h => { w with state := (w.board.dispatch h name attributes w.state).state }
  | .bindEngine hub engine =>
    w.hubs[hub]?.map fun h => { w with hubs := w.hubs ++ [h.bindEngine engine] }

/-- Carry out calls in order. -/
def run : List (HubCall σ) → Switchboard σ → Option (Switchboard σ)
  | [], w => some w
  | call :: later, w => (w.step call).bind (run later)

/-- The subscriptions that calls make and do not withdraw again, numbered from `id` on. -/
def standing : Nat → List (HubCall σ) → List (Subscription σ)
  | _, [] => []
  | id, .subscribe _ pattern subscriber :: later =>
    if later.any (HubCall.withdraws id) then standing (id + 1) later
    else ⟨id, pattern, subscriber⟩ :: standing (id + 1) later
  | id, _ :: later => standing id later

theorem step_addressed {w : Switchboard σ} {call : HubCall σ} (h : call.hub < w.hubs.length) :
    ∃ w', w.step call = some w' ∧
      w'.hubs.length = w.hubs.length + call.engine?.toList.length := by
  cases call with
  | bindEngine hub engine =>
    obtain ⟨h', hhub⟩ : ∃ h', w.hubs[hub]? = some h' := ⟨_, List.getElem?_eq_getElem h⟩
    exact ⟨_, congrArg (Option.map _) hhub, List.length_append⟩
  | subscribe hub _ _ | unsubscribe hub _ | emit hub _ _ =>
    obtain ⟨h', hhub⟩ : ∃ h', w.hubs[hub]? = some h' := ⟨_, List.getElem?_eq_getElem h⟩
    exact ⟨_, congrArg (Option.map _) hhub, rfl⟩

/-- Calls to hubs that are there can be carried out. -/
theorem run_addressed {calls : List (HubCall σ)} {w : Switchboard σ}
    (h : HubCall.Addressed w.hubs.length calls) : ∃ w', run calls w = some w' := by
  induction calls generalizing w with
  | nil => exact ⟨w, rfl⟩
  | cons call later ih =>
    obtain ⟨hcall, hlater⟩ := h
    obtain ⟨next, hstep, hlength⟩ := step_addressed hcall
    obtain ⟨w', hrun⟩ := ih (w := next) (by rw [hlength]; exact hlater)
    exact ⟨w', Option.bind_eq_some_iff.2 ⟨next, hstep, hrun⟩⟩

/-- What calls make of a board is what they do not withdraw of what is on it, and then what they
make and do not withdraw. -/
theorem run_board {calls : List (HubCall σ)} {w w' : Switchboard σ} (h : run calls w = some w') :
    w'.board.subscriptions =
      (w.board.subscriptions.filter fun sub => !calls.any (HubCall.withdraws sub.id)) ++
        standing w.board.next calls ∧
      w'.board.next = w.board.next + calls.countP HubCall.isSubscribe ∧
      w'.hubs = w.hubs ++ (calls.filterMap HubCall.engine?).map fun e => { engine := some e } := by
  induction calls generalizing w with
  | nil =>
    cases h
    refine ⟨?_, rfl, ?_⟩
    · rw [standing, List.append_nil]
      exact (List.filter_eq_self.2 fun _ _ => rfl).symm
    · exact (List.append_nil _).symm
  | cons call later ih =>
    obtain ⟨next, hstep, hrun⟩ := Option.bind_eq_some_iff.1 h
    obtain ⟨hboard, hnext, hhubs⟩ := ih hrun
    rw [hboard, hnext, hhubs]
    cases call with
    | subscribe hub pattern subscriber =>
      obtain ⟨h', -, rfl⟩ := Option.map_eq_some_iff.1 hstep
      refine ⟨?_, ?_, rfl⟩
      · simp only [TelemetryBoard.subscribe, List.filter_append, List.any_cons, standing,
          HubCall.withdraws, Bool.false_or, List.append_assoc]
        by_cases hgone : later.any (HubCall.withdraws w.board.next) = true
        · simp [hgone]
        · simp [hgone]
      · rw [List.countP_cons_of_pos rfl]
        exact Nat.add_right_comm _ _ _
    | unsubscribe hub id =>
      obtain ⟨h', -, rfl⟩ := Option.map_eq_some_iff.1 hstep
      refine ⟨?_, rfl, rfl⟩
      dsimp only [TelemetryBoard.unsubscribe, standing]
      rw [List.filter_filter]
      congr 2
      funext sub
      have hsame : (!HubCall.withdraws sub.id (.unsubscribe hub id : HubCall σ)) = (sub.id != id) :=
        congrArg not BEq.comm
      rw [List.any_cons, Bool.not_or, hsame, Bool.and_comm]
    | emit hub name attributes =>
      obtain ⟨h', -, rfl⟩ := Option.map_eq_some_iff.1 hstep
      exact ⟨rfl, rfl, rfl⟩
    | bindEngine hub engine =>
      obtain ⟨h', -, rfl⟩ := Option.map_eq_some_iff.1 hstep
      refine ⟨rfl, rfl, ?_⟩
      simp [HubCall.engine?, TelemetryHub.bindEngine]

/-- A standing subscription is one that a call made, under a number of its own. -/
theorem mem_standing {id : Nat} {calls : List (HubCall σ)} {sub : Subscription σ}
    (h : sub ∈ standing id calls) :
    id ≤ sub.id ∧ ∃ hub, .subscribe hub sub.pattern sub.subscriber ∈ calls := by
  fun_induction standing id calls with
  | case1 => cases h
  | case2 id hub pattern subscriber later _ ih =>
    obtain ⟨hid, hub', hmem⟩ := ih h
    exact ⟨Nat.le_of_succ_le hid, hub', List.mem_cons_of_mem _ hmem⟩
  | case3 id hub pattern subscriber later _ ih =>
    rcases List.mem_cons.1 h with rfl | h
    · exact ⟨Nat.le_refl _, hub, List.mem_cons_self⟩
    · obtain ⟨hid, hub', hmem⟩ := ih h
      exact ⟨Nat.le_of_succ_le hid, hub', List.mem_cons_of_mem _ hmem⟩
  | case4 id call later _ ih =>
    obtain ⟨hid, hub', hmem⟩ := ih h
    exact ⟨hid, hub', List.mem_cons_of_mem _ hmem⟩

theorem standing_ids (id : Nat) (calls : List (HubCall σ)) :
    ((standing id calls).map Subscription.id).Pairwise (· < ·) := by
  fun_induction standing id calls with
  | case1 => exact List.Pairwise.nil
  | case2 => assumption
  | case3 id hub pattern subscriber later _ ih =>
    rw [List.map_cons, List.pairwise_cons]
    refine ⟨?_, ih⟩
    intro other hother
    obtain ⟨sub, hsub, rfl⟩ := List.mem_map.1 hother
    exact (mem_standing hsub).1
  | case4 => assumption

/-- A hub with nobody subscribed. -/
def new (hub : TelemetryHub) (s : σ) : Switchboard σ := { hubs := [hub], state := s }

/-- A handler that remembers that it was called. -/
def remembering (name : String) : TelemetryHandler (List String) := fun _ seen =>
  (seen ++ [name], none)

/-- A handler that remembers that it was called, and fails. -/
def stumbling (name : String) : TelemetryHandler (List String) := fun _ seen =>
  (seen ++ [name], some (.primitive .runtime name))

theorem remembering_ordinary (name : String) :
    Subscriber.FailsOrdinarily (TelemetryHandler.subscriber (remembering name)) := by
  intro e seen f hf
  cases hf

theorem stumbling_ordinary (name : String) :
    Subscriber.FailsOrdinarily (TelemetryHandler.subscriber (stumbling name)) := by
  intro e seen f hf
  cases hf
  rfl

/-- Calls to a hub and to one that is derived from it, among which one subscription is withdrawn. -/
def mixedCalls : List (HubCall (List String)) :=
  [.subscribe 0 "pool.*" (remembering "pool"), .bindEngine 0 "mysql",
    .subscribe 1 "*" (stumbling "all"), .subscribe 0 "statement.error" (remembering "errors"),
    .unsubscribe 1 0, .subscribe 1 "pool.checkout" (remembering "checkouts")]

/-- A handler that takes an attribute away. -/
def removing (key : String) : Subscriber (List String) where
  handle e seen := { state := seen, attributes := e.attributes.filter fun a => a.1 != key }

/-- What one handler takes away, the later ones do not find. -/
example : (Subscription.handed
    [⟨0, "*", removing "lease"⟩, ⟨1, "*", TelemetryHandler.subscriber (remembering "later")⟩]
    ⟨"pool.checkout", none, [("lease", .int 1)]⟩ []).map (fun call => call.2.attributes.length) =
      [1, 0] := by
  decide

end Switchboard

end SqlGateway
