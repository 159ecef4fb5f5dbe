import SqlGateway.Failure
set_option autoImplicit false

/-!
# Telemetry

Components emit small events; subscribers receive those whose names match their
pattern.  Hubs that are bound to an engine share one board of subscriptions and
differ only in the engine they stamp on events.  A subscriber that fails is noted
and skipped; the others and the emitter do not see it, unless the program was
interrupted.  All subscribers are handed one event: its name and its engine are
fixed, but what one of them does to its attributes the later ones find done.
-/

namespace SqlGateway

/-- A single observation. -/
structure TelemetryEvent where
  name : String
  engine : Option String
  attributes : List (String × Native)
  deriving Repr

namespace TelemetryEvent

/-- `*` matches every name, a pattern that ends in `.*` every name that begins with what is
before the star, and any other pattern itself. -/
def nameMatches (name pattern : String) : Bool :=
  if pattern == "*" then true
  else if ".*".toList.isSuffixOf pattern.toList then
    (pattern.toList.dropLast).isPrefixOf name.toList
  else name == pattern

def isMatchedBy (e : TelemetryEvent) (pattern : String) : Bool := nameMatches e.name pattern

end TelemetryEvent

/-- What a handler leaves: what its subscriber knows, the attributes of the event as the later
handlers find them, and the failure that it ended in, if it did. -/
structure Handled (σ : Type) where
  state : σ
  attributes : List (String × Native)
  failure : Option Failure := none

/-- A handler of events.  It acts on what its subscriber knows, may change the attributes of the
event and may fail; it is assumed not to call a hub. -/
structure Subscriber (σ : Type) where
  handle : TelemetryEvent → σ → Handled σ

/-- A handler that leaves the attributes alone. -/
abbrev TelemetryHandler (σ : Type) := TelemetryEvent → σ → σ × Option Failure

def TelemetryHandler.subscriber {σ : Type} (handle : TelemetryHandler σ) : Subscriber σ where
  handle e s := { state := (handle e s).1, attributes := e.attributes, failure := (handle e s).2 }

instance {σ : Type} : Coe (TelemetryHandler σ) (Subscriber σ) := ⟨TelemetryHandler.subscriber⟩

/-- A subscription on a board. -/
structure Subscription (σ : Type) where
  id : Nat
  pattern : String
  subscriber : Subscriber σ

/-- What the handler of a subscription leaves of an event. -/
def Subscription.handle {σ : Type} (sub : Subscription σ) (e : TelemetryEvent) (s : σ) :
    Handled σ :=
  sub.subscriber.handle e s

/-- The event as the handlers after a subscription's find it. -/
def Subscription.passedOn {σ : Type} (sub : Subscription σ) (e : TelemetryEvent) (s : σ) :
    TelemetryEvent :=
  { e with attributes := (sub.handle e s).attributes }

/-- The subscriptions that hubs share, in order, and the next free number. -/
structure TelemetryBoard (σ : Type) where
  subscriptions : List (Subscription σ) := []
  next : Nat := 0

/-- A handler that failed. -/
structure DeliveryFault where
  id : Nat
  event : String
  failure : Failure

/-- What became of an event: what the subscribers know now, the handlers that failed and were
skipped, and the interruption of the program that ended the delivery, if one did. -/
structure Delivery (σ : Type) where
  state : σ
  faults : List DeliveryFault := []
  interruption : Option Failure := none

/-- A hub on a board: the engine that it stamps on events. -/
structure TelemetryHub where
  engine : Option String := none
  deriving Repr

/-- A hub on the same board for an engine. -/
def TelemetryHub.bindEngine (_ : TelemetryHub) (engine : String) : TelemetryHub :=
  { engine := some engine }

namespace TelemetryBoard

variable {σ : Type}

/-- Add a subscription at the end. -/
def subscribe (b : TelemetryBoard σ) (pattern : String) (subscriber : Subscriber σ) :
    TelemetryBoard σ × Nat :=
  ({ subscriptions := b.subscriptions ++ [⟨b.next, pattern, subscriber⟩], next := b.next + 1 },
    b.next)

/-- Remove a subscription, if it is there. -/
def unsubscribe (b : TelemetryBoard σ) (id : Nat) : TelemetryBoard σ :=
  { b with subscriptions := b.subscriptions.filter fun s => s.id != id }

def count (b : TelemetryBoard σ) : Nat := b.subscriptions.length

/-- Hand an event to subscribers in order, whatever becomes of each; only an interruption of the
program ends it. -/
def deliver : TelemetryEvent → List (Subscription σ) → σ → Delivery σ
  | _, [], s => { state := s }
  | e, sub :: rest, s =>
    match (sub.handle e s).failure with
    | none => deliver (sub.passedOn e s) rest (sub.handle e s).state
    | some f =>
      if f.isOrdinary then
        let later := deliver (sub.passedOn e s) rest (sub.handle e s).state
        { later with faults := ⟨sub.id, e.name, f⟩ :: later.faults }
      else { state := (sub.handle e s).state, interruption := some f }

/-- Bring an event from a hub to every subscription that it matches. -/
def dispatch (b : TelemetryBoard σ) (hub : TelemetryHub) (name : String)
    (attributes : List (String × Native)) (s : σ) : Delivery σ :=
  let e : TelemetryEvent := { name, engine := hub.engine, attributes }
  deliver e (b.subscriptions.filter fun sub => e.isMatchedBy sub.pattern) s

/-- Emit an event from a hub: what the subscribers know then, and which handlers failed. -/
def emit (b : TelemetryBoard σ) (hub : TelemetryHub) (name : String)
    (attributes : List (String × Native)) (s : σ) : σ × List DeliveryFault :=
  let d := b.dispatch hub name attributes s
  (d.state, d.faults)

end TelemetryBoard

end SqlGateway
