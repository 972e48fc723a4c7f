import RemoteRun.Router.Basic

/-!
# Scripted handlers

Handlers that follow a script, for rehearsing a router.

**Algorithm.** Each handler writes its label and the kind of the message to a log and
then does what its script says: end well, fail, panic, end a subscription, or
register another handler.  Subscriptions are numbered in the order in which they are
made, those that handlers make included.
-/

namespace RemoteRun
namespace Simulation

/-- What a scripted handler does after it has written to the log. -/
inductive Behavior where
  | succeed
  | fail
  | panicStatic
  | panicText
  | panicOther
  | act (unsubscribe : Option Nat) (subscribe : Option (String × String × Behavior))

/-- A handler with a script. -/
structure ScriptedHandler where
  label : String
  behavior : Behavior

namespace ScriptedHandler

/-- How a call of a handler ends. -/
def outcome (h : ScriptedHandler) : HandlerOutcome :=
  match h.behavior with
  | .succeed | .act _ _ => .done
  | .fail => .failed ⟨h.label ++ " failed"⟩
  | .panicStatic => .panicked (some "static panic")
  | .panicText => .panicked (some (h.label ++ " panicked"))
  | .panicOther => .panicked none

/-- The entry of a call in the log. -/
def entry (h : ScriptedHandler) (m : Message) : String :=
  h.label ++ ":" ++ m.kind

/-- The number of the subscription that a handler ends. -/
def unsubscribes? (h : ScriptedHandler) : Option Nat :=
  match h.behavior with
  | .act unsubscribe _ => unsubscribe
  | _ => none

/-- What a handler registers: kind, label and behaviour of another one. -/
def subscribes? (h : ScriptedHandler) : Option (String × ScriptedHandler) :=
  match h.behavior with
  | .act _ (some (kind, label, behavior)) => some (kind, ⟨label, behavior⟩)
  | _ => none

end ScriptedHandler

/-- The subscriptions made so far and the log. -/
structure HandlerLog where
  tokens : List Subscription := []
  log : List String := []

namespace HandlerLog

/-- Add an entry to the log. -/
def write (w : HandlerLog) (entry : String) : HandlerLog :=
  { w with log := w.log ++ [entry] }

/-- Keep a new subscription. -/
def keep (w : HandlerLog) (token : Subscription) : HandlerLog :=
  { w with tokens := w.tokens ++ [token] }

/-- The log, and the state with an empty one. -/
def drain (w : HandlerLog) : HandlerLog × List String :=
  ({ w with log := [] }, w.log)

end HandlerLog

/-- End the subscription with a number: whether this removed a handler, and nothing
for a number that no subscription has. -/
def unsubscribeAt {η : Type} (router : Router η) (w : HandlerLog) (index : Nat) :
    Router η × HandlerLog × Option Bool :=
  match w.tokens[index]? with
  | none => (router, w, none)
  | some token =>
      let (router, token, removed) := router.unsubscribe token
      (router, { w with tokens := w.tokens.set index token }, some removed)

/-- A router with scripted handlers. -/
abbrev Rehearsal := Bus ScriptedHandler HandlerLog

namespace Rehearsal

/-- Nothing registered. -/
def start : Rehearsal := { router := {}, world := {} }

/-- Register a handler for one kind. -/
def on (b : Rehearsal) (kind label : String) (behavior : Behavior) : Rehearsal × Nat :=
  let (router, token) := b.router.on kind ⟨label, behavior⟩
  ({ b with router := router, world := b.world.keep token }, token.id)

/-- Register a handler for a pattern. -/
def onPattern? (b : Rehearsal) (pattern label : String) (behavior : Behavior) :
    Option (Rehearsal × Nat) :=
  (b.router.onPattern? pattern ⟨label, behavior⟩).map fun (router, token) =>
    ({ b with router := router, world := b.world.keep token }, token.id)

/-- End the subscription with a number. -/
def unsubscribe (b : Rehearsal) (index : Nat) : Rehearsal × Option Bool :=
  let (router, world, removed) := unsubscribeAt b.router b.world index
  ({ b with router := router, world := world }, removed)

/-- End the subscription that a handler ends. -/
def endFor (b : Rehearsal) (h : ScriptedHandler) : Rehearsal :=
  match h.unsubscribes? with
  | some index => (b.unsubscribe index).1
  | none => b

/-- Register what a handler registers. -/
def registerFor (b : Rehearsal) (h : ScriptedHandler) : Rehearsal :=
  match h.subscribes? with
  | some (kind, other) => (b.on kind other.label other.behavior).1
  | none => b

/-- Call a handler. -/
def invoke (h : ScriptedHandler) (m : Message) (b : Rehearsal) : Rehearsal × HandlerOutcome :=
  let b := { b with world := b.world.write (h.entry m) }
  (registerFor (endFor b h) h, h.outcome)

/-- Offer a message to the handlers. -/
def dispatch (b : Rehearsal) (m : Message) : Rehearsal × DispatchReport :=
  Bus.dispatch invoke b m

end Rehearsal

end Simulation
end RemoteRun
