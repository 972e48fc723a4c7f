import RemoteRun.Failure
import RemoteRun.Notice
import RemoteRun.Pattern.Reader
import RemoteRun.Router.Registry

/-!
# Routing messages to handlers

**Input.** Routes in the order of their registration, each with a matcher of message
kinds and a handler.

**Algorithm.** A dispatch fixes the routes that match when it begins and calls their
handlers one after the other.  A handler may change the state around the router and
the router itself; that takes effect from the next dispatch on.  One that fails or
panics is counted and noted, and the next one is called.

**Results.** `Bus.dispatch` says how many handlers were called and how many failed.
-/

namespace RemoteRun

/-- Which kinds of messages a route takes. -/
inductive Matcher where
  | exact (kind : String)
  | pattern (p : Pattern) (text : String)

namespace Matcher

/-- Whether a route takes a kind. -/
def accepts : Matcher → String → Bool
  | .exact expected, kind => expected == kind
  | .pattern p _, kind => p.occursIn kind

/-- The text by which a route is known. -/
def label : Matcher → String
  | .exact kind => kind
  | .pattern _ text => text

end Matcher

/-- How a call of a handler ended. -/
inductive HandlerOutcome where
  | done
  | failed (e : HandlerError)
  | panicked (text : Option String)
deriving DecidableEq

namespace HandlerOutcome

/-- What is noted of a call that did not end well. -/
def fault? : HandlerOutcome → Option String
  | .done => none
  | .failed e => some e.message
  | .panicked text => some ("handler panicked: " ++ text.getD "non-string panic payload")

end HandlerOutcome

/-- A matcher with its handler. -/
structure Route (η : Type) where
  matcher : Matcher
  handler : η

/-- Routes and the number of failures so far.  Failures are counted without a bound, where a
machine counts in a word and starts again at zero when it is full. -/
structure Router (η : Type) where
  routes : Registry (Route η) := {}
  failures : Nat := 0

/-- What a dispatch did. -/
structure DispatchReport where
  matched : Nat
  failed : Nat
deriving DecidableEq

namespace Router

variable {η : Type}

/-- Register a handler for the kinds of a matcher. -/
def register (r : Router η) (matcher : Matcher) (handler : η) : Router η × Subscription :=
  let (routes, token) := r.routes.insert ⟨matcher, handler⟩
  ({ r with routes := routes }, token)

/-- Register a handler for one kind. -/
def on (r : Router η) (kind : String) (handler : η) : Router η × Subscription :=
  r.register (.exact kind) handler

/-- Register a handler for the kinds in which a pattern occurs; nothing if the text
is no pattern. -/
def onPattern? (r : Router η) (text : String) (handler : η) :
    Option (Router η × Subscription) :=
  (Pattern.read? text).map fun p => r.register (.pattern p text) handler

/-- End a subscription. -/
def unsubscribe (r : Router η) (token : Subscription) : Router η × Subscription × Bool :=
  let (routes, token, removed) := r.routes.unsubscribe token
  ({ r with routes := routes }, token, removed)

/-- The routes that take a kind, in order. -/
def matching (r : Router η) (kind : String) : List (Route η) :=
  r.routes.listeners.filter fun route => route.matcher.accepts kind

/-- The number of routes. -/
def size (r : Router η) : Nat := r.routes.size

end Router

/-- A router within the state that its handlers change, and the journal. -/
structure Bus (η ω : Type) where
  router : Router η
  world : ω
  journal : List Notice := []

namespace Bus

variable {η ω : Type}

/-- Add a notice to the journal. -/
def note (b : Bus η ω) (n : Notice) : Bus η ω :=
  { b with journal := b.journal ++ [n] }

/-- Add notices to the journal. -/
def noteAll (b : Bus η ω) (ns : List Notice) : Bus η ω :=
  { b with journal := b.journal ++ ns }

/-- The notice of a failing handler. -/
def faultNotice (kind route error : String) : Notice :=
  .error "event handler failed"
    [("kind", .str kind), ("route", .str route), ("error", .str error)]

/-- Count and note a call that did not end well. -/
def settle (b : Bus η ω) (m : Message) (route : Route η) (outcome : HandlerOutcome) : Bus η ω :=
  match outcome.fault? with
  | none => b
  | some error =>
      { b with router := { b.router with failures := b.router.failures + 1 } }.note
        (faultNotice m.kind route.matcher.label error)

/-- Call the handlers of routes one after the other; how many failed. -/
def callAll (invoke : η → Message → Bus η ω → Bus η ω × HandlerOutcome) (m : Message) :
    Bus η ω → List (Route η) → Bus η ω × Nat
  | b, [] => (b, 0)
  | b, route :: routes =>
      let (b, outcome) := invoke route.handler m b
      let (b, failed) := callAll invoke m (b.settle m route outcome) routes
      (b, failed + outcome.fault?.isSome.toNat)

/-- Offer a message to the routes that take its kind. -/
def dispatch (invoke : η → Message → Bus η ω → Bus η ω × HandlerOutcome) (b : Bus η ω)
    (m : Message) : Bus η ω × DispatchReport :=
  let routes := b.router.matching m.kind
  let (b, failed) := callAll invoke m b routes
  (b, ⟨routes.length, failed⟩)

end Bus

end RemoteRun
