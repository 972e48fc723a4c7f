import RemoteRun.Client.Basic
import RemoteRun.Proofs.Router.Calls

/-!
# Frames that are processed

What has to come of a frame that a client takes from its queue, said without the functions
that process it.

**Routes.** `Client.Hears` says what one route makes of a message: a reaction changes the
session, and a handler of the application does what it likes.  `Client.Handed` is a message
that goes to some routes, one after the other, each once.

**Frames.** A `FrameTurn` is a frame with the client that has taken it from the queue and
the client afterwards.  It is `Processed` if a frame that is no message leaves a notice and
nothing else, and a message goes to the routes that take its kind, as they were registered
when the frame was taken.

**Results.** `FrameTurn.processed_processFrame`: processing a frame is just that, whatever
the handlers of the application do.
-/

namespace RemoteRun

namespace Client

variable {υ α : Type}

section Handing

variable (application : Application υ α) (load : DiagramLoader) (now : Moment) (m : Message)

/-- A route hears a message.  Routes and whatever lies around the router are as the reaction
or the handler leaves them; failures and notices are not looked at. -/
inductive Hears : Route (ClientHandler υ) → ClientBus υ α → ClientBus υ α → Prop
  | reaction
      {matcher : Matcher}
      {r : Reaction}
      {b b' : ClientBus υ α}
      (hsession : b'.world.desk.session = (b.world.desk.session.react load now m r).1)
      (hsink : b'.world.desk.sink = b.world.desk.sink)
      (hrequests : b'.world.desk.requests = b.world.desk.requests)
      (happlication : b'.world.application = b.world.application)
      (hroutes : b'.router.routes = b.router.routes) :
      Hears ⟨matcher, .reaction r⟩ b b'
  | application
      {matcher : Matcher}
      {h : υ}
      {b b' : ClientBus υ α}
      (hworld : b'.world = (application h m b).1.world)
      (hroutes : b'.router.routes = (application h m b).1.router.routes) :
      Hears ⟨matcher, .application h⟩ b b'

/-- A message is handed to routes, one after the other, each once. -/
inductive Handed : List (Route (ClientHandler υ)) → ClientBus υ α → ClientBus υ α → Prop
  | done
      (b : ClientBus υ α) :
      Handed [] b b
  | next
      {route : Route (ClientHandler υ)}
      {routes : List (Route (ClientHandler υ))}
      {b b' b'' : ClientBus υ α}
      (hears : Hears application load now m route b b')
      (others : Handed routes b' b'') :
      Handed (route :: routes) b b''

theorem hears_afterCall
    (route : Route (ClientHandler υ))
    (b : ClientBus υ α) :
    Hears application load now m route b
      (Bus.afterCall (callHandler application load now) m b route) := by
  obtain ⟨matcher, handler⟩ := route
  cases handler with
  | reaction r =>
      apply Hears.reaction <;> simp [Bus.afterCall, callHandler, callReaction, Bus.noteAll]
  | application h =>
      apply Hears.application <;> simp [Bus.afterCall, callHandler]

theorem handed_callAll
    (routes : List (Route (ClientHandler υ)))
    (b : ClientBus υ α) :
    Handed application load now m routes b
      (Bus.callAll (callHandler application load now) m b routes).1 := by
  induction routes generalizing b with
  | nil =>
      exact .done b
  | cons route routes ih =>
      exact .next (hears_afterCall application load now m route b) (ih _)

end Handing

end Client

/-- A frame, with the client that has taken it from its queue and the client afterwards. -/
structure FrameTurn (υ α : Type) where
  now : Moment
  text : String
  found : Client υ α
  left : Client υ α

namespace FrameTurn

variable {υ α : Type}

/-- What has to come of a frame. -/
structure Processed (application : Application υ α) (t : FrameTurn υ α) : Prop where
  /-- A frame that is no message is noted. -/
  malformed : ∀ e, Message.parse t.text = .error e →
    t.left = t.found.noteAll [Client.malformedNotice t.text]
  /-- A message is handed to the routes that take its kind, in the order of registration. -/
  handed : ∀ m, Message.parse t.text = .ok m →
    Client.Handed application t.found.load t.now m
      (t.found.bus.router.routes.listeners.filter fun route => route.matcher.accepts m.kind)
      t.found.bus t.left.bus
  /-- The queue and the rest of the client stay as they are. -/
  rest : t.left = { t.found with bus := t.left.bus }

theorem processed_processFrame
    (application : Application υ α)
    (c : Client υ α)
    (now : Moment)
    (text : String) :
    Processed application ⟨now, text, c, (c.processFrame application now text).1⟩ := by
  unfold Client.processFrame
  cases hparse : Message.parse text with
  | error e =>
      refine ⟨fun _ _ => rfl, ?_, rfl⟩
      intro m hm
      cases hparse.symm.trans hm
  | ok m =>
      refine ⟨?_, ?_, rfl⟩
      · intro e he
        cases hparse.symm.trans he
      · intro m' hm
        obtain rfl := Except.ok.inj (hparse.symm.trans hm)
        exact Client.handed_callAll application c.load now m _ c.bus

end FrameTurn

end RemoteRun
