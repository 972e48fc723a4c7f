import RemoteRun.Client.Basic
import RemoteRun.Execution.Snapshot
import RemoteRun.Proofs.Inbound.Gathering
import RemoteRun.Proofs.Router.Calls

/-!
# Clients follow the bare machine

What a client knows of the execution, and what its handlers find, is what a machine
comes to that is given the same frames without a router.

**Machine.** `Machine.follow` applies a message and then knows the nodes of the diagram
that it brings, if it brings one that can be loaded.

**Handlers.** An `Observer` may look at the whole bus, keep a state of its own, fail
and panic; it changes nothing of the client.  Handlers may be registered for any
matchers, in any number.

**Views.** A `FrameView` is what is seen around a frame: by every handler of the
application that is called, when it is called, and by everybody after the frame.

**Results.**
* `Session.receive_machine`: the reactions to a message make the machine follow it.
* `Client.Follows.processFrame`: a frame keeps a client and its machine together.
* `Client.views_follow`: whatever the frames and the handlers, the views of the client
  are those of the machine.
-/

namespace RemoteRun

namespace Machine

/-- The state after a message is applied and the nodes of its diagram are known. -/
def follow (load : DiagramLoader) (m : Machine) (now : Timestamp) (message : Message) :
    Machine :=
  let applied := (m.apply now message).1
  match message.decode with
  | .ok (some (.execution (.started _ _ (some diagram) _))) =>
      match load diagram with
      | .ok ids => (applied.setKnown now ids).1
      | .error _ => applied
  | _ => applied

/-- The state after a frame; a frame that is no message changes nothing. -/
def followFrame (load : DiagramLoader) (m : Machine) (now : Timestamp) (text : String) :
    Machine :=
  match Message.parse text with
  | .error _ => m
  | .ok message => m.follow load now message

end Machine

/-! ### Kinds -/

theorem EventKind.wireName_of_ofWireName?
    {name : String}
    {kind : EventKind}
    (h : EventKind.ofWireName? name = some kind) :
    kind.wireName = name := by
  simpa using List.find?_some h

/-- A message is of no kind, cannot be decoded, or is assembled from its fields. -/
theorem Message.decode_cases
    (m : Message) :
    (EventKind.ofWireName? m.kind = none ∧ m.decode = .ok none) ∨
    (∃ e, m.decode = .error e) ∨
    ∃ kind gathered, EventKind.ofWireName? m.kind = some kind ∧
      m.decode = .ok (some (kind.assemble gathered)) := by
  unfold decode
  cases hkind : EventKind.ofWireName? m.kind with
  | none =>
      exact Or.inl ⟨rfl, rfl⟩
  | some kind =>
      cases hg : Field.gather kind.fields m.members with
      | error fault =>
          exact Or.inr (Or.inl ⟨.malformed m.kind fault, by simp only [hg]⟩)
      | ok gathered =>
          exact Or.inr (Or.inr ⟨kind, gathered, rfl, by simp only [hg]⟩)

namespace Machine

/-- A message whose kind is not tracked changes nothing. -/
theorem apply_of_not_tracked
    (m : Machine)
    (now : Timestamp)
    {message : Message}
    (htracked : ∀ kind ∈ Reaction.tracked, EventKind.ofWireName? message.kind ≠ some kind) :
    (m.apply now message).1 = m := by
  rcases message.decode_cases with ⟨_, hd⟩ | ⟨e, hd⟩ | ⟨kind, gathered, hkind, hd⟩
  · simp only [apply, hd]
  · simp only [apply, hd]
  · simp only [apply, hd]
    cases kind <;> first | rfl | exact absurd hkind (htracked _ (by decide))

/-- Only the start of an execution brings a diagram. -/
theorem follow_of_not_started
    (load : DiagramLoader)
    (m : Machine)
    (now : Timestamp)
    {message : Message}
    (hkind : EventKind.ofWireName? message.kind ≠ some .executionStarted) :
    m.follow load now message = (m.apply now message).1 := by
  unfold follow
  rcases message.decode_cases with ⟨_, hd⟩ | ⟨e, hd⟩ | ⟨kind, gathered, hkind', hd⟩
  · simp only [hd]
  · simp only [hd]
  · simp only [hd]
    cases kind <;> first | rfl | exact absurd hkind' hkind

end Machine

/-! ### The reactions of a session -/

namespace Reaction

/-- The reactions to a kind of messages, in order. -/
def toKind (kind : String) : List Reaction :=
  (table.filter fun e => e.1.wireName == kind).map Prod.snd

/-- Whether a reaction only looks at the machine. -/
def keepsMachine : Reaction → Bool
  | .track | .loadDiagram => false
  | .scopePrompt | .openPrompt | .greet | .recordError | .acknowledge => true

theorem toKind_of_unknown
    {name : String}
    (h : EventKind.ofWireName? name = none) :
    toKind name = [] := by
  have hall : ∀ kind : EventKind, (kind.wireName == name) = false := by
    intro kind
    have hmem : kind ∈ EventKind.all := by
      cases kind <;> decide
    simpa using List.find?_eq_none.1 h kind hmem
  simp [toKind, hall]

theorem toKind_started :
    toKind EventKind.executionStarted.wireName = [.track, .loadDiagram, .scopePrompt] := by
  decide

theorem toKind_of_tracked
    {kind : EventKind}
    (htracked : kind ∈ tracked)
    (hstarted : kind ≠ .executionStarted) :
    ∃ others, toKind kind.wireName = .track :: others ∧
      ∀ r ∈ others, r.keepsMachine = true := by
  cases kind <;> simp [tracked] at htracked hstarted <;>
    first
    | exact ⟨[], by decide, by simp⟩
    | exact ⟨[.scopePrompt], by decide, by decide⟩

theorem toKind_of_not_tracked
    {kind : EventKind}
    (htracked : kind ∉ tracked) :
    ∀ r ∈ toKind kind.wireName, r.keepsMachine = true := by
  cases kind <;> first | decide | simp [tracked] at htracked

end Reaction

namespace Session

variable {load : DiagramLoader} {now : Moment} {m : Message}

/-- The session after reactions, one after the other. -/
def reactAll (load : DiagramLoader) (now : Moment) (m : Message) :
    Session → List Reaction → Session
  | s, [] => s
  | s, r :: rs => reactAll load now m (s.react load now m r).1 rs

/-- The session after all its reactions to a message. -/
def receive (load : DiagramLoader) (s : Session) (now : Moment) (m : Message) : Session :=
  s.reactAll load now m (Reaction.toKind m.kind)

theorem react_machine
    {r : Reaction}
    (hr : r.keepsMachine = true)
    (s : Session) :
    (s.react load now m r).1.machine = s.machine := by
  cases r with
  | track =>
      simp [Reaction.keepsMachine] at hr
  | loadDiagram =>
      simp [Reaction.keepsMachine] at hr
  | scopePrompt =>
      rfl
  | openPrompt =>
      simp only [react, openPrompt]
      split <;> rfl
  | greet =>
      simp only [react, greet]
      split <;> rfl
  | recordError =>
      simp only [react, recordError]
      split <;> rfl
  | acknowledge =>
      rfl

theorem reactAll_machine
    {rs : List Reaction}
    (hrs : ∀ r ∈ rs, r.keepsMachine = true)
    (s : Session) :
    (s.reactAll load now m rs).machine = s.machine := by
  induction rs generalizing s with
  | nil =>
      rfl
  | cons r rs ih =>
      rw [reactAll, ih (fun r' h => hrs r' (List.mem_cons_of_mem r h)),
        react_machine (hrs r List.mem_cons_self)]

theorem track_machine
    (s : Session) :
    (s.react load now m .track).1.machine = (s.machine.apply now.date m).1 := by
  simp only [react, track]
  split <;> simp only [*]

/-- Loading the diagram after the message is applied makes the machine follow it. -/
theorem loadDiagram_machine
    {s : Session}
    {machine : Machine}
    (hs : s.machine = (machine.apply now.date m).1) :
    (s.react load now m .loadDiagram).1.machine = machine.follow load now.date m := by
  simp only [react, loadDiagram, pushedIds?, pushedDiagram?, Machine.follow, ← hs]
  cases m.decode with
  | error e =>
      rfl
  | ok event =>
      rcases event with _ | (_ | ⟨⟨id, total, _ | diagram, fromCli⟩ | _ | _ | _⟩ | _ | _)
      case some.execution.started.some =>
        cases hload : load diagram with
        | ok ids =>
            simp only [hload]
        | error e =>
            simp only [hload]
      all_goals rfl

theorem receive_machine
    (s : Session) :
    (s.receive load now m).machine = s.machine.follow load now.date m := by
  unfold receive
  cases hkind : EventKind.ofWireName? m.kind with
  | none =>
      rw [Reaction.toKind_of_unknown hkind, reactAll,
        Machine.follow_of_not_started load _ _ (by simp [hkind]),
        Machine.apply_of_not_tracked _ _ (by simp [hkind])]
  | some kind =>
      rw [← EventKind.wireName_of_ofWireName? hkind]
      by_cases hstarted : kind = .executionStarted
      · rw [hstarted, Reaction.toKind_started, reactAll, reactAll,
          reactAll_machine (by decide), loadDiagram_machine s.track_machine]
      rw [Machine.follow_of_not_started load _ _ (by simpa [hkind] using hstarted)]
      by_cases htracked : kind ∈ Reaction.tracked
      · obtain ⟨others, hothers, hkeep⟩ := Reaction.toKind_of_tracked htracked hstarted
        rw [hothers, reactAll, reactAll_machine hkeep, track_machine]
      · have hother : ∀ k ∈ Reaction.tracked, EventKind.ofWireName? m.kind ≠ some k := by
          rintro k hk hsame
          obtain rfl := Option.some.inj (hkind.symm.trans hsame)
          exact htracked hk
        rw [reactAll_machine (Reaction.toKind_of_not_tracked htracked),
          Machine.apply_of_not_tracked _ _ hother]

end Session

/-! ### Views -/

/-- What is seen around a frame: by the handlers of the application that are called, each
when it is called, and by everybody after the frame. -/
structure FrameView (υ : Type) where
  seen : List (υ × Snapshot)
  after : Snapshot

namespace Machine

variable {υ : Type}

/-- The view in which every handler that takes a frame finds the state after it. -/
def frameView (load : DiagramLoader) (handlers : List (Matcher × υ)) (m : Machine)
    (now : Timestamp) (text : String) : FrameView υ :=
  let after := (m.followFrame load now text).snapshot
  match Message.parse text with
  | .error _ => ⟨[], after⟩
  | .ok message =>
      ⟨(handlers.filter fun e => e.1.accepts message.kind).map fun e => (e.2, after), after⟩

/-- The views of frames, one after the other. -/
def views (load : DiagramLoader) (handlers : List (Matcher × υ)) :
    Machine → List (Moment × String) → List (FrameView υ)
  | _, [] => []
  | m, (now, text) :: frames =>
      m.frameView load handlers now.date text ::
        (m.followFrame load now.date text).views load handlers frames

end Machine

/-- What handlers of an application do that change nothing of the client: from what they
find, the next state of the application and how the call ends. -/
abbrev Observer (υ α : Type) :=
  υ → Message → ClientBus υ α → α × HandlerOutcome

namespace Observer

variable {υ α : Type}

/-- Handlers that only observe. -/
def application (o : Observer υ α) : Application υ α := fun h m b =>
  let (next, outcome) := o h m b
  ({ b with world := { b.world with application := next } }, outcome)

end Observer

namespace Client

variable {υ α : Type}

/-- What is seen of the execution from the bus of a client. -/
def busSnapshot (b : ClientBus υ α) : Snapshot :=
  b.world.desk.session.machine.snapshot

/-- What is seen of the execution from a client. -/
def snapshot (c : Client υ α) : Snapshot :=
  busSnapshot c.bus

/-- The route of a handler of the application. -/
def handlerRoute (e : Matcher × υ) : Route (ClientHandler υ) :=
  ⟨e.1, .application e.2⟩

/-- Register handlers of the application. -/
def listenAll (c : Client υ α) (handlers : List (Matcher × υ)) : Client υ α :=
  { c with
    bus := { c.bus with router := c.bus.router.registerAll (handlers.map handlerRoute) } }

/-- The handlers of the application among calls, each with what it sees. -/
def sightings (calls : List (Route (ClientHandler υ) × ClientBus υ α)) : List (υ × Snapshot) :=
  calls.filterMap fun (route, b) =>
    match route.handler with
    | .reaction _ => none
    | .application h => some (h, busSnapshot b)

/-- The calls of the handlers that take a frame. -/
def frameCalls (application : Application υ α) (c : Client υ α) (now : Moment) (text : String) :
    List (Route (ClientHandler υ) × ClientBus υ α) :=
  match Message.parse text with
  | .error _ => []
  | .ok m =>
      Bus.calls (callHandler application c.load now) m c.bus (c.bus.router.matching m.kind)

/-- The views of frames, one after the other. -/
def views (application : Application υ α) (c : Client υ α) :
    List (Moment × String) → List (FrameView υ)
  | [] => []
  | (now, text) :: frames =>
      let next := (c.processFrame application now text).1
      ⟨sightings (c.frameCalls application now text), next.snapshot⟩ ::
        next.views application frames

/-! ### Calls of reactions and of observers -/

/-- The route of a reaction. -/
def reactionRoute (e : EventKind × Reaction) : Route (ClientHandler υ) :=
  ⟨.exact e.1.wireName, .reaction e.2⟩

variable (load : DiagramLoader) (now : Moment) (m : Message)

theorem callAll_reactions
    (application : Application υ α)
    (entries : List (EventKind × Reaction))
    (b : ClientBus υ α) :
    (Bus.callAll (callHandler application load now) m b
        (entries.map reactionRoute)).1.world.desk.session =
      b.world.desk.session.reactAll load now m (entries.map Prod.snd) ∧
    (Bus.callAll (callHandler application load now) m b
        (entries.map reactionRoute)).1.router.routes = b.router.routes := by
  induction entries generalizing b with
  | nil =>
      exact ⟨rfl, rfl⟩
  | cons e entries ih =>
      rw [List.map_cons, Bus.callAll_cons, (ih _).1, (ih _).2]
      constructor <;>
        simp [Bus.afterCall, reactionRoute, callHandler, callReaction, Session.reactAll, Bus.noteAll]

theorem sightings_reactions
    (application : Application υ α)
    (entries : List (EventKind × Reaction))
    (b : ClientBus υ α) :
    sightings (Bus.calls (callHandler application load now) m b (entries.map reactionRoute)) =
      [] := by
  induction entries generalizing b with
  | nil =>
      rfl
  | cons e entries ih =>
      exact ih _

variable (o : Observer υ α)

theorem afterCall_handler
    (e : Matcher × υ)
    (b : ClientBus υ α) :
    (Bus.afterCall (callHandler o.application load now) m b (handlerRoute e)).world.desk =
      b.world.desk ∧
    (Bus.afterCall (callHandler o.application load now) m b (handlerRoute e)).router.routes =
      b.router.routes := by
  simp [Bus.afterCall, handlerRoute, callHandler, Observer.application]

theorem callAll_handlers
    (handlers : List (Matcher × υ))
    (b : ClientBus υ α) :
    (Bus.callAll (callHandler o.application load now) m b
        (handlers.map handlerRoute)).1.world.desk = b.world.desk ∧
    (Bus.callAll (callHandler o.application load now) m b
        (handlers.map handlerRoute)).1.router.routes = b.router.routes := by
  refine (Bus.callAll_keeps
    (P := fun b' => b'.world.desk = b.world.desk ∧ b'.router.routes = b.router.routes)
    ?_ ⟨rfl, rfl⟩).1
  intro route hroute b' hb'
  obtain ⟨e, _, rfl⟩ := List.mem_map.1 hroute
  have hcall := afterCall_handler load now m o e b'
  exact ⟨hcall.1.trans hb'.1, hcall.2.trans hb'.2⟩

theorem sightings_handlers
    (handlers : List (Matcher × υ))
    (b : ClientBus υ α) :
    sightings (Bus.calls (callHandler o.application load now) m b
        (handlers.map handlerRoute)) =
      handlers.map fun e => (e.2, busSnapshot b) := by
  induction handlers generalizing b with
  | nil =>
      rfl
  | cons e handlers ih =>
      have hnext : busSnapshot (Bus.afterCall (callHandler o.application load now) m b
          (handlerRoute e)) = busSnapshot b := by
        rw [busSnapshot, (afterCall_handler load now m o e b).1, busSnapshot]
      have hrest := ih (Bus.afterCall (callHandler o.application load now) m b (handlerRoute e))
      rw [hnext] at hrest
      exact congrArg ((e.2, busSnapshot b) :: ·) hrest

/-! ### Together -/

/-- A client with the handlers of an application, and a machine that is where the client
is. -/
structure Follows (load : DiagramLoader) (handlers : List (Matcher × υ)) (c : Client υ α)
    (machine : Machine) : Prop where
  listeners :
    c.bus.router.routes.listeners =
      Reaction.table.map reactionRoute ++ handlers.map handlerRoute
  load_eq : c.load = load
  machine_eq : c.session.machine = machine

namespace Follows

variable {load : DiagramLoader} {handlers : List (Matcher × υ)} {c : Client υ α}
variable {machine : Machine}

/-- The handlers of a kind: first the reactions to it, then those of the application. -/
theorem matching
    (h : Follows load handlers c machine)
    (kind : String) :
    c.bus.router.matching kind =
      (Reaction.table.filter fun e => e.1.wireName == kind).map reactionRoute ++
        (handlers.filter fun e => e.1.accepts kind).map handlerRoute := by
  rw [Router.matching, h.listeners, List.filter_append, List.filter_map, List.filter_map]
  rfl

/-- A message reaches the session through its reactions alone, and no route comes or goes. -/
theorem dispatch_receives
    (h : Follows load handlers c machine)
    (o : Observer υ α)
    (now : Moment)
    (m : Message) :
    (c.dispatch o.application now m).1.session = c.session.receive load now m ∧
    (c.dispatch o.application now m).1.bus.router.routes = c.bus.router.routes := by
  have hmatching := h.matching m.kind
  obtain ⟨_, rfl, _⟩ := h
  generalize hreacting : (Reaction.table.filter fun e => e.1.wireName == m.kind) = reacting
    at hmatching
  generalize (handlers.filter fun e => e.1.accepts m.kind) = called at hmatching
  have hreacted := callAll_reactions c.load now m o.application reacting c.bus
  have hcalled := callAll_handlers c.load now m o called
    (Bus.callAll (callHandler o.application c.load now) m c.bus (reacting.map reactionRoute)).1
  have hbus : (c.dispatch o.application now m).1.bus =
      (Bus.callAll (callHandler o.application c.load now) m
        (Bus.callAll (callHandler o.application c.load now) m c.bus
          (reacting.map reactionRoute)).1 (called.map handlerRoute)).1 := by
    rw [← Bus.callAll_append, ← hmatching]
    rfl
  constructor
  · rw [session, desk, hbus, hcalled.1, hreacted.1, ← hreacting]
    rfl
  · rw [hbus, hcalled.2, hreacted.2]

/-- A message is followed before the first handler of the application is called, and what
that handler finds is left as it is. -/
theorem dispatch
    (h : Follows load handlers c machine)
    (o : Observer υ α)
    (now : Moment)
    (m : Message) :
    Follows load handlers (c.dispatch o.application now m).1 (machine.follow load now.date m) ∧
    sightings (Bus.calls (callHandler o.application load now) m c.bus
        (c.bus.router.matching m.kind)) =
      (handlers.filter fun e => e.1.accepts m.kind).map fun e =>
        (e.2, (machine.follow load now.date m).snapshot) := by
  have hmatching := h.matching m.kind
  obtain ⟨hsession, hroutes⟩ := h.dispatch_receives o now m
  obtain ⟨hlisteners, rfl, rfl⟩ := h
  constructor
  · refine ⟨?_, rfl, ?_⟩
    · rw [hroutes, hlisteners]
    · rw [hsession, Session.receive_machine]
  · generalize hreacting : (Reaction.table.filter fun e => e.1.wireName == m.kind) = reacting
      at hmatching
    generalize (handlers.filter fun e => e.1.accepts m.kind) = called at hmatching ⊢
    have hmachine :
        (Bus.callAll (callHandler o.application c.load now) m c.bus
          (reacting.map reactionRoute)).1.world.desk.session.machine =
        c.session.machine.follow c.load now.date m := by
      rw [(callAll_reactions c.load now m o.application reacting c.bus).1, ← hreacting,
        ← Session.receive_machine]
      rfl
    rw [hmatching, Bus.calls_append, sightings, List.filterMap_append]
    have hreactions := sightings_reactions c.load now m o.application reacting c.bus
    have hhandlers := sightings_handlers c.load now m o called
      (Bus.callAll (callHandler o.application c.load now) m c.bus (reacting.map reactionRoute)).1
    rw [busSnapshot, hmachine] at hhandlers
    rw [sightings] at hreactions hhandlers
    rw [hreactions, hhandlers, List.nil_append]

/-- A frame keeps a client and its machine together, and is seen as the machine has it. -/
theorem processFrame
    (h : Follows load handlers c machine)
    (o : Observer υ α)
    (now : Moment)
    (text : String) :
    Follows load handlers (c.processFrame o.application now text).1
      (machine.followFrame load now.date text) ∧
    sightings (c.frameCalls o.application now text) =
      (machine.frameView load handlers now.date text).seen := by
  have hload := h.load_eq
  unfold Client.processFrame Machine.frameView Machine.followFrame frameCalls
  cases Message.parse text with
  | error e =>
      exact ⟨⟨h.listeners, h.load_eq, h.machine_eq⟩, rfl⟩
  | ok m =>
      rw [hload]
      exact h.dispatch o now m

end Follows

/-- The routes of a router of a session. -/
theorem listeners_reactions :
    (reactions : Router (ClientHandler υ)).routes.listeners =
      Reaction.table.map reactionRoute := by
  have hall : (reactions : Router (ClientHandler υ)) =
      Router.registerAll {} (Reaction.table.map reactionRoute) := by
    rw [reactions, Router.registerAll, List.foldl_map]
    rfl
  rw [hall, Router.listeners_registerAll]
  rfl

/-- A client that has heard nothing follows a machine that has heard nothing. -/
theorem Follows.fresh
    (s : Settings)
    (path : DeliveryPath)
    (load : DiagramLoader)
    (state : α)
    (handlers : List (Matcher × υ)) :
    Follows load handlers ((ofSettings s path load state).listenAll handlers)
      (Machine.ofCapacity s.pendingCapacity) := by
  refine ⟨?_, rfl, rfl⟩
  rw [listenAll, Router.listeners_registerAll, ofSettings, listeners_reactions]

end Client

end RemoteRun
