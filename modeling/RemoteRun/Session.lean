import RemoteRun.Execution.Notices
import RemoteRun.Prompt

/-!
# Sessions

What a client knows of its engine, and how messages change it.

**Input.** Messages, each with the moment of its arrival.

**Algorithm.** A session reacts to a kind of messages in a fixed order of reactions.
One that cannot use its message fails, and leaves the session as it was.

**Results.** `Session.react` is a reaction, `Session.reactNotices` what is noted of it,
and `Reaction.table` says which kinds it concerns.
-/

namespace RemoteRun

/-- A moment: the milliseconds on a clock that only runs forward, and the date. -/
structure Moment where
  elapsed : Nat
  date : Timestamp

/-- What a client knows of its engine. -/
structure Session where
  machine : Machine
  prompts : PromptSlot := {}
  clientId : Option String := none
  lastError : Option String := none

/-- How the ids of the nodes of a diagram are found that the engine sends along. -/
abbrev DiagramLoader := Json → Except DiagramError (List String)

namespace DiagramLoader

/-- The ids that the diagram declares. -/
def declared : DiagramLoader := fun diagram => .ok (Diagram.nodeIds diagram)

end DiagramLoader

/-- What a session does with a message. -/
inductive Reaction where
  | track
  | loadDiagram
  | scopePrompt
  | openPrompt
  | greet
  | recordError
  | acknowledge
deriving DecidableEq

namespace Reaction

/-- The kinds that change the execution. -/
def tracked : List EventKind :=
  [.executionStarted, .executionComplete, .executionError, .executionAborted, .nodeStart,
   .nodeProgress, .nodeComplete, .nodeSkipped, .nodeError, .nodePaused, .nodeResumed]

/-- The kinds after which a prompt may belong to no execution. -/
def scoping : List EventKind :=
  [.executionStarted, .executionComplete, .executionError, .executionAborted]

/-- The kinds that acknowledge a command. -/
def acknowledging : List EventKind :=
  [.nodeSkipRequested, .executionAbortRequested, .interactiveResponseReceived, .subscribed]

/-- All reactions with the kinds they concern, in order. -/
def table : List (EventKind × Reaction) :=
  tracked.map (·, .track) ++
  [(.executionStarted, .loadDiagram)] ++
  scoping.map (·, .scopePrompt) ++
  [(.interactivePrompt, .openPrompt), (.connected, .greet), (.serverError, .recordError),
   (.heartbeatAck, .acknowledge)] ++
  acknowledging.map (·, .acknowledge)

end Reaction

namespace Session

/-- A session that has heard nothing. -/
def ofCapacity (capacity : Nat) : Session :=
  { machine := .ofCapacity capacity }

/-- Apply a message to the execution. -/
def track (s : Session) (now : Moment) (m : Message) : Session × Except HandlerError Unit :=
  match s.machine.apply now.date m with
  | (machine, .ok _) => ({ s with machine := machine }, .ok ())
  | (machine, .error e) => ({ s with machine := machine }, .error (.ofProtocol e))

/-- The diagram that the start of an execution brings. -/
def pushedDiagram? (m : Message) : Except ProtocolError (Option Json) :=
  match m.decode with
  | .error e => .error e
  | .ok (some (.execution (.started _ _ diagram _))) => .ok diagram
  | .ok _ => .ok none

/-- The ids of the nodes of the diagram that a message brings. -/
def pushedIds? (load : DiagramLoader) (m : Message) :
    Except HandlerError (Option (List String)) :=
  match pushedDiagram? m with
  | .error e => .error (.ofProtocol e)
  | .ok none => .ok none
  | .ok (some diagram) =>
      match load diagram with
      | .ok ids => .ok (some ids)
      | .error e => .error ⟨e.message⟩

/-- Know the nodes of the diagram that a message brings. -/
def loadDiagram (load : DiagramLoader) (s : Session) (now : Moment) (m : Message) :
    Session × Except HandlerError Unit :=
  match pushedIds? load m with
  | .error e => (s, .error e)
  | .ok none => (s, .ok ())
  | .ok (some ids) => ({ s with machine := (s.machine.setKnown now.date ids).1 }, .ok ())

/-- Keep the active prompt only for the running execution. -/
def scopePrompt (s : Session) : Session :=
  { s with prompts := s.prompts.retainFor s.machine.activeId? }

/-- Make the prompt of a message the active one. -/
def openPrompt (s : Session) (now : Moment) (m : Message) :
    Session × Except HandlerError Unit :=
  match PromptSlot.requested m s.machine.activeId? now.elapsed with
  | .ok p => ({ s with prompts := s.prompts.activate p }, .ok ())
  | .error e => (s, .error (.ofProtocol e))

/-- Keep the id under which the engine knows the client. -/
def greet (s : Session) (m : Message) : Session × Except HandlerError Unit :=
  match m.decode with
  | .error e => (s, .error (.ofProtocol e))
  | .ok (some (.connected id)) => ({ s with clientId := id }, .ok ())
  | .ok _ => (s, .ok ())

/-- Keep the last error that the engine reported. -/
def recordError (s : Session) (m : Message) : Session × Except HandlerError Unit :=
  match m.decode with
  | .error e => (s, .error (.ofProtocol e))
  | .ok (some (.serverError text)) => ({ s with lastError := some text }, .ok ())
  | .ok _ => (s, .ok ())

/-- React to a message. -/
def react (load : DiagramLoader) (s : Session) (now : Moment) (m : Message) :
    Reaction → Session × Except HandlerError Unit
  | .track => s.track now m
  | .loadDiagram => s.loadDiagram load now m
  | .scopePrompt => (s.scopePrompt, .ok ())
  | .openPrompt => s.openPrompt now m
  | .greet => s.greet m
  | .recordError => s.recordError m
  | .acknowledge => (s, .ok ())

/-- What is noted of a reaction. -/
def reactNotices (load : DiagramLoader) (s : Session) (m : Message) : Reaction → List Notice
  | .track => s.machine.applyNotices m
  | .loadDiagram =>
      match pushedIds? load m with
      | .ok (some ids) => s.machine.setKnownNotices ids
      | _ => []
  | .openPrompt =>
      match m.decode with
      | .ok (some (.prompt _)) => s.prompts.activateNotices
      | _ => []
  | .recordError =>
      match m.decode with
      | .ok (some (.serverError text)) =>
          [.warn "engine reported an error" [("error", .str text)]]
      | _ => []
  | .scopePrompt | .greet | .acknowledge => []

end Session

end RemoteRun
