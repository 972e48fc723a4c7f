import RemoteRun.Command.Execute
import RemoteRun.Session

/-!
# Commands

What a user asks of the engine.

**Input.** Commands, and requests to execute a diagram, with the moment at which they
are given.

**Algorithm.** A command goes to the execution that runs; without one nothing is sent.
An abort also cancels every request that has not returned, and takes effect on the
local state at once, whether its message is accepted or not.  A request makes exactly
the nodes of its diagram known before anything is sent.

**Results.** Every operation is a total function of the desk; what is noted of a command
follows from the desk in front of it.
-/

namespace RemoteRun

/-- A command to the engine. -/
inductive Command where
  | pause (nodeId : String)
  | resume (nodeId : String)
  | skip (nodeId : String)
  | abort
  | respond (nodeId response : String)
  | cancelPrompt

/-- Where commands are given: the session, the place that takes messages, and the
requests in the order in which they were started. -/
structure Desk (σ : Type) where
  session : Session
  sink : σ
  requests : List Request := []

namespace Desk

variable {σ : Type}

/-- The execution that commands go to. -/
def target? (d : Desk σ) : Option String :=
  d.session.machine.activeId?

/-- Whether a request has not returned. -/
def hasInFlight (d : Desk σ) : Bool :=
  d.requests.any Request.inFlight

/-- Send a message that concerns a node of the running execution. -/
def sendFor (send : Sink σ) (d : Desk σ) (message : String → Outbound) :
    Desk σ × CommandOutcome :=
  match d.target? with
  | none => (d, .noActiveExecution)
  | some execution =>
      let (sink, result) := send (message execution) d.sink
      ({ d with sink := sink }, .ofSend result execution)

/-- Cancel every request that has not returned. -/
def cancelRequests (d : Desk σ) : Desk σ :=
  { d with
    requests := d.requests.map fun r => { r with cancelled := r.cancelled || r.inFlight } }

/-- Abort the running execution and cancel the requests. -/
def abort (send : Sink σ) (d : Desk σ) (now : Moment) : Desk σ × CommandOutcome :=
  let outcome : CommandOutcome :=
    if d.hasInFlight then .executeCancelled else .noActiveExecution
  let d := d.cancelRequests
  match d.session.machine.abort now.date with
  | (_, none) => (d, outcome)
  | (machine, some execution) =>
      let prompts := d.session.prompts.retainFor none
      let (sink, result) := send (.abortExecution execution) d.sink
      ({ d with
          sink := sink
          session := { d.session with machine := machine, prompts := prompts } },
        .ofSend result execution)

/-- Answer a node. -/
def respond (send : Sink σ) (d : Desk σ) (nodeId response : String) :
    Desk σ × CommandOutcome :=
  let (sink, prompts, outcome) :=
    d.session.prompts.respond send d.sink nodeId response d.target?
  ({ d with sink := sink, session := { d.session with prompts := prompts } }, outcome)

/-- Answer the active prompt with nothing. -/
def cancelPrompt (send : Sink σ) (d : Desk σ) (now : Moment) :
    Except DeadlineOverflow (Desk σ × CommandOutcome) :=
  match d.session.prompts.cancel send d.sink now.elapsed d.target? with
  | .error e => .error e
  | .ok (sink, prompts, outcome) =>
      .ok ({ d with sink := sink, session := { d.session with prompts := prompts } }, outcome)

/-- Give a command. -/
def give (send : Sink σ) (d : Desk σ) (now : Moment) :
    Command → Except DeadlineOverflow (Desk σ × CommandOutcome)
  | .pause node => .ok (d.sendFor send (.pauseNode node))
  | .resume node => .ok (d.sendFor send (.resumeNode node))
  | .skip node => .ok (d.sendFor send (.skipNode node))
  | .abort => .ok (d.abort send now)
  | .respond node response => .ok (d.respond send node response)
  | .cancelPrompt => d.cancelPrompt send now

/-- Ask for the active prompt; an expired one is dropped. -/
def prompt (d : Desk σ) (now : Moment) : Except DeadlineOverflow (Desk σ × Option Prompt) :=
  match d.session.prompts.current now.elapsed with
  | .error e => .error e
  | .ok (prompts, p) => .ok ({ d with session := { d.session with prompts := prompts } }, p)

/-- Know some more nodes; the number of replayed reports. -/
def register (d : Desk σ) (now : Moment) (ids : List String) : Desk σ × Nat :=
  let (machine, replayed) := d.session.machine.register now.date ids
  ({ d with session := { d.session with machine := machine } }, replayed)

/-! ### Requests -/

/-- Start a request for a diagram, or fail because there is none. -/
def execute (d : Desk σ) (now : Moment) (delivery : Delivery)
    (diagram : Except DiagramError Json) (options : ExecuteOptions) :
    Desk σ × Except DiagramError (List RequestEffect) :=
  match diagram with
  | .error e => (d, .error e)
  | .ok diagram =>
      let ids := Diagram.nodeIds diagram
      let request := Request.start delivery.path (.executeDiagram diagram options) ids.length
      let machine := (d.session.machine.setKnown now.date ids).1
      ({ d with
          session := { d.session with machine := machine }
          requests := d.requests ++ [request] },
        .ok (request.startEffects delivery.waitLimit))

/-- A turn of the request with a number. -/
def turn (send : Sink σ) (d : Desk σ) (delivery : Delivery) (id : Nat)
    (o : RequestObservation) : Desk σ × List RequestEffect :=
  match d.requests[id]? with
  | none => (d, [])
  | some r =>
      let (sink, r, effects) := r.turn send d.sink delivery o
      ({ d with sink := sink, requests := d.requests.set id r }, effects)

/-! ### Notices -/

/-- What is noted of a command that concerns a node. -/
def nodeNotices (d : Desk σ) (command nodeId : String) : List Notice :=
  match d.target? with
  | some _ => []
  | none =>
      [.warn "command ignored; no active execution"
        [("command", .str command), ("node_id", .str nodeId)]]

/-- What is noted of an abort. -/
def abortNotices (d : Desk σ) : List Notice :=
  if d.target?.isSome || d.hasInFlight then []
  else [.warn "abort ignored; no active execution" []]

/-- What is noted of a command. -/
def notices (d : Desk σ) (now : Moment) : Command → List Notice
  | .pause node => d.nodeNotices "pause_node" node
  | .resume node => d.nodeNotices "resume_node" node
  | .skip node => d.nodeNotices "skip_node" node
  | .abort => d.abortNotices
  | .respond node _ => PromptSlot.respondNotices node d.target?
  | .cancelPrompt => d.session.prompts.cancelNotices now.elapsed d.target?

/-- What is noted when a request is started. -/
def executeNotices (d : Desk σ) (diagram : Except DiagramError Json) : List Notice :=
  match diagram with
  | .error e => [.returned e.message]
  | .ok diagram => d.session.machine.setKnownNotices (Diagram.nodeIds diagram)

end Desk

end RemoteRun
