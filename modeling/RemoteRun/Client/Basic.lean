import RemoteRun.Command.Desk
import RemoteRun.Connection.Basic
import RemoteRun.Router.Basic
import RemoteRun.Settings

/-!
# Clients

A connection, a router and a desk, wired together.

**Input.** Frames of the connection and of calls, commands of the user, and the moves of
whatever the client waits for.

**Algorithm.** Frames wait in one queue and are taken one at a time while the client
listens.  A frame that is no message is noted and dropped; a message goes to the
handlers of its kind: first to the reactions of the session, in their order, and then
to the handlers of the application.

**Results.** Every operation is a total function of the client.  What is written to the
journal and what joins the queue of frames is taken over from the connection at once;
the other effects of the connection are left to the world.
-/

namespace RemoteRun

/-- A handler: a reaction of the session, or one of the application. -/
inductive ClientHandler (υ : Type) where
  | reaction (r : Reaction)
  | application (h : υ)

/-- What handlers can change: the desk, and a state of the application. -/
structure ClientWorld (α : Type) where
  desk : Desk Connection
  application : α

/-- The router of a client. -/
abbrev ClientBus (υ α : Type) := Bus (ClientHandler υ) (ClientWorld α)

/-- How the handlers of an application are called. -/
abbrev Application (υ α : Type) :=
  υ → Message → ClientBus υ α → ClientBus υ α × HandlerOutcome

/-- A client. -/
structure Client (υ α : Type) where
  bus : ClientBus υ α
  delivery : Delivery
  load : DiagramLoader
  frames : List String := []
  listening : Bool := false

namespace Client

variable {υ α : Type}

/-! ### Parts -/

/-- The desk. -/
def desk (c : Client υ α) : Desk Connection := c.bus.world.desk

/-- The session. -/
def session (c : Client υ α) : Session := c.desk.session

/-- The connection. -/
def connection (c : Client υ α) : Connection := c.desk.sink

/-- Replace the desk. -/
def setDesk (c : Client υ α) (d : Desk Connection) : Client υ α :=
  { c with bus := { c.bus with world := { c.bus.world with desk := d } } }

/-- Replace the connection. -/
def setConnection (c : Client υ α) (connection : Connection) : Client υ α :=
  c.setDesk { c.desk with sink := connection }

/-- Add notices to the journal. -/
def noteAll (c : Client υ α) (ns : List Notice) : Client υ α :=
  { c with bus := c.bus.noteAll ns }

/-- Take over the notices and frames of the connection. -/
def collect (c : Client υ α) : Client υ α :=
  let effects := c.connection.effects
  let left := effects.filter fun e => e.notice?.isNone && e.frame?.isNone
  let c := c.setConnection { c.connection with effects := left }
  { c.noteAll (effects.filterMap Effect.notice?) with
    frames := c.frames ++ effects.filterMap Effect.frame? }

/-! ### Beginning -/

/-- A router with the reactions of a session. -/
def reactions : Router (ClientHandler υ) :=
  Reaction.table.foldl (fun r (kind, reaction) => (r.on kind.wireName (.reaction reaction)).1) {}

/-- A client that is not connected. -/
def ofSettings (s : Settings) (path : DeliveryPath) (load : DiagramLoader) (application : α) :
    Client υ α :=
  { bus :=
      { router := reactions
        world :=
          { desk :=
              { session := .ofCapacity s.pendingCapacity
                sink := .ofPolicy s.reconnect s.heartbeat }
            application := application } }
    delivery := ⟨path, s.waitTimeout, s.retry⟩
    load := load }

/-! ### Frames -/

/-- The session after a reaction, and how the reaction ended. -/
def callReaction (load : DiagramLoader) (now : Moment) (m : Message) (b : ClientBus υ α)
    (r : Reaction) : ClientBus υ α × HandlerOutcome :=
  let session := b.world.desk.session
  let (next, result) := session.react load now m r
  let desk := { b.world.desk with session := next }
  let b := { b with world := { b.world with desk := desk } }
  (b.noteAll (session.reactNotices load m r),
    match result with
    | .ok () => .done
    | .error e => .failed e)

/-- Call a handler. -/
def callHandler (application : Application υ α) (load : DiagramLoader) (now : Moment) :
    ClientHandler υ → Message → ClientBus υ α → ClientBus υ α × HandlerOutcome
  | .reaction r, m, b => callReaction load now m b r
  | .application h, m, b => application h m b

/-- Offer a message to the handlers. -/
def dispatch (application : Application υ α) (c : Client υ α) (now : Moment) (m : Message) :
    Client υ α × DispatchReport :=
  let (bus, report) := c.bus.dispatch (callHandler application c.load now) m
  ({ c with bus := bus }, report)

/-- Number of characters of a frame that are noted. -/
def excerptLength : Nat := 200

/-- What is noted of a frame that is no message. -/
def malformedNotice (text : String) : Notice :=
  .warn "malformed frame dropped" [("frame", .str (String.ofList (text.toList.take excerptLength)))]

/-- Process a frame. -/
def processFrame (application : Application υ α) (c : Client υ α) (now : Moment)
    (text : String) : Client υ α × Except ProtocolError DispatchReport :=
  match Message.parse text with
  | .error e => (c.noteAll [malformedNotice text], .error e)
  | .ok m =>
      let (c, report) := c.dispatch application now m
      (c, .ok report)

/-- Take the first frame of the queue, if the client listens and there is one. -/
def takeFrame? (application : Application υ α) (c : Client υ α) (now : Moment) :
    Option (Client υ α) :=
  match c.listening, c.frames with
  | true, text :: frames => some (processFrame application { c with frames := frames } now text).1
  | _, _ => none

/-- Listen to frames. -/
def start (c : Client υ α) : Client υ α := { c with listening := true }

/-- Stop listening.  Frames wait until the client listens again. -/
def stop (c : Client υ α) : Client υ α := { c with listening := false }

/-! ### The connection -/

/-- Change the connection. -/
def onConnection (c : Client υ α) (f : Connection → Connection) : Client υ α :=
  (c.setConnection (f c.connection)).collect

/-- Listen, and ask for a connection. -/
def connect (c : Client υ α) : Client υ α :=
  c.start.onConnection Connection.connect

/-- Ask for the end of the connection. -/
def disconnect (c : Client υ α) : Client υ α :=
  c.onConnection Connection.disconnect

/-- Complete the wish to disconnect that awaits the end of a supervisor. -/
def finishDisconnect (c : Client υ α) (id : Nat) : Client υ α :=
  c.onConnection fun connection => connection.finishDisconnect id

/-- A turn of a supervisor. -/
def turnSupervisor (c : Client υ α) (id : Nat) (o : Observation) : Client υ α :=
  c.onConnection fun connection => connection.turn id o

/-- Ask the engine to report on the executions of others. -/
def monitor (c : Client υ α) : Client υ α × Except ConnectionError Unit :=
  let (connection, result) := Connection.send .subscribeMonitor c.connection
  ((c.setConnection connection).collect, result)

/-! ### Commands -/

/-- Give a command. -/
def give (c : Client υ α) (now : Moment) (command : Command) :
    Except DeadlineOverflow (Client υ α × CommandOutcome) :=
  match c.desk.give Connection.send now command with
  | .error e => .error e
  | .ok (desk, outcome) =>
      let c := c.noteAll (c.desk.notices now command)
      .ok ((c.setDesk desk).collect, outcome)

/-- Know some more nodes; the number of replayed reports. -/
def register (c : Client υ α) (now : Moment) (ids : List String) : Client υ α × Nat :=
  let (desk, replayed) := c.desk.register now ids
  ((c.noteAll (c.session.machine.registerNotices ids)).setDesk desk, replayed)

/-- Ask for the active prompt. -/
def prompt (c : Client υ α) (now : Moment) :
    Except DeadlineOverflow (Client υ α × Option Prompt) :=
  match c.desk.prompt now with
  | .error e => .error e
  | .ok (desk, p) => .ok (c.setDesk desk, p)

/-- Take over what a request asks of the client. -/
def takeOver (c : Client υ α) : RequestEffect → Client υ α
  | .note notice => c.noteAll [notice]
  | .forward frames => { c.noteAll frames.notices with frames := c.frames ++ frames.accepted }
  | .call _ | .rest _ => c

/-- Start a request for a diagram, or fail because there is none. -/
def execute (c : Client υ α) (now : Moment) (diagram : Except DiagramError Json)
    (options : ExecuteOptions) : Client υ α × Except DiagramError (List RequestEffect) :=
  let (desk, result) := c.desk.execute now c.delivery diagram options
  ((c.noteAll (c.desk.executeNotices diagram)).setDesk desk, result)

/-- A turn of a request; what is left to do for it. -/
def turnRequest (c : Client υ α) (id : Nat) (o : RequestObservation) :
    Client υ α × List RequestEffect :=
  let (desk, effects) := c.desk.turn Connection.send c.delivery id o
  (effects.foldl takeOver (c.setDesk desk).collect, effects)

end Client

end RemoteRun
