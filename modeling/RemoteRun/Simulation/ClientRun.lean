import RemoteRun.Client.Basic
import RemoteRun.Simulation.Caller
import RemoteRun.Simulation.Handlers
import RemoteRun.Simulation.Wire

/-!
# Rehearsing a client

A client over a scripted transport, with scripted calls and handlers.

**Algorithm.** After each operation everything happens that needs no time: supervisors
move, wishes to disconnect are completed, frames are taken and requests move.
-/

namespace RemoteRun
namespace Simulation

/-- A client with scripted handlers. -/
abbrev ScriptedClient := Client ScriptedHandler HandlerLog

/-- A client and all around it. -/
structure ClientRun where
  client : ScriptedClient
  wire : Wire := {}
  caller : Caller := {}
  events : List ConnectionEvent := []

namespace ClientRun

/-- End the subscription that a handler ends. -/
def endFor (h : ScriptedHandler) (b : ClientBus ScriptedHandler HandlerLog) :
    ClientBus ScriptedHandler HandlerLog :=
  match h.unsubscribes? with
  | none => b
  | some index =>
      let (router, log, _) := unsubscribeAt b.router b.world.application index
      { b with router := router, world := { b.world with application := log } }

/-- Call a handler: it writes to the log and may end a subscription. -/
def application : Application ScriptedHandler HandlerLog := fun h m b =>
  let log := b.world.application.write (h.entry m)
  (endFor h { b with world := { b.world with application := log } }, h.outcome)

/-- The moment on the clock. -/
def moment (r : ClientRun) : Moment := ⟨r.wire.now, ⟨0, 0⟩⟩

/-- Do what the connection asks for. -/
def perform (r : ClientRun) (e : Effect) : ClientRun :=
  match e with
  | .announce event => { r with events := r.events ++ [event] }
  | e => { r with wire := r.wire.perform e }

/-- Another client; what its connection asks for is done. -/
def become (r : ClientRun) (c : ScriptedClient) : ClientRun :=
  c.connection.effects.foldl perform
    { r with client := c.setConnection { c.connection with effects := [] } }

/-- A turn of a supervisor. -/
def turn (r : ClientRun) (id : Nat) (o : Observation) : ClientRun :=
  let r := r.become (r.client.turnSupervisor id o)
  { r with wire := r.wire.afterTurn r.client.connection.heartbeat id o }

/-- What a waiting request observes: a connection, or that its limit has passed. -/
def waiting (r : ClientRun) (id : Nat) : Option RequestObservation :=
  if r.client.connection.isConnected then some .connected
  else if r.caller.isDue r.wire.now id then some .timedOut
  else none

/-- Do what a request asks for. -/
def performFor (id : Nat) (r : ClientRun) (e : RequestEffect) : ClientRun :=
  { r with caller := r.caller.perform r.wire.now id e }

/-- A turn of a request. -/
def turnRequest (r : ClientRun) (id : Nat) (o : RequestObservation) : ClientRun :=
  let (c, effects) := (r.client.noteAll (r.caller.notices o)).turnRequest id o
  let r := effects.foldl (performFor id) (r.become c)
  { r with caller := r.caller.close r.wire.now id (r.client.desk.requests[id]?) }

/-- Complete a wish to disconnect whose supervisor has ended. -/
def finishDisconnect? (r : ClientRun) : Option ClientRun :=
  let connection := r.client.connection
  (connection.leaving.find? fun id => !connection.isRunning id).map fun id =>
    r.become (r.client.finishDisconnect id)

/-- One move of the connection. -/
def moveConnection? (r : ClientRun) : Option ClientRun :=
  ((r.wire.next? r.client.connection).map fun (id, o) => r.turn id o).or r.finishDisconnect?

/-- Take one frame. -/
def takeFrame? (r : ClientRun) : Option ClientRun :=
  (r.client.takeFrame? application r.moment).map r.become

/-- One move of a request. -/
def moveRequest? (r : ClientRun) : Option ClientRun :=
  (r.caller.next? r.wire.now r.client.desk.requests r.waiting).map fun (id, o) =>
    r.turnRequest id o

/-- One move, if somebody can move. -/
def step? (r : ClientRun) : Option ClientRun :=
  (r.moveConnection?.or r.takeFrame?).or r.moveRequest?

/-- Let everything happen that needs no time. -/
def settle (r : ClientRun) : ClientRun :=
  settleWith step? settleLimit r

/-- The next time at which something can happen. -/
def due? (r : ClientRun) : Option Nat :=
  earlier (r.wire.due? r.client.connection) (r.caller.due? r.wire.now r.client.desk.requests)

/-- Set the clock and let everything happen that needs no more time. -/
def moveTo (time : Nat) (r : ClientRun) : ClientRun :=
  settle { r with wire := { r.wire with now := time } }

/-! ### Operations -/

/-- Let time pass. -/
def advance (r : ClientRun) (millis : Nat) : ClientRun :=
  passTo due? moveTo (r.wire.now + millis) (millis + 1) r

/-- Change the client and let everything happen. -/
def change (r : ClientRun) (f : ScriptedClient → ScriptedClient) : ClientRun :=
  (r.become (f r.client)).settle

/-- Process a frame. -/
def frame (r : ClientRun) (text : String) : ClientRun × Except ProtocolError DispatchReport :=
  let (c, result) := r.client.processFrame application r.moment text
  ((r.become c).settle, result)

/-- Know some more nodes. -/
def register (r : ClientRun) (ids : List String) : ClientRun × Nat :=
  let (c, replayed) := r.client.register r.moment ids
  ((r.become c).settle, replayed)

/-- Give a command. -/
def give (r : ClientRun) (command : Command) :
    Except DeadlineOverflow (ClientRun × CommandOutcome) :=
  (r.client.give r.moment command).map fun (c, outcome) => ((r.become c).settle, outcome)

/-- Ask the engine to report on the executions of others. -/
def monitor (r : ClientRun) : ClientRun × Except ConnectionError Unit :=
  let (c, result) := r.client.monitor
  ((r.become c).settle, result)

/-- Start a request beside what follows. -/
def execute (r : ClientRun) (label : String) (diagram : Except DiagramError Json)
    (options : ExecuteOptions) : ClientRun :=
  let id := r.client.desk.requests.length
  match r.client.execute r.moment diagram options with
  | (c, .error e) =>
      let finished : RequestEnd := ⟨label, .error (.diagram e), r.wire.now⟩
      { r.become c with caller := { r.caller with ended := r.caller.ended ++ [finished] } }
  | (c, .ok effects) =>
      let r := { r with caller := { r.caller with labels := r.caller.labels ++ [label] } }
      (effects.foldl (performFor id) (r.become c)).settle

/-- Keep a registration of a handler. -/
def keep (r : ClientRun) (router : Router (ClientHandler ScriptedHandler))
    (token : Subscription) : ClientRun :=
  let bus := r.client.bus
  let world := { bus.world with application := bus.world.application.keep token }
  { r with client := { r.client with bus := { bus with router := router, world := world } } }

/-- Register a handler for one kind. -/
def on (r : ClientRun) (kind : String) (h : ScriptedHandler) : ClientRun :=
  let (router, token) := r.client.bus.router.on kind (.application h)
  r.keep router token

/-- Register a handler for a pattern; nothing if the text is no pattern. -/
def onPattern? (r : ClientRun) (pattern : String) (h : ScriptedHandler) : Option ClientRun :=
  (r.client.bus.router.onPattern? pattern (.application h)).map fun (router, token) =>
    r.keep router token

/-- End the subscription with a number; whether this removed a handler, and nothing for
a number that no subscription has. -/
def unsubscribe (r : ClientRun) (index : Nat) : ClientRun × Option Bool :=
  let bus := r.client.bus
  let (router, log, removed) := unsubscribeAt bus.router bus.world.application index
  let world := { bus.world with application := log }
  ({ r with client := { r.client with bus := { bus with router := router, world := world } } },
    removed)

/-- Have the peer do something; whether the line was still open. -/
def fromPeer (r : ClientRun) (observations : List Observation) : ClientRun × Bool :=
  match r.wire.pump? r.client.connection with
  | none => (r, observations.isEmpty && r.wire.peer.isSome)
  | some id => ((observations.foldl (fun r o => r.turn id o) r).settle, true)

/-- Texts of the peer; whether the line took them all. -/
def peerSend (r : ClientRun) (texts : List String) : ClientRun × Bool :=
  r.fromPeer (texts.map .received)

/-- An error of the line; whether the line was open. -/
def peerError (r : ClientRun) (text : String) : ClientRun × Bool :=
  r.fromPeer [.broken (.other text)]

/-- The peer goes; whether there was one. -/
def peerClose (r : ClientRun) : ClientRun × Bool :=
  let (gone, _) := r.fromPeer [.closedByPeer]
  ({ gone with wire := { gone.wire with peer := none } }, r.wire.peer.isSome)

/-- Ask for the active prompt. -/
def prompt (r : ClientRun) : ClientRun × Except DeadlineOverflow (Option Prompt) :=
  match r.client.prompt r.moment with
  | .error e => (r, .error e)
  | .ok (c, p) => (r.become c, .ok p)

/-- The log of the handlers and the journal. -/
def log (r : ClientRun) : List String := r.client.bus.world.application.log

/-- What has accumulated is forgotten. -/
def drain (r : ClientRun) : ClientRun :=
  let bus := r.client.bus
  let world := { bus.world with application := bus.world.application.drain.1 }
  { r with
    client := { r.client with bus := { bus with world := world, journal := [] } }
    wire := { r.wire with sent := [] }
    caller := r.caller.drain
    events := [] }

end ClientRun

end Simulation
end RemoteRun
