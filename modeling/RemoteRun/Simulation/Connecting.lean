import RemoteRun.Router.Registry
import RemoteRun.Simulation.Wire

/-!
# Rehearsing a connection

A connection over a scripted transport, with listeners and with callers that wait for
it.

**Algorithm.** After each operation every supervisor that can move does so, and then
those who wait are told: that there is a connection, or that their limit has passed.
-/

namespace RemoteRun
namespace Simulation

/-- A listener with a label; it may panic after it has written to the log. -/
structure Listener where
  label : String
  panics : Bool

/-- A caller that waits for a connection. -/
structure Wait where
  label : String
  limit : Duration
  deadline : Nat

/-- A wait that is over, with its result and the time. -/
structure WaitEnd where
  label : String
  result : Except ConnectionError Unit
  time : Nat

/-- A connection and all around it. -/
structure Connecting where
  connection : Connection
  wire : Wire
  listeners : Registry Listener := {}
  tokens : List Subscription := []
  events : List (String × ConnectionEvent) := []
  frames : List String := []
  waits : List Wait := []
  ended : List WaitEnd := []
  journal : List Notice := []

namespace Connecting

/-- Tell the listeners of an event. -/
def announce (r : Connecting) (e : ConnectionEvent) : Connecting :=
  let heard := r.listeners.listeners
  { r with
    events := r.events ++ heard.map fun l => (l.label, e)
    journal := r.journal ++
      (heard.filter (·.panics)).map fun _ => ConnectionEvent.panicNotice }

/-- Do what the connection asks for. -/
def perform (r : Connecting) (e : Effect) : Connecting :=
  match e with
  | .deliver text => { r with frames := r.frames ++ [text] }
  | .announce event => r.announce event
  | .note notice => { r with journal := r.journal ++ [notice] }
  | e => { r with wire := r.wire.perform e }

/-- Change the connection and do what it asks for. -/
def change (r : Connecting) (f : Connection → Connection) : Connecting :=
  let c := f r.connection
  c.effects.foldl perform { r with connection := { c with effects := [] } }

/-- A turn of a supervisor. -/
def turn (r : Connecting) (id : Nat) (o : Observation) : Connecting :=
  let r := r.change fun c => c.turn id o
  { r with wire := r.wire.afterTurn r.connection.heartbeat id o }

/-- One move, if somebody can move. -/
def step? (r : Connecting) : Option Connecting :=
  match r.wire.next? r.connection with
  | some (id, o) => some (r.turn id o)
  | none =>
      (r.connection.leaving.find? fun id => !r.connection.isRunning id).map fun id =>
        r.change fun c => c.finishDisconnect id

/-- What a wait comes to, if it is over. -/
def waitEnd? (r : Connecting) (w : Wait) : Option WaitEnd :=
  if r.connection.isConnected then some ⟨w.label, .ok (), r.wire.now⟩
  else if w.deadline ≤ r.wire.now then
    some ⟨w.label, .error (.waitTimeout w.limit), r.wire.now⟩
  else none

/-- What is noted of a wait that is over. -/
def waitNotices (e : WaitEnd) : List Notice :=
  match e.result with
  | .ok () => []
  | .error cause => [.returned cause.message]

/-- Tell those who wait. -/
def endWaits (r : Connecting) : Connecting :=
  let finished := r.waits.filterMap r.waitEnd?
  { r with
    waits := r.waits.filter fun w => (r.waitEnd? w).isNone
    ended := r.ended ++ finished
    journal := r.journal ++ finished.flatMap waitNotices }

/-- Let everything happen that needs no time. -/
def settle (r : Connecting) : Connecting :=
  (settleWith step? settleLimit r).endWaits

/-- The next time at which something can happen. -/
def due? (r : Connecting) : Option Nat :=
  earlier (r.wire.due? r.connection) (firstAfter r.wire.now (r.waits.map (·.deadline)))

/-- Set the clock and let everything happen that needs no more time. -/
def moveTo (time : Nat) (r : Connecting) : Connecting :=
  settle { r with wire := { r.wire with now := time } }

/-! ### Operations -/

/-- Ask for a connection. -/
def connect (r : Connecting) : Connecting :=
  (r.change Connection.connect).settle

/-- Disconnect, and await the end of it. -/
def disconnect (r : Connecting) : Connecting :=
  (r.change Connection.disconnect).settle

/-- Send a message. -/
def send (r : Connecting) (m : Outbound) : Connecting × Except ConnectionError Unit :=
  let (c, result) := Connection.send m r.connection
  ((r.change fun _ => c).settle, result)

/-- Wait for a connection beside what follows. -/
def wait (r : Connecting) (label : String) (millis : Nat) : Connecting :=
  settle { r with waits := r.waits ++ [⟨label, .ofMillis millis, r.wire.now + millis⟩] }

/-- Register a listener; its id. -/
def listen (r : Connecting) (l : Listener) : Connecting × Nat :=
  let (listeners, token) := r.listeners.insert l
  ({ r with listeners := listeners, tokens := r.tokens ++ [token] }, token.id)

/-- End the subscription with a number; whether this removed a listener, and nothing
for a number that no subscription has. -/
def unlisten (r : Connecting) (index : Nat) : Connecting × Option Bool :=
  match r.tokens[index]? with
  | none => (r, none)
  | some token =>
      let (listeners, token, removed) := r.listeners.unsubscribe token
      ({ r with listeners := listeners, tokens := r.tokens.set index token }, some removed)

/-- Have the peer do something; whether the line was still open. -/
def fromPeer (r : Connecting) (observations : List Observation) : Connecting × Bool :=
  match r.wire.pump? r.connection with
  | none => (r, observations.isEmpty && r.wire.peer.isSome)
  | some id => ((observations.foldl (fun r o => r.turn id o) r).settle, true)

/-- Texts of the peer; whether the line took them all. -/
def peerSend (r : Connecting) (texts : List String) : Connecting × Bool :=
  r.fromPeer (texts.map .received)

/-- An error of the line; whether the line was open. -/
def peerError (r : Connecting) (text : String) : Connecting × Bool :=
  r.fromPeer [.broken (.other text)]

/-- The peer goes; whether there was one. -/
def peerClose (r : Connecting) : Connecting × Bool :=
  let (gone, _) := r.fromPeer [.closedByPeer]
  ({ gone with wire := { gone.wire with peer := none } }, r.wire.peer.isSome)

/-- Let time pass. -/
def advance (r : Connecting) (millis : Nat) : Connecting :=
  passTo due? moveTo (r.wire.now + millis) (millis + 1) r

/-- What has accumulated, and the state without it. -/
def drain (r : Connecting) : Connecting :=
  { r with
    events := []
    frames := []
    ended := []
    journal := []
    wire := { r.wire with sent := [] } }

end Connecting

end Simulation
end RemoteRun
