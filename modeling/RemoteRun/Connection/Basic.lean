import RemoteRun.Command.Outcome
import RemoteRun.Connection.State
import RemoteRun.Connection.Supervisor
import RemoteRun.Time.Backoff

/-!
# The connection

A connection that is kept up over lines that may break.

**Input.** The wishes to connect, to disconnect and to send a message, and the
observations of supervisors.

**Algorithm.** The wish to connect starts a supervisor unless one is running.  The wish
to disconnect takes it away and tells it to stop; once it has ended, the connection
settles as disconnected.  Both wishes may overlap, so that a supervisor that is to stop
and its successor exist side by side.  Each operation is a total function of the state;
what the world has to do about it is appended to `effects`, in order.  An observation
that does not fit the activity of its supervisor changes nothing.

**Results.** A message is accepted while the connection shows as connected, and joins
the queue of the line that is open.  The queue goes with the line.
-/

namespace RemoteRun

/-- What the world has to do. -/
inductive Effect where
  | openLine (supervisor : Nat)
  | rest (supervisor : Nat) (delay : Duration)
  | write (line : Nat) (text : String)
  | beat (line : Nat)
  | close (line : Nat)
  | deliver (text : String)
  | announce (event : ConnectionEvent)
  | note (notice : Notice)

namespace Effect

/-- The notice that goes to the journal. -/
def notice? : Effect → Option Notice
  | .note notice => some notice
  | _ => none

/-- The text that came over a line. -/
def frame? : Effect → Option String
  | .deliver text => some text
  | _ => none

/-- The event that listeners hear of. -/
def event? : Effect → Option ConnectionEvent
  | .announce event => some event
  | _ => none

end Effect

/-- The state of a connection.  Supervisors are numbered in the order in which they
were started, and lines in the order in which they were opened.  `held` is the
supervisor that a wish to disconnect would take away, and `leaving` are those whose end
such wishes await. -/
structure Connection where
  policy : ReconnectPolicy
  heartbeat : Option Duration
  state : ConnectionState := .idle
  outlet : Option Nat := none
  lines : Nat := 0
  supervisors : List Supervisor := []
  held : Option Nat := none
  leaving : List Nat := []
  effects : List Effect := []

namespace Connection

/-- A connection that nobody has asked for. -/
def ofPolicy (policy : ReconnectPolicy) (heartbeat : Option Duration) : Connection :=
  { policy := policy, heartbeat := heartbeat }

/-- Have something done. -/
def emit (c : Connection) (e : Effect) : Connection :=
  { c with effects := c.effects ++ [e] }

/-- Write a notice to the journal. -/
def note (c : Connection) (n : Notice) : Connection :=
  c.emit (.note n)

/-- Show a state; listeners hear of it if it is another one. -/
def reveal (c : Connection) (s : ConnectionState) : Connection :=
  if c.state = s then c else { c with state := s }.emit (.announce (.changed s))

/-- Change a supervisor. -/
def put (c : Connection) (id : Nat) (s : Supervisor) : Connection :=
  { c with supervisors := c.supervisors.set id s }

/-- Whether the supervisor with a number is running. -/
def isRunning (c : Connection) (id : Nat) : Bool :=
  match c.supervisors[id]? with
  | some s => s.isRunning
  | none => false

/-- Whether messages are accepted. -/
def isConnected (c : Connection) : Bool :=
  c.state.isConnected

/-! ### Turns of a supervisor -/

/-- Ask for a line. -/
def openLine (c : Connection) (id : Nat) (s : Supervisor) : Connection :=
  (c.put id (s.turnTo .opening)).emit (.openLine id)

/-- Begin: show that the connection is sought. -/
def start (c : Connection) (id : Nat) (s : Supervisor) : Connection :=
  let c := c.reveal ⟨.connecting, 0⟩
  if s.stopping then c.put id (s.turnTo .returned) else c.openLine id s

/-- Whether a clock can beat with a period.  The first beat is due a period after the line was
opened, and the clock is taken to show zero seconds then: on one that shows more, the longest
period is shorter by as much. -/
def canBeat (period : Duration) : Bool :=
  decide (0 < period.nanos) && decide (period.secs < Duration.clockBound)

/-- How the attempt to beat with a period that no clock can keep ends. -/
def beatPanic (heartbeat : Option Duration) : SupervisorPanic :=
  if heartbeat.any fun period => period.nanos == 0 then .noPeriod else .distantBeat

/-- Take a line into use.  A period of heartbeats that no clock can keep ends the
supervisor at once. -/
def useLine (c : Connection) (id : Nat) (s : Supervisor) : Connection :=
  let line := c.lines
  let c := { c with outlet := some line, lines := line + 1 }
  let c := c.reveal ⟨.connected, 0⟩
  if c.heartbeat.all canBeat then
    c.put id { s with activity := .pumping line [], attempt := 0 }
  else c.put id { s with activity := .panicked (beatPanic c.heartbeat), attempt := 0 }

/-- Give up: show that there is no connection and tell how many attempts there were. -/
def giveUp (c : Connection) (id : Nat) (s : Supervisor) (attempts : Nat) : Connection :=
  let c := c.note (.error "reconnect attempts exhausted" [("attempts", .ofNat attempts)])
  let c := c.reveal .idle
  (c.emit (.announce (.reconnectFailed attempts))).put id (s.turnTo .returned)

/-- Schedule another attempt, or give up.  A machine draws the sample that moves the delay;
here it is always the one half that leaves the delay as it is. -/
def retry (c : Connection) (id : Nat) (s : Supervisor) : Connection :=
  let attempt := Supervisor.nextAttempt s.attempt
  let s := { s with attempt := attempt }
  if c.policy.exhausted attempt then c.giveUp id s (attempt - 1)
  else
    let c := c.reveal ⟨.reconnecting, attempt⟩
    match c.policy.delay? attempt 0.5 with
    | some delay => (c.put id (s.turnTo .delaying)).emit (.rest id delay)
    | none => c.put id (s.turnTo (.panicked .distantDelay))

/-- Go on after a refused line. -/
def refuse (c : Connection) (id : Nat) (s : Supervisor) (e : TransportError) : Connection :=
  let c := c.note (.warn "connection attempt failed"
    [("attempt", .ofNat s.attempt), ("error", .str e.message)])
  c.retry id s

/-- Go on after the loss of a line. -/
def lose (c : Connection) (id : Nat) (s : Supervisor) (reason : String) : Connection :=
  let c := { c with outlet := none }
  (c.note (.warn "connection lost" [("reason", .str reason)])).retry id s

/-- Stop in front of an open line: it is closed. -/
def closeLine (c : Connection) (id : Nat) (s : Supervisor) (line : Nat) : Connection :=
  { c.emit (.close line) with outlet := none }.put id (s.turnTo .returned)

/-- Write the first text of the queue, if there is one. -/
def writeNext (c : Connection) (id : Nat) (s : Supervisor) (line : Nat)
    (result : Except TransportError Unit) : List String → Connection
  | [] => c
  | text :: queue =>
      match result with
      | .ok () => (c.emit (.write line text)).put id (s.turnTo (.pumping line queue))
      | .error e => c.lose id s e.message

/-- Write a heartbeat. -/
def writeBeat (c : Connection) (id : Nat) (s : Supervisor) (line : Nat) :
    Except TransportError Unit → Connection
  | .ok () => c.emit (.beat line)
  | .error e => c.lose id s e.message

/-- The turn in which a supervisor stops. -/
def stop (c : Connection) (id : Nat) (s : Supervisor) : Connection :=
  match s.activity with
  | .starting => c.start id s
  | .opening | .delaying => c.put id (s.turnTo .returned)
  | .pumping line _ => c.closeLine id s line
  | .returned | .panicked _ => c

/-- The turn of a supervisor that goes on. -/
def observe (c : Connection) (id : Nat) (s : Supervisor) (o : Observation) : Connection :=
  match s.activity, o with
  | .starting, .begun => c.start id s
  | .opening, .opened => c.useLine id s
  | .opening, .refused e => c.refuse id s e
  | .pumping _ _, .received text => c.emit (.deliver text)
  | .pumping _ _, .broken e => c.lose id s e.message
  | .pumping _ _, .closedByPeer => c.lose id s "closed by peer"
  | .pumping line queue, .written result => c.writeNext id s line result queue
  | .pumping line _, .beat result => c.writeBeat id s line result
  | .delaying, .woken => c.openLine id s
  | _, _ => c

/-- A turn of the supervisor with a number.  One that is to stop may be at a write, which
ends before it stops. -/
def turn (c : Connection) (id : Nat) (o : Observation) : Connection :=
  match c.supervisors[id]? with
  | none => c
  | some s =>
      if s.stopping then
        match o with
        | .stopped => c.stop id s
        | .written _ | .beat _ => c.observe id s o
        | _ => c
      else c.observe id s o

/-! ### Wishes -/

/-- Start a supervisor unless one is running. -/
def connect (c : Connection) : Connection :=
  if c.held.any c.isRunning then c
  else
    { c with
      supervisors := c.supervisors ++ [{}]
      held := some c.supervisors.length }

/-- Settle as disconnected. -/
def settle (c : Connection) : Connection :=
  { c with outlet := none }.reveal .idle

/-- Take the supervisor away and tell it to stop. -/
def disconnect (c : Connection) : Connection :=
  match c.held with
  | none => c.settle
  | some id =>
      { c with
        held := none
        leaving := c.leaving ++ [id]
        supervisors := c.supervisors.modify id fun s => { s with stopping := true } }

/-- What is noted of a supervisor that ended in a panic; the number of its task is left out. -/
def panicNotice (cause : SupervisorPanic) : Notice :=
  .warn "connection supervisor ended abnormally"
    [("error", .str ("task panicked with message \"" ++ cause.message ++ "\""))]

/-- Complete the wish to disconnect that awaits the end of a supervisor. -/
def finishDisconnect (c : Connection) (id : Nat) : Connection :=
  if c.leaving.contains id && !c.isRunning id then
    let c := { c with leaving := c.leaving.erase id }
    match (c.supervisors[id]?).map Supervisor.activity with
    | some (.panicked cause) => (c.note (panicNotice cause)).settle
    | _ => c.settle
  else c

/-! ### Messages -/

/-- The supervisor that pumps a line. -/
def pumpOf? (c : Connection) (line : Nat) : Option Nat :=
  c.supervisors.findIdx? fun s => s.activity.line? == some line

/-- Append a text to the queue of a pump. -/
def enqueue (text : String) (s : Supervisor) : Supervisor :=
  match s.activity with
  | .pumping line queue => s.turnTo (.pumping line (queue ++ [text]))
  | _ => s

/-- Refuse a message and note why. -/
def drop (c : Connection) (kind : String) (notice : Notice) :
    Connection × Except ConnectionError Unit :=
  (c.note notice, .error (.notConnected kind))

/-- Accept a message for the open line, or refuse it. -/
def send : Sink Connection := fun message c =>
  let kind := message.kind
  match c.outlet, c.isConnected with
  | some line, true =>
      match c.pumpOf? line with
      | some id =>
          ({ c with supervisors := c.supervisors.modify id (enqueue message.write) }, .ok ())
      | none =>
          c.drop kind (.warn "transport writer gone; outbound message dropped"
            [("kind", .str kind)])
  | _, _ =>
      c.drop kind (.warn "not connected; outbound message dropped"
        [("kind", .str kind), ("phase", .str c.state.phase.word)])

end Connection

end RemoteRun
