import RemoteRun.Connection.Basic
import RemoteRun.Simulation.Clock

/-!
# A scripted transport

Lines whose fate is known beforehand, with a peer at the other end.

**Input.** A script says of each attempt to open a line how long it takes, whether it is
refused, how many texts the line takes before it fails and whether closing it fails.
When the script is used up, every attempt goes as the fallback says.

**Algorithm.** The alarm of a supervisor is the time at which its attempt ends, its next
heartbeat is due or its delay is over.  Whoever can move without the passing of time
does so before the clock moves.
-/

namespace RemoteRun
namespace Simulation

/-- What becomes of an attempt to open a line, and of the line. -/
structure Opening where
  delay : Nat := 0
  refuse : Bool := false
  takes : Option Nat := none
  closeFails : Bool := false

/-- The transport, the clock and the peer. -/
structure Wire where
  script : List Opening := []
  fallback : Opening := {}
  now : Nat := 0
  attempts : Nat := 0
  underway : List (Nat × Opening) := []
  alarms : List (Nat × Nat) := []
  lines : List Opening := []
  peer : Option Nat := none
  sent : List String := []

namespace Wire

/-- The text that stands for the closing of a line. -/
def closedMark : String := "<closed>"

/-- Set the alarm of a supervisor. -/
def setAlarm (w : Wire) (id time : Nat) : Wire :=
  { w with alarms := (id, time) :: w.alarms.filter fun a => a.1 != id }

/-- Begin an attempt to open a line. -/
def attempt (w : Wire) (id : Nat) : Wire :=
  let (opening, script) := match w.script with
    | opening :: script => (opening, script)
    | [] => (w.fallback, [])
  { w with
      script := script
      attempts := w.attempts + 1
      underway := (id, opening) :: w.underway.filter fun a => a.1 != id
    }.setAlarm id (w.now + opening.delay)

/-- A line that has taken one text. -/
def afterText (opening : Opening) : Opening :=
  { opening with takes := opening.takes.map (· - 1) }

/-- Keep a text that was written on a line. -/
def keep (w : Wire) (line : Nat) (text : String) : Wire :=
  { w with sent := w.sent ++ [text], lines := w.lines.modify line afterText }

/-- Do what a connection asks of its transport. -/
def perform (w : Wire) : Effect → Wire
  | .openLine id => w.attempt id
  | .rest id delay => w.setAlarm id (w.now + delay.ceilMillis)
  | .write line text => w.keep line text
  | .beat line => w.keep line Outbound.heartbeat.write
  | .close line =>
      match w.lines[line]? with
      | some opening => if opening.closeFails then w else { w with sent := w.sent ++ [closedMark] }
      | none => w
  | .deliver _ | .announce _ | .note _ => w

/-- What follows from a turn of a supervisor: a new line has its peer, and the next
heartbeat is due after the period. -/
def afterTurn (w : Wire) (heartbeat : Option Duration) (id : Nat) (o : Observation) : Wire :=
  let beatLater := fun (w : Wire) =>
    match heartbeat with
    | some period => w.setAlarm id (w.now + period.ceilMillis)
    | none => { w with alarms := w.alarms.filter fun a => a.1 != id }
  match o with
  | .opened =>
      beatLater { w with
        lines := w.lines ++ [(w.underway.lookup id).getD {}]
        peer := some w.lines.length }
  | .beat (.ok ()) => beatLater w
  | _ => w

/-- Whether the alarm of a supervisor is due. -/
def isDue (w : Wire) (id : Nat) : Bool :=
  (w.alarms.lookup id).any fun time => decide (time ≤ w.now)

/-- How writing one more text on a line ends. -/
def writing (w : Wire) (line : Nat) : Except TransportError Unit :=
  if (w.lines[line]?).any fun opening => opening.takes == some 0 then .error .closed
  else .ok ()

/-- What an attempt that has come to its end comes to. -/
def attemptEnd (w : Wire) (id : Nat) : Observation :=
  if ((w.underway.lookup id).getD {}).refuse then .refused (.other "connection refused")
  else .opened

/-- What a supervisor observes if it can move. -/
def observation? (w : Wire) (id : Nat) (s : Supervisor) : Option Observation :=
  if !s.isRunning then none
  else if s.stopping then some .stopped
  else
    match s.activity with
    | .starting => some .begun
    | .opening => if w.isDue id then some (w.attemptEnd id) else none
    | .pumping line [] => if w.isDue id then some (.beat (w.writing line)) else none
    | .pumping line _ => some (.written (w.writing line))
    | .delaying => if w.isDue id then some .woken else none
    | .returned | .panicked _ => none

/-- The first supervisor that can move, with what it observes. -/
def next? (w : Wire) (c : Connection) : Option (Nat × Observation) :=
  c.supervisors.zipIdx.findSome? fun (s, id) => (w.observation? id s).map fun o => (id, o)

/-- The next time at which a supervisor can move. -/
def due? (w : Wire) (c : Connection) : Option Nat :=
  firstAfter w.now ((w.alarms.filter fun a => c.isRunning a.1).map Prod.snd)

/-- The supervisor that pumps the line of the peer. -/
def pump? (w : Wire) (c : Connection) : Option Nat :=
  w.peer.bind c.pumpOf?

end Wire

end Simulation
end RemoteRun
