import RemoteRun.Command.Desk
import RemoteRun.Http.Exchange
import RemoteRun.Simulation.Calls
import RemoteRun.Simulation.Clock

/-!
# Scripted requests

The world around the requests of a desk.

**Input.** A script of calls: each call takes the next entry, and the fallback when
there is none.

**Algorithm.** The alarm of a request is the time at which its call ends, its pause is
over or its wait has lasted too long.
-/

namespace RemoteRun
namespace Simulation

/-- A request that is over: its label, its result and the time. -/
structure RequestEnd where
  label : String
  result : Except Failure Receipt
  time : Nat

/-- The calls to come, those that were made, and the labels of the requests.
`notesFailures` says whether a call notes its own failure. -/
structure Caller where
  notesFailures : Bool := false
  script : List (ScriptedCall CallFrames) := []
  fallback : ScriptedCall CallFrames := ⟨0, .ok []⟩
  underway : List (Nat × Except CallError CallFrames) := []
  alarms : List (Nat × Nat) := []
  labels : List String := []
  made : List String := []
  ended : List RequestEnd := []

namespace Caller

/-- Calls to an address at which nobody answers. -/
def ofReply (reply : Http.Reply) : Caller :=
  { notesFailures := true, fallback := ⟨0, reply.outcome⟩ }

/-- What a call notes of its own failure. -/
def notices (k : Caller) : RequestObservation → List Notice
  | .answered (.error e) => if k.notesFailures then [.returned e.message] else []
  | _ => []

/-- Set the alarm of a request. -/
def setAlarm (k : Caller) (id time : Nat) : Caller :=
  { k with alarms := (id, time) :: k.alarms.filter fun a => a.1 != id }

/-- Make a call. -/
def call (k : Caller) (now id : Nat) (message : Outbound) : Caller :=
  let (entry, script) := match k.script with
    | entry :: script => (entry, script)
    | [] => (k.fallback, [])
  { k with
      script := script
      underway := (id, entry.outcome) :: k.underway.filter fun u => u.1 != id
      made := k.made ++ [message.write]
    }.setAlarm id (now + entry.delay)

/-- Do what a request asks for. -/
def perform (k : Caller) (now id : Nat) : RequestEffect → Caller
  | .call message => k.call now id message
  | .rest delay => k.setAlarm id (now + delay.ceilMillis)
  | .forward _ | .note _ => k

/-- Whether the alarm of a request is due. -/
def isDue (k : Caller) (now id : Nat) : Bool :=
  (k.alarms.lookup id).any fun time => decide (time ≤ now)

/-- What a request observes if it can move; `waiting` is what it observes while it waits
for a connection. -/
def observation? (k : Caller) (now id : Nat) (r : Request)
    (waiting : Option RequestObservation) : Option RequestObservation :=
  if r.cancelled then (if r.inFlight then some .cancelled else none)
  else
    match r.stage with
    | .waiting => waiting
    | .calling _ =>
        if k.isDue now id then some (.answered ((k.underway.lookup id).getD (.ok []))) else none
    | .pausing _ => if k.isDue now id then some .woken else none
    | .returned _ => none

/-- The first request that can move, with what it observes. -/
def next? (k : Caller) (now : Nat) (requests : List Request)
    (waiting : Nat → Option RequestObservation) : Option (Nat × RequestObservation) :=
  requests.zipIdx.findSome? fun (r, id) =>
    (k.observation? now id r (waiting id)).map fun o => (id, o)

/-- The next time at which a request can move. -/
def due? (k : Caller) (now : Nat) (requests : List Request) : Option Nat :=
  let pending := fun (id : Nat) => (requests[id]?).any Request.inFlight
  firstAfter now ((k.alarms.filter fun a => pending a.1).map Prod.snd)

/-- Keep the result of a request that has returned. -/
def close (k : Caller) (now id : Nat) (r : Option Request) : Caller :=
  match r.bind Request.result? with
  | none => k
  | some result =>
      { k with ended := k.ended ++ [⟨(k.labels[id]?).getD "", result, now⟩] }

/-- What has accumulated is forgotten. -/
def drain (k : Caller) : Caller :=
  { k with made := [], ended := [] }

end Caller

end Simulation
end RemoteRun
