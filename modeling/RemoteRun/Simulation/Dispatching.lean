import RemoteRun.Simulation.Caller
import RemoteRun.Simulation.Recorder

/-!
# Rehearsing commands

A desk over a recording sink, with scripted calls.

**Algorithm.** Waiting for the sink is over at once when it is connected; otherwise the
whole limit passes before it is looked at again.  Frames that follow a call are kept
until nobody takes them any more.
-/

namespace RemoteRun
namespace Simulation

/-- A desk and all around it. -/
structure Dispatching where
  desk : Desk Recorder
  delivery : Delivery
  caller : Caller := {}
  now : Nat := 0
  frames : Option (List String) := some []

namespace Dispatching

/-- The moment on the clock. -/
def moment (d : Dispatching) : Moment := ⟨d.now, ⟨0, 0⟩⟩

/-- Do what a request asks for. -/
def perform (id : Nat) (d : Dispatching) (e : RequestEffect) : Dispatching :=
  match e with
  | .forward frames => { d with frames := d.frames.map (· ++ frames.accepted) }
  | e => { d with caller := d.caller.perform d.now id e }

/-- What a waiting request observes when its alarm is due. -/
def waiting (d : Dispatching) (id : Nat) : Option RequestObservation :=
  if d.caller.isDue d.now id then
    some (if d.desk.sink.connected then .connected else .timedOut)
  else none

/-- One move, if a request can move. -/
def step? (d : Dispatching) : Option Dispatching :=
  (d.caller.next? d.now d.desk.requests d.waiting).map fun (id, o) =>
    let (desk, effects) := d.desk.turn Recorder.send d.delivery id o
    let d := effects.foldl (perform id) { d with desk := desk }
    { d with caller := d.caller.close d.now id (desk.requests[id]?) }

/-- Let everything happen that needs no time. -/
def settle (d : Dispatching) : Dispatching :=
  settleWith step? settleLimit d

/-- The next time at which a request can move. -/
def due? (d : Dispatching) : Option Nat :=
  d.caller.due? d.now d.desk.requests

/-- Set the clock and let everything happen that needs no more time. -/
def moveTo (time : Nat) (d : Dispatching) : Dispatching :=
  settle { d with now := time }

/-- Let time pass. -/
def advance (d : Dispatching) (millis : Nat) : Dispatching :=
  passTo due? moveTo (d.now + millis) (millis + 1) d

/-- Start a request beside what follows. -/
def execute (d : Dispatching) (label : String) (diagram : Except DiagramError Json)
    (options : ExecuteOptions) : Dispatching :=
  let id := d.desk.requests.length
  match d.desk.execute d.moment d.delivery diagram options with
  | (desk, .error e) =>
      { d with
        desk := desk
        caller := { d.caller with
          ended := d.caller.ended ++ [⟨label, .error (.diagram e), d.now⟩] } }
  | (desk, .ok effects) =>
      let d := { d with
        desk := desk
        caller := { d.caller with labels := d.caller.labels ++ [label] } }
      let d := effects.foldl (perform id) d
      let d := if desk.sink.connected && d.delivery.path == .connection then
          { d with caller := d.caller.setAlarm id d.now }
        else d
      d.settle

/-- Give a command. -/
def give (d : Dispatching) (c : Command) :
    Except DeadlineOverflow (Dispatching × CommandOutcome) :=
  match d.desk.give Recorder.send d.moment c with
  | .error e => .error e
  | .ok (desk, outcome) => .ok (settle { d with desk := desk }, outcome)

/-- Apply a message to the execution. -/
def apply (d : Dispatching) (m : Message) : Dispatching × Except ProtocolError Unit :=
  let (machine, result) := d.desk.session.machine.apply d.moment.date m
  ({ d with desk := { d.desk with session := { d.desk.session with machine := machine } } },
    result.map fun _ => ())

/-- Make the prompt of a message the active one. -/
def openPrompt (d : Dispatching) (m : Message) : Dispatching × Except ProtocolError Unit :=
  match PromptSlot.requested m d.desk.target? d.now with
  | .error e => (d, .error e)
  | .ok p =>
      let session := d.desk.session
      let session := { session with prompts := session.prompts.activate p }
      ({ d with desk := { d.desk with session := session } }, .ok ())

/-- Ask for the active prompt. -/
def prompt (d : Dispatching) : Dispatching × Except DeadlineOverflow (Option Prompt) :=
  match d.desk.prompt d.moment with
  | .error e => (d, .error e)
  | .ok (desk, p) => ({ d with desk := desk }, .ok p)

/-- What has accumulated is forgotten. -/
def drain (d : Dispatching) : Dispatching :=
  { d with
    desk := { d.desk with sink := d.desk.sink.drain.1 }
    caller := d.caller.drain
    frames := d.frames.map fun _ => [] }

end Dispatching

end Simulation
end RemoteRun
