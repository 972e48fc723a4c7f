import RemoteRun.Prompt

/-!
# A recording sink

A sink that keeps the texts of the messages it takes, and takes none while it is not
connected.
-/

namespace RemoteRun
namespace Simulation

/-- Whether messages are taken, and the texts of those that were. -/
structure Recorder where
  connected : Bool := true
  sent : List String := []

namespace Recorder

/-- Take a message. -/
def send : Sink Recorder := fun message r =>
  if r.connected then ({ r with sent := r.sent ++ [message.write] }, .ok ())
  else (r, .error (.notConnected message.kind))

/-- The texts, and the recorder without them. -/
def drain (r : Recorder) : Recorder × List String :=
  ({ r with sent := [] }, r.sent)

end Recorder

/-- A prompt slot over a recording sink, and the time. -/
structure PromptRehearsal where
  slot : PromptSlot := {}
  sink : Recorder := {}
  now : Nat := 0

namespace PromptRehearsal

/-- Take the prompt of a message. -/
def handle (s : PromptRehearsal) (message : Message) (tracked : Option String) :
    PromptRehearsal × Except ProtocolError Unit :=
  match PromptSlot.requested message tracked s.now with
  | .ok p => ({ s with slot := s.slot.activate p }, .ok ())
  | .error e => (s, .error e)

/-- Ask for the active prompt. -/
def current (s : PromptRehearsal) : PromptRehearsal × Except DeadlineOverflow (Option Prompt) :=
  match s.slot.current s.now with
  | .ok (slot, p) => ({ s with slot := slot }, .ok p)
  | .error e => (s, .error e)

/-- Answer a node. -/
def respond (s : PromptRehearsal) (nodeId response : String) (tracked : Option String) :
    PromptRehearsal × CommandOutcome :=
  let (sink, slot, outcome) := s.slot.respond Recorder.send s.sink nodeId response tracked
  ({ s with sink := sink, slot := slot }, outcome)

/-- Cancel the active prompt. -/
def cancel (s : PromptRehearsal) (tracked : Option String) :
    PromptRehearsal × Except DeadlineOverflow CommandOutcome :=
  match s.slot.cancel Recorder.send s.sink s.now tracked with
  | .ok (sink, slot, outcome) => ({ s with sink := sink, slot := slot }, .ok outcome)
  | .error e => (s, .error e)

end PromptRehearsal

end Simulation
end RemoteRun
