import RemoteRun.Failure
import RemoteRun.Word

/-!
# Supervisors

A supervisor opens lines to the engine one after the other, as long as the policy
allows, and moves texts in both directions while a line is open.

**Input.** What a supervisor observes in its turns: the answer of the transport to its
wish for a line, what comes over the line, how its writing ended, the passing of time
and the wish that it stops.

**Results.** A supervisor that has returned or panicked takes no further turn.  One that
is to stop ends the write that it is at, and takes the turn in which it stops.
-/

namespace RemoteRun

/-- Why a supervisor panics: its heartbeats have no period, the first one is due later than a
clock can show, or no duration can hold the delay before an attempt. -/
inductive SupervisorPanic where
  | noPeriod
  | distantBeat
  | distantDelay
deriving DecidableEq

/-- The text of a panic. -/
def SupervisorPanic.message : SupervisorPanic → String
  | .noPeriod => "`period` must be non-zero."
  | .distantBeat => "overflow when adding duration to instant"
  | .distantDelay => "cannot convert float seconds to Duration: value is either too big or NaN"

/-- What a supervisor is at. -/
inductive Activity where
  | starting
  | opening
  | pumping (line : Nat) (queue : List String)
  | delaying
  | returned
  | panicked (cause : SupervisorPanic)
deriving DecidableEq

/-- A supervisor: its activity, the attempts since a line was open, and whether it is
to stop. -/
structure Supervisor where
  activity : Activity := .starting
  attempt : Nat := 0
  stopping : Bool := false
deriving DecidableEq

/-- What a supervisor observes in one turn. -/
inductive Observation where
  | begun
  | stopped
  | opened
  | refused (e : TransportError)
  | received (text : String)
  | broken (e : TransportError)
  | closedByPeer
  | written (result : Except TransportError Unit)
  | beat (result : Except TransportError Unit)
  | woken

namespace Activity

/-- Whether nothing follows. -/
def isOver : Activity → Bool
  | .returned | .panicked _ => true
  | _ => false

/-- The line that is open. -/
def line? : Activity → Option Nat
  | .pumping line _ => some line
  | _ => none

end Activity

namespace Supervisor

/-- Whether a supervisor takes further turns. -/
def isRunning (s : Supervisor) : Bool :=
  !s.activity.isOver

/-- A supervisor at another activity. -/
def turnTo (s : Supervisor) (activity : Activity) : Supervisor :=
  { s with activity := activity }

/-- Number of attempts at which the count stays. -/
def attemptLimit : Nat := Word.bound32 - 1

/-- The count after another attempt. -/
def nextAttempt (attempt : Nat) : Nat :=
  min (attempt + 1) attemptLimit

end Supervisor

end RemoteRun
