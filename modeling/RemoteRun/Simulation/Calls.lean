import RemoteRun.Command.Retry

/-!
# Scripted calls

Repeated calls on a simulated clock.

**Input.** A script of outcomes, each after a delay in milliseconds, and a time at
which the caller may abort.  An attempt takes the entry of its number, or the last
one.

**Algorithm.** Time only passes in calls and in delays between them.  An abort wins
over everything that happens at the same time, and it is looked at after a call has
been made.  A delay that is no whole number of milliseconds ends at the next one.
-/

namespace RemoteRun
namespace Simulation

/-- An entry of a script. -/
structure ScriptedCall (α : Type) where
  delay : Nat
  outcome : Except CallError α

/-- What happened: the calls with their times, the result and the time it came. -/
structure CallRun (α : Type) where
  attempts : List (Nat × Nat)
  result : Except CallError (Retried α)
  finished : Nat

namespace CallRun

/-- A run that an abort ends. -/
def aborted {α : Type} (attempts : List (Nat × Nat)) (time : Nat) : CallRun α :=
  ⟨attempts, .error .aborted, time⟩

/-- A call in front of a run. -/
def after {α : Type} (attempt : Nat × Nat) (r : CallRun α) : CallRun α :=
  { r with attempts := attempt :: r.attempts }

/-- Whether an abort comes no later than a time. -/
def abortedBy (abortAt : Option Nat) (time : Nat) : Option Nat :=
  abortAt.filter fun t => decide (t ≤ time)

/-- The entry of an attempt: the one of its number, or the last one. -/
def entryOf {α : Type} (script : List (ScriptedCall α)) (attempt : Nat) : ScriptedCall α :=
  match script[attempt]?.or script.getLast? with
  | some entry => entry
  | none => ⟨0, .error .aborted⟩

/-- Calls from a time and a number of failures on. -/
def rehearseFrom {α : Type} (p : RetryPolicy) (script : List (ScriptedCall α))
    (abortAt : Option Nat) : Nat → Nat → Nat → CallRun α
  | 0, retries, now => aborted [(retries, now)] now
  | budget + 1, retries, now =>
      let entry := entryOf script retries
      let done := now + entry.delay
      match abortedBy abortAt done with
      | some t => aborted [(retries, now)] (max t now)
      | none =>
          match Retry.decide p retries entry.outcome with
          | .finish result => ⟨[(retries, now)], result, done⟩
          | .wait delay =>
              let next := done + delay.ceilMillis
              match abortedBy abortAt next with
              | some t => aborted [(retries, now)] t
              | none =>
                  after (retries, now) (rehearseFrom p script abortAt budget (retries + 1) next)

/-- Calls from the beginning. -/
def rehearse {α : Type} (p : RetryPolicy) (script : List (ScriptedCall α))
    (abortAt : Option Nat) : CallRun α :=
  rehearseFrom p script abortAt (p.maxRetries + 1) 0 0

end CallRun

end Simulation
end RemoteRun
