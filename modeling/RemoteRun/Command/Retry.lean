import RemoteRun.Failure
import RemoteRun.Notice
import RemoteRun.Time.Backoff

/-!
# Repeated calls

How often a call that may fail is made.

**Algorithm.** A transient failure is answered by a delay and another call as long as
the policy allows one; a success and every other failure end the loop.

**Results.** `Retry.decide` is the decision after one call.  `Retry.run` makes calls
one after the other: the outcomes come from a function of the attempt number, and the
calls and delays are returned in order.
-/

namespace RemoteRun

/-- A value and the number of calls that failed before it. -/
structure Retried (α : Type) where
  value : α
  retries : Nat

namespace Retry

/-- What follows the outcome of a call. -/
inductive Decision (α : Type) where
  | finish (result : Except CallError (Retried α))
  | wait (delay : Duration)

/-- The delay before a repetition.  A machine panics over a delay that no duration can hold;
here such a delay lasts longest, so that the function is total.  Policies whose delays all
exist never come to that. -/
def delayOf (p : RetryPolicy) (retry : Nat) : Duration :=
  (p.delay? retry).getD .longest

/-- Whether a failure is answered by another call. -/
def repeats (p : RetryPolicy) (retries : Nat) (e : CallError) : Bool :=
  e.isTransient && decide (retries < p.maxRetries)

/-- What follows the outcome of the call that was made after `retries` failures. -/
def decide {α : Type} (p : RetryPolicy) (retries : Nat) (outcome : Except CallError α) :
    Decision α :=
  match outcome with
  | .ok value => .finish (.ok ⟨value, retries⟩)
  | .error e =>
      if repeats p retries e then .wait (delayOf p (retries + 1)) else .finish (.error e)

/-- What is noted of a call that failed. -/
def notices (p : RetryPolicy) (retries : Nat) (e : CallError) : List Notice :=
  if repeats p retries e then
    [.warn "transient call failure; retrying"
      [("retry", .ofNat (retries + 1)), ("max_retries", .ofNat p.maxRetries),
       ("delay_ms", .ofNat (delayOf p (retries + 1)).millis), ("error", .str e.message)]]
  else if e.isTransient then
    [.warn "retry budget exhausted" [("retries", .ofNat retries), ("error", .str e.message)]]
  else []

/-- A step of a run. -/
inductive Step where
  | call (attempt : Nat)
  | sleep (delay : Duration)

/-- Calls from a number of failures on; `budget` is the number of repetitions that
are left. -/
def runFrom {α : Type} (p : RetryPolicy) (outcome : Nat → Except CallError α) :
    Nat → Nat → List Step × Except CallError (Retried α)
  | 0, retries =>
      match outcome retries with
      | .ok value => ([.call retries], .ok ⟨value, retries⟩)
      | .error e => ([.call retries], .error e)
  | budget + 1, retries =>
      match decide p retries (outcome retries) with
      | .finish result => ([.call retries], result)
      | .wait delay =>
          let (steps, result) := runFrom p outcome budget (retries + 1)
          (.call retries :: .sleep delay :: steps, result)

/-- Calls that nothing aborts. -/
def run {α : Type} (p : RetryPolicy) (outcome : Nat → Except CallError α) :
    List Step × Except CallError (Retried α) :=
  runFrom p outcome p.maxRetries 0

end Retry

end RemoteRun
