import RemoteRun.Time.Duration

/-!
# Growing delays

How long to wait before trying again.

**Arithmetic.** Delays are computed with doubles: the initial delay in seconds
times a power of the multiplier, which counts as one when it is smaller.  Powers
are taken by repeated squaring and stop growing at the thirty-third attempt.  Of
two numbers one of which is a NaN, the lesser and the greater are the other one.

**Results.** A delay is never longer than its limit.  There is none when the limit
itself is no duration after rounding to a double.
-/

namespace RemoteRun

namespace Backoff

/-- The lesser of two doubles; the other one of a NaN. -/
def lesser (a b : Float) : Float :=
  if a.isNaN then b else if b.isNaN then a else if a < b then a else b

/-- The greater of two doubles; the other one of a NaN. -/
def greater (a b : Float) : Float :=
  if a.isNaN then b else if b.isNaN then a else if a > b then a else b

/-- A double brought into the range from zero to one; a NaN stays. -/
def toUnit (x : Float) : Float :=
  if x < 0 then 0 else if x > 1 then 1 else x

/-- The loop of the power: `product` times `base` to the `exponent`, for at most
`steps` binary digits. -/
def powerFrom (product base : Float) (exponent : Nat) : Nat → Float
  | 0 => product
  | steps + 1 =>
      let product := if exponent % 2 = 1 then product * base else product
      if exponent / 2 = 0 then product
      else powerFrom product (base * base) (exponent / 2) steps

/-- The power of a double by repeated squaring, for exponents below 64. -/
def power (base : Float) (exponent : Nat) : Float :=
  powerFrom 1.0 base exponent 6

/-- The greatest exponent. -/
def exponentLimit : Nat := 32

/-- The delay in seconds before an attempt, counted from one, without a limit. -/
def grown (initial : Duration) (multiplier : Float) (attempt : Nat) : Float :=
  initial.toSeconds * power (greater multiplier 1.0) (min (attempt - 1) exponentLimit)

end Backoff

/-- How a lost connection is opened again. -/
structure ReconnectPolicy where
  initialDelay : Duration := .ofSecs 1
  maxDelay : Duration := .ofSecs 30
  multiplier : Float := 2.0
  jitter : Float := 0.25
  maxAttempts : Option Nat := none

namespace ReconnectPolicy

/-- Whether an attempt, counted from one, is one too many. -/
def exhausted (p : ReconnectPolicy) (attempt : Nat) : Bool :=
  match p.maxAttempts with
  | some most => decide (most < attempt)
  | none => false

/-- The delay before an attempt, counted from one.  A sample of one half leaves the
delay as it is; the jitter says by which part other samples move it. -/
def delay? (p : ReconnectPolicy) (attempt : Nat) (sample : Float) : Option Duration :=
  let limit := p.maxDelay.toSeconds
  let capped := Backoff.lesser (Backoff.grown p.initialDelay p.multiplier attempt) limit
  let factor := 1.0 + Backoff.toUnit p.jitter * (Backoff.toUnit sample * 2.0 - 1.0)
  let moved := Backoff.lesser (capped * factor) limit
  Duration.ofSeconds? (Backoff.greater moved 0.0)

end ReconnectPolicy

/-- How a failed call is repeated. -/
structure RetryPolicy where
  maxRetries : Nat := 3
  initialDelay : Duration := .ofMillis 250
  maxDelay : Duration := .ofSecs 5
  multiplier : Float := 2.0

namespace RetryPolicy

/-- The policy that never repeats a call. -/
def never : RetryPolicy := { maxRetries := 0 }

/-- The delay before a repetition, counted from one. -/
def delay? (p : RetryPolicy) (retry : Nat) : Option Duration :=
  Duration.ofSeconds?
    (Backoff.lesser (Backoff.grown p.initialDelay p.multiplier retry) p.maxDelay.toSeconds)

end RetryPolicy

end RemoteRun
