import RemoteRun.Decimal.Fixed

/-!
# Durations

Lengths of time in whole nanoseconds.

**Results.** The text of a duration uses the largest of the units second,
millisecond, microsecond and nanosecond that gives a whole part, with the
decimals it needs and no trailing zeros.  A number of seconds given as a double
is rounded to the nearest nanosecond, ties to even.
-/

namespace RemoteRun

/-- A length of time. -/
structure Duration where
  nanos : Nat
deriving DecidableEq, Inhabited

namespace Duration

/-- Nanoseconds of a second. -/
def perSecond : Nat := 1000000000

/-- Nanoseconds of a millisecond. -/
def perMilli : Nat := 1000000

/-- First number of seconds that no duration has. -/
def secondsBound : Nat := Word.bound64

/-- First number of seconds that a clock cannot show.  A reading of the clock counts from
the moment at which it showed zero. -/
def clockBound : Nat := Word.bound63

/-- The longest duration. -/
def longest : Duration := ⟨secondsBound * perSecond - 1⟩

/-- A duration of seconds and nanoseconds. -/
def ofParts (seconds nanos : Nat) : Duration :=
  ⟨seconds * perSecond + nanos⟩

/-- A duration of whole seconds. -/
def ofSecs (seconds : Nat) : Duration :=
  ofParts seconds 0

/-- A duration of whole milliseconds. -/
def ofMillis (millis : Nat) : Duration :=
  ⟨millis * perMilli⟩

/-- The whole seconds. -/
def secs (d : Duration) : Nat := d.nanos / perSecond

/-- The nanoseconds beyond the whole seconds. -/
def subsecNanos (d : Duration) : Nat := d.nanos % perSecond

/-- Whole milliseconds, rounded down. -/
def millis (d : Duration) : Nat := d.nanos / perMilli

/-- Whole milliseconds, rounded up. -/
def ceilMillis (d : Duration) : Nat := (d.nanos + (perMilli - 1)) / perMilli

/-- Seconds as a double: the whole seconds and the fraction are each taken to
the nearest double and then added. -/
def toSeconds (d : Duration) : Float :=
  Float.ofNat d.secs + Float.ofNat d.subsecNanos / 1.0e9

/-- The duration nearest to a number of seconds; nothing for a negative number,
a NaN, or one of `2^64` seconds or more. -/
def ofSeconds? (x : Float) : Option Duration :=
  if x < 0 then none
  else
    match Decimal.Binary.ofBits? x.toBits with
    | none => none
    | some b =>
        if secondsBound * b.denominator ≤ b.numerator then none
        else some ⟨Decimal.roundDiv (b.numerator * perSecond) b.denominator⟩

/-- A number of units with the decimals it needs. -/
def inUnit (nanos unit places : Nat) (name : String) : String :=
  let fraction := Decimal.padZero places (Decimal.digits (nanos % unit))
  let kept := (fraction.reverse.dropWhile (· == '0')).reverse
  let tail := if kept.isEmpty then [] else '.' :: kept
  String.ofList (Decimal.digits (nanos / unit) ++ tail) ++ name

/-- The text of a duration. -/
def text (d : Duration) : String :=
  if perSecond ≤ d.nanos then inUnit d.nanos perSecond 9 "s"
  else if perMilli ≤ d.nanos then inUnit d.nanos perMilli 6 "ms"
  else if 1000 ≤ d.nanos then inUnit d.nanos 1000 3 "µs"
  else inUnit d.nanos 1 0 "ns"

end Duration

end RemoteRun
