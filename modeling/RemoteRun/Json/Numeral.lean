import RemoteRun.Json.Basic
import RemoteRun.Word

/-!
# Number literals

**Input.** A sign, whole digits, an optional fraction and an optional exponent.

**Algorithm.** Significant digits are gathered from the left as long as the
number they form stays below `2^64`.  Whole digits that no longer fit raise the
exponent by one each, fraction digits that no longer fit are dropped, and every
gathered fraction digit lowers the exponent by one.  The gathered number is then
taken as a double and multiplied or divided by a power of ten, in double
arithmetic.

**Results.** A literal of whole digits alone that fits is an integer, and so is
a negative one down to `-2^63`; every other literal is a double.  Minus zero is a
double.  A literal too big for a double has no value.
-/

namespace RemoteRun
namespace Json

/-- The parts of a number literal. -/
structure Numeral where
  negative : Bool
  whole : List Nat
  fraction : Option (List Nat)
  exponent : Option (Bool × List Nat)

namespace Numeral

/-- First number that a word cannot hold. -/
def wordBound : Nat := Word.bound64

/-- Digits taken onto a number while it fits a word, and the digits left. -/
def gather (start : Nat) : List Nat → Nat × List Nat
  | [] => (start, [])
  | d :: ds =>
      if start * 10 + d < wordBound then gather (start * 10 + d) ds else (start, d :: ds)

/-- The number that digits form. -/
def natOf (ds : List Nat) : Nat :=
  ds.foldl (fun n d => n * 10 + d) 0

/-- `10 ^ n` as the nearest double, for `n` up to 308. -/
def powerOfTen (n : Nat) : Float :=
  Float.ofScientific 1 false n

/-- A double times a power of ten; nothing when it leaves the finite doubles.
Steps of `10^308` bring a small exponent into range, and after three of them
nothing but zero is left. -/
def scale (x : Float) (exponent : Int) : Nat → Option Float
  | 0 => some x
  | steps + 1 =>
      if exponent.natAbs ≤ 308 then
        if exponent < 0 then some (x / powerOfTen exponent.natAbs)
        else
          let y := x * powerOfTen exponent.natAbs
          if y.isInf then none else some y
      else if x == 0 then some x
      else if 0 ≤ exponent then none
      else scale (x / powerOfTen 308) (exponent + 308) steps

/-- The gathered significant digits and the exponent they have. -/
def significand (n : Numeral) : Nat × Int :=
  let (whole, dropped) := gather 0 n.whole
  let raised : Int := dropped.length
  match n.fraction with
  | none => (whole, raised)
  | some ds =>
      let (all, rest) := gather whole ds
      (all, raised - ((ds.length - rest.length : Nat) : Int))

/-- The written exponent. -/
def shift (n : Numeral) : Int :=
  match n.exponent with
  | none => 0
  | some (negative, ds) => if negative then -(natOf ds : Int) else natOf ds

/-- Whether the literal has neither fraction nor exponent and fits a word. -/
def plain? (n : Numeral) : Option Nat :=
  match n.fraction, n.exponent with
  | none, none => if natOf n.whole < wordBound then some (natOf n.whole) else none
  | _, _ => none

/-- A double with the literal's sign. -/
def signed (n : Numeral) (x : Float) : Number :=
  .ofFloat (if n.negative then -x else x)

/-- The literal as a double. -/
def real? (n : Numeral) : Option Number :=
  let (digits, exponent) := n.significand
  (scale (UInt64.ofNat digits).toFloat (exponent + n.shift) 4).map n.signed

/-- The value of a literal. -/
def value? (n : Numeral) : Option Number :=
  match n.plain? with
  | none => n.real?
  | some m =>
      if n.negative then
        if m = 0 then some (n.signed 0)
        else
          match Number.ofInt? (-(m : Int)) with
          | some number => some number
          | none => some (n.signed (UInt64.ofNat m).toFloat)
      else Number.ofInt? m

end Numeral

end Json
end RemoteRun
