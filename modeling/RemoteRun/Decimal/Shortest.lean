import RemoteRun.Decimal.Binary

/-!
# Shortest decimal digits

The decimal with the fewest digits that reads back as a given double.

**Algorithm.** All reals between the midpoints to the neighbouring doubles read
back as the double; the midpoints themselves do exactly when the mantissa is
even.  For one, two, up to seventeen digits the two decimals around the value
on that grid are tested in exact arithmetic.  The first grid with a hit wins,
the nearer of two hits is taken, and of two equally near ones the even one.

**Results.** `shortest` gives the digits without trailing zeros and the decimal
exponent of the first digit.
-/

namespace RemoteRun
namespace Decimal

/-- Digits of a natural number, most significant first. -/
def digits (n : Nat) : List Char :=
  Nat.toDigits 10 n

/-- Decimal digits `d₁ d₂ … dₙ` that stand for `d₁.d₂…dₙ * 10 ^ exponent`. -/
structure Digits where
  digits : List Char
  exponent : Int

namespace Binary

/-- Exponent of the leading decimal digit of a positive value. -/
def leading (b : Binary) : Int :=
  if b.denominator ≤ b.numerator then
    ((Decimal.digits (b.numerator / b.denominator)).length : Int) - 1
  else
    -((Decimal.digits (b.denominator / b.numerator)).length : Int)

/-- Four times the value, divided by `10 ^ k`, as a quotient. -/
def scaled (b : Binary) (quarters : Nat) (k : Int) : Nat × Nat :=
  (quarters * twoTo b.exponent.toNat * tenTo (-k).toNat,
   4 * b.denominator * tenTo k.toNat)

/-- Whether `d * 10 ^ k` reads back as the value. -/
def readsBack (b : Binary) (k : Int) (d : Nat) : Bool :=
  let low := b.scaled (4 * b.mantissa - if b.narrow then 1 else 2) k
  let high := b.scaled (4 * b.mantissa + 2) k
  if b.mantissa % 2 == 0 then
    decide (low.1 ≤ d * low.2) && decide (d * high.2 ≤ high.1)
  else
    decide (low.1 < d * low.2) && decide (d * high.2 < high.1)

/-- The reading decimal on one grid, if there is one. -/
def onGrid? (b : Binary) (k : Int) : Option Nat :=
  let (num, den) := b.scaled (4 * b.mantissa) k
  let below := num / den
  let above := below + 1
  match b.readsBack k below, b.readsBack k above with
  | true, true =>
      let down := num - below * den
      let up := above * den - num
      if down < up then some below
      else if up < down then some above
      else if below % 2 = 0 then some below
      else some above
  | true, false => some below
  | false, true => some above
  | false, false => none

/-- The first grid with a hit, from `count` digits on. -/
def search (b : Binary) (leading : Int) : Nat → Nat → Nat × Int
  | 0, count => (b.numerator / b.denominator, leading - count)
  | tries + 1, count =>
      let k := leading - count + 1
      match b.onGrid? k with
      | some d => (d, k)
      | none => search b leading tries (count + 1)

/-- The shortest digits of a positive value. -/
def shortest (b : Binary) : Digits :=
  let (d, k) := b.search b.leading 17 1
  let ds := Decimal.digits d
  let kept := (ds.reverse.dropWhile (· == '0')).reverse
  ⟨kept, k + ds.length - 1⟩

end Binary

end Decimal
end RemoteRun
