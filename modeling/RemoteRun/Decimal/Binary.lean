import RemoteRun.Word

/-!
# Binary fractions

The exact value of a double as a mantissa and a power of two.

**Input.** The 64 bits of a double: one sign bit, eleven exponent bits and
fifty-two fraction bits.

**Results.** `Binary.ofBits?` gives sign, mantissa and exponent of a finite
double and nothing for an infinity or a NaN.
-/

namespace RemoteRun
namespace Decimal

/-- A power of two. -/
def twoTo (n : Nat) : Nat := Nat.pow 2 n

/-- A power of ten. -/
def tenTo (n : Nat) : Nat := Nat.pow 10 n

/-- The number `mantissa * 2 ^ exponent` with a sign.  `narrow` marks a power
of two whose lower neighbour is half as far away as the upper one. -/
structure Binary where
  negative : Bool
  mantissa : Nat
  exponent : Int
  narrow : Bool

namespace Binary

/-- The weight of the leading bit in front of the fraction bits. -/
def leadingBit : Nat := 4503599627370496

/-- The value of finite double bits. -/
def ofBits? (bits : UInt64) : Option Binary :=
  let n : Nat := bits.toNat
  let negative := decide (Word.bound63 ≤ n)
  let field : Nat := n / leadingBit % 2048
  let fraction : Nat := n % leadingBit
  if field = 2047 then none
  else if field = 0 then some ⟨negative, fraction, -1074, false⟩
  else some ⟨negative, leadingBit + fraction, Int.ofNat field - 1075, fraction == 0 && field != 1⟩

/-- Numerator of the magnitude as a quotient of natural numbers. -/
def numerator (b : Binary) : Nat :=
  b.mantissa * twoTo b.exponent.toNat

/-- Denominator of the magnitude as a quotient of natural numbers. -/
def denominator (b : Binary) : Nat :=
  twoTo (-b.exponent).toNat

end Binary

end Decimal
end RemoteRun
