import RemoteRun.Decimal.Shortest

/-!
# Fixed decimal places

**Results.** `Binary.fixed` writes a double with a given number of decimals; the
exact value is rounded to the nearest such decimal, and a tie goes to the even
neighbour.
-/

namespace RemoteRun
namespace Decimal

/-- A quotient rounded to the nearest natural number, ties to even. -/
def roundDiv (num den : Nat) : Nat :=
  let q := num / den
  let twice := 2 * (num % den)
  if twice < den then q
  else if den < twice then q + 1
  else if q % 2 = 0 then q
  else q + 1

/-- A character list brought to a length with leading zeros. -/
def padZero (width : Nat) (ds : List Char) : List Char :=
  List.replicate (width - ds.length) '0' ++ ds

/-- The magnitude with a number of decimals. -/
def Binary.fixed (b : Binary) (places : Nat) : List Char :=
  let n := roundDiv (b.numerator * tenTo places) b.denominator
  let sign := if b.negative then ['-'] else []
  sign ++ digits (n / tenTo places) ++ '.' :: padZero places (digits (n % tenTo places))

/-- A double with six decimals, infinities and NaN by name. -/
def sixPlaces (x : Float) : String :=
  match Binary.ofBits? x.toBits with
  | some b => String.ofList (b.fixed 6)
  | none => if x.isNaN then "NaN" else if x < 0 then "-inf" else "inf"

end Decimal
end RemoteRun
