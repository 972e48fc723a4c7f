import RemoteRun.Keyed.Table

/-!
# JSON values

**Input.** Numbers are integers between `-2^63` and `2^64 - 1`, or doubles.  The
two kinds are never equal: `1` and `1.0` are different values and are written
differently.

**Objects.** An object lists its members in ascending key order, so that equal
objects have equal lists.  `Canonical` says so of every object inside a value.
-/

namespace RemoteRun

/-- Least integer a number can hold. -/
def leastInteger : Int := -9223372036854775808

/-- First integer above those a number can hold. -/
def integerBound : Int := 18446744073709551616

/-- A JSON number. -/
inductive Number where
  | integer (value : Int) (bounded : leastInteger ≤ value ∧ value < integerBound)
  | real (bits : UInt64)
deriving DecidableEq

namespace Number

/-- The integer number of an integer in range. -/
def ofInt? (value : Int) : Option Number :=
  if h : leastInteger ≤ value ∧ value < integerBound then some (.integer value h) else none

/-- A word as a number. -/
def ofUInt64 (n : UInt64) : Number :=
  .integer n.toNat (by
    have := n.toNat_lt
    unfold leastInteger integerBound
    omega)

/-- A double as a number. -/
def ofFloat (x : Float) : Number :=
  .real x.toBits

/-- The number as a word, if it is a non-negative integer. -/
def toUInt64? : Number → Option UInt64
  | .integer value _ => if 0 ≤ value then some (UInt64.ofNat value.toNat) else none
  | .real _ => none

/-- The nearest double. -/
def toFloat : Number → Float
  | .integer value _ =>
      if 0 ≤ value then (UInt64.ofNat value.toNat).toFloat
      else -(UInt64.ofNat value.natAbs).toFloat
  | .real bits => Float.ofBits bits

@[simp] theorem toUInt64?_ofUInt64 (n : UInt64) : (ofUInt64 n).toUInt64? = some n := by
  simp [ofUInt64, toUInt64?]

end Number

/-- A JSON value. -/
inductive Json where
  | null
  | bool (value : Bool)
  | num (value : Number)
  | str (value : String)
  | arr (items : List Json)
  | obj (members : List (String × Json))

namespace Json

instance : Inhabited Json := ⟨.null⟩

/-- A natural number as a value; numbers from `2^64` on are doubles. -/
def ofNat (n : Nat) : Json :=
  match Number.ofInt? n with
  | some number => .num number
  | none => .num (.ofFloat (Float.ofNat n))

/-- A list of texts as a value. -/
def ofStrings (texts : List String) : Json :=
  .arr (texts.map .str)

/-- A value that may be missing. -/
def ofOption : Option Json → Json
  | some value => value
  | none => .null

/-- An object from members in any order; the last value of a key wins. -/
def ofMembers (members : List (String × Json)) : Json :=
  .obj (Entries.ofPairs members)

/-- A member of an object. -/
def get? : Json → String → Option Json
  | .obj members, key => Entries.get? members key
  | _, _ => none

/-- The text of a string value. -/
def string? : Json → Option String
  | .str text => some text
  | _ => none

/-- The items of an array value. -/
def array? : Json → Option (List Json)
  | .arr items => some items
  | _ => none

/-- The members of an object value. -/
def object? : Json → Option (Entries Json)
  | .obj members => some members
  | _ => none

/-- Whether the value is `null`. -/
def isNull : Json → Bool
  | .null => true
  | _ => false

mutual

/-- Every object inside the value lists its members in ascending key order. -/
def Canonical : Json → Prop
  | .arr items => CanonicalItems items
  | .obj members => Entries.Ascending members ∧ CanonicalMembers members
  | _ => True

/-- Every item is canonical. -/
def CanonicalItems : List Json → Prop
  | [] => True
  | item :: items => Canonical item ∧ CanonicalItems items

/-- Every member's value is canonical. -/
def CanonicalMembers : List (String × Json) → Prop
  | [] => True
  | (_, value) :: members => Canonical value ∧ CanonicalMembers members

end

end Json

end RemoteRun
