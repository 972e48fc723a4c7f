/-!
# Sets of characters

**Input.** An ascending list of code points at which membership changes: the
first opens a range, the second ends it before itself, the third opens the next.

**Results.** Membership, complement and the boolean combination of two sets, each
by one sweep over the lists.
-/

namespace RemoteRun

/-- A set of code points, given by the points at which membership changes. -/
structure CharSet where
  bounds : List Nat
deriving DecidableEq, Inhabited

namespace CharSet

/-- The first code point that does not exist. -/
def codeEnd : Nat := 0x110000

/-- Membership, with the state before the first bound. -/
def insideFrom (inside : Bool) (n : Nat) : List Nat → Bool
  | [] => inside
  | b :: bs => if b ≤ n then insideFrom (!inside) n bs else inside

/-- Whether a code point is in the set. -/
def containsCode (s : CharSet) (n : Nat) : Bool :=
  insideFrom false n s.bounds

/-- Whether a character is in the set. -/
def contains (s : CharSet) (c : Char) : Bool :=
  s.containsCode c.toNat

/-- No character. -/
def empty : CharSet := ⟨[]⟩

/-- Every character. -/
def full : CharSet := ⟨[0, codeEnd]⟩

/-- The characters between two, both included. -/
def range (low high : Nat) : CharSet := ⟨[low, high + 1]⟩

/-- One character. -/
def singleton (c : Char) : CharSet := range c.toNat c.toNat

/-- The points at which a boolean function of two memberships changes.  `a` and
`b` are the memberships so far and `out` the value of the function there; `fuel`
is the number of points left. -/
def sweep (op : Bool → Bool → Bool) : Nat → Bool → Bool → List Nat → List Nat → List Nat
  | 0, _, _, _, _ => []
  | fuel + 1, a, b, xs, ys =>
      let out := op a b
      let emit := fun (point : Nat) (a' b' : Bool) (rest : List Nat) =>
        if op a' b' = out then rest else point :: rest
      match xs, ys with
      | [], [] => []
      | x :: xs, [] => emit x (!a) b (sweep op fuel (!a) b xs [])
      | [], y :: ys => emit y a (!b) (sweep op fuel a (!b) [] ys)
      | x :: xs, y :: ys =>
          if x < y then emit x (!a) b (sweep op fuel (!a) b xs (y :: ys))
          else if y < x then emit y a (!b) (sweep op fuel a (!b) (x :: xs) ys)
          else emit x (!a) (!b) (sweep op fuel (!a) (!b) xs ys)

/-- A boolean combination that holds of nothing outside both sets. -/
def combine (op : Bool → Bool → Bool) (s t : CharSet) : CharSet :=
  ⟨sweep op (s.bounds.length + t.bounds.length) false false s.bounds t.bounds⟩

/-- Characters of either set. -/
def union (s t : CharSet) : CharSet := combine or s t

/-- Characters of both sets. -/
def inter (s t : CharSet) : CharSet := combine and s t

/-- Characters of the first set alone. -/
def diff (s t : CharSet) : CharSet := combine (fun a b => a && !b) s t

/-- Characters of exactly one of the sets. -/
def symmDiff (s t : CharSet) : CharSet := combine xor s t

/-- All other characters. -/
def compl (s : CharSet) : CharSet := diff full s

/-- The union of many sets. -/
def unions (ss : List CharSet) : CharSet := ss.foldl union empty

/-- The ranges of the set, both ends included. -/
def ranges (s : CharSet) : List (Nat × Nat) :=
  go s.bounds
where
  go : List Nat → List (Nat × Nat)
    | low :: high :: rest => (low, high - 1) :: go rest
    | [low] => [(low, codeEnd - 1)]
    | [] => []

/-- Whether there is no character in the set. -/
def isEmpty (s : CharSet) : Bool := s.bounds.isEmpty

end CharSet

end RemoteRun
