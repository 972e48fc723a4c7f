import RemoteRun.Text.CharSet

/-!
# Patterns

Regular expressions over characters, and whether one occurs in a text.

**Algorithm.** For a start position, the positions at which a match may end are
gathered as a list without repetitions.  A repetition is iterated until it yields
no new position, which happens after as many rounds as the text has positions.

**Results.** `Pattern.occursIn` is a total function of pattern and text.  Whether a
repetition prefers few or many rounds makes no difference to it.
-/

namespace RemoteRun

/-- How a position stands to the words around it. -/
inductive WordEdge where
  | boundary
  | inside
  | start
  | finish
  | startHalf
  | finishHalf
deriving DecidableEq

/-- A condition on a position. -/
inductive Assertion where
  | textStart
  | textEnd
  | lineStart (crlf : Bool)
  | lineEnd (crlf : Bool)
  | word (members : CharSet) (edge : WordEdge)

/-- A regular expression. -/
inductive Pattern where
  | empty
  | chars (set : CharSet)
  | assert (a : Assertion)
  | seq (first second : Pattern)
  | alt (left right : Pattern)
  | many (body : Pattern) (least : Nat) (most : Option Nat)

namespace Assertion

/-- Whether a condition holds between two characters, either of which is absent at
an end of the text. -/
def holds : Assertion → Option Char → Option Char → Bool
  | .textStart, before, _ => before.isNone
  | .textEnd, _, after => after.isNone
  | .lineStart false, before, _ => before.isNone || before == some '\n'
  | .lineStart true, before, after =>
      before.isNone || before == some '\n' || (before == some '\r' && after != some '\n')
  | .lineEnd false, _, after => after.isNone || after == some '\n'
  | .lineEnd true, before, after =>
      after.isNone || after == some '\r' || (after == some '\n' && before != some '\r')
  | .word members edge, before, after =>
      let was := before.any members.contains
      let is := after.any members.contains
      match edge with
      | .boundary => was != is
      | .inside => was == is
      | .start => !was && is
      | .finish => was && !is
      | .startHalf => !was
      | .finishHalf => !is

end Assertion

namespace Pattern

/-- Positions of either list, each once. -/
def union (xs ys : List Nat) : List Nat :=
  xs ++ ys.filter fun y => !xs.contains y

/-- The positions reached from any of a list of positions. -/
def stepAll (step : Nat → List Nat) (from_ : List Nat) : List Nat :=
  from_.foldl (fun acc i => union acc (step i)) []

/-- The positions reached by exactly so many steps. -/
def exactly (step : Nat → List Nat) : Nat → List Nat → List Nat
  | 0, at_ => at_
  | n + 1, at_ =>
      if at_.isEmpty then []
      else
        let next := stepAll step at_
        if next == at_ then at_ else exactly step n next

/-- The positions reached by at most so many steps. -/
def upTo (step : Nat → List Nat) : Nat → List Nat → List Nat
  | 0, at_ => at_
  | n + 1, at_ =>
      let next := union at_ (stepAll step at_)
      if next.length == at_.length then at_ else upTo step n next

/-- The positions at which a match that starts at `i` may end. -/
def ends (text : Array Char) : Pattern → Nat → List Nat
  | .empty, i => [i]
  | .chars set, i => if text[i]?.any set.contains then [i + 1] else []
  | .assert a, i =>
      let before := if i = 0 then none else text[i - 1]?
      if a.holds before text[i]? then [i] else []
  | .seq first second, i => stepAll (ends text second) (ends text first i)
  | .alt left right, i => union (ends text left i) (ends text right i)
  | .many body least most, i =>
      let start := exactly (ends text body) least [i]
      let rounds := match most with
        | some n => min (n - least) (text.size + 1)
        | none => text.size + 1
      upTo (ends text body) rounds start

/-- Whether a match starts somewhere in the text. -/
def occursIn (p : Pattern) (text : String) : Bool :=
  let chars := text.toList.toArray
  (List.range (chars.size + 1)).any fun i => !(ends chars p i).isEmpty

end Pattern

end RemoteRun
