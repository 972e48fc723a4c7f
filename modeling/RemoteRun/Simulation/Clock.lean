/-!
# The passing of time

A simulated clock shows whole milliseconds and moves only when nothing else can happen.

**Algorithm.** To let time pass, the clock goes from one due time to the next, and at
each of them everything that is due happens.
-/

namespace RemoteRun
namespace Simulation

/-- The lesser of two times, where there are two. -/
def earlier : Option Nat → Option Nat → Option Nat
  | some a, some b => some (min a b)
  | a, none => a
  | none, b => b

/-- The first of some times that is later than another one. -/
def firstAfter (now : Nat) (times : List Nat) : Option Nat :=
  times.foldl (fun first t => if now < t then earlier first (some t) else first) none

/-- Let time pass up to `target`, stopping at each due time for as long as `stops`
allows. -/
def passTo {σ : Type} (due : σ → Option Nat) (moveTo : Nat → σ → σ) (target : Nat) :
    Nat → σ → σ
  | 0, s => moveTo target s
  | stops + 1, s =>
      match due s with
      | some time =>
          if time ≤ target then passTo due moveTo target stops (moveTo time s)
          else moveTo target s
      | none => moveTo target s

/-- Take steps while there are any, for as long as `steps` allows. -/
def settleWith {σ : Type} (step? : σ → Option σ) : Nat → σ → σ
  | 0, s => s
  | steps + 1, s =>
      match step? s with
      | some next => settleWith step? steps next
      | none => s

/-- Number of steps after which the world counts as settled. -/
def settleLimit : Nat := 1000000

end Simulation
end RemoteRun
