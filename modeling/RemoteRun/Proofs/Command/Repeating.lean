import Mathlib.Data.Nat.Find
import RemoteRun.Command.Execute
import RemoteRun.Simulation.Calls

/-!
# How often a call is made

**The loop.**  `Loop` makes a call, looks at the decision on its outcome, and goes on after
the delay or ends.  It counts the failures so far and nothing else: that there is an end at
all is a theorem.

**The last call.**  `IsLast` says which call is the last one in terms of the outcomes: the
first that succeeds, fails for good, or is one more than may be repeated.

**Results.**
* `Loop.unique`, `loop_trail`: the loop ends in exactly one way, after the last call.
* `loop_runFrom`, `Request.turns_start`, `CallRun.rehearse_eq`: calls that nothing aborts, a
  request on the call path and a rehearsal go through this loop.
* `calls_until_last`: how many calls are made, with which numbers and after which delays,
  and what is returned.
-/

namespace RemoteRun

namespace Retry

variable {α : Type} {p : RetryPolicy} {outcome : Nat → Except CallError α}

/-- The outcome of the call that was made after `retries` failures ends the loop. -/
def Ends (p : RetryPolicy) (retries : Nat) (outcome : Except CallError α) : Prop :=
  (∃ value, outcome = .ok value) ∨ (∃ e, outcome = .error e ∧ e.isTransient = false) ∨
    retries = p.maxRetries

/-- A call is the first whose outcome ends the loop. -/
def IsLast (p : RetryPolicy) (outcome : Nat → Except CallError α) (n : Nat) : Prop :=
  Ends p n (outcome n) ∧ ∀ m < n, ¬ Ends p m (outcome m)

/-- What is returned after the last call. -/
def conclusion (outcome : Nat → Except CallError α) (n : Nat) : Except CallError (Retried α) :=
  (outcome n).map fun value => ⟨value, n⟩

/-- Calls from number `first` on: `count` of them, each with the delay after it, and one
more. -/
def trail (delay : Nat → Duration) (first count : Nat) : List Step :=
  (List.range' first count).flatMap (fun i => [.call i, .sleep (delay (i + 1))]) ++
    [.call (first + count)]

/-- Calls until one ends the loop, after a number of failures. -/
inductive Loop (p : RetryPolicy) (outcome : Nat → Except CallError α) :
    Nat → List Step → Except CallError (Retried α) → Prop
  | finish
      {retries : Nat}
      {result : Except CallError (Retried α)}
      (h : decide p retries (outcome retries) = .finish result) :
      Loop p outcome retries [.call retries] result
  | again
      {retries : Nat}
      {delay : Duration}
      {steps : List Step}
      {result : Except CallError (Retried α)}
      (h : decide p retries (outcome retries) = .wait delay)
      (rest : Loop p outcome (retries + 1) steps result) :
      Loop p outcome retries (.call retries :: .sleep delay :: steps) result

/-! ### Decisions -/

theorem decide_of_ends
    {retries : Nat}
    {outcome : Except CallError α}
    (h : Ends p retries outcome) :
    decide p retries outcome = .finish (outcome.map fun value => ⟨value, retries⟩) := by
  cases outcome with
  | ok value =>
      rfl
  | error e =>
      have hstops : repeats p retries e = false := by
        rcases h with ⟨value, hvalue⟩ | ⟨e', he, hlasting⟩ | rfl
        · cases hvalue
        · cases he
          simp [repeats, hlasting]
        · simp [repeats]
      simp [decide, hstops, Except.map]

theorem decide_of_not_ends
    {retries : Nat}
    {outcome : Except CallError α}
    (h : ¬ Ends p retries outcome)
    (hmore : retries ≤ p.maxRetries) :
    decide p retries outcome = .wait (delayOf p (retries + 1)) := by
  obtain ⟨hfails, hrest⟩ := not_or.1 h
  obtain ⟨hpasses, hspent⟩ := not_or.1 hrest
  cases outcome with
  | ok value =>
      exact absurd ⟨value, rfl⟩ hfails
  | error e =>
      have htransient : e.isTransient = true := by
        by_contra hlasting
        exact hpasses ⟨e, rfl, Bool.eq_false_iff.2 hlasting⟩
      have hbudget : retries < p.maxRetries :=
        lt_of_le_of_ne hmore hspent
      simp [decide, repeats, htransient, hbudget]

/-! ### The last call -/

theorem IsLast.le_maxRetries
    {n : Nat}
    (h : IsLast p outcome n) :
    n ≤ p.maxRetries := by
  by_contra hlate
  exact h.2 p.maxRetries (not_le.1 hlate) (Or.inr (Or.inr rfl))

theorem exists_isLast
    (p : RetryPolicy)
    (outcome : Nat → Except CallError α) :
    ∃ n, IsLast p outcome n := by
  classical
  have hspent : ∃ n, Ends p n (outcome n) :=
    ⟨p.maxRetries, Or.inr (Or.inr rfl)⟩
  exact ⟨Nat.find hspent, Nat.find_spec hspent, fun m hm => Nat.find_min hspent hm⟩

/-- Before the last call every outcome is followed by a delay. -/
theorem IsLast.decide_before
    {retries count : Nat}
    (h : IsLast p outcome (retries + (count + 1))) :
    decide p retries (outcome retries) = .wait (delayOf p (retries + 1)) :=
  decide_of_not_ends (h.2 retries (by omega)) (by have := h.le_maxRetries; omega)

/-- One call fewer is left after a delay. -/
theorem IsLast.next
    {retries count : Nat}
    (h : IsLast p outcome (retries + (count + 1))) :
    IsLast p outcome (retries + 1 + count) := by
  rw [Nat.add_right_comm]
  exact h

theorem trail_succ
    (delay : Nat → Duration)
    (first count : Nat) :
    trail delay first (count + 1) =
      .call first :: .sleep (delay (first + 1)) :: trail delay (first + 1) count := by
  simp [trail, List.range'_succ, Nat.add_assoc, Nat.add_comm 1 count]

/-! ### The loop -/

/-- The loop ends in one way at most. -/
theorem Loop.unique
    {retries : Nat}
    {steps steps' : List Step}
    {result result' : Except CallError (Retried α)}
    (h : Loop p outcome retries steps result)
    (h' : Loop p outcome retries steps' result') :
    steps = steps' ∧ result = result' := by
  induction h generalizing steps' result' with
  | finish hends =>
      cases h' with
      | finish hends' =>
          rw [hends, Decision.finish.injEq] at hends'
          exact ⟨rfl, hends'⟩
      | again hwaits' _ =>
          rw [hends] at hwaits'
          cases hwaits'
  | again hwaits _ ih =>
      cases h' with
      | finish hends' =>
          rw [hwaits] at hends'
          cases hends'
      | again hwaits' rest' =>
          rw [hwaits, Decision.wait.injEq] at hwaits'
          obtain ⟨rfl, rfl⟩ := ih rest'
          exact ⟨by rw [hwaits'], rfl⟩

/-- The loop ends after the last call. -/
theorem loop_trail
    {retries count : Nat}
    (h : IsLast p outcome (retries + count)) :
    Loop p outcome retries (trail (delayOf p) retries count)
      (conclusion outcome (retries + count)) := by
  induction count generalizing retries with
  | zero =>
      exact .finish (decide_of_ends h.1)
  | succ count ih =>
      rw [trail_succ, ← Nat.add_assoc, Nat.add_right_comm]
      exact .again h.decide_before (ih h.next)

/-- Calls that nothing aborts go through the loop; the budget is what the policy leaves. -/
theorem loop_runFrom
    {budget retries : Nat}
    (hbudget : retries + budget = p.maxRetries) :
    Loop p outcome retries (runFrom p outcome budget retries).1
      (runFrom p outcome budget retries).2 := by
  induction budget generalizing retries with
  | zero =>
      have hends : Ends p retries (outcome retries) :=
        Or.inr (Or.inr hbudget)
      have hdecide := decide_of_ends hends
      cases ho : outcome retries with
      | ok value =>
          simp only [runFrom, ho]
          exact .finish (by rw [hdecide, ho]; rfl)
      | error e =>
          simp only [runFrom, ho]
          exact .finish (by rw [hdecide, ho]; rfl)
  | succ budget ih =>
      cases hdecide : decide p retries (outcome retries) with
      | finish result =>
          simp only [runFrom, hdecide]
          exact .finish hdecide
      | wait delay =>
          simp only [runFrom, hdecide]
          exact .again hdecide (ih (by omega))

theorem run_eq_trail
    {n : Nat}
    (h : IsLast p outcome n) :
    run p outcome = (trail (delayOf p) 0 n, conclusion outcome n) := by
  have hrun : Loop p outcome 0 (run p outcome).1 (run p outcome).2 :=
    loop_runFrom (Nat.zero_add _)
  have htrail : Loop p outcome 0 (trail (delayOf p) 0 n) (conclusion outcome (0 + n)) :=
    loop_trail (by rwa [Nat.zero_add])
  rw [Nat.zero_add] at htrail
  obtain ⟨hsteps, hresult⟩ := hrun.unique htrail
  exact Prod.ext hsteps hresult

end Retry

/-! ### Requests on the call path -/

namespace Request

open Retry

/-- What a request does for its calls, apart from notes and forwarded frames. -/
def paces : RequestEffect → Bool
  | .call _ | .rest _ => true
  | .forward _ | .note _ => false

/-- What a step of the loop asks of the world. -/
def effectOf (message : Outbound) : Step → RequestEffect
  | .call _ => .call message
  | .sleep delay => .rest delay

/-- What a request observes when the outcomes of its calls are given: `count` of them, each
with the end of the pause after it, and one more. -/
def answers (outcome : Nat → Except CallError CallFrames) (first count : Nat) :
    List RequestObservation :=
  (List.range' first count).flatMap (fun i => [.answered (outcome i), .woken]) ++
    [.answered (outcome (first + count))]

/-- Turns one after the other, with all that they ask of the world. -/
def turns {σ : Type} (send : Sink σ) (sink : σ) (delivery : Delivery) :
    Request → List RequestObservation → Request × List RequestEffect
  | r, [] => (r, [])
  | r, o :: os =>
      let (_, next, effects) := r.turn send sink delivery o
      let (last, others) := turns send sink delivery next os
      (last, effects ++ others)

theorem answers_succ
    (outcome : Nat → Except CallError CallFrames)
    (first count : Nat) :
    answers outcome first (count + 1) =
      .answered (outcome first) :: .woken :: answers outcome (first + 1) count := by
  simp [answers, List.range'_succ, Nat.add_assoc, Nat.add_comm 1 count]

/-- The result of a request after the last of its calls. -/
def receiptOf (nodeCount : Nat) (result : Except CallError (Retried CallFrames)) :
    Except Failure Receipt :=
  match result with
  | .ok v => .ok ⟨.call, v.retries, nodeCount⟩
  | .error e => .error (.call e)

theorem filter_notes
    (notes : List Notice) :
    (notes.map RequestEffect.note).filter paces = [] := by
  simp [paces]

section Turns

variable {σ : Type} (send : Sink σ) (sink : σ) {delivery : Delivery} {r : Request}
variable {outcome : Nat → Except CallError CallFrames} {retries : Nat}

theorem turn_answered
    (hstage : r.stage = .calling retries)
    (hcancelled : r.cancelled = false)
    (o : Except CallError CallFrames) :
    r.turn send sink delivery (.answered o) = (sink, r.answer delivery.retry retries o) := by
  unfold turn
  rw [hcancelled, if_neg Bool.false_ne_true, hstage]
  simp [observe, hstage]

theorem turn_woken
    (hstage : r.stage = .pausing retries)
    (hcancelled : r.cancelled = false) :
    r.turn send sink delivery .woken = (sink, r.turnTo (.calling retries), [.call r.message]) := by
  unfold turn
  rw [hcancelled, if_neg Bool.false_ne_true, hstage]
  simp [observe, hstage]

theorem turns_cons
    (o : RequestObservation)
    (os : List RequestObservation) :
    turns send sink delivery r (o :: os) =
      ((turns send sink delivery (r.turn send sink delivery o).2.1 os).1,
        (r.turn send sink delivery o).2.2 ++
          (turns send sink delivery (r.turn send sink delivery o).2.1 os).2) :=
  rfl

/-- The last answer ends the request. -/
theorem answer_last
    (hends : Ends delivery.retry retries (outcome retries)) :
    (r.answer delivery.retry retries (outcome retries)).1 =
        r.turnTo (.returned (receiptOf r.nodeCount (conclusion outcome retries))) ∧
      (r.answer delivery.retry retries (outcome retries)).2.filter paces = [] := by
  have hdecide := decide_of_ends hends
  unfold conclusion
  cases ho : outcome retries with
  | ok frames =>
      rw [ho] at hdecide
      simp [answer, hdecide, finish, receiptOf, Except.map, paces]
  | error e =>
      rw [ho] at hdecide
      simp [answer, hdecide, finish, receiptOf, Except.map, paces, filter_notes]

/-- Any other answer is followed by a pause. -/
theorem answer_repeated
    {delay : Duration}
    (hwaits : Retry.decide delivery.retry retries (outcome retries) = .wait delay) :
    (r.answer delivery.retry retries (outcome retries)).1 =
        r.turnTo (.pausing (retries + 1)) ∧
      (r.answer delivery.retry retries (outcome retries)).2.filter paces = [.rest delay] := by
  cases ho : outcome retries with
  | ok frames =>
      simp [ho, Retry.decide] at hwaits
  | error e =>
      rw [ho] at hwaits
      simp [answer, hwaits, paces, filter_notes]

/-- A request whose call is under way goes through the loop, as its calls are answered, and
returns after the last one. -/
theorem turns_answered
    {count : Nat}
    (hlast : IsLast delivery.retry outcome (retries + count))
    (hstage : r.stage = .calling retries)
    (hcancelled : r.cancelled = false) :
    (turns send sink delivery r (answers outcome retries count)).1.result? =
        some (receiptOf r.nodeCount (conclusion outcome (retries + count))) ∧
      .call r.message ::
          (turns send sink delivery r (answers outcome retries count)).2.filter paces =
        (trail (delayOf delivery.retry) retries count).map (effectOf r.message) := by
  induction count generalizing r retries with
  | zero =>
      rw [Nat.add_zero] at hlast ⊢
      obtain ⟨hnext, heffects⟩ := answer_last (r := r) hlast.1
      have hanswers : answers outcome retries 0 = [.answered (outcome retries)] :=
        rfl
      rw [hanswers, turns_cons, turn_answered send sink hstage hcancelled, hnext]
      refine ⟨rfl, ?_⟩
      rw [List.filter_append, heffects]
      rfl
  | succ count ih =>
      obtain ⟨hnext, heffects⟩ := answer_repeated (r := r) hlast.decide_before
      have hpausing : (r.turnTo (.pausing (retries + 1))).stage = .pausing (retries + 1) :=
        rfl
      obtain ⟨hresult, hcalls⟩ :=
        ih (r := r.turnTo (.calling (retries + 1))) hlast.next rfl hcancelled
      have hsame : (r.turnTo (.calling (retries + 1))).message = r.message :=
        rfl
      rw [Nat.add_right_comm] at hresult
      rw [hsame] at hcalls
      rw [answers_succ, turns_cons, turn_answered send sink hstage hcancelled, hnext, turns_cons,
        turn_woken send sink hpausing hcancelled]
      refine ⟨hresult, ?_⟩
      rw [List.filter_append, heffects, trail_succ, List.map_cons, List.map_cons, ← hcalls]
      rfl

/-- **Requests.**  From its start on, a request on the call path does so with all its
calls. -/
theorem turns_start
    {n : Nat}
    (hlast : IsLast delivery.retry outcome n)
    (message : Outbound)
    (nodeCount : Nat) :
    (turns send sink delivery (start .call message nodeCount) (answers outcome 0 n)).1.result? =
        some (receiptOf nodeCount (conclusion outcome n)) ∧
      ((start .call message nodeCount).startEffects delivery.waitLimit ++
          (turns send sink delivery (start .call message nodeCount)
            (answers outcome 0 n)).2).filter paces =
        (trail (delayOf delivery.retry) 0 n).map (effectOf message) := by
  have hfirst : IsLast delivery.retry outcome (0 + n) := by
    rwa [Nat.zero_add]
  have hturns :=
    turns_answered send sink (r := start .call message nodeCount) hfirst rfl rfl
  rwa [Nat.zero_add] at hturns

end Turns

end Request

/-! ### Rehearsals -/

namespace Simulation

namespace CallRun

open Retry

variable {α : Type} {p : RetryPolicy} {script : List (ScriptedCall α)}

/-- The time of a call when nothing aborts: the calls before it and the delays between them
have passed. -/
def startTime (p : RetryPolicy) (script : List (ScriptedCall α)) : Nat → Nat
  | 0 => 0
  | i + 1 => startTime p script i + (entryOf script i).delay + (delayOf p (i + 1)).ceilMillis

/-- The outcomes that a script gives. -/
def outcomes (script : List (ScriptedCall α)) (attempt : Nat) : Except CallError α :=
  (entryOf script attempt).outcome

/-- A rehearsal that nothing aborts goes through the loop. -/
theorem rehearseFrom_eq
    {retries count : Nat}
    (hlast : IsLast p (outcomes script) (retries + count))
    {budget : Nat}
    (hbudget : count < budget) :
    rehearseFrom p script none budget retries (startTime p script retries) =
      ⟨(List.range' retries (count + 1)).map fun i => (i, startTime p script i),
        conclusion (outcomes script) (retries + count),
        startTime p script (retries + count) + (entryOf script (retries + count)).delay⟩ := by
  have hcalm : ∀ time : Nat, abortedBy none time = none := fun _ => rfl
  induction count generalizing retries budget with
  | zero =>
      obtain ⟨budget, rfl⟩ := Nat.exists_eq_succ_of_ne_zero (Nat.ne_of_gt hbudget)
      have hdecide : decide p retries (entryOf script retries).outcome =
          .finish (conclusion (outcomes script) retries) :=
        decide_of_ends hlast.1
      simp only [rehearseFrom, hcalm, hdecide]
      rfl
  | succ count ih =>
      obtain ⟨budget, rfl⟩ := Nat.exists_eq_succ_of_ne_zero (Nat.ne_zero_of_lt hbudget)
      have hdecide : decide p retries (entryOf script retries).outcome =
          .wait (delayOf p (retries + 1)) :=
        hlast.decide_before
      have hnext : startTime p script retries + (entryOf script retries).delay +
          (delayOf p (retries + 1)).ceilMillis = startTime p script (retries + 1) :=
        rfl
      have hrest := ih hlast.next (Nat.lt_of_succ_lt_succ hbudget)
      rw [Nat.add_right_comm] at hrest
      simp only [rehearseFrom, hcalm, hdecide, hnext, hrest]
      rfl

/-- **Rehearsals.** -/
theorem rehearse_eq
    {n : Nat}
    (hlast : IsLast p (outcomes script) n) :
    rehearse p script none =
      ⟨(List.range (n + 1)).map fun i => (i, startTime p script i),
        conclusion (outcomes script) n,
        startTime p script n + (entryOf script n).delay⟩ := by
  have hbudget : n < p.maxRetries + 1 :=
    Nat.lt_succ_of_le hlast.le_maxRetries
  have hfirst : IsLast p (outcomes script) (0 + n) := by
    rwa [Nat.zero_add]
  have hfrom := rehearseFrom_eq hfirst hbudget
  rw [Nat.zero_add, ← List.range_eq_range'] at hfrom
  exact hfrom

end CallRun

end Simulation

/-! ### The outcome -/

namespace Retry

open Simulation CallRun Request

variable {α : Type}

theorem IsLast.of_agree
    {p : RetryPolicy}
    {outcome other : Nat → Except CallError α}
    {n : Nat}
    (h : IsLast p outcome n)
    (hagree : ∀ i ≤ n, other i = outcome i) :
    IsLast p other n := by
  refine ⟨hagree n le_rfl ▸ h.1, ?_⟩
  intro m hm
  rw [hagree m (Nat.le_of_lt hm)]
  exact h.2 m hm

/-- What a call gives when it succeeds does not matter for the loop. -/
theorem ends_map_iff
    {β : Type}
    (give : α → β)
    {p : RetryPolicy}
    {retries : Nat}
    {outcome : Except CallError α} :
    Ends p retries (outcome.map give) ↔ Ends p retries outcome := by
  cases outcome <;> simp [Ends, Except.map]

theorem IsLast.map
    {β : Type}
    (give : α → β)
    {p : RetryPolicy}
    {outcome : Nat → Except CallError α}
    {n : Nat}
    (h : IsLast p outcome n) :
    IsLast p (fun i => (outcome i).map give) n :=
  ⟨(ends_map_iff give).2 h.1, fun m hm => (ends_map_iff give).not.2 (h.2 m hm)⟩

/-- **Repeated calls.**  Take a policy that has a delay for every repetition it allows, and
any outcomes of the calls.  There is a last call: the first that succeeds, fails for good,
or is made after as many failures as the policy repeats.  The calls have the numbers up to
its own, in order; between two of them there is the delay of the policy for the number of
the second; and the value of the last call is returned with its number, or else its own
error.  The loop, which has no budget, does this and nothing else, and so does a rehearsal
of a script with these outcomes, in which the calls follow one another as soon as the
delays are over.  A request on the call path whose calls have these outcomes asks for the
same calls and delays, whatever frames a successful call gives, and returns the result. -/
theorem calls_until_last
    (p : RetryPolicy)
    (hdelays : ∀ i, 1 ≤ i → i ≤ p.maxRetries → (p.delay? i).isSome = true)
    (outcome : Nat → Except CallError α) :
    ∃ n ≤ p.maxRetries, IsLast p outcome n ∧
      run p outcome = (trail (delayOf p) 0 n, conclusion outcome n) ∧
      (∀ i, 1 ≤ i → i ≤ n → p.delay? i = some (delayOf p i)) ∧
      (∀ steps result, Loop p outcome 0 steps result ↔ (steps, result) = run p outcome) ∧
      (∀ script, (∀ i ≤ n, outcomes script i = outcome i) →
        rehearse p script none =
          ⟨(List.range (n + 1)).map fun i => (i, startTime p script i), conclusion outcome n,
            startTime p script n + (entryOf script n).delay⟩) ∧
      ∀ {σ : Type} (send : Sink σ) (sink : σ) (limit : Duration) (message : Outbound)
        (nodeCount : Nat) (give : α → CallFrames),
        let given := fun i => (outcome i).map give
        let begun := start .call message nodeCount
        let (returned, effects) := turns send sink ⟨.call, limit, p⟩ begun (answers given 0 n)
        returned.result? = some (receiptOf nodeCount (conclusion given n)) ∧
          (begun.startEffects limit ++ effects).filter paces =
            (trail (delayOf p) 0 n).map (effectOf message) := by
  obtain ⟨n, hlast⟩ := exists_isLast p outcome
  have hmost := hlast.le_maxRetries
  have hrun : Loop p outcome 0 (run p outcome).1 (run p outcome).2 :=
    loop_runFrom (Nat.zero_add _)
  refine ⟨n, hmost, hlast, run_eq_trail hlast, ?_, ?_, ?_, ?_⟩
  · intro i hpositive hi
    obtain ⟨delay, hdelay⟩ := Option.isSome_iff_exists.1 (hdelays i hpositive (Nat.le_trans hi hmost))
    simp [delayOf, hdelay]
  · intro steps result
    constructor
    · intro hloop
      obtain ⟨hsteps, hresult⟩ := hloop.unique hrun
      exact Prod.ext hsteps hresult
    · intro hsame
      rw [← hsame] at hrun
      exact hrun
  · intro script hagree
    rw [rehearse_eq (hlast.of_agree hagree), conclusion, conclusion, hagree n le_rfl]
  · intro σ send sink limit message nodeCount give
    have hgiven : IsLast (⟨.call, limit, p⟩ : Delivery).retry (fun i => (outcome i).map give) n :=
      hlast.map give
    exact turns_start send sink hgiven message nodeCount

/-- Two calls that time out, and then one that succeeds. -/
def flaky (attempt : Nat) : Except CallError String :=
  if attempt < 2 then .error .timeout else .ok "done"

theorem flaky_succeeds :
    (∀ i, 1 ≤ i → i ≤ ({} : RetryPolicy).maxRetries →
      (({} : RetryPolicy).delay? i).isSome = true) ∧
    run {} flaky =
      ([.call 0, .sleep (.ofMillis 250), .call 1, .sleep (.ofMillis 500), .call 2],
        .ok ⟨"done", 2⟩) := by
  have hfirst : ({} : RetryPolicy).delay? 1 = some (.ofMillis 250) := by
    decide +kernel
  have hsecond : ({} : RetryPolicy).delay? 2 = some (.ofMillis 500) := by
    decide +kernel
  have hthird : ({} : RetryPolicy).delay? 3 = some (.ofMillis 1000) := by
    decide +kernel
  have hdelays : ∀ i, 1 ≤ i → i ≤ ({} : RetryPolicy).maxRetries →
      (({} : RetryPolicy).delay? i).isSome = true := by
    intro i hpositive hi
    have hi : i ≤ 3 := hi
    obtain rfl | rfl | rfl : i = 1 ∨ i = 2 ∨ i = 3 := by
      omega
    · rw [hfirst]; rfl
    · rw [hsecond]; rfl
    · rw [hthird]; rfl
  obtain ⟨n, _, hlast, hrun, hpauses, _⟩ := calls_until_last {} hdelays flaky
  have hearly : ∀ m < 2, ¬ Ends ({} : RetryPolicy) m (flaky m) := by
    intro m hm
    have hspared : m ≠ 3 := by
      omega
    simpa [Ends, flaky, hm, CallError.isTransient] using hspared
  obtain rfl : n = 2 := by
    have hdone : Ends ({} : RetryPolicy) 2 (flaky 2) := Or.inl ⟨"done", rfl⟩
    rcases lt_trichotomy n 2 with hless | heq | hmore
    · exact absurd hlast.1 (hearly n hless)
    · exact heq
    · exact absurd hdone (hlast.2 2 hmore)
  have hone : delayOf {} 1 = .ofMillis 250 :=
    Option.some.inj ((hpauses 1 le_rfl (by decide)).symm.trans hfirst)
  have htwo : delayOf {} 2 = .ofMillis 500 :=
    Option.some.inj ((hpauses 2 (by decide) le_rfl).symm.trans hsecond)
  refine ⟨hdelays, ?_⟩
  rw [hrun]
  simp [trail, List.range', hone, htwo, conclusion, flaky, Except.map]

end Retry

end RemoteRun
