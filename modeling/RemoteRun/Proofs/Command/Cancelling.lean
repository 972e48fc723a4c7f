import Mathlib.Data.List.Induction
import RemoteRun.Command.Desk
import RemoteRun.Proofs.Lists

/-!
# What an abort cancels

**Moves.** Requests are started, take turns with whatever they observe, and commands are
given; in between, session and sink may change in any way.

**In flight.** A request is in flight from its start to its return.  An abort cancels those
that are in flight, and nothing else ever does.

**Results.**
* `recorded_run`: a request is marked as cancelled exactly when an abort found it in flight,
  and what it returned is in line with that.
* `abort_cancels_in_flight`: which requests end as aborted, what a cancelled one still does,
  and what an abort answers.
* `aborted_call_unasked`: a request may end so without an abort, if its call does.
-/

namespace RemoteRun

namespace Request

theorem result?_eq_some
    {r : Request}
    {result : Except Failure Receipt} :
    r.result? = some result ↔ r.stage = .returned result := by
  unfold result?
  cases r.stage <;> simp

theorem result?_of_inFlight
    {r : Request}
    (h : r.inFlight = true) :
    r.result? = none := by
  unfold inFlight at h
  unfold result?
  cases hstage : r.stage <;> simp_all

theorem inFlight_or_returned
    (r : Request) :
    r.inFlight = true ∨ ∃ result, r.stage = .returned result := by
  unfold inFlight
  cases r.stage <;> simp

/-- The result of a request that was cancelled. -/
abbrev abortedResult : Except Failure Receipt :=
  .error (.call .aborted)

/-! ### A turn -/

section

variable {σ : Type} (send : Sink σ) (sink : σ) (delivery : Delivery) {r : Request}

/-- A request that was cancelled returns when it observes that, and does nothing else. -/
theorem turn_of_cancelled
    (h : r.cancelled = true)
    (o : RequestObservation) :
    r.turn send sink delivery o = (sink, r, []) ∨
      r.turn send sink delivery o = (sink, r.finish abortedResult) := by
  unfold turn
  rw [if_pos h]
  split
  · exact Or.inl rfl
  · exact Or.inr rfl
  · exact Or.inl rfl

/-- One that is in flight does so in the turn in which it observes that. -/
theorem turn_cancelled
    (h : r.cancelled = true)
    (hflight : r.inFlight = true) :
    r.turn send sink delivery .cancelled = (sink, r.finish abortedResult) := by
  unfold turn
  rw [if_pos h]
  cases hstage : r.stage with
  | returned result =>
      simp [inFlight, hstage] at hflight
  | _ =>
      rfl

theorem answer_cancelled
    (policy : RetryPolicy)
    (retries : Nat)
    (outcome : Except CallError CallFrames) :
    (r.answer policy retries outcome).1.cancelled = r.cancelled := by
  unfold answer
  dsimp only
  split <;> rfl

theorem observe_cancelled
    (o : RequestObservation) :
    (r.observe delivery o).1.cancelled = r.cancelled := by
  unfold observe
  split
  · rfl
  · rfl
  · exact answer_cancelled _ _ _
  · rfl
  · rfl

/-- No turn cancels a request. -/
theorem cancelled_turn
    (o : RequestObservation) :
    (r.turn send sink delivery o).2.1.cancelled = r.cancelled := by
  cases h : r.cancelled with
  | true =>
      rcases turn_of_cancelled send sink delivery h o with hturn | hturn <;> rw [hturn]
      · exact h
      · exact h
  | false =>
      unfold turn
      rw [h, if_neg Bool.false_ne_true]
      split
      next =>
        dsimp only
        unfold handedOn
        split <;> exact h
      next =>
        exact (observe_cancelled delivery _).trans h

/-- A request that has returned takes no turn. -/
theorem turn_of_returned
    {result : Except Failure Receipt}
    (h : r.stage = .returned result)
    (o : RequestObservation) :
    (r.turn send sink delivery o).2.1 = r := by
  unfold turn observe
  simp only [h]
  split
  · rfl
  · rfl

/-- The answer of a call ends a request as aborted if that is what the call says. -/
theorem result_answer
    (policy : RetryPolicy)
    (retries : Nat)
    (outcome : Except CallError CallFrames) :
    (r.answer policy retries outcome).1.result? = some abortedResult ↔
      outcome = .error .aborted := by
  unfold answer Retry.decide
  cases outcome with
  | ok frames =>
      simp [finish, turnTo, result?]
  | error e =>
      dsimp only
      cases hrepeats : Retry.repeats policy retries e with
      | true =>
          have hne : e ≠ .aborted := by
            rintro rfl
            simp [Retry.repeats, CallError.isTransient] at hrepeats
          simp [turnTo, result?, hne]
      | false =>
          simp [finish, turnTo, result?]

/-- One that was not cancelled returns as aborted only if its call ends so. -/
theorem result_turn
    (h : r.cancelled = false)
    (hflight : r.inFlight = true)
    (o : RequestObservation) :
    (r.turn send sink delivery o).2.1.result? = some abortedResult ↔
      (∃ retries, r.stage = .calling retries) ∧ o = .answered (.error .aborted) := by
  unfold turn
  rw [h, if_neg Bool.false_ne_true]
  cases hstage : r.stage with
  | waiting =>
      cases o with
      | connected =>
          dsimp only
          cases (send r.message sink).2 <;> simp [handedOn, finish, turnTo, result?]
      | timedOut =>
          simp [observe, hstage, timeOut, finish, turnTo, result?]
      | unavailable cause =>
          simp [observe, hstage, finish, turnTo, result?]
      | _ =>
          simp [observe, hstage, result?]
  | calling retries =>
      cases o with
      | answered outcome =>
          simpa [observe, hstage] using result_answer delivery.retry retries outcome
      | _ =>
          simp [observe, hstage, result?]
  | pausing retries =>
      cases o <;> simp [observe, hstage, turnTo, result?]
  | returned result =>
      simp [inFlight, hstage] at hflight

end

end Request

namespace Desk

open Request (abortedResult)

/-- What happens to a desk.  Meanwhile, session and sink may change in any way. -/
inductive Move (σ : Type) where
  | execute (now : Moment) (diagram : Except DiagramError Json) (options : ExecuteOptions)
  | turn (id : Nat) (o : RequestObservation)
  | give (now : Moment) (command : Command)
  | meanwhile (session : Session) (sink : σ)

section

variable {σ : Type} (send : Sink σ) (delivery : Delivery)

/-- The desk after a move; a command that fails changes nothing. -/
def move (d : Desk σ) : Move σ → Desk σ
  | .execute now diagram options => (d.execute now delivery diagram options).1
  | .turn id o => (d.turn send delivery id o).1
  | .give now command =>
      match d.give send now command with
      | .ok (after, _) => after
      | .error _ => d
  | .meanwhile session sink => { d with session := session, sink := sink }

/-- The desk after moves, one after the other. -/
def run (d : Desk σ) (ms : List (Move σ)) : Desk σ :=
  ms.foldl (move send delivery) d

/-- Whether the request with a number is in flight. -/
def isInFlight (d : Desk σ) (id : Nat) : Bool :=
  (d.requests[id]?).any Request.inFlight

/-- In a run, a move was made at a desk. -/
def Happened (d : Desk σ) (P : Desk σ → Move σ → Prop) (ms : List (Move σ)) : Prop :=
  ∃ before m after, ms = before ++ m :: after ∧ P (d.run send delivery before) m

/-- Somebody aborts while the request with a number is in flight. -/
def AbortsInFlight (id : Nat) (d : Desk σ) (m : Move σ) : Prop :=
  (∃ now, m = .give now .abort) ∧ d.isInFlight id = true

/-- The call of the request with a number says that it was aborted. -/
def CallAborts (id : Nat) (d : Desk σ) (m : Move σ) : Prop :=
  m = .turn id (.answered (.error .aborted)) ∧
    ∃ r retries, d.requests[id]? = some r ∧ r.stage = .calling retries

/-! ### Histories -/

variable {send delivery} {d : Desk σ} {P : Desk σ → Move σ → Prop}

theorem happened_nil :
    ¬ d.Happened send delivery P [] := by
  rintro ⟨before, m, after, h, _⟩
  simp at h

theorem happened_concat
    (ms : List (Move σ))
    (m : Move σ) :
    d.Happened send delivery P (ms ++ [m]) ↔
      d.Happened send delivery P ms ∨ P (d.run send delivery ms) m := by
  constructor
  · rintro ⟨before, m', after, h, hm⟩
    rcases split_of_concat h with ⟨rest, hms, _⟩ | ⟨rfl, rfl, _⟩
    · exact Or.inl ⟨before, m', rest, hms, hm⟩
    · exact Or.inr hm
  · rintro (⟨before, m', after, rfl, hm⟩ | hm)
    · exact ⟨before, m', after ++ [m], by simp, hm⟩
    · exact ⟨ms, m, [], rfl, hm⟩

theorem run_concat
    (ms : List (Move σ))
    (m : Move σ) :
    d.run send delivery (ms ++ [m]) = (d.run send delivery ms).move send delivery m := by
  simp [run]

/-! ### Requests after a move -/

/-- A request that was there before a move, after it. -/
def passed (send : Sink σ) (delivery : Delivery) (d : Desk σ) (m : Move σ) (id : Nat)
    (r : Request) : Request :=
  match m with
  | .turn other o => if other = id then (r.turn send d.sink delivery o).2.1 else r
  | .give _ .abort => { r with cancelled := r.cancelled || r.inFlight }
  | _ => r

theorem requests_abort
    (now : Moment) :
    (d.abort send now).1.requests =
      d.requests.map fun r => { r with cancelled := r.cancelled || r.inFlight } := by
  unfold abort
  dsimp only
  split <;> rfl

theorem requests_sendFor
    (message : String → Outbound) :
    (d.sendFor send message).1.requests = d.requests := by
  unfold sendFor
  split <;> rfl

/-- No other command changes a request. -/
theorem requests_give
    (now : Moment)
    {command : Command}
    (h : command ≠ .abort) :
    (d.move send delivery (.give now command)).requests = d.requests := by
  cases command with
  | pause node =>
      exact requests_sendFor _
  | resume node =>
      exact requests_sendFor _
  | skip node =>
      exact requests_sendFor _
  | abort =>
      exact absurd rfl h
  | respond node response =>
      rfl
  | cancelPrompt =>
      simp only [move, give, cancelPrompt]
      cases d.session.prompts.cancel send d.sink now.elapsed d.target? <;> rfl

theorem requests_execute
    (d : Desk σ)
    (delivery : Delivery)
    (now : Moment)
    (diagram : Except DiagramError Json)
    (options : ExecuteOptions) :
    (d.execute now delivery diagram options).1.requests = d.requests ∨
      ∃ message nodeCount, (d.execute now delivery diagram options).1.requests =
        d.requests ++ [Request.start delivery.path message nodeCount] := by
  cases diagram with
  | error e =>
      exact Or.inl rfl
  | ok diagram =>
      exact Or.inr ⟨_, _, rfl⟩

theorem inFlight_start
    (path : DeliveryPath)
    (message : Outbound)
    (nodeCount : Nat) :
    (Request.start path message nodeCount).inFlight = true := by
  cases path <;> rfl

theorem getElem?_turn
    (other id : Nat)
    (o : RequestObservation) :
    (d.turn send delivery other o).1.requests[id]? =
      (d.requests[id]?).map (d.passed send delivery (.turn other o) id) := by
  unfold turn passed
  cases hother : d.requests[other]? with
  | none =>
      by_cases heq : other = id
      · subst heq
        simp [hother]
      · simp [heq]
  | some r =>
      by_cases heq : other = id
      · subst heq
        obtain ⟨hlt, rfl⟩ := List.getElem?_eq_some_iff.1 hother
        simp [hlt]
      · simp [List.getElem?_set_ne heq, heq]

/-- A request that is there is passed on. -/
theorem getElem?_move_of_some
    (send : Sink σ)
    (delivery : Delivery)
    (m : Move σ)
    {id : Nat}
    {r : Request}
    (h : d.requests[id]? = some r) :
    (d.move send delivery m).requests[id]? = some (d.passed send delivery m id r) := by
  cases m with
  | execute now diagram options =>
      have hlt := (List.getElem?_eq_some_iff.1 h).1
      rcases d.requests_execute delivery now diagram options with
        hsame | ⟨message, nodeCount, hnew⟩
      · exact (congrArg (·[id]?) hsame).trans h
      · exact (congrArg (·[id]?) hnew).trans ((List.getElem?_append_left hlt).trans h)
  | turn other o =>
      exact (d.getElem?_turn other id o).trans (by rw [h, Option.map_some])
  | give now command =>
      by_cases hcommand : command = .abort
      · subst hcommand
        refine (congrArg (·[id]?) (d.requests_abort now)).trans ?_
        simp only [List.getElem?_map, h]
        rfl
      · rw [requests_give now hcommand, h]
        cases command <;> first | rfl | exact absurd rfl hcommand
  | meanwhile session sink =>
      exact h

/-- A request that was not there has just been started. -/
theorem fresh_of_getElem?_move
    (m : Move σ)
    {id : Nat}
    {r : Request}
    (hnone : d.requests[id]? = none)
    (h : (d.move send delivery m).requests[id]? = some r) :
    r.cancelled = false ∧ r.inFlight = true := by
  cases m with
  | execute now diagram options =>
      have h : (d.execute now delivery diagram options).1.requests[id]? = some r := h
      rcases d.requests_execute delivery now diagram options with
        hsame | ⟨message, nodeCount, hnew⟩
      · rw [hsame, hnone] at h
        cases h
      · rw [hnew, List.getElem?_append_right (List.getElem?_eq_none_iff.1 hnone)] at h
        obtain rfl := List.mem_singleton.1 (List.mem_of_getElem? h)
        exact ⟨rfl, inFlight_start _ _ _⟩
  | turn other o =>
      have h : (d.turn send delivery other o).1.requests[id]? = some r := h
      rw [getElem?_turn, hnone] at h
      cases h
  | give now command =>
      by_cases hcommand : command = .abort
      · subst hcommand
        have h : (d.abort send now).1.requests[id]? = some r := h
        rw [requests_abort, List.getElem?_map, hnone] at h
        cases h
      · rw [requests_give now hcommand, hnone] at h
        cases h
  | meanwhile session sink =>
      exact absurd (hnone.symm.trans h) (by simp)

theorem cancelled_passed
    (d : Desk σ)
    (send : Sink σ)
    (delivery : Delivery)
    (m : Move σ)
    (id : Nat)
    (r : Request) :
    (d.passed send delivery m id r).cancelled = true ↔
      r.cancelled = true ∨ (∃ now, m = .give now .abort) ∧ r.inFlight = true := by
  cases m with
  | turn other o =>
      unfold passed
      dsimp only
      split <;> simp [Request.cancelled_turn]
  | give now command =>
      cases command <;> simp [passed]
  | _ =>
      simp [passed]

/-- A request that has returned keeps its result. -/
theorem stage_passed
    (m : Move σ)
    (id : Nat)
    {r : Request}
    {result : Except Failure Receipt}
    (h : r.stage = .returned result) :
    (d.passed send delivery m id r).stage = .returned result := by
  cases m with
  | turn other o =>
      unfold passed
      dsimp only
      split
      · rw [Request.turn_of_returned _ _ _ h]
        exact h
      · exact h
  | give now command =>
      cases command <;> exact h
  | _ =>
      exact h

/-- A request returns in its turn. -/
theorem turn_of_passed
    (m : Move σ)
    (id : Nat)
    {r : Request}
    (hflight : r.inFlight = true)
    {result : Except Failure Receipt}
    (h : (d.passed send delivery m id r).result? = some result) :
    ∃ o, m = .turn id o ∧ d.passed send delivery m id r = (r.turn send d.sink delivery o).2.1 := by
  have hnone := Request.result?_of_inFlight hflight
  cases m with
  | turn other o =>
      unfold passed at h ⊢
      dsimp only at h ⊢
      split at h
      next heq =>
        subst heq
        exact ⟨o, rfl, by rw [if_pos rfl]⟩
      next =>
        rw [hnone] at h
        cases h
  | give now command =>
      cases command <;> exact absurd (hnone.symm.trans h) (by simp)
  | _ =>
      exact absurd (hnone.symm.trans h) (by simp)

/-! ### Throughout a run -/

/-- What is to be seen of a request after a run. -/
structure Recorded (send : Sink σ) (delivery : Delivery) (d : Desk σ) (ms : List (Move σ))
    (id : Nat) (r : Request) : Prop where
  cancelled_iff : r.cancelled = true ↔ d.Happened send delivery (AbortsInFlight id) ms
  aborted : r.result? = some abortedResult →
    d.Happened send delivery (AbortsInFlight id) ms ∨ d.Happened send delivery (CallAborts id) ms
  of_aborts : r.cancelled = true → ∀ result, r.result? = some result → result = abortedResult
  of_call : d.Happened send delivery (CallAborts id) ms → r.cancelled = false →
    r.result? = some abortedResult

/-- What a move makes of what is to be seen of a request. -/
theorem Recorded.move
    {ms : List (Move σ)}
    {id : Nat}
    {r : Request}
    (h : Recorded send delivery d ms id r)
    (hr : (d.run send delivery ms).requests[id]? = some r)
    (m : Move σ) :
    Recorded send delivery d (ms ++ [m]) id
      ((d.run send delivery ms).passed send delivery m id r) := by
  have hcancelled := (d.run send delivery ms).cancelled_passed send delivery m id r
  have hflight : (d.run send delivery ms).isInFlight id = r.inFlight := by
    rw [isInFlight, hr, Option.any_some]
  constructor
  · rw [hcancelled, happened_concat, h.cancelled_iff, AbortsInFlight, hflight]
  · intro hresult
    rw [happened_concat, happened_concat]
    rcases r.inFlight_or_returned with hin | ⟨result, hstage⟩
    · obtain ⟨o, rfl, hturn⟩ := turn_of_passed m id hin hresult
      rw [hturn] at hresult
      cases hc : r.cancelled with
      | true =>
          exact Or.inl (Or.inl (h.cancelled_iff.1 hc))
      | false =>
          obtain ⟨⟨retries, hstage⟩, rfl⟩ := (Request.result_turn _ _ _ hc hin o).1 hresult
          exact Or.inr (Or.inr ⟨rfl, r, retries, hr, hstage⟩)
    · rw [Request.result?_eq_some.2 (stage_passed m id hstage)] at hresult
      rcases h.aborted ((Request.result?_eq_some.2 hstage).trans hresult) with hpast | hpast
      · exact Or.inl (Or.inl hpast)
      · exact Or.inr (Or.inl hpast)
  · intro hc result hresult
    rcases r.inFlight_or_returned with hin | ⟨result', hstage⟩
    · obtain ⟨o, rfl, hturn⟩ := turn_of_passed m id hin hresult
      rw [hturn] at hresult hc
      rw [Request.cancelled_turn] at hc
      rcases Request.turn_of_cancelled send (d.run send delivery ms).sink delivery hc o with
        hstay | hfinish
      · rw [hstay, Request.result?_of_inFlight hin] at hresult
        cases hresult
      · rw [hfinish] at hresult
        exact (Option.some.inj hresult).symm
    · rw [Request.result?_eq_some.2 (stage_passed m id hstage)] at hresult
      have hc : r.cancelled = true := by
        rcases hcancelled.1 hc with hc | ⟨_, hin⟩
        · exact hc
        · rw [Request.inFlight, hstage] at hin
          cases hin
      exact h.of_aborts hc result ((Request.result?_eq_some.2 hstage).trans hresult)
  · intro hpast hc
    have hc' : r.cancelled = false := by
      rw [← Bool.not_eq_true] at hc ⊢
      exact fun hr => hc (hcancelled.2 (Or.inl hr))
    rcases (happened_concat ms m).1 hpast with hpast | ⟨rfl, r', retries, hr', hstage⟩
    · have hresult := h.of_call hpast hc'
      exact Request.result?_eq_some.2 (stage_passed m id (Request.result?_eq_some.1 hresult))
    · obtain rfl := Option.some.inj (hr.symm.trans hr')
      have hin : r.inFlight = true := by
        rw [Request.inFlight, hstage]
      simp only [passed, if_pos]
      exact (Request.result_turn _ _ _ hc' hin _).2 ⟨⟨retries, hstage⟩, rfl⟩

/-- Nothing has happened to a request that was not started. -/
theorem not_happens_of_none
    {id : Nat}
    (h : d.requests[id]? = none)
    (m : Move σ) :
    ¬ AbortsInFlight id d m ∧ ¬ CallAborts id d m := by
  constructor
  · rintro ⟨_, hin⟩
    rw [isInFlight, h] at hin
    cases hin
  · rintro ⟨_, r, _, hr, _⟩
    rw [h] at hr
    cases hr

/-- What is to be seen of a request that has just been started. -/
theorem recorded_of_fresh
    {ms : List (Move σ)}
    {id : Nat}
    {r : Request}
    (haborts : ¬ d.Happened send delivery (AbortsInFlight id) ms)
    (hcalls : ¬ d.Happened send delivery (CallAborts id) ms)
    (hc : r.cancelled = false)
    (hin : r.inFlight = true) :
    Recorded send delivery d ms id r where
  cancelled_iff := by simp [hc, haborts]
  aborted hresult := by
    rw [Request.result?_of_inFlight hin] at hresult
    cases hresult
  of_aborts h := by
    rw [hc] at h
    cases h
  of_call h := absurd h hcalls

/-- What is to be seen of every request after a run in which all were started. -/
theorem recorded_run
    (d : Desk σ)
    (send : Sink σ)
    (delivery : Delivery)
    (hd : d.requests = [])
    (ms : List (Move σ))
    (id : Nat) :
    (∀ r, (d.run send delivery ms).requests[id]? = some r →
      Recorded send delivery d ms id r) ∧
    ((d.run send delivery ms).requests[id]? = none →
      ¬ d.Happened send delivery (AbortsInFlight id) ms ∧
        ¬ d.Happened send delivery (CallAborts id) ms) := by
  induction ms using List.reverseRecOn with
  | nil =>
      refine ⟨?_, fun _ => ⟨happened_nil, happened_nil⟩⟩
      intro r hr
      simp [run, hd] at hr
  | append_singleton ms m ih =>
      obtain ⟨hsome, hnone⟩ := ih
      rw [run_concat]
      cases hbefore : (d.run send delivery ms).requests[id]? with
      | some r =>
          have hafter := getElem?_move_of_some send delivery m hbefore
          refine ⟨?_, fun hnone => absurd (hafter.symm.trans hnone) (by simp)⟩
          intro r' hr'
          obtain rfl := Option.some.inj (hafter.symm.trans hr')
          exact (hsome r hbefore).move hbefore m
      | none =>
          obtain ⟨hpast, hpast'⟩ := hnone hbefore
          obtain ⟨hnow, hnow'⟩ := not_happens_of_none hbefore m
          have haborts : ¬ d.Happened send delivery (AbortsInFlight id) (ms ++ [m]) :=
            fun h => ((happened_concat ms m).1 h).elim hpast hnow
          have hcalls : ¬ d.Happened send delivery (CallAborts id) (ms ++ [m]) :=
            fun h => ((happened_concat ms m).1 h).elim hpast' hnow'
          refine ⟨?_, fun _ => ⟨haborts, hcalls⟩⟩
          intro r' hr'
          obtain ⟨hc, hin⟩ := fresh_of_getElem?_move m hbefore hr'
          exact recorded_of_fresh haborts hcalls hc hin

/-! ### What an abort answers -/

/-- An abort leaves alone what is not in flight. -/
theorem getElem?_abort
    (d : Desk σ)
    (now : Moment)
    {id : Nat}
    (h : d.isInFlight id = false) :
    (d.abort send now).1.requests[id]? = d.requests[id]? := by
  rw [requests_abort, List.getElem?_map]
  cases hr : d.requests[id]? with
  | none =>
      rfl
  | some r =>
      rw [isInFlight, hr, Option.any_some] at h
      simp [h]

/-- An abort without a running execution says whether a request was in flight. -/
theorem abort_outcome
    (d : Desk σ)
    (now : Moment) :
    (d.abort send now).2 = .executeCancelled ↔ d.target? = none ∧ d.hasInFlight = true := by
  unfold abort target? Machine.abort Machine.activeId?
  dsimp only [cancelRequests]
  cases hlive : d.session.machine.live? with
  | none =>
      simp
  | some h =>
      simp only [Option.map_some]
      cases (send (.abortExecution h.executionId) d.sink).2 <;> simp [CommandOutcome.ofSend]

/-- A request that was cancelled does nothing any more but return. -/
theorem turn_of_cancelled
    (d : Desk σ)
    {id : Nat}
    {r : Request}
    (hr : d.requests[id]? = some r)
    (hc : r.cancelled = true)
    (hreturned : ∀ result, r.result? = some result → result = abortedResult)
    (o : RequestObservation) :
    (d.turn send delivery id o).1.sink = d.sink ∧
      (∀ message, RequestEffect.call message ∉ (d.turn send delivery id o).2) ∧
      (o = .cancelled → ((d.turn send delivery id o).1.requests[id]?).bind Request.result? =
        some abortedResult) := by
  have hsink : (d.turn send delivery id o).1.sink = (r.turn send d.sink delivery o).1 := by
    simp only [turn, hr]
  have heffects : (d.turn send delivery id o).2 = (r.turn send d.sink delivery o).2.2 := by
    simp only [turn, hr]
  have hrequest : (d.turn send delivery id o).1.requests[id]? =
      some (r.turn send d.sink delivery o).2.1 := by
    rw [getElem?_turn, hr, Option.map_some, passed, if_pos rfl]
  rw [hsink, heffects, hrequest, Option.bind_some]
  refine ⟨?_, ?_, ?_⟩
  · rcases Request.turn_of_cancelled send d.sink delivery hc o with hturn | hturn <;> rw [hturn]
  · intro message
    rcases Request.turn_of_cancelled send d.sink delivery hc o with hturn | hturn <;>
      simp [hturn, Request.finish]
  · rintro rfl
    rcases r.inFlight_or_returned with hin | ⟨result, hstage⟩
    · rw [Request.turn_cancelled send d.sink delivery hc hin]
      rfl
    · rw [Request.turn_of_returned send d.sink delivery hstage]
      have hresult := Request.result?_eq_some.2 hstage
      rw [hresult, hreturned result hresult]

/-- **Cancelling.**  Let requests be started, take turns, and let commands be given, in any
order, while session and sink change in any way.  A request that has returned did so as
aborted exactly when an abort found it in flight, or its call said so.  Once an abort has
found it in flight, it hands nothing to the sink and makes no call, whatever it observes, and
it returns as aborted as soon as it observes that it was cancelled, if it has not returned.
An abort that does not find it in flight leaves it alone.  An abort says that it cancelled a
request exactly when no execution runs and a request is in flight. -/
theorem abort_cancels_in_flight
    (send : Sink σ)
    (delivery : Delivery)
    (session : Session)
    (sink : σ)
    (ms : List (Move σ)) :
    let start : Desk σ := { session := session, sink := sink }
    let d := start.run send delivery ms
    (∀ (id : Nat) r result, d.requests[id]? = some r → r.result? = some result →
      (result = .error (.call .aborted) ↔
        start.Happened send delivery (AbortsInFlight id) ms ∨
          start.Happened send delivery (CallAborts id) ms)) ∧
    (∀ (id : Nat), start.Happened send delivery (AbortsInFlight id) ms → ∃ r,
      d.requests[id]? = some r ∧ ∀ o,
        (d.turn send delivery id o).1.sink = d.sink ∧
        (∀ message, RequestEffect.call message ∉ (d.turn send delivery id o).2) ∧
        (o = .cancelled → ((d.turn send delivery id o).1.requests[id]?).bind Request.result? =
          some (.error (.call .aborted)))) ∧
    (∀ id now, d.isInFlight id = false →
      (d.abort send now).1.requests[id]? = d.requests[id]?) ∧
    ∀ now, (d.abort send now).2 = .executeCancelled ↔
      d.target? = none ∧ d.hasInFlight = true := by
  intro start d
  have hrecorded := fun id => start.recorded_run send delivery rfl ms id
  refine ⟨?_, ?_, fun id now h => getElem?_abort d now h, fun now => abort_outcome d now⟩
  · intro id r result hr hresult
    have h := (hrecorded id).1 r hr
    constructor
    · rintro rfl
      exact h.aborted hresult
    · intro hpast
      cases hc : r.cancelled with
      | true =>
          exact h.of_aborts hc result hresult
      | false =>
          rcases hpast with hpast | hpast
          · rw [h.cancelled_iff.2 hpast] at hc
            cases hc
          · exact Option.some.inj (hresult.symm.trans (h.of_call hpast hc))
  · intro id hpast
    cases hr : d.requests[id]? with
    | none =>
        exact absurd hpast ((hrecorded id).2 hr).1
    | some r =>
        have h := (hrecorded id).1 r hr
        have hc := h.cancelled_iff.2 hpast
        exact ⟨r, rfl, turn_of_cancelled d hr hc (h.of_aborts hc)⟩

end

/-! ### Aborted without an abort -/

/-- A place that takes every message and keeps none. -/
def swallow : Sink Unit := fun _ _ => ((), .ok ())

/-- A request is started, and its call says that it was aborted. -/
def abortedCall : List (Move Unit) :=
  [.execute ⟨0, ⟨0, 0⟩⟩ (.ok .null) {}, .turn 0 (.answered (.error .aborted))]

/-- A request may end as aborted although nobody aborts. -/
theorem aborted_call_unasked :
    let start : Desk Unit := { session := .ofCapacity 1, sink := () }
    let d := start.run swallow { path := .call } abortedCall
    (d.requests[0]?).bind Request.result? = some (.error (.call .aborted)) ∧
      ¬ start.Happened swallow { path := .call } (AbortsInFlight 0) abortedCall := by
  refine ⟨rfl, ?_⟩
  rintro ⟨before, _, after, heq, ⟨now, rfl⟩, _⟩
  have hmem : Move.give now .abort ∈ abortedCall := by
    simp [heq]
  simp [abortedCall] at hmem

end Desk

end RemoteRun
