import RemoteRun.Proofs.Lists
import RemoteRun.Proofs.Prompt.Asking

/-!
# The life of a prompt

A prompt slot on a clock.  Prompts are activated, answered, cancelled and dropped, and the
slot is asked for the active one, in any order and at any time.

**Histories.** A run writes down what was done, what came of it and which messages were
handed on.  `Waits` reads off such a history which prompt waits for an answer: the one that
was activated last, unless something since then ended it.  It looks neither at the clock nor
at the slot.

**Invariant.** A prompt whose timeout has not passed is in the slot exactly when it waits
according to the history (`Faithful`).  An expired one may still be in the slot or may have
been dropped by a look at it; since the clock runs forward it does not come back.

**Results.** `prompt_lifecycle`: a run of prompts whose deadlines a clock can show never
overflows; asking gives the prompt that waits if its timeout has not passed; a cancellation
answers that prompt or sends nothing; and between two activations at most one answers.
-/

namespace RemoteRun

/-- A sink that writes down what is handed to it. -/
def Sink.recorded {σ : Type} (send : Sink σ) : Sink (σ × List Outbound) := fun message state =>
  let (next, result) := send message state.1
  ((next, state.2 ++ [message]), result)

/-- What is done with a prompt slot, or that time passes. -/
inductive PromptAction where
  | activate (p : Prompt)
  | respond (nodeId response : String) (tracked : Option String)
  | cancel (tracked : Option String)
  | clear
  | retainFor (tracked : Option String)
  | ask
  | advance (millis : Nat)

/-- An action, the outcome if it has one, and the messages that were handed on. -/
structure PromptEvent where
  action : PromptAction
  outcome : Option CommandOutcome := none
  handed : List Outbound := []

namespace PromptAction

/-- Whether an action makes a prompt the active one. -/
def activates : PromptAction → Bool
  | .activate _ => true
  | .respond _ _ _ | .cancel _ | .clear | .retainFor _ | .ask | .advance _ => false

/-- The time that passes. -/
def millis : PromptAction → Nat
  | .advance millis => millis
  | .activate _ | .respond _ _ _ | .cancel _ | .clear | .retainFor _ | .ask => 0

/-- The prompt that an action makes the active one has a deadline that a clock can show. -/
def Shown : PromptAction → Prop
  | .activate p => p.overflows = false
  | .respond _ _ _ | .cancel _ | .clear | .retainFor _ | .ask | .advance _ => True

end PromptAction

namespace PromptEvent

/-- Whether an event lets a prompt wait on: nothing newer is activated; it is no answer for an
execution, and no cancellation for one that found a prompt; the prompt is not dropped, and if
another execution is tracked from now on it belongs to that one. -/
def spares (p : Prompt) (e : PromptEvent) : Bool :=
  match e.action with
  | .activate _ => false
  | .respond _ _ tracked => tracked.isNone
  | .cancel tracked => tracked.isNone || e.outcome == some .noActivePrompt
  | .clear => false
  | .retainFor tracked => tracked == p.executionId
  | .ask | .advance _ => true

/-- The messages that a cancellation handed on. -/
def cancellations (e : PromptEvent) : List Outbound :=
  match e.action with
  | .cancel _ => e.handed
  | _ => []

end PromptEvent

/-- A prompt waits for an answer after a history: it was activated last, and everything since
then spares it. -/
def Waits (history : List PromptEvent) (p : Prompt) : Prop :=
  ∃ before e after, history = before ++ e :: after ∧ e.action = .activate p ∧
    ∀ later ∈ after, later.spares p = true

/-- The time after a history. -/
def clockAfter (start : Nat) (history : List PromptEvent) : Nat :=
  history.foldl (fun now e => now + e.action.millis) start

namespace Waits

theorem not_nil
    (p : Prompt) :
    ¬ Waits [] p := by
  rintro ⟨before, e, after, hsplit, _, _⟩
  simp at hsplit

/-- After one more event a prompt waits if it was activated just now, or if it waited and the
event spares it. -/
theorem concat_iff
    (history : List PromptEvent)
    (e : PromptEvent)
    (p : Prompt) :
    Waits (history ++ [e]) p ↔
      e.action = .activate p ∨ (Waits history p ∧ e.spares p = true) := by
  constructor
  · rintro ⟨before, first, after, hsplit, hfirst, hspared⟩
    rcases split_of_concat hsplit with ⟨rest, rfl, rfl⟩ | ⟨rfl, rfl, rfl⟩
    · refine Or.inr ⟨⟨before, first, rest, rfl, hfirst, ?_⟩, ?_⟩
      · intro later hlater
        exact hspared later (List.mem_append_left _ hlater)
      · exact hspared e (List.mem_append_right _ List.mem_cons_self)
    · exact Or.inl hfirst
  · rintro (hactivates | ⟨⟨before, first, after, rfl, hfirst, hspared⟩, hspares⟩)
    · exact ⟨history, e, [], rfl, hactivates, nofun⟩
    · refine ⟨before, first, after ++ [e], by simp, hfirst, ?_⟩
      intro later hlater
      rcases List.mem_append.1 hlater with hold | hnew
      · exact hspared later hold
      · obtain rfl := List.mem_singleton.1 hnew
        exact hspares

end Waits

/-- A prompt slot on a clock, and the place that takes its messages. -/
structure PromptDesk (σ : Type) where
  slot : PromptSlot
  sink : σ
  now : Nat

namespace PromptDesk

variable {σ : Type}

/-- A slot without a prompt. -/
def fresh (sink : σ) (start : Nat) : PromptDesk σ :=
  ⟨{}, sink, start⟩

/-- What an answer or a cancellation leaves, and the event it is. -/
def answered (d : PromptDesk σ) (action : PromptAction)
    (given : (σ × List Outbound) × PromptSlot × CommandOutcome) : PromptDesk σ × PromptEvent :=
  ({ d with sink := given.1.1, slot := given.2.1 }, ⟨action, some given.2.2, given.1.2⟩)

/-- Do something with the slot, or let time pass. -/
def step (send : Sink σ) (d : PromptDesk σ) (action : PromptAction) :
    Except DeadlineOverflow (PromptDesk σ × PromptEvent) :=
  match action with
  | .activate p => .ok ({ d with slot := d.slot.activate p }, ⟨action, none, []⟩)
  | .respond nodeId response tracked =>
      .ok (d.answered action
        (PromptSlot.respond send.recorded (d.sink, []) d.slot nodeId response tracked))
  | .cancel tracked =>
      (PromptSlot.cancel send.recorded (d.sink, []) d.slot d.now tracked).map (d.answered action)
  | .clear => .ok ({ d with slot := d.slot.clear }, ⟨action, none, []⟩)
  | .retainFor tracked => .ok ({ d with slot := d.slot.retainFor tracked }, ⟨action, none, []⟩)
  | .ask =>
      (d.slot.current d.now).map fun asked => ({ d with slot := asked.1 }, ⟨action, none, []⟩)
  | .advance millis => .ok ({ d with now := d.now + millis }, ⟨action, none, []⟩)

/-- Do things one after the other; the history they make. -/
def run (send : Sink σ) (d : PromptDesk σ) :
    List PromptAction → Except DeadlineOverflow (PromptDesk σ × List PromptEvent)
  | [] => .ok (d, [])
  | action :: actions =>
      match d.step send action with
      | .error e => .error e
      | .ok (d, e) => (d.run send actions).map fun ran => (ran.1, e :: ran.2)

/-- The slot has the prompts that wait according to a history and have not expired, and no
deadline that a clock cannot show. -/
structure Faithful (start : Nat) (history : List PromptEvent) (d : PromptDesk σ) : Prop where
  clock : d.now = clockAfter start history
  shown : d.slot.overflows = false
  waiting_iff : ∀ p, d.slot.waiting? d.now = some p ↔ Waits history p ∧ p.lasts d.now = true

/-- What a cancellation has to be: it finds a prompt exactly when one waits that has not
expired.  If an execution is tracked it then hands on one empty answer for it to the node of
this prompt; in no other case does it hand on anything. -/
structure Answers (start : Nat) (history : List PromptEvent) (e : PromptEvent) : Prop where
  finds : ∀ tracked, e.action = .cancel tracked →
    (e.outcome = some .noActivePrompt ↔
      ∀ p, Waits history p → p.lasts (clockAfter start history) = false)
  hands : ∀ p execution, e.action = .cancel (some execution) → Waits history p →
    p.lasts (clockAfter start history) = true →
      e.handed = [.interactiveResponse p.nodeId execution ""]
  handed : ∀ message ∈ e.cancellations, ∃ p execution,
    e.action = .cancel (some execution) ∧
      message = .interactiveResponse p.nodeId execution "" ∧
      Waits history p ∧ p.lasts (clockAfter start history) = true

/-- All events that follow a history are what they have to be. -/
def Lawful (start : Nat) (history events : List PromptEvent) : Prop :=
  ∀ before e after, events = before ++ e :: after → Answers start (history ++ before) e

/-! ### One action -/

section Step

variable {d : PromptDesk σ} {start : Nat} {history : List PromptEvent} {e : PromptEvent}

theorem Answers.of_no_cancellation
    (h : ∀ tracked, e.action ≠ .cancel tracked) :
    Answers start history e where
  finds := fun tracked he => absurd he (h tracked)
  hands := fun _ execution he => absurd he (h (some execution))
  handed := by
    intro message hmessage
    unfold PromptEvent.cancellations at hmessage
    split at hmessage
    next tracked he =>
      exact absurd he (h tracked)
    next =>
      cases hmessage

theorem clockAfter_concat
    (start : Nat)
    (history : List PromptEvent)
    (e : PromptEvent) :
    clockAfter start (history ++ [e]) = clockAfter start history + e.action.millis := by
  rw [clockAfter, List.foldl_append]
  rfl

/-- An event in no time keeps the slot faithful if, among the prompts that have not expired,
it leaves those in the slot that it activates or spares. -/
theorem Faithful.next
    (h : d.Faithful start history)
    {slot : PromptSlot}
    (hshown : slot.overflows = false)
    (hmillis : e.action.millis = 0)
    (hslot : ∀ p, p.lasts d.now = true →
      (slot.active = some p ↔
        e.action = .activate p ∨ (d.slot.active = some p ∧ e.spares p = true)))
    (sink : σ) :
    Faithful start (history ++ [e]) ⟨slot, sink, d.now⟩ where
  clock := by
    rw [clockAfter_concat, hmillis, Nat.add_zero]
    exact h.clock
  shown := hshown
  waiting_iff := by
    intro p
    rw [PromptSlot.waiting?_eq_some, Waits.concat_iff]
    have hwaited := h.waiting_iff p
    rw [PromptSlot.waiting?_eq_some] at hwaited
    constructor
    · rintro ⟨hactive, hlasts⟩
      refine ⟨?_, hlasts⟩
      rcases (hslot p hlasts).1 hactive with hnew | ⟨hold, hspares⟩
      · exact Or.inl hnew
      · exact Or.inr ⟨(hwaited.1 ⟨hold, hlasts⟩).1, hspares⟩
    · rintro ⟨hwaits, hlasts⟩
      refine ⟨(hslot p hlasts).2 ?_, hlasts⟩
      rcases hwaits with hnew | ⟨hold, hspares⟩
      · exact Or.inl hnew
      · exact Or.inr ⟨(hwaited.2 ⟨hold, hlasts⟩).1, hspares⟩

/-- The slot is faithful to a history at a later time, too. -/
theorem Faithful.advance
    (h : d.Faithful start history)
    (millis : Nat)
    (he : e.action = .advance millis) :
    Faithful start (history ++ [e]) { d with now := d.now + millis } where
  clock := by
    rw [clockAfter_concat, he, ← h.clock]
    rfl
  shown := h.shown
  waiting_iff := by
    intro p
    have hwaited := h.waiting_iff p
    rw [PromptSlot.waiting?_eq_some] at hwaited
    have hspares : e.spares p = true := by
      simp [PromptEvent.spares, he]
    rw [PromptSlot.waiting?_eq_some, Waits.concat_iff, he]
    constructor
    · rintro ⟨hactive, hlasts⟩
      have hbefore := Prompt.lasts_of_le (Nat.le_add_right d.now millis) hlasts
      exact ⟨Or.inr ⟨(hwaited.1 ⟨hactive, hbefore⟩).1, hspares⟩, hlasts⟩
    · rintro ⟨hnew | ⟨hwaits, _⟩, hlasts⟩
      · cases hnew
      · have hbefore := Prompt.lasts_of_le (Nat.le_add_right d.now millis) hlasts
        exact ⟨(hwaited.2 ⟨hwaits, hbefore⟩).1, hlasts⟩

/-- A cancellation of the prompt that the slot has waiting, if any, is one of the prompt that
waits according to the history. -/
theorem Faithful.answers
    (h : d.Faithful start history)
    (tracked : Option String)
    (outcome : CommandOutcome)
    (houtcome : outcome = .noActivePrompt ↔ d.slot.waiting? d.now = none) :
    Answers start history
      ⟨.cancel tracked, some outcome,
        (d.slot.waiting? d.now).toList.flatMap fun p =>
          tracked.toList.map fun execution => .interactiveResponse p.nodeId execution ""⟩ where
  finds := by
    intro tracked' _
    rw [Option.some.injEq, houtcome, Option.eq_none_iff_forall_ne_some, ← h.clock]
    constructor
    · intro hnone p hwaits
      have hexpired := mt (fun hlasts => (h.waiting_iff p).2 ⟨hwaits, hlasts⟩) (hnone p)
      simpa using hexpired
    · intro hexpired p hp
      obtain ⟨hwaits, hlasts⟩ := (h.waiting_iff p).1 hp
      simp [hexpired p hwaits] at hlasts
  hands := by
    intro p execution hcancel hwaits hlasts
    rw [← h.clock] at hlasts
    cases hcancel
    simp [(h.waiting_iff p).2 ⟨hwaits, hlasts⟩]
  handed := by
    intro message hmessage
    obtain ⟨p, hp, hmade⟩ := List.mem_flatMap.1 hmessage
    obtain ⟨execution, htracked, rfl⟩ := List.mem_map.1 hmade
    rw [Option.mem_toList] at hp htracked
    rw [← h.clock]
    exact ⟨p, execution, by rw [htracked], rfl, (h.waiting_iff p).1 hp⟩

/-- A cancellation. -/
theorem Faithful.cancel
    (h : d.Faithful start history)
    (send : Sink σ)
    (tracked : Option String) :
    ∃ next e, d.step send (.cancel tracked) = .ok (next, e) ∧ e.action = .cancel tracked ∧
      Answers start history e ∧ next.Faithful start (history ++ [e]) := by
  have hgiven := PromptSlot.cancel_eq send.recorded (d.sink, []) d.slot d.now tracked
  rw [h.shown] at hgiven
  have hanswers := h.answers tracked
  cases hwaiting : d.slot.waiting? d.now with
  | none =>
      simp only [hwaiting, Bool.false_eq_true, if_false] at hgiven hanswers
      refine ⟨_, _, by rw [step, hgiven]; rfl, rfl, hanswers _ (by simp), h.next rfl rfl ?_ _⟩
      intro p hlasts
      have hout : d.slot.active ≠ some p := by
        intro hactive
        rw [PromptSlot.waiting?_eq_some.2 ⟨hactive, hlasts⟩] at hwaiting
        cases hwaiting
      simp [hout]
  | some q =>
      obtain ⟨hactive, _⟩ := PromptSlot.waiting?_eq_some.1 hwaiting
      simp only [hwaiting, Bool.false_eq_true, if_false] at hgiven hanswers
      cases tracked with
      | none =>
          have hshown : PromptSlot.overflows ⟨some q⟩ = false := hactive ▸ h.shown
          refine ⟨_, _, by rw [step, hgiven]; rfl, rfl, hanswers _ (by simp [PromptSlot.respond]),
            h.next hshown rfl ?_ _⟩
          intro p _
          simp [hactive, PromptEvent.spares, PromptSlot.respond]
      | some execution =>
          have houtcome : ∀ result, CommandOutcome.ofSend result execution ≠ .noActivePrompt := by
            intro result
            cases result <;> simp [CommandOutcome.ofSend]
          refine ⟨_, _, by rw [step, hgiven]; rfl, rfl,
            hanswers _ (by simp [PromptSlot.respond, houtcome]), h.next rfl rfl ?_ _⟩
          intro p _
          simp [PromptEvent.spares, PromptSlot.respond, PromptSlot.clear, houtcome]

/-- **Actions.**  Every action with prompts whose deadlines can be shown leaves the slot
faithful, and if it is a cancellation it is what it has to be. -/
theorem Faithful.step
    (h : d.Faithful start history)
    (send : Sink σ)
    {action : PromptAction}
    (hshown : action.Shown) :
    ∃ next e, d.step send action = .ok (next, e) ∧ e.action = action ∧
      Answers start history e ∧ next.Faithful start (history ++ [e]) := by
  cases action with
  | activate p =>
      refine ⟨_, _, rfl, rfl, .of_no_cancellation (by simp), h.next ?_ rfl ?_ _⟩
      · simpa [PromptSlot.overflows, PromptSlot.activate, PromptAction.Shown] using hshown
      · intro q _
        simp [PromptSlot.activate, PromptEvent.spares]
  | respond nodeId response tracked =>
      cases tracked with
      | none =>
          refine ⟨_, _, rfl, rfl, .of_no_cancellation (by simp), h.next h.shown rfl ?_ _⟩
          intro q _
          simp [PromptEvent.spares]
      | some execution =>
          refine ⟨_, _, rfl, rfl, .of_no_cancellation (by simp), h.next rfl rfl ?_ _⟩
          intro q _
          simp [PromptSlot.respond, PromptEvent.spares, PromptSlot.clear]
  | cancel tracked =>
      exact h.cancel send tracked
  | clear =>
      refine ⟨_, _, rfl, rfl, .of_no_cancellation (by simp), h.next rfl rfl ?_ _⟩
      intro q _
      simp [PromptSlot.clear, PromptEvent.spares]
  | retainFor tracked =>
      refine ⟨_, _, rfl, rfl, .of_no_cancellation (by simp),
        h.next (PromptSlot.overflows_retainFor h.shown tracked) rfl ?_ _⟩
      intro q _
      have hsame : tracked = q.executionId ↔ q.executionId = tracked := eq_comm
      rw [PromptSlot.active_retainFor]
      simp [PromptEvent.spares, hsame]
  | ask =>
      have hstep : d.step send .ask =
          .ok ({ d with slot := ⟨d.slot.waiting? d.now⟩ }, ⟨.ask, none, []⟩) := by
        rw [PromptDesk.step, PromptSlot.current_eq, h.shown]
        rfl
      refine ⟨_, _, hstep, rfl, .of_no_cancellation (by simp),
        h.next (PromptSlot.overflows_waiting? h.shown d.now) rfl ?_ _⟩
      intro q hlasts
      simp [PromptEvent.spares, PromptSlot.waiting?_eq_some, hlasts]
  | advance millis =>
      exact ⟨_, _, rfl, rfl, .of_no_cancellation (by simp), h.advance millis rfl⟩

end Step

/-! ### Whole runs -/

namespace Lawful

variable {start : Nat} {history events : List PromptEvent} {e : PromptEvent}

theorem nil
    (start : Nat)
    (history : List PromptEvent) :
    Lawful start history [] := by
  intro before e after hsplit
  simp at hsplit

theorem cons
    (hevents : Lawful start (history ++ [e]) events)
    (he : Answers start history e) :
    Lawful start history (e :: events) := by
  intro before e' after hsplit
  cases before with
  | nil =>
      obtain ⟨rfl, _⟩ := List.cons.inj hsplit
      simpa using he
  | cons first before =>
      obtain ⟨rfl, hrest⟩ := List.cons.inj hsplit
      simpa using hevents before e' after hrest

theorem head
    (h : Lawful start history (e :: events)) :
    Answers start history e := by
  simpa using h [] e events rfl

theorem tail
    (h : Lawful start history (e :: events)) :
    Lawful start (history ++ [e]) events := by
  intro before e' after hsplit
  have hlater := h (e :: before) e' after (by rw [hsplit, List.cons_append])
  simpa using hlater

/-- A part of the events is what it has to be after the events in front of it. -/
theorem part
    {before between after : List PromptEvent}
    (h : Lawful start history (before ++ between ++ after)) :
    Lawful start (history ++ before) between := by
  intro first e rest hsplit
  have hlater := h (before ++ first) e (rest ++ after) (by simp [hsplit])
  simpa using hlater

end Lawful

section Run

variable {d : PromptDesk σ} {start : Nat} {history : List PromptEvent}

theorem Faithful.fresh
    (sink : σ)
    (start : Nat) :
    (PromptDesk.fresh sink start).Faithful start [] where
  clock := rfl
  shown := rfl
  waiting_iff := fun p => ⟨nofun, fun h => absurd h.1 (Waits.not_nil p)⟩

/-- **Runs.**  A run of prompts whose deadlines can be shown writes down what was done, in
order, leaves the slot faithful, and all its cancellations are what they have to be. -/
theorem Faithful.run
    (h : d.Faithful start history)
    (send : Sink σ)
    {actions : List PromptAction}
    (hshown : ∀ action ∈ actions, action.Shown) :
    ∃ last events, d.run send actions = .ok (last, events) ∧
      events.map (·.action) = actions ∧
      last.Faithful start (history ++ events) ∧ Lawful start history events := by
  induction actions generalizing d history with
  | nil =>
      exact ⟨d, [], rfl, rfl, by rwa [List.append_nil], .nil start history⟩
  | cons action actions ih =>
      obtain ⟨next, e, hstep, haction, hanswers, hnext⟩ :=
        h.step send (hshown action List.mem_cons_self)
      obtain ⟨last, events, hrun, hactions, hlast, hlater⟩ :=
        ih hnext fun a ha => hshown a (List.mem_cons_of_mem action ha)
      refine ⟨last, e :: events, ?_, ?_, ?_, ?_⟩
      · rw [PromptDesk.run, hstep]
        simp only [hrun]
        rfl
      · rw [List.map_cons, haction, hactions]
      · simpa using hlast
      · exact hlater.cons hanswers

end Run

/-! ### Cancellations between two activations -/

section Between

variable {start : Nat} {history : List PromptEvent} {e : PromptEvent}

/-- After a cancellation that handed something on no prompt waits any more. -/
theorem Answers.not_waits
    (h : Answers start history e)
    (hhanded : e.cancellations ≠ [])
    (p : Prompt) :
    ¬ Waits (history ++ [e]) p := by
  obtain ⟨message, hmessage⟩ := List.exists_mem_of_ne_nil _ hhanded
  obtain ⟨q, execution, hcancel, _, hwaits, hlasts⟩ := h.handed message hmessage
  have hfound : e.outcome ≠ some .noActivePrompt := by
    intro hnone
    simp [(h.finds _ hcancel).1 hnone q hwaits] at hlasts
  rw [Waits.concat_iff, hcancel]
  rintro (hactivates | ⟨_, hspares⟩)
  · cases hactivates
  · simp [PromptEvent.spares, hcancel, hfound] at hspares

/-- A cancellation hands on at most one message. -/
theorem Answers.length_le_one
    (h : Answers start history e) :
    e.cancellations.length ≤ 1 := by
  by_cases hhanded : e.cancellations = []
  · simp [hhanded]
  · obtain ⟨message, hmessage⟩ := List.exists_mem_of_ne_nil _ hhanded
    obtain ⟨q, execution, hcancel, _, hwaits, hlasts⟩ := h.handed message hmessage
    simp [PromptEvent.cancellations, hcancel, h.hands q execution hcancel hwaits hlasts]

/-- While no prompt waits and none is activated, cancellations hand on nothing. -/
theorem cancellations_eq_nil
    {events : List PromptEvent}
    (h : Lawful start history events)
    (hnone : ∀ p, ¬ Waits history p)
    (hevents : ∀ e ∈ events, e.action.activates = false) :
    events.flatMap (·.cancellations) = [] := by
  induction events generalizing history with
  | nil =>
      rfl
  | cons e events ih =>
      have hsilent : e.cancellations = [] := by
        rw [List.eq_nil_iff_forall_not_mem]
        intro message hmessage
        obtain ⟨q, _, _, _, hwaits, _⟩ := h.head.handed message hmessage
        exact hnone q hwaits
      have hstill : ∀ p, ¬ Waits (history ++ [e]) p := by
        intro p
        rw [Waits.concat_iff]
        rintro (hactivates | ⟨hwaits, _⟩)
        · have hnew := hevents e List.mem_cons_self
          simp [hactivates, PromptAction.activates] at hnew
        · exact hnone p hwaits
      rw [List.flatMap_cons, hsilent, List.nil_append]
      exact ih h.tail hstill fun e' he' => hevents e' (List.mem_cons_of_mem e he')

/-- Without an activation between them, at most one cancellation hands on a message. -/
theorem cancellations_le_one
    {events : List PromptEvent}
    (h : Lawful start history events)
    (hevents : ∀ e ∈ events, e.action.activates = false) :
    (events.flatMap (·.cancellations)).length ≤ 1 := by
  induction events generalizing history with
  | nil =>
      simp
  | cons e events ih =>
      have hold : ∀ e' ∈ events, e'.action.activates = false :=
        fun e' he' => hevents e' (List.mem_cons_of_mem e he')
      rw [List.flatMap_cons]
      by_cases hhanded : e.cancellations = []
      · rw [hhanded, List.nil_append]
        exact ih h.tail hold
      · rw [cancellations_eq_nil h.tail (h.head.not_waits hhanded) hold, List.append_nil]
        exact h.head.length_le_one

end Between

/-- **The life of a prompt.**  Take any actions, in any order and at any times, on a slot that
begins without a prompt, whatever takes its messages; the deadlines of the prompts can be
shown by a clock.  Nothing overflows.  Asking at the end gives exactly the prompt that was
activated last, if nothing since then ended it and its timeout has not passed.  Every
cancellation finds this prompt, or none, as it is at its own time; it answers no other.  And
without an activation between them at most one cancellation hands on an answer. -/
theorem prompt_lifecycle
    (send : Sink σ)
    (sink : σ)
    (start : Nat)
    {actions : List PromptAction}
    (hshown : ∀ action ∈ actions, action.Shown) :
    ∃ last history, (fresh sink start).run send actions = .ok (last, history) ∧
      history.map (·.action) = actions ∧
      last.now = clockAfter start history ∧
      (∃ asked found, last.slot.current last.now = .ok (asked, found) ∧
        ∀ p, found = some p ↔ Waits history p ∧ p.lasts last.now = true) ∧
      (∀ before e after, history = before ++ e :: after → Answers start before e) ∧
      ∀ before between after, history = before ++ between ++ after →
        (∀ e ∈ between, e.action.activates = false) →
        (between.flatMap (·.cancellations)).length ≤ 1 := by
  obtain ⟨last, history, hrun, hactions, hfaithful, hlawful⟩ :=
    (Faithful.fresh sink start).run send hshown
  rw [List.nil_append] at hfaithful
  refine ⟨last, history, hrun, hactions, hfaithful.clock, ?_, hlawful, ?_⟩
  · have hasked := PromptSlot.current_eq last.slot last.now
    rw [hfaithful.shown] at hasked
    exact ⟨_, _, hasked, hfaithful.waiting_iff⟩
  · rintro before between after rfl hbetween
    exact cancellations_le_one hlawful.part hbetween

/-- A prompt of five seconds. -/
def briefPrompt (receivedAt : Nat) : Prompt :=
  ⟨"n", some "e1", "Continue?", some 5, none, receivedAt⟩

/-- A prompt that is cancelled too early to be meant, then answered by a cancellation, and one
that expires. -/
def answeredAndExpired : List PromptAction :=
  [.activate (briefPrompt 0), .advance 4999, .ask, .cancel none, .cancel (some "e1"),
   .cancel (some "e1"), .activate (briefPrompt 4999), .retainFor (some "e1"), .advance 5000,
   .cancel (some "e1")]

/-- A sink that refuses every message. -/
def refusing : Sink Unit := fun _ state => (state, .error .closed)

theorem answeredAndExpired_lives :
    (∀ action ∈ answeredAndExpired, action.Shown) ∧
      ∃ last history, (fresh () 0).run refusing answeredAndExpired = .ok (last, history) ∧
        history.flatMap (·.handed) = [.interactiveResponse "n" "e1" ""] ∧
        (∃ p, Waits history p) ∧
        ∀ p, Waits history p → p.lasts last.now = false := by
  have hshown : ∀ action ∈ answeredAndExpired, action.Shown := by
    simp [answeredAndExpired, PromptAction.Shown, briefPrompt, Prompt.overflows,
      Duration.clockBound, Word.bound63]
  obtain ⟨last, history, hrun, _, hnow, ⟨asked, found, hasked, hfound⟩, _, _⟩ :=
    prompt_lifecycle refusing () 0 hshown
  refine ⟨hshown, last, history, hrun, ?_, ?_, ?_⟩
  · cases hrun
    rfl
  · cases hrun
    refine ⟨briefPrompt 4999, [_, _, _, _, _, _], ⟨.activate (briefPrompt 4999), none, []⟩,
      [_, _, _], rfl, rfl, ?_⟩
    simp [PromptEvent.spares, briefPrompt]
  · have hnone : found = none := by
      cases hrun
      cases hasked
      rfl
    intro p hwaits
    by_contra hlasts
    have hasks := (hfound p).2 ⟨hwaits, by simpa using hlasts⟩
    simp [hnone] at hasks

end PromptDesk
end RemoteRun
