import RemoteRun.Proofs.Client.PromptScope

/-!
# What commands reach

A command is meant for the execution that runs; without one it is a command for nothing.

**Orders.**  `Desk.order?` says what a command has to send, from the running execution and
the prompt that waits for an answer.  It is written without looking at how commands are
carried out.

**Results.**
* `Desk.abort_again`: an abort after an abort does nothing.
* `Desk.give_obeyed`: at every desk and whatever takes its messages, a command does exactly
  what it has to do, unless it is a cancellation whose prompt overflows.
* `Client.distant_prompt_not_cancelled`: the engine can bring a client there.
-/

namespace RemoteRun

/-- What a command sends for an execution, while a prompt may wait for an answer. -/
def Command.message? (execution : String) (waiting : Option Prompt) : Command → Option Outbound
  | .pause node => some (.pauseNode node execution)
  | .resume node => some (.resumeNode node execution)
  | .skip node => some (.skipNode node execution)
  | .abort => some (.abortExecution execution)
  | .respond node response => some (.interactiveResponse node execution response)
  | .cancelPrompt => waiting.map fun p => .interactiveResponse p.nodeId execution ""

/-- Whether a command leaves the active prompt alone unless it has expired. -/
def Command.sparesPrompt : Command → Bool
  | .pause _ | .resume _ | .skip _ => true
  | .abort | .respond _ _ | .cancelPrompt => false

namespace Desk

variable {σ : Type} {send : Sink σ}

/-- What a command has to send, and for which execution. -/
def order? (d : Desk σ) (now : Moment) (command : Command) : Option (String × Outbound) :=
  d.target?.bind fun execution =>
    (command.message? execution (d.session.prompts.waiting? now.elapsed)).map (execution, ·)

/-- What a command has to do. -/
structure Obeyed (send : Sink σ) (d : Desk σ) (now : Moment) (command : Command)
    (given : Desk σ × CommandOutcome) : Prop where
  /-- What is to be sent is handed on, and nothing else is. -/
  sent : ∀ execution message, d.order? now command = some (execution, message) →
    given.1.sink = (send message d.sink).1 ∧
      given.2 = .ofSend (send message d.sink).2 execution
  /-- If nothing is to be sent, nothing is handed on. -/
  unsent : d.order? now command = none →
    given.1.sink = d.sink ∧
      given.2 ∈ [.noActiveExecution, .executeCancelled, .noActivePrompt]
  /-- An abort takes the running execution as aborted, and no node as running. -/
  aborted : command = .abort → ∀ h, d.session.machine.live? = some h →
    given.1.session.machine =
      { d.session.machine with
        execution := some { h with status := .aborted, endedAt := some now.date }
        running := Table.empty }
  /-- Nothing else changes the machine. -/
  machine_eq : command ≠ .abort ∨ d.target? = none →
    given.1.session.machine = d.session.machine
  /-- A prompt that has not expired is only dropped for a running execution. -/
  prompts_eq : command.sparesPrompt = true ∨ d.target? = none →
    given.1.session.prompts = d.session.prompts ∨
      given.1.session.prompts = ⟨d.session.prompts.waiting? now.elapsed⟩
  /-- A second abort does nothing. -/
  again : command = .abort → ∀ later, ∃ given',
    given.1.give send later .abort = .ok given' ∧
      given'.1.sink = given.1.sink ∧ given'.1.session = given.1.session

/-- Without a running execution an abort changes requests alone. -/
theorem abort_of_none
    {d : Desk σ}
    (h : d.target? = none)
    (now : Moment) :
    d.abort send now =
      (d.cancelRequests, if d.hasInFlight then .executeCancelled else .noActiveExecution) := by
  have hlive : d.session.machine.live? = none := by
    simpa [target?, Machine.activeId?] using h
  simp [abort, cancelRequests, Machine.abort, hlive]

/-- With a running execution an abort drops the prompt, unless it belongs to none, and
sends. -/
theorem abort_of_live
    {d : Desk σ}
    {h : ExecutionHandle}
    (hlive : d.session.machine.live? = some h)
    (now : Moment) :
    d.abort send now =
      ({ d.cancelRequests with
          sink := (send (.abortExecution h.executionId) d.sink).1
          session :=
            { d.session with
              machine := (d.session.machine.abort now.date).1
              prompts := d.session.prompts.retainFor none } },
        .ofSend (send (.abortExecution h.executionId) d.sink).2 h.executionId) := by
  simp [abort, cancelRequests, Machine.abort, hlive]

/-- An abort after an abort sends nothing, and changes neither the machine nor the prompt. -/
theorem abort_again
    (send : Sink σ)
    (d : Desk σ)
    (now later : Moment) :
    let next := (d.abort send now).1
    (next.abort send later).1.sink = next.sink ∧
      (next.abort send later).1.session = next.session := by
  intro next
  have hnone : next.target? = none := by
    cases htarget : d.session.machine.live? with
    | none =>
        have hd : d.target? = none := by
          simp [target?, Machine.activeId?, htarget]
        simp only [next, abort_of_none hd]
        exact hd
    | some h =>
        simp only [next, abort_of_live htarget]
        exact Machine.activeId?_abort _ _
  rw [abort_of_none hnone]
  exact ⟨rfl, rfl⟩

section Orders

variable {d : Desk σ} {now : Moment}

theorem order?_of_none
    (h : d.target? = none)
    (command : Command) :
    d.order? now command = none := by
  rw [order?, h, Option.bind_none]

theorem order?_of_target
    {execution : String}
    (h : d.target? = some execution)
    (command : Command) :
    d.order? now command =
      (command.message? execution (d.session.prompts.waiting? now.elapsed)).map
        (execution, ·) := by
  rw [order?, h, Option.bind_some]

section Others

variable {command : Command} {prompts : PromptSlot}

/-- A command with nothing to send is obeyed if at most an expired prompt goes. -/
theorem Obeyed.idle
    (habort : command ≠ .abort)
    (horder : d.order? now command = none)
    (hprompts : prompts = d.session.prompts ∨
      prompts = ⟨d.session.prompts.waiting? now.elapsed⟩)
    {outcome : CommandOutcome}
    (houtcome : outcome ∈ [.noActiveExecution, .executeCancelled, .noActivePrompt]) :
    d.Obeyed send now command
      ({ d with session := { d.session with prompts := prompts } }, outcome) where
  sent := by
    intro execution message hmade
    cases horder.symm.trans hmade
  unsent := fun _ => ⟨rfl, houtcome⟩
  aborted := fun h => absurd h habort
  machine_eq := fun _ => rfl
  prompts_eq := fun _ => hprompts
  again := fun h => absurd h habort

/-- A command with a message to send is obeyed if the message is handed on. -/
theorem Obeyed.handed
    {execution : String}
    {message : Outbound}
    (habort : command ≠ .abort)
    (horder : d.order? now command = some (execution, message))
    (hprompts : command.sparesPrompt = true → prompts = d.session.prompts) :
    d.Obeyed send now command
      ({ d with
          sink := (send message d.sink).1
          session := { d.session with prompts := prompts } },
        .ofSend (send message d.sink).2 execution) where
  sent := by
    intro execution' message' hmade
    cases horder.symm.trans hmade
    exact ⟨rfl, rfl⟩
  unsent := by
    intro hnothing
    cases horder.symm.trans hnothing
  aborted := fun h => absurd h habort
  machine_eq := fun _ => rfl
  prompts_eq := by
    rintro (hspares | hnone)
    · exact Or.inl (hprompts hspares)
    · cases (order?_of_none hnone command).symm.trans horder
  again := fun h => absurd h habort

end Others

/-- A command about a node is obeyed. -/
theorem sendFor_obeyed
    {command : Command}
    {message : String → Outbound}
    (hmessage : ∀ execution waiting, command.message? execution waiting = some (message execution))
    (habort : command ≠ .abort) :
    d.Obeyed send now command (d.sendFor send message) := by
  unfold sendFor
  cases htarget : d.target? with
  | none =>
      exact .idle habort (order?_of_none htarget command) (Or.inl rfl) (by simp)
  | some execution =>
      refine .handed habort ?_ fun _ => rfl
      rw [order?_of_target htarget, hmessage, Option.map_some]

/-- An answer is obeyed. -/
theorem respond_obeyed
    (node response : String) :
    d.Obeyed send now (.respond node response) (d.respond send node response) := by
  unfold respond PromptSlot.respond
  cases htarget : d.target? with
  | none =>
      exact .idle (by simp) (order?_of_none htarget _) (Or.inl rfl) (by simp)
  | some execution =>
      exact .handed (by simp) (order?_of_target htarget _) (by simp [Command.sparesPrompt])

/-- A cancellation is obeyed unless the active prompt overflows. -/
theorem cancelPrompt_obeyed
    (h : d.session.prompts.overflows = false) :
    ∃ given, d.cancelPrompt send now = .ok given ∧ d.Obeyed send now .cancelPrompt given := by
  simp only [cancelPrompt, PromptSlot.cancel, PromptSlot.current_eq, h, Bool.false_eq_true, if_false]
  cases hwaiting : d.session.prompts.waiting? now.elapsed with
  | none =>
      refine ⟨_, rfl, .idle (by simp) ?_ (Or.inr (by rw [hwaiting])) (by simp)⟩
      cases htarget : d.target? with
      | none =>
          exact order?_of_none htarget _
      | some execution =>
          rw [order?_of_target htarget, hwaiting]
          rfl
  | some p =>
      cases htarget : d.target? with
      | none =>
          refine ⟨_, rfl, .idle (by simp) (order?_of_none htarget _) (Or.inr ?_) (by simp)⟩
          rw [hwaiting]
      | some execution =>
          refine ⟨_, rfl, .handed (by simp) ?_ (by simp [Command.sparesPrompt])⟩
          rw [order?_of_target htarget, hwaiting]
          rfl

/-- Without a running execution an abort is obeyed by sending nothing. -/
theorem abort_obeyed_of_none
    (htarget : d.target? = none) :
    d.Obeyed send now .abort (d.abort send now) := by
  have hagain := abort_again send d now
  rw [abort_of_none htarget] at hagain ⊢
  exact {
    sent := by
      intro execution message hmade
      cases (order?_of_none htarget .abort).symm.trans hmade
    unsent := by
      intro _
      refine ⟨rfl, ?_⟩
      cases d.hasInFlight <;> simp
    aborted := by
      intro _ h hlive
      simp [target?, Machine.activeId?, hlive] at htarget
    machine_eq := fun _ => rfl
    prompts_eq := fun _ => Or.inl rfl
    again := fun _ later => ⟨_, rfl, hagain later⟩ }

/-- With a running execution an abort is obeyed by taking it as aborted and sending. -/
theorem abort_obeyed_of_live
    {h : ExecutionHandle}
    (hlive : d.session.machine.live? = some h) :
    d.Obeyed send now .abort (d.abort send now) := by
  have htarget : d.target? = some h.executionId := by
    simp [target?, Machine.activeId?, hlive]
  have horder : d.order? now .abort = some (h.executionId, .abortExecution h.executionId) :=
    order?_of_target htarget .abort
  have hagain := abort_again send d now
  rw [abort_of_live hlive] at hagain ⊢
  exact {
    sent := by
      intro execution message hmade
      cases horder.symm.trans hmade
      exact ⟨rfl, rfl⟩
    unsent := by
      intro hnothing
      cases horder.symm.trans hnothing
    aborted := by
      intro _ h' hh
      cases hlive.symm.trans hh
      simp [Machine.abort, hlive, ExecutionHandle.abort]
    machine_eq := by
      rintro (habort | hnone)
      · exact absurd rfl habort
      · cases htarget.symm.trans hnone
    prompts_eq := by
      rintro (hspares | hnone)
      · cases hspares
      · cases htarget.symm.trans hnone
    again := fun _ later => ⟨_, rfl, hagain later⟩ }

/-- An abort is obeyed. -/
theorem abort_obeyed :
    d.Obeyed send now .abort (d.abort send now) := by
  cases hlive : d.session.machine.live? with
  | none =>
      exact abort_obeyed_of_none (by simp [target?, Machine.activeId?, hlive])
  | some h =>
      exact abort_obeyed_of_live hlive

end Orders

/-- A cancellation looks at the deadline of the active prompt before anything else. -/
theorem give_distant
    {d : Desk σ}
    (h : d.session.prompts.overflows = true)
    (now : Moment) :
    d.give send now .cancelPrompt = .error .beyondClock := by
  simp [give, cancelPrompt, PromptSlot.cancel, PromptSlot.current_eq, h]

/-- **Commands.**  At every desk, whatever takes its messages: a command does exactly what it
has to do, unless it is a cancellation and the deadline of the active prompt lies beyond what
a clock can show.  Then it ends in an overflow. -/
theorem give_obeyed
    (send : Sink σ)
    (d : Desk σ)
    (now : Moment)
    (command : Command) :
    ((∃ given, d.give send now command = .ok given ∧ d.Obeyed send now command given) ↔
        ¬ (command = .cancelPrompt ∧ d.session.prompts.overflows = true)) ∧
      (command = .cancelPrompt ∧ d.session.prompts.overflows = true →
        d.give send now command = .error .beyondClock) := by
  have hover : command = .cancelPrompt ∧ d.session.prompts.overflows = true →
      d.give send now command = .error .beyondClock := by
    rintro ⟨rfl, hdistant⟩
    exact give_distant hdistant now
  refine ⟨⟨?_, ?_⟩, hover⟩
  · rintro ⟨given, hgiven, _⟩ hfar
    cases (hover hfar).symm.trans hgiven
  · intro hnear
    cases command with
    | pause node =>
        exact ⟨_, rfl, sendFor_obeyed (fun _ _ => rfl) nofun⟩
    | resume node =>
        exact ⟨_, rfl, sendFor_obeyed (fun _ _ => rfl) nofun⟩
    | skip node =>
        exact ⟨_, rfl, sendFor_obeyed (fun _ _ => rfl) nofun⟩
    | abort =>
        exact ⟨_, rfl, abort_obeyed⟩
    | respond node response =>
        exact ⟨_, rfl, respond_obeyed node response⟩
    | cancelPrompt =>
        exact cancelPrompt_obeyed (by simpa using hnear)

end Desk

namespace Client

/-- A request for a prompt whose deadline lies beyond what a clock can show. -/
def distantPromptText : String :=
  "\x7b\"type\":\"interactive_prompt\",\"node_id\":\"n\",\"prompt\":\"Continue?\"," ++
    "\"timeout\":9223372036854775808\x7d"

/-- A client that was asked by the running execution. -/
def distantClient : Client Unit Unit :=
  quietClient.run quiet.application
    [.frame ⟨0, default⟩ startedText, .frame ⟨1, default⟩ distantPromptText]

/-- A prompt of the running execution waits for an answer, but a cancellation overflows. -/
theorem distant_prompt_not_cancelled :
    (distantClient.desk.order? ⟨2, default⟩ .cancelPrompt).map
        (fun order => (order.1, order.2.write)) =
      some ("e1", "\x7b\"type\":\"interactive_response\",\"node_id\":\"n\"," ++
        "\"execution_id\":\"e1\",\"response\":\"\"\x7d") ∧
      ¬ ∃ given, distantClient.desk.give Connection.send ⟨2, default⟩ .cancelPrompt = .ok given ∧
        distantClient.desk.Obeyed Connection.send ⟨2, default⟩ .cancelPrompt given := by
  have hdistant : distantClient.desk.session.prompts.overflows = true := by
    decide +kernel
  refine ⟨by decide +kernel, ?_⟩
  rintro ⟨given, hgiven, _⟩
  rw [Desk.give_distant hdistant] at hgiven
  cases hgiven

end Client

end RemoteRun
