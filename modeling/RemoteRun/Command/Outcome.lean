import RemoteRun.Failure
import RemoteRun.Outbound

/-!
# Outcomes of commands

What became of a command, and where its message goes.

**Results.** A command without a target sends nothing, and that is no failure.  A
`Sink` is the place that takes messages: it may refuse one, and it changes a state
of its own.
-/

namespace RemoteRun

/-- What became of a command. -/
inductive CommandOutcome where
  | sent (executionId : String)
  | noActiveExecution
  | executeCancelled
  | noActivePrompt
  | dropped (cause : ConnectionError)
deriving DecidableEq

namespace CommandOutcome

/-- The outcome of a message that was handed on for an execution. -/
def ofSend (result : Except ConnectionError Unit) (executionId : String) : CommandOutcome :=
  match result with
  | .ok () => .sent executionId
  | .error cause => .dropped cause

/-- Whether a message was accepted. -/
def isSent : CommandOutcome → Bool
  | .sent _ => true
  | _ => false

end CommandOutcome

/-- A place that takes messages. -/
abbrev Sink (σ : Type) := Outbound → σ → σ × Except ConnectionError Unit

end RemoteRun
