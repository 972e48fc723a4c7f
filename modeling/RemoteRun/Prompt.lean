import RemoteRun.Command.Outcome
import RemoteRun.Notice

/-!
# Prompts

Questions of the engine to the user.

**Input.** Prompts as they arrive, answers and cancellations of the user, the
execution that is tracked, and the time in milliseconds.

**Algorithm.** At most one prompt is active.  A newer one replaces it, an answer or a
cancellation ends it, and so does the end of its execution.  A prompt with a timeout
expires when that time has passed; this is noticed when the prompt is asked for.

**Results.** All operations are total.  Asking for a prompt whose deadline lies beyond
what a clock can show is reported as an overflow.
-/

namespace RemoteRun

/-- A question that waits for an answer, with the reading of the clock in milliseconds at
which it came. -/
structure Prompt where
  nodeId : String
  executionId : Option String
  text : String
  timeoutSeconds : Option UInt64
  context : Option Json
  receivedAt : Nat

/-- The deadline of a prompt lies beyond what a clock can show. -/
inductive DeadlineOverflow where
  | beyondClock
deriving DecidableEq

namespace Prompt

/-- The time at which a prompt expires, if it does.  The clock shows it if the whole seconds
that it showed when the prompt came and those of the timeout add up to less than its bound. -/
def deadline? (p : Prompt) : Except DeadlineOverflow (Option Nat) :=
  match p.timeoutSeconds with
  | none => .ok none
  | some seconds =>
      if p.receivedAt / 1000 + seconds.toNat < Duration.clockBound then
        .ok (some (p.receivedAt + seconds.toNat * 1000))
      else .error .beyondClock

/-- Whether a prompt has expired. -/
def isExpired (p : Prompt) (now : Nat) : Except DeadlineOverflow Bool :=
  match p.deadline? with
  | .error e => .error e
  | .ok none => .ok false
  | .ok (some deadline) => .ok (decide (deadline ≤ now))

/-- The prompt of a request.  A request that names no execution belongs to the
tracked one. -/
def ofRequest (r : PromptRequest) (tracked : Option String) (now : Nat) : Prompt :=
  ⟨r.nodeId, r.executionId.or tracked, r.prompt, r.timeout, r.context, now⟩

end Prompt

/-- The active prompt. -/
structure PromptSlot where
  active : Option Prompt := none

namespace PromptSlot

/-- Make a prompt the active one. -/
def activate (_ : PromptSlot) (p : Prompt) : PromptSlot :=
  ⟨some p⟩

/-- Drop the active prompt. -/
def clear (_ : PromptSlot) : PromptSlot := {}

/-- The prompt that a message brings. -/
def requested (message : Message) (tracked : Option String) (now : Nat) :
    Except ProtocolError Prompt :=
  match message.decode with
  | .error e => .error e
  | .ok (some (.prompt r)) => .ok (.ofRequest r tracked now)
  | .ok _ => .error (.unexpected message.kind)

/-- Ask for the active prompt; an expired one is dropped. -/
def current (s : PromptSlot) (now : Nat) :
    Except DeadlineOverflow (PromptSlot × Option Prompt) :=
  match s.active with
  | none => .ok (s, none)
  | some p =>
      match p.isExpired now with
      | .error e => .error e
      | .ok true => .ok (s.clear, none)
      | .ok false => .ok (s, some p)

/-- Whether the active prompt belongs to another execution than the tracked one. -/
def isStale (s : PromptSlot) (tracked : Option String) : Bool :=
  match s.active with
  | none => false
  | some p => p.executionId != tracked

/-- Drop the active prompt unless it belongs to the tracked execution. -/
def retainFor (s : PromptSlot) (tracked : Option String) : PromptSlot :=
  if s.isStale tracked then s.clear else s

/-- The prompt that `retainFor` drops. -/
def droppedFor? (s : PromptSlot) (tracked : Option String) : Option Prompt :=
  if s.isStale tracked then s.active else none

/-- Answer a node for the tracked execution and drop the active prompt.  Without an
execution nothing is sent and the prompt stays. -/
def respond {σ : Type} (send : Sink σ) (state : σ) (s : PromptSlot) (nodeId response : String)
    (tracked : Option String) : σ × PromptSlot × CommandOutcome :=
  match tracked with
  | none => (state, s, .noActiveExecution)
  | some execution =>
      let (state, result) := send (.interactiveResponse nodeId execution response) state
      (state, s.clear, .ofSend result execution)

/-- Answer the active prompt with nothing. -/
def cancel {σ : Type} (send : Sink σ) (state : σ) (s : PromptSlot) (now : Nat)
    (tracked : Option String) : Except DeadlineOverflow (σ × PromptSlot × CommandOutcome) :=
  match s.current now with
  | .error e => .error e
  | .ok (s, none) => .ok (state, s, .noActivePrompt)
  | .ok (s, some p) => .ok (respond send state s p.nodeId "" tracked)

/-! ### Notices -/

/-- What is noted when a prompt becomes active: that it replaces another one. -/
def activateNotices (s : PromptSlot) : List Notice :=
  match s.active with
  | none => []
  | some p => [.warn "active prompt replaced by a newer one" [("node_id", .str p.nodeId)]]

/-- What is noted of an answer: that there is no execution to answer for. -/
def respondNotices (nodeId : String) (tracked : Option String) : List Notice :=
  match tracked with
  | some _ => []
  | none =>
      [.warn "prompt response ignored; no active execution" [("node_id", .str nodeId)]]

/-- What is noted of a cancellation. -/
def cancelNotices (s : PromptSlot) (now : Nat) (tracked : Option String) : List Notice :=
  match s.current now with
  | .ok (_, some p) => respondNotices p.nodeId tracked
  | _ => []

end PromptSlot

end RemoteRun
