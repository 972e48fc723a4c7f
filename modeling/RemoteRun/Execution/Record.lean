import RemoteRun.Inbound.Event
import RemoteRun.Time.Timestamp

/-!
# Records of an execution

What is known of one node and of the execution as a whole.

**Results.** `NodeRecord.advance?` says which report a node accepts in which status
and what it then records.  A node that is completed, skipped or in error accepts
no report at all.
-/

namespace RemoteRun

/-- The lifecycle of a node. -/
inductive NodeStatus where
  | pending
  | running
  | completed
  | skipped
  | paused
  | error
deriving DecidableEq

namespace NodeStatus

/-- Statuses that no report changes. -/
def isTerminal : NodeStatus → Bool
  | .completed | .skipped | .error => true
  | .pending | .running | .paused => false

/-- The word for a status. -/
def word : NodeStatus → String
  | .pending => "pending"
  | .running => "running"
  | .completed => "completed"
  | .skipped => "skipped"
  | .paused => "paused"
  | .error => "error"

/-- All statuses. -/
def all : List NodeStatus :=
  [.pending, .running, .completed, .skipped, .paused, .error]

/-- The status of a word. -/
def ofWord? (word : String) : Option NodeStatus :=
  all.find? fun s => s.word == word

end NodeStatus

/-- The outcome of an execution. -/
inductive ExecutionStatus where
  | running
  | completed
  | failed
  | aborted
deriving DecidableEq

namespace ExecutionStatus

/-- Every status but running. -/
def isTerminal : ExecutionStatus → Bool
  | .running => false
  | .completed | .failed | .aborted => true

/-- The word for a status. -/
def word : ExecutionStatus → String
  | .running => "running"
  | .completed => "completed"
  | .failed => "failed"
  | .aborted => "aborted"

/-- All statuses. -/
def all : List ExecutionStatus :=
  [.running, .completed, .failed, .aborted]

/-- The status of a word. -/
def ofWord? (word : String) : Option ExecutionStatus :=
  all.find? fun s => s.word == word

end ExecutionStatus

/-- What is known of a node. -/
structure NodeRecord where
  nodeId : String
  status : NodeStatus := .pending
  nodeType : Option String := none
  startedAt : Option Timestamp := none
  endedAt : Option Timestamp := none
  progressText : Option String := none
  tokenCount : Option UInt64 := none
  errorMessage : Option String := none
  skipReason : Option String := none
  output : Option Json := none

/-- What is known of an execution. -/
structure ExecutionHandle where
  executionId : String
  status : ExecutionStatus := .running
  totalNodeCount : UInt64
  completedNodes : UInt64 := 0
  startedAt : Timestamp
  endedAt : Option Timestamp := none
  terminalError : Option String := none
  totalTokens : Option UInt64 := none
  external : Bool := false

namespace NodeReport

/-- The `type` of the message that brings a report. -/
def wireName : NodeReport → String
  | .start _ => EventKind.nodeStart.wireName
  | .progress _ => EventKind.nodeProgress.wireName
  | .complete _ _ => EventKind.nodeComplete.wireName
  | .skipped _ => EventKind.nodeSkipped.wireName
  | .failed _ => EventKind.nodeError.wireName
  | .paused => EventKind.nodePaused.wireName
  | .resumed => EventKind.nodeResumed.wireName

/-- Whether a report counts the node as finished. -/
def finishes : NodeReport → Bool
  | .complete _ _ | .skipped _ => true
  | .start _ | .progress _ | .failed _ | .paused | .resumed => false

end NodeReport

namespace NodeRecord

/-- The record of a node of which nothing was reported. -/
def fresh (id : String) : NodeRecord :=
  { nodeId := id }

/-- Whether a node accepts a report: it starts when pending, makes progress and
pauses when running, resumes when paused, and ends from any status that is not
terminal. -/
def accepts (r : NodeRecord) : NodeReport → Bool
  | .start _ => r.status == .pending
  | .progress _ => r.status == .running
  | .complete _ _ => !r.status.isTerminal
  | .skipped _ => !r.status.isTerminal
  | .failed _ => !r.status.isTerminal
  | .paused => r.status == .running
  | .resumed => r.status == .paused

/-- What an accepted report leaves in the record. -/
def record (r : NodeRecord) (now : Timestamp) : NodeReport → NodeRecord
  | .start nodeType =>
      { r with status := .running, startedAt := some now, nodeType := nodeType.or r.nodeType }
  | .progress message => { r with progressText := some message }
  | .complete output tokens =>
      { r with status := .completed, endedAt := some now, output := output, tokenCount := tokens }
  | .skipped reason =>
      { r with status := .skipped, endedAt := some now, skipReason := reason }
  | .failed error =>
      { r with status := .error, endedAt := some now, errorMessage := some error }
  | .paused => { r with status := .paused }
  | .resumed => { r with status := .running }

/-- The record after a report; nothing when the node does not accept it. -/
def advance? (r : NodeRecord) (now : Timestamp) (report : NodeReport) : Option NodeRecord :=
  if r.accepts report then some (r.record now report) else none

end NodeRecord

namespace ExecutionHandle

/-- An execution that starts. -/
def start (id : String) (total : UInt64) (now : Timestamp) (external : Bool) : ExecutionHandle :=
  { executionId := id, totalNodeCount := total, startedAt := now, external := external }

/-- The execution completed. -/
def complete (h : ExecutionHandle) (now : Timestamp) (tokens : Option UInt64) : ExecutionHandle :=
  { h with status := .completed, endedAt := some now, totalTokens := tokens }

/-- The execution failed with an error. -/
def fail (h : ExecutionHandle) (now : Timestamp) (error : String) : ExecutionHandle :=
  { h with status := .failed, endedAt := some now, terminalError := some error }

/-- The execution was aborted. -/
def abort (h : ExecutionHandle) (now : Timestamp) : ExecutionHandle :=
  { h with status := .aborted, endedAt := some now }

/-- Whether the execution has ended. -/
def isTerminal (h : ExecutionHandle) : Bool := h.status.isTerminal

/-- Count one more finished node, up to the total. -/
def countFinished (h : ExecutionHandle) : ExecutionHandle :=
  if h.completedNodes < h.totalNodeCount then { h with completedNodes := h.completedNodes + 1 }
  else h

end ExecutionHandle

end RemoteRun
