import RemoteRun.Json.Basic

/-!
# Events

What an engine reports, as typed values.

**Kinds.** Reports on one node change the record of that node, reports on the
execution change its handle.  The others carry no state: the welcome of a
connection, prompts, acknowledgements and errors of the server.
-/

namespace RemoteRun

/-- What is reported of a node. -/
inductive NodeReport where
  | start (nodeType : Option String)
  | progress (message : String)
  | complete (output : Option Json) (tokens : Option UInt64)
  | skipped (reason : Option String)
  | failed (error : String)
  | paused
  | resumed

/-- What is reported of an execution. -/
inductive ExecutionReport where
  | started (id : String) (totalNodes : Option UInt64) (diagram : Option Json) (fromCli : Bool)
  | complete (id : Option String) (totalTokens : Option UInt64)
  | failed (id : Option String) (error : String)
  | aborted (id : Option String)

/-- A question to the user. -/
structure PromptRequest where
  nodeId : String
  executionId : Option String
  prompt : String
  timeout : Option UInt64
  context : Option Json

/-- An event of the engine. -/
inductive Event where
  | node (id : String) (report : NodeReport)
  | execution (report : ExecutionReport)
  | prompt (request : PromptRequest)
  | connected (clientId : Option String)
  | heartbeatAck
  | serverError (message : String)
  | skipRequested (nodeId : String)
  | abortRequested (id : Option String)
  | responseReceived (nodeId : String)
  | subscribed

namespace Event

/-- The node whose record an event changes. -/
def stateNodeId? : Event → Option String
  | .node id _ => some id
  | _ => none

end Event

/-- The kinds of messages that are events. -/
inductive EventKind where
  | connected
  | heartbeatAck
  | executionStarted
  | executionComplete
  | executionError
  | executionAborted
  | nodeStart
  | nodeProgress
  | nodeComplete
  | nodeSkipped
  | nodeError
  | nodePaused
  | nodeResumed
  | interactivePrompt
  | serverError
  | nodeSkipRequested
  | executionAbortRequested
  | interactiveResponseReceived
  | subscribed
deriving DecidableEq

namespace EventKind

/-- The `type` of the messages of a kind. -/
def wireName : EventKind → String
  | .connected => "connected"
  | .heartbeatAck => "heartbeat_ack"
  | .executionStarted => "execution_started"
  | .executionComplete => "execution_complete"
  | .executionError => "execution_error"
  | .executionAborted => "execution_aborted"
  | .nodeStart => "node_start"
  | .nodeProgress => "node_progress"
  | .nodeComplete => "node_complete"
  | .nodeSkipped => "node_skipped"
  | .nodeError => "node_error"
  | .nodePaused => "node_paused"
  | .nodeResumed => "node_resumed"
  | .interactivePrompt => "interactive_prompt"
  | .serverError => "error"
  | .nodeSkipRequested => "node_skip_requested"
  | .executionAbortRequested => "execution_abort_requested"
  | .interactiveResponseReceived => "interactive_response_received"
  | .subscribed => "subscribed"

/-- All kinds. -/
def all : List EventKind :=
  [.connected, .heartbeatAck, .executionStarted, .executionComplete, .executionError,
   .executionAborted, .nodeStart, .nodeProgress, .nodeComplete, .nodeSkipped, .nodeError,
   .nodePaused, .nodeResumed, .interactivePrompt, .serverError, .nodeSkipRequested,
   .executionAbortRequested, .interactiveResponseReceived, .subscribed]

/-- The kind with a `type`. -/
def ofWireName? (name : String) : Option EventKind :=
  all.find? fun k => k.wireName == name

end EventKind

end RemoteRun
