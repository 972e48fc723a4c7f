import RemoteRun.Json.Writer

/-!
# Outbound messages

What a client asks of the engine, and the text that asks it.

**Format.** An object with its `type` first and the fields after it.  The `type` is
the name of the message's form in snake case; `kind` is a table kept beside it, and
`tag_eq_kind` says that the two agree.  Options that have their default are left out;
extra options follow the named ones in key order, and an extra option may repeat a
name.
-/

namespace RemoteRun

/-- Options of an execution. -/
structure ExecuteOptions where
  monitor : Bool := false
  debugMode : Bool := false
  timeoutSeconds : Option UInt64 := none
  extra : Entries Json := []

/-- A message to the engine.  An empty response means that a prompt is not
answered. -/
inductive Outbound where
  | executeDiagram (diagram : Json) (options : ExecuteOptions)
  | pauseNode (nodeId executionId : String)
  | resumeNode (nodeId executionId : String)
  | skipNode (nodeId executionId : String)
  | abortExecution (executionId : String)
  | interactiveResponse (nodeId executionId response : String)
  | heartbeat
  | subscribeMonitor

namespace ExecuteOptions

/-- The named options that are set. -/
def named (o : ExecuteOptions) : List (String × Json) :=
  (if o.monitor then [("monitor", .bool true)] else []) ++
  (if o.debugMode then [("debug_mode", .bool true)] else []) ++
  (match o.timeoutSeconds with
   | some seconds => [("timeout_seconds", .num (.ofUInt64 seconds))]
   | none => [])

/-- The options as they are written. -/
def toJson (o : ExecuteOptions) : Json :=
  .obj (o.named ++ o.extra)

end ExecuteOptions

namespace Outbound

/-- The kind of a message. -/
def kind : Outbound → String
  | .executeDiagram _ _ => "execute_diagram"
  | .pauseNode _ _ => "pause_node"
  | .resumeNode _ _ => "resume_node"
  | .skipNode _ _ => "skip_node"
  | .abortExecution _ => "abort_execution"
  | .interactiveResponse _ _ _ => "interactive_response"
  | .heartbeat => "heartbeat"
  | .subscribeMonitor => "subscribe_monitor"

/-- The name of a message's form. -/
def form : Outbound → String
  | .executeDiagram _ _ => "ExecuteDiagram"
  | .pauseNode _ _ => "PauseNode"
  | .resumeNode _ _ => "ResumeNode"
  | .skipNode _ _ => "SkipNode"
  | .abortExecution _ => "AbortExecution"
  | .interactiveResponse _ _ _ => "InteractiveResponse"
  | .heartbeat => "Heartbeat"
  | .subscribeMonitor => "SubscribeMonitor"

/-- Capitalised words in snake case: the first capital becomes a small letter, and
every later one an underscore and the small letter. -/
def snakeWords : List Char → List Char
  | [] => []
  | c :: cs => c.toLower :: cs.flatMap fun c => if c.isUpper then ['_', c.toLower] else [c]

/-- The `type` that is written. -/
def tag (m : Outbound) : String :=
  String.ofList (snakeWords m.form.toList)

/-- The written `type` is the kind of the message. -/
theorem tag_eq_kind (m : Outbound) : m.tag = m.kind := by
  cases m
  all_goals
    simp only [tag, form, kind]
    rfl

/-- The fields of a message in the order in which they are written. -/
def fields : Outbound → List (String × Json)
  | .executeDiagram diagram options => [("diagram", diagram), ("options", options.toJson)]
  | .pauseNode node execution => [("node_id", .str node), ("execution_id", .str execution)]
  | .resumeNode node execution => [("node_id", .str node), ("execution_id", .str execution)]
  | .skipNode node execution => [("node_id", .str node), ("execution_id", .str execution)]
  | .abortExecution execution => [("execution_id", .str execution)]
  | .interactiveResponse node execution response =>
      [("node_id", .str node), ("execution_id", .str execution), ("response", .str response)]
  | .heartbeat => []
  | .subscribeMonitor => []

/-- A message as it is written. -/
def toJson (m : Outbound) : Json :=
  .obj (("type", .str m.tag) :: m.fields)

/-- The text of a message. -/
def write (m : Outbound) : String :=
  m.toJson.write

end Outbound

end RemoteRun
