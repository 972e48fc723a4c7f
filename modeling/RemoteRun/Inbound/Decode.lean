import RemoteRun.Inbound.Field
import RemoteRun.Inbound.Message

/-!
# Decoding messages

**Input.** A lifted message.

**Results.** `Message.decode` gives nothing for a kind that is no event, the typed
event when the members are the fields of its kind, and otherwise the fault that
comes first.
-/

namespace RemoteRun

/-- Values of the fields of one message, by field name. -/
abbrev Gathered := Entries Json

namespace Gathered

/-- A text, empty when it was not there. -/
def text (g : Gathered) (name : String) : String :=
  match g.get? name with
  | some (.str s) => s
  | _ => ""

/-- A text that may be absent. -/
def optionalText (g : Gathered) (name : String) : Option String :=
  match g.get? name with
  | some (.str s) => some s
  | _ => none

/-- A count that may be absent. -/
def count (g : Gathered) (name : String) : Option UInt64 :=
  match g.get? name with
  | some (.num n) => n.toUInt64?
  | _ => none

/-- A flag, false when it was not there. -/
def flag (g : Gathered) (name : String) : Bool :=
  match g.get? name with
  | some (.bool b) => b
  | _ => false

/-- A value that may be absent; `null` counts as absent. -/
def value (g : Gathered) (name : String) : Option Json :=
  match g.get? name with
  | some .null => none
  | other => other

end Gathered

namespace EventKind

/-- The event of a kind with given field values. -/
def assemble (kind : EventKind) (g : Gathered) : Event :=
  let node := g.text "node_id"
  let execution := g.optionalText "execution_id"
  match kind with
  | .connected => .connected (g.optionalText "client_id")
  | .heartbeatAck => .heartbeatAck
  | .executionStarted =>
      .execution (.started (g.text "execution_id") (g.count "total_nodes") (g.value "diagram")
        (g.flag "from_cli"))
  | .executionComplete => .execution (.complete execution (g.count "total_tokens"))
  | .executionError => .execution (.failed execution (g.text "error"))
  | .executionAborted => .execution (.aborted execution)
  | .nodeStart => .node node (.start (g.optionalText "node_type"))
  | .nodeProgress => .node node (.progress (g.text "message"))
  | .nodeComplete => .node node (.complete (g.value "output") (g.count "token_count"))
  | .nodeSkipped => .node node (.skipped (g.optionalText "reason"))
  | .nodeError => .node node (.failed (g.text "error"))
  | .nodePaused => .node node .paused
  | .nodeResumed => .node node .resumed
  | .interactivePrompt =>
      .prompt ⟨node, execution, g.text "prompt", g.count "timeout", g.value "context"⟩
  | .serverError => .serverError (g.text "message")
  | .nodeSkipRequested => .skipRequested node
  | .executionAbortRequested => .abortRequested execution
  | .interactiveResponseReceived => .responseReceived node
  | .subscribed => .subscribed

end EventKind

/-- Why a frame is not understood. -/
inductive ProtocolError where
  | json (fault : Json.Fault)
  | missingType
  | malformed (kind : String) (fault : FieldFault)
  | unexpected (kind : String)

namespace ProtocolError

/-- The text of an error. -/
def message : ProtocolError → String
  | .json .ended => "invalid JSON frame: the text ends early"
  | .json .malformed => "invalid JSON frame: the text is no value"
  | .missingType => "frame is not a JSON object with a string `type` field"
  | .malformed kind fault => "malformed `" ++ kind ++ "` payload: " ++ fault.message
  | .unexpected kind => "message type `" ++ kind ++ "` does not carry an execution event"

end ProtocolError

namespace Message

/-- Lift a value or say that it has no kind. -/
def ofJson (value : Json) : Except ProtocolError Message :=
  match lift? value with
  | some m => .ok m
  | none => .error .missingType

/-- Read and lift a frame. -/
def parse (text : String) : Except ProtocolError Message :=
  match Json.read text with
  | .ok value => ofJson value
  | .error fault => .error (.json fault)

/-- The event of a message; nothing for a kind that is no event. -/
def decode (m : Message) : Except ProtocolError (Option Event) :=
  match EventKind.ofWireName? m.kind with
  | none => .ok none
  | some kind =>
      match Field.gather kind.fields m.members with
      | .ok g => .ok (some (kind.assemble g))
      | .error fault => .error (.malformed m.kind fault)

end Message

end RemoteRun
