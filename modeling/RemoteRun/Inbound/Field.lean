import RemoteRun.Inbound.Event
import RemoteRun.Json.Writer
import RemoteRun.Text.Quoted

/-!
# Fields of events

**Input.** The members of a flattened message, in key order, and the table of the
fields that its kind has.

**Algorithm.** Each member whose key is a spelling of a field is taken for that
field; other members are passed over.  A second member for a field and a value of
the wrong shape are faults, and the first one in key order is reported.  Fields
that must be there are looked for afterwards, in the order of the table.

**Results.** `gather` gives the value of every field that was spelled.
-/

namespace RemoteRun

/-- The values a field accepts. -/
inductive Shape where
  | text
  | optionalText
  | flag
  | tokens
  | total
  | optionalValue
deriving DecidableEq

/-- A field: its name, its other spellings, the values it accepts and whether it
must be there. -/
structure Field where
  name : String
  aliases : List String
  shape : Shape
  required : Bool

/-- Why the members of a message are not the fields of its kind. -/
inductive FieldFault where
  | missing (field : String)
  | duplicate (field : String)
  | wrongType (found : Json) (expected : String)
  | negative (found : Int) (expected : String)

namespace FieldFault

/-- What a value is called in a message. -/
def describe : Json → String
  | .null => "null"
  | .bool true => "boolean `true`"
  | .bool false => "boolean `false`"
  | .num (.integer value _) => "integer `" ++ String.ofList (Json.renderInt value) ++ "`"
  | .num (.real bits) => "floating point `" ++ String.ofList (Json.renderReal bits) ++ "`"
  | .str text => "string " ++ Text.quoted text
  | .arr _ => "sequence"
  | .obj _ => "map"

/-- The reason a message gives. -/
def message : FieldFault → String
  | .missing field => "missing field `" ++ field ++ "`"
  | .duplicate field => "duplicate field `" ++ field ++ "`"
  | .wrongType found expected => "invalid type: " ++ describe found ++ ", expected " ++ expected
  | .negative found expected =>
      "invalid value: integer `" ++ String.ofList (Json.renderInt found) ++ "`, expected " ++
        expected

end FieldFault

namespace Shape

/-- What is wrong with a value where a count is expected. -/
def countFault? (expected : String) : Json → Option FieldFault
  | .null => none
  | .num (.integer value _) =>
      if 0 ≤ value then none else some (.negative value expected)
  | value => some (.wrongType value expected)

/-- What is wrong with a value for a field of this shape. -/
def fault? : Shape → Json → Option FieldFault
  | .text, .str _ => none
  | .text, value => some (.wrongType value "a string")
  | .optionalText, .null => none
  | .optionalText, .str _ => none
  | .optionalText, value => some (.wrongType value "a string")
  | .flag, .bool _ => none
  | .flag, value => some (.wrongType value "a boolean")
  | .tokens, value => countFault? "u64" value
  | .total, value => countFault? "usize" value
  | .optionalValue, _ => none

end Shape

namespace Field

/-- Whether a key is a spelling of the field. -/
def accepts (f : Field) (key : String) : Bool :=
  f.name == key || f.aliases.contains key

/-- Take one member for the field it spells. -/
def take (fields : List Field) (taken : Entries Json) (entry : String × Json) :
    Except FieldFault (Entries Json) :=
  match fields.find? (·.accepts entry.1) with
  | none => .ok taken
  | some f =>
      if (taken.get? f.name).isSome then .error (.duplicate f.name)
      else
        match f.shape.fault? entry.2 with
        | some fault => .error fault
        | none => .ok (taken.insert f.name entry.2)

/-- Take members one after the other up to the first fault. -/
def takeAll (fields : List Field) : Entries Json → Entries Json → Except FieldFault (Entries Json)
  | taken, [] => .ok taken
  | taken, entry :: entries =>
      match take fields taken entry with
      | .ok taken => takeAll fields taken entries
      | .error fault => .error fault

/-- The first field that must be there and is not. -/
def missing? (fields : List Field) (taken : Entries Json) : Option String :=
  (fields.find? fun f => f.required && (taken.get? f.name).isNone).map (·.name)

/-- The values of the spelled fields, by field name. -/
def gather (fields : List Field) (members : Entries Json) : Except FieldFault (Entries Json) :=
  match takeAll fields [] members with
  | .error fault => .error fault
  | .ok taken =>
      match missing? fields taken with
      | some name => .error (.missing name)
      | none => .ok taken

/-- A text that must be there. -/
def textOf (name : String) (aliases : List String) : Field := ⟨name, aliases, .text, true⟩

/-- A text that is empty when it is not there. -/
def defaultTextOf (name : String) (aliases : List String) : Field := ⟨name, aliases, .text, false⟩

/-- A text that may be absent. -/
def optionalTextOf (name : String) (aliases : List String) : Field :=
  ⟨name, aliases, .optionalText, false⟩

/-- A value that may be absent. -/
def valueOf (name : String) : Field := ⟨name, [], .optionalValue, false⟩

/-- The node of a report. -/
def node : Field := textOf "node_id" ["nodeId"]

/-- The execution of a report, which may also be called `id`. -/
def execution : Field := optionalTextOf "execution_id" ["executionId", "id"]

end Field

namespace EventKind

/-- The fields of each kind. -/
def fields : EventKind → List Field
  | .connected => [.optionalTextOf "client_id" ["clientId"]]
  | .heartbeatAck => []
  | .executionStarted =>
      [.textOf "execution_id" ["executionId", "id"], ⟨"total_nodes", ["totalNodes"], .total, false⟩,
       .valueOf "diagram", ⟨"from_cli", [], .flag, false⟩]
  | .executionComplete => [.execution, ⟨"total_tokens", ["totalTokens"], .tokens, false⟩]
  | .executionError => [.execution, .defaultTextOf "error" ["message"]]
  | .executionAborted => [.execution]
  | .nodeStart => [.node, .optionalTextOf "node_type" ["nodeType"]]
  | .nodeProgress => [.node, .defaultTextOf "message" []]
  | .nodeComplete =>
      [.node, .valueOf "output", ⟨"token_count", ["tokenCount", "tokens"], .tokens, false⟩]
  | .nodeSkipped => [.node, .optionalTextOf "reason" []]
  | .nodeError => [.node, .defaultTextOf "error" ["message"]]
  | .nodePaused => [.node]
  | .nodeResumed => [.node]
  | .interactivePrompt =>
      [.node, .optionalTextOf "execution_id" ["executionId"], .textOf "prompt" ["promptText"],
       ⟨"timeout", ["timeoutSeconds"], .tokens, false⟩, .valueOf "context"]
  | .serverError => [.defaultTextOf "message" ["error"]]
  | .nodeSkipRequested => [.node]
  | .executionAbortRequested => [.execution]
  | .interactiveResponseReceived => [.node]
  | .subscribed => []

end EventKind

end RemoteRun
