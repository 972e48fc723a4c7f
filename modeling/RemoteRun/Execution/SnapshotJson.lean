import RemoteRun.Execution.Snapshot

/-!
# Snapshots as JSON

**Format.** Objects with the names of the parts in snake case.  Absent parts of
records are left out, an absent execution is `null`, and timestamps are RFC 3339
texts in UTC.

**Results.** `Snapshot.toJson` writes and `Snapshot.ofJson?` reads.  Reading passes
over unknown members, takes `null` for an absent part, and refuses everything else
that has not the type of its part.
-/

namespace RemoteRun

namespace Json

/-- A member that is there when its value is. -/
def member? (name : String) (value : Option Json) : List (String × Json) :=
  match value with
  | some v => [(name, v)]
  | none => []

/-- A count as a value. -/
def ofUInt64 (n : UInt64) : Json := .num (.ofUInt64 n)

/-- The count of a value. -/
def uint64? : Json → Option UInt64
  | .num n => n.toUInt64?
  | _ => none

/-- The flag of a value. -/
def bool? : Json → Option Bool
  | .bool b => some b
  | _ => none

/-- An optional part: missing and `null` are absent, anything else must be read. -/
def optional? {α : Type} (members : Entries Json) (name : String) (read : Json → Option α) :
    Option (Option α) :=
  match members.get? name with
  | none => some none
  | some .null => some none
  | some value => (read value).map some

/-- A part that must be there. -/
def required? {α : Type} (members : Entries Json) (name : String) (read : Json → Option α) :
    Option α :=
  (members.get? name).bind read

/-- Read every item of a list. -/
def all? {α β : Type} (read : α → Option β) : List α → Option (List β)
  | [] => some []
  | a :: as => do
      let b ← read a
      let bs ← all? read as
      return b :: bs

/-- A word, alone or as the only key of an object with `null` under it. -/
def word? {α : Type} (ofWord : String → Option α) : Json → Option α
  | .str word => ofWord word
  | .obj [(word, .null)] => ofWord word
  | _ => none

/-- A timestamp. -/
def time? (value : Json) : Option Timestamp :=
  value.string?.bind Timestamp.ofText?

/-- A timestamp as a value. -/
def ofTime (t : Timestamp) : Json := .str t.text

end Json

namespace NodeRecord

/-- A record as it is written. -/
def toJson (r : NodeRecord) : Json :=
  .ofMembers <|
    [("node_id", .str r.nodeId), ("status", .str r.status.word)] ++
    Json.member? "node_type" (r.nodeType.map .str) ++
    Json.member? "started_at" (r.startedAt.map .ofTime) ++
    Json.member? "ended_at" (r.endedAt.map .ofTime) ++
    Json.member? "progress_text" (r.progressText.map .str) ++
    Json.member? "token_count" (r.tokenCount.map .ofUInt64) ++
    Json.member? "error_message" (r.errorMessage.map .str) ++
    Json.member? "skip_reason" (r.skipReason.map .str) ++
    Json.member? "output" r.output

/-- Read a record. -/
def ofJson? (value : Json) : Option NodeRecord := do
  let members ← value.object?
  return {
    nodeId := ← Json.required? members "node_id" Json.string?
    status := ← Json.required? members "status" (Json.word? NodeStatus.ofWord?)
    nodeType := ← Json.optional? members "node_type" Json.string?
    startedAt := ← Json.optional? members "started_at" Json.time?
    endedAt := ← Json.optional? members "ended_at" Json.time?
    progressText := ← Json.optional? members "progress_text" Json.string?
    tokenCount := ← Json.optional? members "token_count" Json.uint64?
    errorMessage := ← Json.optional? members "error_message" Json.string?
    skipReason := ← Json.optional? members "skip_reason" Json.string?
    output := ← Json.optional? members "output" some }

end NodeRecord

namespace ExecutionHandle

/-- A handle as it is written. -/
def toJson (h : ExecutionHandle) : Json :=
  .ofMembers <|
    [("execution_id", .str h.executionId), ("status", .str h.status.word),
     ("total_node_count", .ofUInt64 h.totalNodeCount),
     ("completed_nodes", .ofUInt64 h.completedNodes),
     ("started_at", .ofTime h.startedAt)] ++
    Json.member? "ended_at" (h.endedAt.map .ofTime) ++
    Json.member? "terminal_error" (h.terminalError.map .str) ++
    Json.member? "total_tokens" (h.totalTokens.map .ofUInt64) ++
    [("external", .bool h.external)]

/-- Read a handle.  The mark of an execution that others started may be missing,
but not `null`. -/
def ofJson? (value : Json) : Option ExecutionHandle := do
  let members ← value.object?
  return {
    executionId := ← Json.required? members "execution_id" Json.string?
    status := ← Json.required? members "status" (Json.word? ExecutionStatus.ofWord?)
    totalNodeCount := ← Json.required? members "total_node_count" Json.uint64?
    completedNodes := ← Json.required? members "completed_nodes" Json.uint64?
    startedAt := ← Json.required? members "started_at" Json.time?
    endedAt := ← Json.optional? members "ended_at" Json.time?
    terminalError := ← Json.optional? members "terminal_error" Json.string?
    totalTokens := ← Json.optional? members "total_tokens" Json.uint64?
    external := ← match members.get? "external" with
      | none => some false
      | some flag => flag.bool? }

end ExecutionHandle

namespace Snapshot

/-- A snapshot as it is written. -/
def toJson (s : Snapshot) : Json :=
  .ofMembers
    [("execution", .ofOption (s.execution.map ExecutionHandle.toJson)),
     ("nodes", .obj (s.nodes.toList.map fun e => (e.1, e.2.toJson))),
     ("running_nodes", .ofStrings s.runningNodes),
     ("pending_events", .ofUInt64 s.pendingEvents),
     ("known_nodes", .ofUInt64 s.knownNodes)]

/-- Read the records of the nodes by id. -/
def nodes? (value : Json) : Option (Table NodeRecord) := do
  let members ← value.object?
  let records ← Json.all? (fun e : String × Json => (NodeRecord.ofJson? e.2).map (e.1, ·)) members
  return Table.ofPairs records

/-- Read a snapshot. -/
def ofJson? (value : Json) : Option Snapshot := do
  let members ← value.object?
  return {
    execution := ← Json.optional? members "execution" ExecutionHandle.ofJson?
    nodes := ← Json.required? members "nodes" nodes?
    runningNodes := ← Json.required? members "running_nodes"
      fun v => v.array?.bind (Json.all? Json.string?)
    pendingEvents := ← Json.required? members "pending_events" Json.uint64?
    knownNodes := ← Json.required? members "known_nodes" Json.uint64? }

end Snapshot

end RemoteRun
