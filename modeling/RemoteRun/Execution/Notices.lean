import RemoteRun.Execution.Machine
import RemoteRun.Notice

/-!
# Notices on the execution

What is written to the journal while messages are applied.

**Results.** Each function tells the notices of the operation of the same name, from the
state in front of it.
-/

namespace RemoteRun
namespace Machine

/-- An execution that still runs is replaced by another one. -/
def supersededNotices (m : Machine) (next : String) : List Notice :=
  match m.activeId? with
  | none => []
  | some previous =>
      [.warn "execution superseded before reaching a terminal state"
        [("previous", .str previous), ("next", .str next)]]

/-- A report that does not reach the execution. -/
def ignoredNotices (m : Machine) (received : Option String) (kind : EventKind) : List Notice :=
  match target m.execution received with
  | .ok _ => []
  | .error _ => [.warn "execution event ignored" [("kind", .str kind.wireName)]]

/-- A failure of the execution, or a report of one that does not reach it. -/
def failureNotices (m : Machine) (received : Option String) (error : String) : List Notice :=
  match target m.execution received with
  | .ok h =>
      [.warn "execution failed"
        [("execution_id", .str h.executionId), ("error", .str (errorText error))]]
  | .error _ => [.warn "execution event ignored" [("kind", .str EventKind.executionError.wireName)]]

/-- What is noted of a report on the execution. -/
def executionNotices (m : Machine) : ExecutionReport → List Notice
  | .started id _ _ _ => m.supersededNotices id
  | .complete id _ => m.ignoredNotices id .executionComplete
  | .failed id error => m.failureNotices id error
  | .aborted id => m.ignoredNotices id .executionAborted

/-- An entry that gives way to another one. -/
def evictionNotices (m : Machine) : List Notice :=
  match m.pending.evicted? with
  | none => []
  | some old =>
      [.warn "pending event queue full; evicting oldest entry"
        [("node_id", .str old.nodeId), ("kind", .str old.kind),
         ("capacity", .ofNat m.pending.capacity)]]

/-- What is noted of a message. -/
def applyNotices (m : Machine) (message : Message) : List Notice :=
  match message.decode with
  | .ok (some (.node id _)) => if m.isKnown id then [] else m.evictionNotices
  | .ok (some (.execution report)) => m.executionNotices report
  | _ => []

/-- What is noted of an entry that cannot be replayed. -/
def entryNotices (e : PendingEntry) : List Notice :=
  match replayed? e with
  | .error fault =>
      [.warn "pending event could not be replayed"
        [("node_id", .str e.nodeId), ("error", .str fault.message)]]
  | .ok _ => []

/-- What is noted of the entries that are replayed. -/
def replayNotices (m : Machine) : List Notice :=
  (m.pending.ready m.isKnown).flatMap entryNotices

/-- What is noted when exactly some nodes are known. -/
def setKnownNotices (m : Machine) (ids : List String) : List Notice :=
  { m with known := .ofList ids }.replayNotices

/-- What is noted when some more nodes are known. -/
def registerNotices (m : Machine) (ids : List String) : List Notice :=
  if ids.all m.isKnown then [] else { m with known := m.known.addAll ids }.replayNotices

end Machine
end RemoteRun
