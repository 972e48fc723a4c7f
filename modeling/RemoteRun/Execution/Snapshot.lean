import RemoteRun.Execution.Machine

/-!
# Snapshots

A view of the state for those who watch it.

**Results.** `Machine.snapshot` takes the view, `Snapshot.progress` is the part of
the nodes that have finished, and `Snapshot.lines` shows a snapshot as a header
and one line for each node, in id order.
-/

namespace RemoteRun

/-- A view of the state. -/
structure Snapshot where
  execution : Option ExecutionHandle
  nodes : Table NodeRecord
  runningNodes : List String
  pendingEvents : UInt64
  knownNodes : UInt64

/-- The view of a state. -/
def Machine.snapshot (m : Machine) : Snapshot where
  execution := m.execution
  nodes := m.nodes
  runningNodes := m.running.keys
  pendingEvents := UInt64.ofNat m.pending.size
  knownNodes := UInt64.ofNat m.known.keys.length

namespace Snapshot

/-- The part of the nodes that have finished, where there are nodes. -/
def progress (s : Snapshot) : Option Float :=
  match s.execution with
  | none => none
  | some h =>
      if 0 < h.totalNodeCount then some (h.completedNodes.toFloat / h.totalNodeCount.toFloat)
      else none

/-! ### Lines -/

/-- The escape sequence that sets a colour. -/
def colour (code : String) : String := "\x1b[" ++ code ++ "m"

/-- The colour of a header. -/
def headerColour : String := colour "36"

/-- The colour of a node's line; a pending node has none. -/
def statusColour : NodeStatus → String
  | .pending => ""
  | .running => colour "33"
  | .completed => colour "32"
  | .error => colour "31"
  | .skipped | .paused => colour "35"

/-- A line, painted if it has a colour. -/
def paint (colored : Bool) (code text : String) : String :=
  if colored && !code.isEmpty then code ++ text ++ colour "0" ++ "\n" else text ++ "\n"

/-- Decimal text of a count. -/
def countText (n : UInt64) : String :=
  String.ofList (Decimal.digits n.toNat)

/-- A part of a line that is there when its value is. -/
def part {α : Type} (value : Option α) (text : α → String) : String :=
  match value with
  | some v => text v
  | none => ""

/-- The header of an execution. -/
def header (s : Snapshot) (h : ExecutionHandle) : String :=
  "execution " ++ h.executionId ++ ": " ++ h.status.word ++
    " (" ++ countText h.completedNodes ++ "/" ++ countText h.totalNodeCount ++ " nodes)" ++
    part h.totalTokens (fun tokens => ", " ++ countText tokens ++ " tokens") ++
    part h.terminalError (fun error => ", error: " ++ error) ++
    (if 0 < s.pendingEvents then ", " ++ countText s.pendingEvents ++ " pending" else "")

/-- The line of a node. -/
def nodeLine (r : NodeRecord) : String :=
  "  " ++ r.nodeId ++ " " ++ r.status.word ++
    (if r.status = .running then part r.progressText (fun text => ": " ++ text) else "") ++
    part r.tokenCount (fun tokens => " [" ++ countText tokens ++ " tokens]") ++
    part r.skipReason (fun reason => " (" ++ reason ++ ")") ++
    part r.errorMessage (fun error => ": " ++ error)

/-- The lines of a snapshot. -/
def lines (s : Snapshot) (colored : Bool) : List String :=
  match s.execution with
  | none => [paint colored headerColour "execution: idle"]
  | some h =>
      paint colored headerColour (s.header h) ::
        s.nodes.values.map fun r => paint colored (statusColour r.status) (nodeLine r)

/-- The lines of a snapshot as one text. -/
def render (s : Snapshot) (colored : Bool) : String :=
  String.join (s.lines colored)

end Snapshot

end RemoteRun
