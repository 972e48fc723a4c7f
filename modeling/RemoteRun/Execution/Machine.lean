import RemoteRun.Diagram
import RemoteRun.Execution.Pending
import RemoteRun.Execution.Record
import RemoteRun.Inbound.Decode

/-!
# The state of the current execution

**Input.** Messages of the engine in the order of their arrival, the ids of the
nodes that are known locally, and the wish to abort.

**Algorithm.** A report on a known node goes to its record.  A report on another
node waits in the queue until the node becomes known and is then lifted and
decoded anew.  Reports on the execution must name it, or name none, and find it
running; the start of an execution forgets everything but the known nodes.

**Results.** Every operation is a total function of the state, and a message that
cannot be decoded is an error that changes nothing.
-/

namespace RemoteRun

/-- Why a message changes nothing. -/
inductive IgnoreReason where
  | notStateEvent
  | noActiveExecution
  | foreignExecution (current received : String)
  | executionTerminal
  | invalidTransition (nodeId : String) (status : NodeStatus) (event : String)

/-- What became of a message. -/
inductive ApplyOutcome where
  | applied
  | queued
  | ignored (reason : IgnoreReason)

/-- The execution, its nodes, the running ones, the known ones and the reports
that wait. -/
structure Machine where
  execution : Option ExecutionHandle
  nodes : Table NodeRecord
  running : IdSet
  known : IdSet
  pending : PendingQueue

namespace Machine

/-- How many reports wait unless a configuration says otherwise. -/
def defaultCapacity : Nat := 1024

/-- The state before the first message. -/
def ofCapacity (capacity : Nat) : Machine :=
  ⟨none, Table.empty, Table.empty, Table.empty, .ofCapacity capacity⟩

/-- Whether a node is known. -/
def isKnown (m : Machine) (id : String) : Bool :=
  m.known.contains id

/-- The execution while it runs. -/
def live? (m : Machine) : Option ExecutionHandle :=
  m.execution.filter fun h => !h.isTerminal

/-- The id of the execution while it runs. -/
def activeId? (m : Machine) : Option String :=
  m.live?.map (·.executionId)

/-- The record of a node, fresh if nothing was reported of it. -/
def recordOf (m : Machine) (id : String) : NodeRecord :=
  (m.nodes.get? id).getD (.fresh id)

/-! ### Reports on nodes -/

/-- The running set after an accepted report. -/
def runningAfter (running : IdSet) (id : String) : NodeReport → IdSet
  | .start _ | .resumed => running.add id
  | .progress _ => running
  | .complete _ _ | .skipped _ | .failed _ | .paused => running.erase id

/-- The execution after an accepted report. -/
def executionAfter (execution : Option ExecutionHandle) (report : NodeReport) :
    Option ExecutionHandle :=
  if report.finishes then execution.map ExecutionHandle.countFinished else execution

/-- Apply a report to the record of its node.  The node has a record from then on,
also when it does not accept the report. -/
def applyNode (m : Machine) (now : Timestamp) (id : String) (report : NodeReport) :
    Machine × ApplyOutcome :=
  let record := m.recordOf id
  match record.advance? now report with
  | none =>
      ({ m with nodes := m.nodes.insert id record },
        .ignored (.invalidTransition id record.status report.wireName))
  | some next =>
      ({ m with
          nodes := m.nodes.insert id next
          running := runningAfter m.running id report
          execution := executionAfter m.execution report },
        .applied)

/-! ### Reports on the execution -/

/-- The running execution that a report names, or why there is none. -/
def target (execution : Option ExecutionHandle) (received : Option String) :
    Except IgnoreReason ExecutionHandle :=
  match execution with
  | none => .error .noActiveExecution
  | some h =>
      match received with
      | some id =>
          if id ≠ h.executionId then .error (.foreignExecution h.executionId id)
          else if h.isTerminal then .error .executionTerminal
          else .ok h
      | none => if h.isTerminal then .error .executionTerminal else .ok h

/-- The sum of two counts, at most the greatest word. -/
def addTokens (a b : UInt64) : UInt64 :=
  if a.toNat + b.toNat < UInt64.size then a + b else UInt64.ofNat (UInt64.size - 1)

/-- The sum of the token counts of a list of records, if one has a count. -/
def sumTokens (records : List NodeRecord) : Option UInt64 :=
  match records.filterMap (·.tokenCount) with
  | [] => none
  | first :: others => some (others.foldl addTokens first)

/-- The number of nodes of an execution that starts. -/
def totalNodes (m : Machine) (total : Option UInt64) (diagram : Option Json) : UInt64 :=
  match total with
  | some n => n
  | none =>
      match diagram with
      | some d => UInt64.ofNat (Diagram.nodeIds d).length
      | none => UInt64.ofNat m.known.keys.length

/-- Forget all but the known nodes and track a new execution. -/
def start (m : Machine) (now : Timestamp) (id : String) (total : Option UInt64)
    (diagram : Option Json) (fromCli : Bool) : Machine :=
  { execution := some (.start id (m.totalNodes total diagram) now (fromCli || diagram.isSome))
    nodes := Table.empty
    running := Table.empty
    known := m.known
    pending := m.pending.clear }

/-- Change the running execution that a report names. -/
def onTarget (m : Machine) (received : Option String)
    (change : ExecutionHandle → Machine) : Machine × ApplyOutcome :=
  match target m.execution received with
  | .error reason => (m, .ignored reason)
  | .ok h => (change h, .applied)

/-- The text of an error that came without one. -/
def errorText (error : String) : String :=
  if error.isEmpty then "unknown error" else error

/-- Apply a report on the execution. -/
def applyExecution (m : Machine) (now : Timestamp) : ExecutionReport → Machine × ApplyOutcome
  | .started id total diagram fromCli => (m.start now id total diagram fromCli, .applied)
  | .complete id total =>
      m.onTarget id fun h =>
        let summed := sumTokens m.nodes.values
        { m with
          execution := some (h.complete now (total.or summed)) }
  | .failed id error =>
      m.onTarget id fun h =>
        { m with
          execution := some (h.fail now (errorText error)) }
  | .aborted id =>
      m.onTarget id fun h =>
        { m with
          execution := some (h.abort now)
          running := Table.empty }

/-! ### Operations -/

/-- Apply a message. -/
def apply (m : Machine) (now : Timestamp) (message : Message) :
    Machine × Except ProtocolError ApplyOutcome :=
  match message.decode with
  | .error e => (m, .error e)
  | .ok none => (m, .ok (.ignored .notStateEvent))
  | .ok (some (.node id report)) =>
      if m.isKnown id then
        let (m, outcome) := m.applyNode now id report
        (m, .ok outcome)
      else
        ({ m with pending := m.pending.enqueue (.ofMessage id message) }, .ok .queued)
  | .ok (some (.execution report)) =>
      let (m, outcome) := m.applyExecution now report
      (m, .ok outcome)
  | .ok (some _) => (m, .ok (.ignored .notStateEvent))

/-- The event of an entry, lifted and decoded anew. -/
def replayed? (e : PendingEntry) : Except ProtocolError (Option Event) :=
  match Message.ofJson e.payload with
  | .error e => .error e
  | .ok message => message.decode

/-- Apply an entry that left the queue; whether it was an event. -/
def replayEntry (m : Machine) (now : Timestamp) (e : PendingEntry) : Machine × Bool :=
  match replayed? e with
  | .ok (some (.node id report)) => ((m.applyNode now id report).1, true)
  | .ok (some _) => (m, true)
  | .ok none => (m, false)
  | .error _ => (m, false)

/-- Apply entries in order; how many were events. -/
def replayAll (m : Machine) (now : Timestamp) : List PendingEntry → Machine × Nat
  | [] => (m, 0)
  | e :: es =>
      let (m, counted) := m.replayEntry now e
      let (m, n) := m.replayAll now es
      (m, n + counted.toNat)

/-- Take the entries whose nodes are known from the queue and apply them. -/
def replay (m : Machine) (now : Timestamp) : Machine × Nat :=
  let ready := m.pending.ready m.isKnown
  let m := { m with pending := m.pending.withoutReady m.isKnown }
  m.replayAll now ready

/-- Know exactly some nodes; the number of replayed reports. -/
def setKnown (m : Machine) (now : Timestamp) (ids : List String) : Machine × Nat :=
  { m with known := .ofList ids }.replay now

/-- Know some more nodes; the number of replayed reports. -/
def register (m : Machine) (now : Timestamp) (ids : List String) : Machine × Nat :=
  if ids.all m.isKnown then (m, 0)
  else { m with known := m.known.addAll ids }.replay now

/-- Take the running execution as aborted; its id. -/
def abort (m : Machine) (now : Timestamp) : Machine × Option String :=
  match m.live? with
  | none => (m, none)
  | some h =>
      ({ m with
          execution := some (h.abort now)
          running := Table.empty },
        some h.executionId)

end Machine

end RemoteRun
