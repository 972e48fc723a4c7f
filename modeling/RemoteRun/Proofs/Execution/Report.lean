import RemoteRun.Execution.Machine
import RemoteRun.Proofs.Tables

/-!
# One report on a node

What `Machine.applyNode` does to each part of the state.

**Records.** A report reaches the record of its own node only.  `NodeRecord.after` is
that record afterwards, whether the node accepted the report or not; an accepted
report moves the status along `NodeStatus.next` or leaves it.

**Frame.** The known nodes and the queue take no part in a report, neither as input nor
as output.

**Results.** Reports on different nodes commute, at equal and at different times.
-/

namespace RemoteRun

namespace NodeStatus

/-- The statuses that a node may move to. -/
def next : NodeStatus → List NodeStatus
  | .pending => [.running, .completed, .skipped, .error]
  | .running => [.paused, .completed, .skipped, .error]
  | .paused => [.running, .completed, .skipped, .error]
  | .completed | .skipped | .error => []

/-- Statuses that count as finished. -/
def isFinished : NodeStatus → Bool
  | .completed | .skipped => true
  | .pending | .running | .paused | .error => false

end NodeStatus

namespace NodeRecord

/-- The record after a report, accepted or not. -/
def after (r : NodeRecord) (now : Timestamp) (report : NodeReport) : NodeRecord :=
  if r.accepts report then r.record now report else r

@[simp] theorem nodeId_after
    (r : NodeRecord)
    (now : Timestamp)
    (report : NodeReport) :
    (r.after now report).nodeId = r.nodeId := by
  unfold after
  split
  · cases report <;> rfl
  · rfl

/-- A node in a terminal status accepts nothing. -/
theorem not_terminal_of_accepts
    {r : NodeRecord}
    {report : NodeReport}
    (h : r.accepts report = true) :
    r.status.isTerminal = false := by
  cases report <;> cases hs : r.status <;> simp_all [accepts, NodeStatus.isTerminal]

theorem after_of_terminal
    {r : NodeRecord}
    (h : r.status.isTerminal = true)
    (now : Timestamp)
    (report : NodeReport) :
    r.after now report = r := by
  unfold after
  split
  next ha =>
    rw [not_terminal_of_accepts ha] at h
    simp at h
  next => rfl

/-- An accepted report moves the status to one of the next ones, or it tells of
progress. -/
theorem status_record
    {r : NodeRecord}
    {report : NodeReport}
    (now : Timestamp)
    (h : r.accepts report = true) :
    (r.record now report).status = r.status ∨
      (r.record now report).status ∈ r.status.next := by
  cases report <;> cases hs : r.status <;>
    simp_all [accepts, record, NodeStatus.isTerminal, NodeStatus.next]

theorem status_after
    (r : NodeRecord)
    (now : Timestamp)
    (report : NodeReport) :
    (r.after now report).status = r.status ∨
      (r.after now report).status ∈ r.status.next := by
  unfold after
  split
  next h => exact status_record now h
  next => exact Or.inl rfl

/-- A record counts as finished after an accepted report exactly when the report
finishes the node; before it, it never does. -/
theorem isFinished_record
    {r : NodeRecord}
    {report : NodeReport}
    (now : Timestamp)
    (h : r.accepts report = true) :
    r.status.isFinished = false ∧
      (r.record now report).status.isFinished = report.finishes := by
  cases report <;> cases hs : r.status <;>
    simp_all [accepts, record, NodeStatus.isTerminal, NodeStatus.isFinished,
      NodeReport.finishes]

end NodeRecord

namespace NodeReport

/-- Whether a node is in the running set after a report that it accepted. -/
def runs (was : Bool) : NodeReport → Bool
  | .start _ | .resumed => true
  | .progress _ => was
  | .complete _ _ | .skipped _ | .failed _ | .paused => false

end NodeReport

attribute [ext] Machine

namespace Machine

theorem contains_runningAfter
    (running : IdSet)
    (id : String)
    (report : NodeReport)
    (other : String) :
    (runningAfter running id report).contains other =
      if id = other then report.runs (running.contains id)
      else running.contains other := by
  by_cases h : id = other
  · subst h
    cases report <;>
      simp [runningAfter, NodeReport.runs, IdSet.contains_add, Table.contains_erase]
  · cases report <;>
      simp [runningAfter, IdSet.contains_add, Table.contains_erase, h]

/-! ### The parts of the state after a report -/

/-- Whether a node accepts a report; a node without a record is pending. -/
def accepts (m : Machine) (id : String) (report : NodeReport) : Bool :=
  (m.recordOf id).accepts report

theorem applyNode_of_accepts
    {m : Machine}
    {id : String}
    {report : NodeReport}
    (now : Timestamp)
    (h : m.accepts id report = true) :
    m.applyNode now id report =
      ({ m with
          nodes := m.nodes.insert id ((m.recordOf id).record now report)
          running := runningAfter m.running id report
          execution := executionAfter m.execution report },
        .applied) := by
  unfold accepts at h
  simp [applyNode, NodeRecord.advance?, h]

theorem applyNode_of_not_accepts
    {m : Machine}
    {id : String}
    {report : NodeReport}
    (now : Timestamp)
    (h : m.accepts id report = false) :
    m.applyNode now id report =
      ({ m with nodes := m.nodes.insert id (m.recordOf id) },
        .ignored (.invalidTransition id (m.recordOf id).status report.wireName)) := by
  unfold accepts at h
  simp [applyNode, NodeRecord.advance?, h]

section Parts

variable (m : Machine) (now : Timestamp) (id : String) (report : NodeReport)

/-- All parts of the state after a report at once. -/
theorem applyNode_fst :
    (m.applyNode now id report).1 =
      { execution :=
          if m.accepts id report then executionAfter m.execution report else m.execution
        nodes := m.nodes.insert id ((m.recordOf id).after now report)
        running :=
          if m.accepts id report then runningAfter m.running id report else m.running
        known := m.known
        pending := m.pending } := by
  cases h : m.accepts id report with
  | true =>
      rw [applyNode_of_accepts now h]
      unfold accepts at h
      simp [NodeRecord.after, h]
  | false =>
      rw [applyNode_of_not_accepts now h]
      unfold accepts at h
      simp [NodeRecord.after, h]

theorem nodes_applyNode :
    (m.applyNode now id report).1.nodes =
      m.nodes.insert id ((m.recordOf id).after now report) := by
  rw [applyNode_fst]

theorem running_applyNode :
    (m.applyNode now id report).1.running =
      if m.accepts id report then runningAfter m.running id report else m.running := by
  rw [applyNode_fst]

theorem execution_applyNode :
    (m.applyNode now id report).1.execution =
      if m.accepts id report then executionAfter m.execution report else m.execution := by
  rw [applyNode_fst]

@[simp] theorem known_applyNode :
    (m.applyNode now id report).1.known = m.known := by
  rw [applyNode_fst]

@[simp] theorem pending_applyNode :
    (m.applyNode now id report).1.pending = m.pending := by
  rw [applyNode_fst]

theorem recordOf_applyNode
    (other : String) :
    (m.applyNode now id report).1.recordOf other =
      if id = other then (m.recordOf id).after now report else m.recordOf other := by
  simp only [recordOf, nodes_applyNode, Table.get?_insert]
  by_cases h : id = other <;> simp [h]

theorem accepts_applyNode_of_ne
    {other : String}
    (h : id ≠ other)
    (report' : NodeReport) :
    (m.applyNode now id report).1.accepts other report' = m.accepts other report' := by
  simp [accepts, recordOf_applyNode, h]

end Parts

/-! ### Frame -/

/-- The same execution with other known nodes and another queue. -/
def requeue (m : Machine) (known : IdSet) (pending : PendingQueue) : Machine :=
  { m with known := known, pending := pending }

theorem requeue_applyNode
    (m : Machine)
    (known : IdSet)
    (pending : PendingQueue)
    (now : Timestamp)
    (id : String)
    (report : NodeReport) :
    ((m.requeue known pending).applyNode now id report).1 =
      (m.applyNode now id report).1.requeue known pending := by
  simp only [applyNode_fst]
  rfl

/-! ### Reports on different nodes -/

theorem runningAfter_comm
    (running : IdSet)
    {id other : String}
    (h : id ≠ other)
    (report report' : NodeReport) :
    runningAfter (runningAfter running id report) other report' =
      runningAfter (runningAfter running other report') id report := by
  have h' : other ≠ id := fun e => h e.symm
  apply IdSet.ext_contains
  intro k
  simp only [contains_runningAfter, h, h', if_false]
  by_cases hk : id = k
  · subst hk
    simp [h']
  · simp [hk]

theorem executionAfter_comm
    (execution : Option ExecutionHandle)
    (report report' : NodeReport) :
    executionAfter (executionAfter execution report) report' =
      executionAfter (executionAfter execution report') report := by
  unfold executionAfter
  cases report.finishes <;> cases report'.finishes <;> rfl

/-- Reports on different nodes commute. -/
theorem applyNode_comm
    (m : Machine)
    {id other : String}
    (h : id ≠ other)
    (now now' : Timestamp)
    (report report' : NodeReport) :
    ((m.applyNode now id report).1.applyNode now' other report').1 =
      ((m.applyNode now' other report').1.applyNode now id report).1 := by
  have h' : other ≠ id := fun e => h e.symm
  have hnodes :
      ((m.applyNode now id report).1.applyNode now' other report').1.nodes =
        ((m.applyNode now' other report').1.applyNode now id report).1.nodes := by
    simp only [nodes_applyNode, recordOf_applyNode, h, h', if_false]
    exact m.nodes.insert_comm h _ _
  have hrunning :
      ((m.applyNode now id report).1.applyNode now' other report').1.running =
        ((m.applyNode now' other report').1.applyNode now id report).1.running := by
    simp only [running_applyNode, accepts_applyNode_of_ne _ _ _ _ h,
      accepts_applyNode_of_ne _ _ _ _ h']
    cases m.accepts id report <;> cases m.accepts other report' <;>
      simp [runningAfter_comm _ h]
  have hexecution :
      ((m.applyNode now id report).1.applyNode now' other report').1.execution =
        ((m.applyNode now' other report').1.applyNode now id report).1.execution := by
    simp only [execution_applyNode, accepts_applyNode_of_ne _ _ _ _ h,
      accepts_applyNode_of_ne _ _ _ _ h']
    cases m.accepts id report <;> cases m.accepts other report' <;>
      simp [executionAfter_comm _ report]
  exact Machine.ext hexecution hnodes hrunning (by simp) (by simp)

end Machine

end RemoteRun
