import RemoteRun.Proofs.Execution.Terminal

/-!
# The execution that runs

Which changes of a machine leave the id of the execution that runs.

**Results.**
* `activeId?_apply`: a message that is no report on the execution leaves it.
* `activeId?_setKnown`, `activeId?_register`: so do changes of the known nodes, whatever
  reports they replay.
* `activeId?_abort`: after an abort no execution runs.
-/

namespace RemoteRun
namespace Machine

variable (m : Machine) (now : Timestamp)

/-- A report that finishes a node changes the counter of the execution alone. -/
theorem runningId_executionAfter
    (execution : Option ExecutionHandle)
    (report : NodeReport) :
    ((executionAfter execution report).filter fun h => !h.isTerminal).map (·.executionId) =
      (execution.filter fun h => !h.isTerminal).map (·.executionId) := by
  unfold executionAfter
  split
  · cases execution with
    | none =>
        rfl
    | some h =>
        obtain ⟨n, hn⟩ := countFinished_eq h
        have hterminal : h.countFinished.isTerminal = h.isTerminal := by
          rw [hn]
          rfl
        have hid : h.countFinished.executionId = h.executionId := by
          rw [hn]
        simp [Option.filter, hterminal, apply_ite, hid]
  · rfl

@[simp] theorem activeId?_applyNode
    (id : String)
    (report : NodeReport) :
    (m.applyNode now id report).1.activeId? = m.activeId? := by
  unfold activeId? live?
  rw [execution_applyNode]
  split
  · exact runningId_executionAfter m.execution report
  · rfl

@[simp] theorem activeId?_replayAll
    (es : List PendingEntry) :
    (m.replayAll now es).1.activeId? = m.activeId? := by
  induction es generalizing m with
  | nil =>
      rfl
  | cons e es ih =>
      have hentry : (m.replayEntry now e).1.activeId? = m.activeId? := by
        unfold replayEntry
        split <;> simp
      exact (ih _).trans hentry

@[simp] theorem activeId?_setKnown
    (ids : List String) :
    (m.setKnown now ids).1.activeId? = m.activeId? :=
  activeId?_replayAll _ now _

@[simp] theorem activeId?_register
    (ids : List String) :
    (m.register now ids).1.activeId? = m.activeId? := by
  unfold register
  split
  · rfl
  · exact activeId?_replayAll _ now _

/-- Only a report on the execution can change which one runs. -/
theorem activeId?_apply
    {message : Message}
    (h : ∀ report, message.decode ≠ .ok (some (.execution report))) :
    (m.apply now message).1.activeId? = m.activeId? := by
  unfold apply
  split
  next => rfl
  next => rfl
  next id report _ =>
    split
    · exact activeId?_applyNode m now id report
    · rfl
  next report hd => exact absurd hd (h report)
  next => rfl

@[simp] theorem activeId?_abort :
    (m.abort now).1.activeId? = none := by
  unfold abort
  cases hlive : m.live? with
  | none =>
      simp [activeId?, hlive]
  | some h =>
      exact activeId?_of_terminal rfl rfl

end Machine
end RemoteRun
