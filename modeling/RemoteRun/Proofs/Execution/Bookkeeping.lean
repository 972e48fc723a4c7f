import RemoteRun.Proofs.Execution.Run

/-!
# The books of the machine

The records of the nodes, the running set and the counter of the execution are kept
apart and updated apart.  They stay in step.

**Invariant.** `Bookkept` says so: each record is filed under its own id, the running
set holds running nodes only and, unless the execution was aborted, all of them, and
the counter is the number of finished records, up to the total.

**Results.** `bookkept_run`: every state of every run is bookkept.  The counter needs
that a finished node accepts nothing more, so that no record is counted twice.
-/

namespace RemoteRun

namespace NodeReport

/-- A report that puts a node into the running set leaves it running. -/
theorem status_record_of_runs
    {r : NodeRecord}
    {report : NodeReport}
    (now : Timestamp)
    (h : r.accepts report = true)
    {was : Bool}
    (hruns : report.runs was = true) :
    (r.record now report).status = .running := by
  cases report <;> simp_all [NodeRecord.accepts, NodeRecord.record, runs]

/-- A report that leaves a node running puts it into the running set, or keeps it
there. -/
theorem runs_of_status_record
    {r : NodeRecord}
    {report : NodeReport}
    {now : Timestamp}
    {was : Bool}
    (hwas : r.status = .running → was = true)
    (hstatus : (r.record now report).status = .running) :
    report.runs was = true := by
  cases report <;> simp_all [NodeRecord.record, runs]

end NodeReport

namespace ExecutionHandle

@[simp] theorem totalNodeCount_countFinished
    (h : ExecutionHandle) :
    h.countFinished.totalNodeCount = h.totalNodeCount := by
  unfold countFinished
  split <;> rfl

@[simp] theorem status_countFinished
    (h : ExecutionHandle) :
    h.countFinished.status = h.status := by
  unfold countFinished
  split <;> rfl

/-- Counting one more keeps the counter at the number counted, up to the total. -/
theorem completedNodes_countFinished
    {h : ExecutionHandle}
    {n : Nat}
    (hn : h.completedNodes.toNat = min h.totalNodeCount.toNat n) :
    h.countFinished.completedNodes.toNat = min h.totalNodeCount.toNat (n + 1) := by
  have htotal := h.totalNodeCount.toNat_lt
  unfold countFinished
  split
  next hlt =>
    have hlt' := UInt64.lt_iff_toNat_lt.1 hlt
    have hone : (1 : UInt64).toNat = 1 := rfl
    simp only [UInt64.toNat_add, hone]
    omega
  next hge =>
    have hge' : ¬ h.completedNodes.toNat < h.totalNodeCount.toNat :=
      fun hlt => hge (UInt64.lt_iff_toNat_lt.2 hlt)
    omega

end ExecutionHandle

namespace Machine

/-- The status of a node that has a record. -/
def status? (m : Machine) (id : String) : Option NodeStatus :=
  (m.nodes.get? id).map (·.status)

/-- The number of records that are completed or skipped. -/
def finishedCount (m : Machine) : Nat :=
  m.nodes.values.countP fun r => r.status.isFinished

/-- Records, running set and counter agree. -/
structure Bookkept (m : Machine) : Prop where
  /-- Each record is filed under its own id. -/
  keyed : ∀ id r, m.nodes.get? id = some r → r.nodeId = id
  /-- Only running nodes are in the running set. -/
  running : ∀ id, m.running.contains id = true → m.status? id = some .running
  /-- Without an abort all running nodes are in it. -/
  running_iff :
    (∀ h, m.execution = some h → h.status ≠ .aborted) →
      ∀ id, m.running.contains id = true ↔ m.status? id = some .running
  /-- The counter counts the finished records, up to the total. -/
  counted :
    ∀ h, m.execution = some h →
      h.completedNodes.toNat = min h.totalNodeCount.toNat m.finishedCount

/-! ### A report -/

theorem status_recordOf_eq_running_iff
    (m : Machine)
    (id : String) :
    (m.recordOf id).status = .running ↔ m.status? id = some .running := by
  unfold recordOf status?
  cases m.nodes.get? id <;> simp [NodeRecord.fresh]

theorem status?_applyNode
    (m : Machine)
    (now : Timestamp)
    (id : String)
    (report : NodeReport)
    (other : String) :
    (m.applyNode now id report).1.status? other =
      if id = other then some ((m.recordOf id).after now report).status
      else m.status? other := by
  simp only [status?, nodes_applyNode, Table.get?_insert]
  by_cases h : id = other <;> simp [h]

/-- A report adds one finished record exactly when it is accepted and finishes its
node. -/
theorem finishedCount_applyNode
    (m : Machine)
    (now : Timestamp)
    (id : String)
    (report : NodeReport) :
    (m.applyNode now id report).1.finishedCount =
      m.finishedCount +
        if m.accepts id report && report.finishes then 1 else 0 := by
  have hperm :=
    (m.nodes.values_insert_perm id ((m.recordOf id).after now report)).countP_eq
      fun r => r.status.isFinished
  have hold :
      (m.nodes.get? id).toList.countP (fun r => r.status.isFinished) =
        if (m.recordOf id).status.isFinished then 1 else 0 := by
    unfold recordOf
    cases m.nodes.get? id with
    | none =>
        rfl
    | some r =>
        simp [List.countP_cons]
  rw [List.countP_append, List.countP_cons, hold] at hperm
  unfold finishedCount
  rw [nodes_applyNode]
  unfold accepts
  unfold NodeRecord.after at hperm ⊢
  cases ha : (m.recordOf id).accepts report with
  | true =>
      obtain ⟨hbefore, hafter⟩ := NodeRecord.isFinished_record now ha
      simp only [ha, if_true, hbefore, hafter, Bool.true_and] at hperm ⊢
      simpa using hperm
  | false =>
      simp only [ha, Bool.false_eq_true, if_false, Bool.false_and] at hperm ⊢
      omega

theorem contains_running_applyNode
    (m : Machine)
    (now : Timestamp)
    (id : String)
    (report : NodeReport)
    (other : String) :
    (m.applyNode now id report).1.running.contains other =
      if id = other ∧ m.accepts id report = true then report.runs (m.running.contains id)
      else m.running.contains other := by
  rw [running_applyNode]
  cases m.accepts id report with
  | true =>
      simp [contains_runningAfter]
  | false =>
      simp

theorem nodeId_recordOf
    {m : Machine}
    (hm : m.Bookkept)
    (id : String) :
    (m.recordOf id).nodeId = id := by
  unfold recordOf
  cases hr : m.nodes.get? id with
  | none =>
      rfl
  | some r =>
      exact hm.keyed id r hr

/-- An aborted execution stays aborted under a report, and no other becomes so. -/
theorem status_execution_applyNode
    {m : Machine}
    {now : Timestamp}
    {id : String}
    {report : NodeReport}
    (h :
      ∀ g, (m.applyNode now id report).1.execution = some g → g.status ≠ .aborted) :
    ∀ g, m.execution = some g → g.status ≠ .aborted := by
  intro g hg
  rw [execution_applyNode, hg] at h
  unfold executionAfter at h
  cases ha : m.accepts id report <;> cases hf : report.finishes <;> simp_all

namespace Bookkept

variable {m : Machine}

theorem running_report
    (hm : m.Bookkept)
    (now : Timestamp)
    (id : String)
    (report : NodeReport)
    (other : String)
    (h : (m.applyNode now id report).1.running.contains other = true) :
    (m.applyNode now id report).1.status? other = some .running := by
  rw [contains_running_applyNode] at h
  rw [status?_applyNode]
  by_cases hid : id = other
  · subst hid
    cases ha : m.accepts id report with
    | true =>
        simp only [ha, and_self, if_true] at h
        unfold accepts at ha
        simp only [if_true, NodeRecord.after, ha]
        rw [NodeReport.status_record_of_runs now ha h]
    | false =>
        simp only [ha, Bool.false_eq_true, and_false, if_false] at h
        unfold accepts at ha
        have hstatus := (m.status_recordOf_eq_running_iff id).2 (hm.running id h)
        simp [NodeRecord.after, ha, hstatus]
  · simp only [hid, false_and, if_false] at h ⊢
    exact hm.running other h

theorem report_running
    (hm : m.Bookkept)
    (hlive : ∀ h, m.execution = some h → h.status ≠ .aborted)
    (now : Timestamp)
    (id : String)
    (report : NodeReport)
    (other : String)
    (h : (m.applyNode now id report).1.status? other = some .running) :
    (m.applyNode now id report).1.running.contains other = true := by
  rw [status?_applyNode] at h
  rw [contains_running_applyNode]
  by_cases hid : id = other
  · subst hid
    have hwas : (m.recordOf id).status = .running → m.running.contains id = true := by
      intro hstatus
      exact (hm.running_iff hlive id).2 ((m.status_recordOf_eq_running_iff id).1 hstatus)
    cases ha : m.accepts id report with
    | true =>
        unfold accepts at ha
        simp only [if_true, NodeRecord.after, ha, Option.some.injEq] at h
        simpa using NodeReport.runs_of_status_record hwas h
    | false =>
        unfold accepts at ha
        simp only [if_true, NodeRecord.after, ha, Bool.false_eq_true, if_false,
          Option.some.injEq] at h
        simpa using hwas h
  · simp only [hid, false_and, if_false] at h ⊢
    exact (hm.running_iff hlive other).2 h

theorem counted_report
    (hm : m.Bookkept)
    (now : Timestamp)
    (id : String)
    (report : NodeReport)
    (h : ExecutionHandle)
    (hh : (m.applyNode now id report).1.execution = some h) :
    h.completedNodes.toNat =
      min h.totalNodeCount.toNat (m.applyNode now id report).1.finishedCount := by
  rw [finishedCount_applyNode]
  rw [execution_applyNode] at hh
  cases hcount : m.accepts id report && report.finishes with
  | true =>
      obtain ⟨ha, hf⟩ := Bool.and_eq_true_iff.1 hcount
      simp only [ha, executionAfter, hf, if_true, Option.map_eq_some_iff] at hh
      obtain ⟨g, hg, rfl⟩ := hh
      rw [ExecutionHandle.totalNodeCount_countFinished]
      exact ExecutionHandle.completedNodes_countFinished (hm.counted g hg)
  | false =>
      have hsame : m.execution = some h := by
        unfold executionAfter at hh
        cases ha : m.accepts id report <;> cases hf : report.finishes <;> simp_all
      exact hm.counted h hsame

/-- A report keeps the books. -/
theorem report
    (hm : m.Bookkept)
    (now : Timestamp)
    (id : String)
    (report : NodeReport) :
    (m.applyNode now id report).1.Bookkept where
  keyed := by
    intro other r hr
    rw [nodes_applyNode, Table.get?_insert] at hr
    by_cases hid : id = other
    · subst hid
      simp only [if_true, Option.some.injEq] at hr
      subst hr
      simpa using nodeId_recordOf hm id
    · simp only [hid, if_false] at hr
      exact hm.keyed other r hr
  running := hm.running_report now id report
  running_iff := by
    intro hlive other
    have hlive' := status_execution_applyNode hlive
    exact ⟨hm.running_report now id report other,
      hm.report_running hlive' now id report other⟩
  counted := hm.counted_report now id report

/-- The end of a running execution keeps the books when it leaves its counts and, unless
it is an abort, the running set. -/
theorem finish
    (hm : m.Bookkept)
    {h : ExecutionHandle}
    (hh : m.execution = some h)
    (hlive : h.isTerminal = false)
    {ended : ExecutionHandle}
    (htotal : ended.totalNodeCount = h.totalNodeCount)
    (hcompleted : ended.completedNodes = h.completedNodes) :
    { m with execution := some ended }.Bookkept where
  keyed := hm.keyed
  running := hm.running
  running_iff := by
    intro _
    apply hm.running_iff
    intro g hg
    rw [hh, Option.some.injEq] at hg
    subst hg
    intro haborted
    simp [ExecutionHandle.isTerminal, haborted, ExecutionStatus.isTerminal] at hlive
  counted := by
    intro g hg
    rw [Option.some.injEq] at hg
    subst hg
    rw [hcompleted, htotal]
    exact hm.counted h hh

/-- Every advance keeps the books. -/
theorem advance
    {m' : Machine}
    (h : Advance m m')
    (hm : m.Bookkept) :
    m'.Bookkept := by
  cases h with
  | report now id report =>
      exact hm.report now id report
  | complete h now tokens hh hlive =>
      exact hm.finish hh hlive rfl rfl
  | fail h now error hh hlive =>
      exact hm.finish hh hlive rfl rfl
  | abort h now hh hlive =>
      refine ⟨hm.keyed, ?_, ?_, ?_⟩
      · intro id hid
        simp at hid
      · intro haborted
        exact absurd rfl (haborted _ rfl)
      · intro g hg
        rw [Option.some.injEq] at hg
        subst hg
        exact hm.counted h hh
  | requeue known pending =>
      exact ⟨hm.keyed, hm.running, hm.running_iff, hm.counted⟩

/-- A state without records and running nodes is bookkept when its execution, if there is
one, has counted nothing. -/
theorem of_empty
    (hnodes : m.nodes = Table.empty)
    (hrunning : m.running = Table.empty)
    (hexecution : ∀ h, m.execution = some h → h.completedNodes = 0) :
    m.Bookkept where
  keyed := by
    intro id r hr
    simp [hnodes] at hr
  running := by
    intro id hid
    simp [hrunning] at hid
  running_iff := by
    intro _ id
    simp [hrunning, status?, hnodes]
  counted := by
    intro h hh
    have hzero : m.finishedCount = 0 := by
      unfold finishedCount
      rw [hnodes]
      rfl
    rw [hzero, hexecution h hh]
    simp

end Bookkept

/-- Every state of every run is bookkept, and the counter never exceeds the total. -/
theorem bookkept_run
    (capacity : Nat)
    (ops : List TimedOperation) :
    ((ofCapacity capacity).run ops).Bookkept ∧
      ∀ h, ((ofCapacity capacity).run ops).execution = some h →
        h.completedNodes ≤ h.totalNodeCount := by
  have hinit : (ofCapacity capacity).Bookkept := by
    apply Bookkept.of_empty rfl rfl
    intro h hh
    simp [ofCapacity] at hh
  have hrun : ((ofCapacity capacity).run ops).Bookkept := by
    apply run_preserves (fun _ _ h hm => Bookkept.advance h hm) _ hinit ops
    intro m now id total diagram fromCli _
    apply Bookkept.of_empty rfl rfl
    intro h hh
    simp only [start, Option.some.injEq] at hh
    subst hh
    rfl
  refine ⟨hrun, ?_⟩
  intro h hh
  have hcounted := hrun.counted h hh
  rw [UInt64.le_iff_toNat_le]
  omega

end Machine

end RemoteRun
