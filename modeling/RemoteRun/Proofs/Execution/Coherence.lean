import RemoteRun.Proofs.Execution.Run

/-!
# Records fit their status

Most fields of a record are optional, every report writes a few of them, and none takes one
back.  Which ones are there follows all the same from the status.

**By field.** `NodeRecord.Fits` and `ExecutionHandle.Fits` say of each field in which statuses
it may or must be there.  This is what reports and the end of an execution keep, because a
report is accepted in few statuses and an execution ends once.

**By status.** `NodeRecord.Told` says of each status what a reader of the record finds.

**Results.** `coherent_run`: in every state of every run, every record and the execution fit
their status.
-/

namespace RemoteRun

namespace NodeRecord

/-- Each field of a record is there when the status asks for it. -/
structure Fits (r : NodeRecord) : Prop where
  /-- A pending node has no type yet. -/
  nodeType : r.status = .pending → r.nodeType = none
  /-- A pending node has not started. -/
  unstarted : r.status = .pending → r.startedAt = none
  /-- One that runs or pauses has. -/
  started : r.status = .running ∨ r.status = .paused → r.startedAt.isSome
  /-- The end is known exactly in the terminal statuses. -/
  endedAt : r.endedAt.isSome = r.status.isTerminal
  /-- Only a node that has started tells of its progress. -/
  progressText : r.progressText.isSome → r.startedAt.isSome
  /-- Only a completed node has used tokens. -/
  tokenCount : r.tokenCount.isSome → r.status = .completed
  /-- Only a completed node has an output. -/
  output : r.output.isSome → r.status = .completed
  /-- Only a skipped node has a reason for it. -/
  skipReason : r.skipReason.isSome → r.status = .skipped
  /-- An error is told exactly of a node in error. -/
  errorMessage : r.errorMessage.isSome ↔ r.status = .error

/-- What a reader finds in a record, status by status. -/
structure Told (r : NodeRecord) : Prop where
  /-- Nothing is known of a pending node. -/
  pending : r.status = .pending → r = .fresh r.nodeId
  /-- A node that runs or pauses has started, and that is all. -/
  active :
    r.status = .running ∨ r.status = .paused →
      r.startedAt.isSome ∧ r.endedAt = none ∧ r.tokenCount = none ∧ r.output = none ∧
        r.skipReason = none ∧ r.errorMessage = none
  /-- A completed node has ended, without a reason and without an error. -/
  completed :
    r.status = .completed →
      r.endedAt.isSome ∧ r.skipReason = none ∧ r.errorMessage = none
  /-- A skipped node has ended, without a result and without an error. -/
  skipped :
    r.status = .skipped →
      r.endedAt.isSome ∧ r.tokenCount = none ∧ r.output = none ∧ r.errorMessage = none
  /-- A node in error has ended with that error, without a result and without a reason. -/
  failed :
    r.status = .error →
      r.endedAt.isSome ∧ r.errorMessage.isSome ∧ r.tokenCount = none ∧ r.output = none ∧
        r.skipReason = none
  /-- Only a node that has started tells of its progress. -/
  progress : r.progressText.isSome → r.startedAt.isSome

theorem fits_fresh
    (id : String) :
    (fresh id).Fits := by
  constructor <;> simp [fresh, NodeStatus.isTerminal]

namespace Fits

variable {r : NodeRecord}

/-- What no field of an unfinished node tells. -/
theorem of_not_terminal
    (h : r.Fits)
    (hstatus : r.status.isTerminal = false) :
    r.endedAt = none ∧ r.tokenCount = none ∧ r.output = none ∧ r.skipReason = none ∧
      r.errorMessage = none := by
  have hended := h.endedAt
  rw [hstatus] at hended
  have htokens := h.tokenCount
  have houtput := h.output
  have hreason := h.skipReason
  have herror := h.errorMessage.1
  refine ⟨by simpa using hended, ?_, ?_, ?_, ?_⟩ <;>
    by_contra hsome <;>
    simp_all [← Option.isSome_iff_ne_none, NodeStatus.isTerminal]

/-- Of a pending node nothing is told at all. -/
theorem eq_fresh
    (h : r.Fits)
    (hstatus : r.status = .pending) :
    r = .fresh r.nodeId := by
  obtain ⟨hended, htokens, houtput, hreason, herror⟩ :=
    h.of_not_terminal (by rw [hstatus]; rfl)
  have htype := h.nodeType hstatus
  have hstarted := h.unstarted hstatus
  have hprogress := h.progressText
  obtain ⟨id, status, nodeType, startedAt, endedAt, progressText, _⟩ := r
  cases progressText <;> simp_all [fresh]

/-- An accepted report leaves a record that fits. -/
theorem record
    (h : r.Fits)
    (now : Timestamp)
    {report : NodeReport}
    (ha : r.accepts report = true) :
    (r.record now report).Fits := by
  obtain ⟨hended, htokens, houtput, hreason, herror⟩ :=
    h.of_not_terminal (not_terminal_of_accepts ha)
  have hprogress := h.progressText
  cases report with
  | start nodeType =>
      constructor <;> simp_all [NodeRecord.record, NodeStatus.isTerminal]
  | progress message =>
      have hrunning : r.status = .running := by
        simpa [accepts] using ha
      have hstarted := h.started (Or.inl hrunning)
      constructor <;> simp_all [NodeRecord.record, NodeStatus.isTerminal]
  | complete output tokens =>
      constructor <;> simp_all [NodeRecord.record, NodeStatus.isTerminal]
  | skipped reason =>
      constructor <;> simp_all [NodeRecord.record, NodeStatus.isTerminal]
  | failed error =>
      constructor <;> simp_all [NodeRecord.record, NodeStatus.isTerminal]
  | paused =>
      have hrunning : r.status = .running := by
        simpa [accepts] using ha
      have hstarted := h.started (Or.inl hrunning)
      constructor <;> simp_all [NodeRecord.record, NodeStatus.isTerminal]
  | resumed =>
      have hpaused : r.status = .paused := by
        simpa [accepts] using ha
      have hstarted := h.started (Or.inr hpaused)
      constructor <;> simp_all [NodeRecord.record, NodeStatus.isTerminal]

theorem after
    (h : r.Fits)
    (now : Timestamp)
    (report : NodeReport) :
    (r.after now report).Fits := by
  unfold NodeRecord.after
  split
  next ha => exact h.record now ha
  next => exact h

/-- What a reader finds in a record that fits. -/
theorem told
    (h : r.Fits) :
    r.Told where
  pending := h.eq_fresh
  active := by
    intro hstatus
    have hopen : r.status.isTerminal = false := by
      rcases hstatus with hs | hs <;> rw [hs] <;> rfl
    exact ⟨h.started hstatus, h.of_not_terminal hopen⟩
  completed := by
    intro hstatus
    have hended := h.endedAt
    have hreason := h.skipReason
    have herror := h.errorMessage
    refine ⟨?_, ?_, ?_⟩ <;> simp_all [NodeStatus.isTerminal]
  skipped := by
    intro hstatus
    have hended := h.endedAt
    have htokens := h.tokenCount
    have houtput := h.output
    have herror := h.errorMessage
    refine ⟨?_, ?_, ?_, ?_⟩ <;> simp_all [NodeStatus.isTerminal]
  failed := by
    intro hstatus
    have hended := h.endedAt
    have htokens := h.tokenCount
    have houtput := h.output
    have hreason := h.skipReason
    have herror := h.errorMessage
    refine ⟨?_, ?_, ?_, ?_, ?_⟩ <;> simp_all [NodeStatus.isTerminal]
  progress := h.progressText

end Fits

end NodeRecord

namespace ExecutionHandle

/-- Each field of an execution is there when the status asks for it. -/
structure Fits (h : ExecutionHandle) : Prop where
  /-- The end is known exactly in the terminal statuses. -/
  endedAt : h.endedAt.isSome = h.status.isTerminal
  /-- An error is told exactly of a failed execution. -/
  terminalError : h.terminalError.isSome ↔ h.status = .failed
  /-- It is never the empty text. -/
  error_ne_empty : ∀ error, h.terminalError = some error → error ≠ ""
  /-- Only a completed execution has a total. -/
  totalTokens : h.totalTokens.isSome → h.status = .completed

theorem fits_start
    (id : String)
    (total : UInt64)
    (now : Timestamp)
    (external : Bool) :
    (start id total now external).Fits := by
  constructor <;> simp [start, ExecutionStatus.isTerminal]

namespace Fits

variable {h : ExecutionHandle}

/-- What no field of a running execution tells. -/
theorem of_live
    (hfits : h.Fits)
    (hlive : h.isTerminal = false) :
    h.terminalError = none ∧ h.totalTokens = none := by
  have hrunning : h.status = .running := by
    unfold isTerminal at hlive
    cases hs : h.status <;> simp_all [ExecutionStatus.isTerminal]
  have herror := hfits.terminalError
  have htokens := hfits.totalTokens
  simp_all

theorem countFinished
    (hfits : h.Fits) :
    h.countFinished.Fits := by
  unfold ExecutionHandle.countFinished
  split
  · exact ⟨hfits.endedAt, hfits.terminalError, hfits.error_ne_empty, hfits.totalTokens⟩
  · exact hfits

theorem complete
    (hfits : h.Fits)
    (hlive : h.isTerminal = false)
    (now : Timestamp)
    (tokens : Option UInt64) :
    (h.complete now tokens).Fits := by
  obtain ⟨herror, _⟩ := hfits.of_live hlive
  constructor <;> simp [ExecutionHandle.complete, ExecutionStatus.isTerminal, herror]

theorem fail
    (hfits : h.Fits)
    (hlive : h.isTerminal = false)
    (now : Timestamp)
    {error : String}
    (herror : error ≠ "") :
    (h.fail now error).Fits := by
  obtain ⟨_, htokens⟩ := hfits.of_live hlive
  constructor <;> simp [ExecutionHandle.fail, ExecutionStatus.isTerminal, herror, htokens]

theorem abort
    (hfits : h.Fits)
    (hlive : h.isTerminal = false)
    (now : Timestamp) :
    (h.abort now).Fits := by
  obtain ⟨herror, htokens⟩ := hfits.of_live hlive
  constructor <;> simp [ExecutionHandle.abort, ExecutionStatus.isTerminal, herror, htokens]

end Fits

end ExecutionHandle

namespace Machine

/-- An error that comes without a text gets one. -/
theorem errorText_ne_empty
    (error : String) :
    errorText error ≠ "" := by
  unfold errorText
  split
  next => decide
  next h =>
    rintro rfl
    exact h rfl

/-- Every record and the execution fit their status. -/
structure Coherent (m : Machine) : Prop where
  records : ∀ id r, m.nodes.get? id = some r → r.Fits
  execution : ∀ h, m.execution = some h → h.Fits

namespace Coherent

variable {m : Machine}

theorem recordOf
    (hm : m.Coherent)
    (id : String) :
    (m.recordOf id).Fits := by
  unfold Machine.recordOf
  cases hr : m.nodes.get? id with
  | none =>
      exact NodeRecord.fits_fresh id
  | some r =>
      exact hm.records id r hr

/-- A report leaves every record and the execution as they fit. -/
theorem report
    (hm : m.Coherent)
    (now : Timestamp)
    (id : String)
    (report : NodeReport) :
    (m.applyNode now id report).1.Coherent where
  records := by
    intro other r hr
    rw [nodes_applyNode, Table.get?_insert] at hr
    by_cases hid : id = other
    · simp only [hid, if_true, Option.some.injEq] at hr
      subst hr
      exact (hm.recordOf other).after now report
    · simp only [hid, if_false] at hr
      exact hm.records other r hr
  execution := by
    intro h hh
    rw [execution_applyNode] at hh
    split at hh
    next =>
      unfold executionAfter at hh
      split at hh
      next =>
        obtain ⟨g, hg, rfl⟩ := Option.map_eq_some_iff.1 hh
        exact (hm.execution g hg).countFinished
      next => exact hm.execution h hh
    next => exact hm.execution h hh

/-- Every advance keeps them so. -/
theorem advance
    {m' : Machine}
    (h : Advance m m')
    (hm : m.Coherent) :
    m'.Coherent := by
  cases h with
  | report now id report =>
      exact hm.report now id report
  | complete h now tokens hh hlive =>
      refine ⟨hm.records, ?_⟩
      rintro _ ⟨⟩
      exact (hm.execution h hh).complete hlive now tokens
  | fail h now error hh hlive =>
      refine ⟨hm.records, ?_⟩
      rintro _ ⟨⟩
      exact (hm.execution h hh).fail hlive now (errorText_ne_empty error)
  | abort h now hh hlive =>
      refine ⟨hm.records, ?_⟩
      rintro _ ⟨⟩
      exact (hm.execution h hh).abort hlive now
  | requeue known pending =>
      exact ⟨hm.records, hm.execution⟩

theorem ofCapacity
    (capacity : Nat) :
    (Machine.ofCapacity capacity).Coherent := by
  constructor <;> simp [Machine.ofCapacity]

theorem start
    (m : Machine)
    (now : Timestamp)
    (id : String)
    (total : Option UInt64)
    (diagram : Option Json)
    (fromCli : Bool) :
    (m.start now id total diagram fromCli).Coherent where
  records := by
    simp [Machine.start]
  execution := by
    rintro _ ⟨⟩
    exact ExecutionHandle.fits_start id _ now _

end Coherent

/-- **Records are well formed.**  In every state of every run, each record tells what its
status asks for and nothing else; and an execution has an end exactly when it is over, an
error, never an empty one, exactly when it failed, and a total only when it completed. -/
theorem coherent_run
    (capacity : Nat)
    (ops : List TimedOperation) :
    (∀ id r, ((ofCapacity capacity).run ops).nodes.get? id = some r → r.Told) ∧
      ∀ h, ((ofCapacity capacity).run ops).execution = some h → h.Fits := by
  have hrun : ((ofCapacity capacity).run ops).Coherent :=
    run_preserves (fun _ _ hadv hm => Coherent.advance hadv hm)
      (fun m now id total diagram fromCli _ => Coherent.start m now id total diagram fromCli)
      (Coherent.ofCapacity capacity) ops
  exact ⟨fun id r hr => (hrun.records id r hr).told, hrun.execution⟩

end Machine

end RemoteRun
