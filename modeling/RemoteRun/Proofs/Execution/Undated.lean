import RemoteRun.Proofs.Execution.Run

/-!
# States without their times

Records and executions keep the times of what happened to them.  Nothing that the
machine decides depends on these times.

**Undated states.** `Machine.undated` puts the same moment in the place of every time
that is there and leaves absent ones absent.

**Results.** Every operation commutes with it: operating on the undated state at that
moment gives the undated result and the same answer.  `undated_run` says so of whole
runs, so that two runs of the same operations at different times differ in times only.
-/

namespace RemoteRun

/-- The moment that stands for every time. -/
def Timestamp.epoch : Timestamp := ⟨0, 0⟩

/-- A record without its times. -/
def NodeRecord.undated (r : NodeRecord) : NodeRecord :=
  { r with
    startedAt := r.startedAt.map fun _ => .epoch
    endedAt := r.endedAt.map fun _ => .epoch }

/-- An execution without its times. -/
def ExecutionHandle.undated (h : ExecutionHandle) : ExecutionHandle :=
  { h with
    startedAt := .epoch
    endedAt := h.endedAt.map fun _ => .epoch }

/-- A state without its times. -/
def Machine.undated (m : Machine) : Machine :=
  { m with
    execution := m.execution.map .undated
    nodes := m.nodes.map .undated }

namespace NodeRecord

@[simp] theorem accepts_undated
    (r : NodeRecord)
    (report : NodeReport) :
    r.undated.accepts report = r.accepts report := by
  cases report <;> rfl

theorem record_undated
    (r : NodeRecord)
    (now : Timestamp)
    (report : NodeReport) :
    r.undated.record .epoch report = (r.record now report).undated := by
  cases report <;> rfl

end NodeRecord

namespace ExecutionHandle

@[simp] theorem isTerminal_undated
    (h : ExecutionHandle) :
    h.undated.isTerminal = h.isTerminal :=
  rfl

theorem countFinished_undated
    (h : ExecutionHandle) :
    h.undated.countFinished = h.countFinished.undated := by
  unfold countFinished undated
  split <;> rfl

end ExecutionHandle

namespace Machine

theorem recordOf_undated
    (m : Machine)
    (id : String) :
    m.undated.recordOf id = (m.recordOf id).undated := by
  simp only [recordOf, undated, Table.get?_map]
  cases m.nodes.get? id <;> rfl

theorem executionAfter_undated
    (execution : Option ExecutionHandle)
    (report : NodeReport) :
    executionAfter (execution.map .undated) report =
      (executionAfter execution report).map .undated := by
  unfold executionAfter
  cases report.finishes with
  | true =>
      cases execution with
      | none =>
          rfl
      | some h =>
          exact congrArg some h.countFinished_undated
  | false =>
      rfl

/-! ### Operations -/

theorem applyNode_undated
    (m : Machine)
    (now : Timestamp)
    (id : String)
    (report : NodeReport) :
    m.undated.applyNode .epoch id report =
      Prod.map undated (fun outcome => outcome) (m.applyNode now id report) := by
  cases h : m.accepts id report with
  | true =>
      have h' : m.undated.accepts id report = true := by
        simpa [accepts, recordOf_undated] using h
      rw [applyNode_of_accepts now h, applyNode_of_accepts .epoch h', recordOf_undated,
        NodeRecord.record_undated _ now]
      simp [undated, Table.map_insert, executionAfter_undated]
  | false =>
      have h' : m.undated.accepts id report = false := by
        simpa [accepts, recordOf_undated] using h
      rw [applyNode_of_not_accepts now h, applyNode_of_not_accepts .epoch h',
        recordOf_undated]
      simp [undated, Table.map_insert]
      rfl

theorem target_undated
    (execution : Option ExecutionHandle)
    (received : Option String) :
    target (execution.map .undated) received =
      (target execution received).map ExecutionHandle.undated := by
  cases execution with
  | none =>
      rfl
  | some h =>
      have hid : h.undated.executionId = h.executionId := rfl
      cases received with
      | none =>
          cases ht : h.isTerminal <;> simp [target, ht, Except.map]
      | some id =>
          by_cases hne : id = h.executionId
          · cases ht : h.isTerminal <;> simp [target, ht, hne, hid, Except.map]
          · simp [target, hne, hid, Except.map]

theorem onTarget_undated
    (m : Machine)
    (received : Option String)
    {change change' : ExecutionHandle → Machine}
    (hchange : ∀ h, change' h.undated = (change h).undated) :
    m.undated.onTarget received change' =
      Prod.map undated (fun outcome => outcome) (m.onTarget received change) := by
  have ht := target_undated m.execution received
  unfold onTarget
  cases hm : target m.execution received with
  | error reason =>
      rw [hm] at ht
      simp [undated, ht, Except.map]
  | ok h =>
      rw [hm] at ht
      simp [undated, ht, Except.map, hchange]

theorem sumTokens_undated
    (records : List NodeRecord) :
    sumTokens (records.map .undated) = sumTokens records := by
  unfold sumTokens
  rw [List.filterMap_map]
  rfl

theorem applyExecution_undated
    (m : Machine)
    (now : Timestamp)
    (report : ExecutionReport) :
    m.undated.applyExecution .epoch report =
      Prod.map undated (fun outcome => outcome) (m.applyExecution now report) := by
  cases report with
  | started id total diagram fromCli =>
      rfl
  | complete id total =>
      apply onTarget_undated
      intro h
      have hsum : sumTokens m.undated.nodes.values = sumTokens m.nodes.values := by
        rw [undated, Table.values_map, sumTokens_undated]
      rw [hsum]
      rfl
  | failed id error =>
      exact onTarget_undated m id fun _ => rfl
  | aborted id =>
      exact onTarget_undated m id fun _ => rfl

theorem apply_undated
    (m : Machine)
    (now : Timestamp)
    (message : Message) :
    m.undated.apply .epoch message =
      Prod.map undated (fun outcome => outcome) (m.apply now message) := by
  unfold apply
  cases message.decode with
  | error e =>
      rfl
  | ok event =>
      cases event with
      | none =>
          rfl
      | some event =>
          cases event with
          | node id report =>
              have hk : m.undated.isKnown id = m.isKnown id := rfl
              simp only [hk, applyNode_undated m now]
              cases m.isKnown id <;> rfl
          | execution report =>
              simp only [applyExecution_undated m now]
              rfl
          | _ =>
              rfl

theorem replayEntry_undated
    (m : Machine)
    (now : Timestamp)
    (e : PendingEntry) :
    m.undated.replayEntry .epoch e =
      Prod.map undated (fun counted => counted) (m.replayEntry now e) := by
  unfold replayEntry
  simp only [applyNode_undated m now]
  split <;> rfl

theorem replayAll_undated
    (m : Machine)
    (now : Timestamp)
    (es : List PendingEntry) :
    m.undated.replayAll .epoch es =
      Prod.map undated (fun count => count) (m.replayAll now es) := by
  induction es generalizing m with
  | nil =>
      rfl
  | cons e es ih =>
      simp only [replayAll, replayEntry_undated m now, Prod.map, ih]

theorem replay_undated
    (m : Machine)
    (now : Timestamp) :
    m.undated.replay .epoch = Prod.map undated (fun count => count) (m.replay now) :=
  replayAll_undated { m with pending := m.pending.withoutReady m.isKnown } now
    (m.pending.ready m.isKnown)

theorem abort_undated
    (m : Machine)
    (now : Timestamp) :
    m.undated.abort .epoch = Prod.map undated (fun id => id) (m.abort now) := by
  have hlive : m.undated.live? = m.live?.map ExecutionHandle.undated := by
    unfold live? undated
    cases m.execution with
    | none =>
        rfl
    | some h =>
        cases ht : h.isTerminal <;> simp [Option.filter, ht]
  unfold abort
  rw [hlive]
  cases m.live? <;> rfl

theorem step_undated
    (m : Machine)
    (now : Timestamp)
    (op : Operation) :
    m.undated.step .epoch op = (m.step now op).undated := by
  cases op with
  | apply message =>
      simp [step, apply_undated m now]
  | setKnown ids =>
      exact congrArg Prod.fst (replay_undated { m with known := .ofList ids } now)
  | register ids =>
      have hk : m.undated.isKnown = m.isKnown := rfl
      simp only [step, register, hk]
      split
      · rfl
      · exact congrArg Prod.fst
          (replay_undated { m with known := m.known.addAll ids } now)
  | abort =>
      simp [step, abort_undated m now]

/-- The undated result of a run is the result of the run without times. -/
theorem undated_run
    (m : Machine)
    (ops : List TimedOperation) :
    (m.run ops).undated = m.undated.run ((ops.map Prod.snd).map fun op => (.epoch, op)) := by
  induction ops generalizing m with
  | nil =>
      rfl
  | cons o ops ih =>
      simp only [run, List.map_cons, ih, step_undated m o.1]

end Machine
end RemoteRun
