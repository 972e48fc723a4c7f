import RemoteRun.Execution.Snapshot
import RemoteRun.Proofs.Execution.Undated

/-!
# What a watcher sees

**Traces.** `Machine.trace` lists, for operations one after the other, the answer to each
and the snapshot after it, without times.

**Alike states.** Two states are `Alike` when they agree up to their times and the number
of reports that were ever evicted.  Every operation commutes with `undated` and with
`addDropped`, hence keeps states alike and answers both alike (`Alike.operate`).  By
induction alike states have one trace (`Alike.trace_eq`).

**Results.** `trace_of_starts`: from the start of an execution on, the trace depends on the
known nodes and the capacity of the queue only.  Nothing of an earlier execution shows in
it, also not when a node of that execution becomes known later.
-/

namespace RemoteRun

/-- A snapshot without its times. -/
def Snapshot.undated (s : Snapshot) : Snapshot :=
  { s with
    execution := s.execution.map .undated
    nodes := s.nodes.map .undated }

/-- What an operation tells the one who asked for it. -/
inductive Answer where
  | outcome (result : Except ProtocolError ApplyOutcome)
  | replayed (count : Nat)
  | aborted (id : Option String)

namespace Machine

/-- The state after an operation, and its answer. -/
def operate (m : Machine) (now : Timestamp) : Operation → Machine × Answer
  | .apply message => Prod.map (fun m => m) .outcome (m.apply now message)
  | .setKnown ids => Prod.map (fun m => m) .replayed (m.setKnown now ids)
  | .register ids => Prod.map (fun m => m) .replayed (m.register now ids)
  | .abort => Prod.map (fun m => m) .aborted (m.abort now)

/-- The answers to operations, each with the snapshot after it. -/
def trace (m : Machine) : List TimedOperation → List (Answer × Snapshot)
  | [] => []
  | (now, op) :: ops =>
      let (m, answer) := m.operate now op
      (answer, m.snapshot.undated) :: m.trace ops

theorem operate_fst
    (m : Machine)
    (now : Timestamp)
    (op : Operation) :
    (m.operate now op).1 = m.step now op := by
  cases op <;> rfl

theorem operate_undated
    (m : Machine)
    (now : Timestamp)
    (op : Operation) :
    m.undated.operate .epoch op =
      Prod.map undated (fun answer => answer) (m.operate now op) := by
  apply Prod.ext
  · simp only [operate_fst, Prod.map_fst, step_undated m now]
  · cases op with
    | apply message =>
        simp [operate, apply_undated m now]
    | setKnown ids =>
        have h := replay_undated { m with known := .ofList ids } now
        exact congrArg (fun r => Answer.replayed r.2) h
    | register ids =>
        have hk : m.undated.isKnown = m.isKnown := rfl
        simp only [operate, register, hk]
        split
        · rfl
        · have h := replay_undated { m with known := m.known.addAll ids } now
          exact congrArg (fun r => Answer.replayed r.2) h
    | abort =>
        simp [operate, abort_undated m now]

/-! ### Evictions of the past -/

/-- The state with some more evicted reports. -/
def addDropped (m : Machine) (n : Nat) : Machine :=
  m.requeue m.known { m.pending with dropped := m.pending.dropped + n }

theorem applyNode_addDropped
    (m : Machine)
    (n : Nat)
    (now : Timestamp)
    (id : String)
    (report : NodeReport) :
    (m.addDropped n).applyNode now id report =
      Prod.map (fun m => m.addDropped n) (fun outcome => outcome)
        (m.applyNode now id report) := by
  have hrecord : (m.addDropped n).recordOf id = m.recordOf id := rfl
  simp only [applyNode, hrecord]
  cases (m.recordOf id).advance? now report <;> rfl

theorem addDropped_enqueue
    (m : Machine)
    (n : Nat)
    (e : PendingEntry) :
    (m.addDropped n).requeue m.known ((m.addDropped n).pending.enqueue e) =
      (m.requeue m.known (m.pending.enqueue e)).addDropped n := by
  have hfull : (m.addDropped n).pending.isFull = m.pending.isFull := rfl
  unfold PendingQueue.enqueue
  rw [hfull]
  cases m.pending.isFull with
  | true =>
      simp [addDropped, requeue, Nat.add_right_comm]
  | false =>
      rfl

theorem onTarget_addDropped
    (m : Machine)
    (n : Nat)
    (received : Option String)
    {change change' : ExecutionHandle → Machine}
    (hchange : ∀ h, change' h = (change h).addDropped n) :
    (m.addDropped n).onTarget received change' =
      Prod.map (fun m => m.addDropped n) (fun outcome => outcome)
        (m.onTarget received change) := by
  have hexecution : (m.addDropped n).execution = m.execution := rfl
  unfold onTarget
  rw [hexecution]
  cases target m.execution received with
  | error reason =>
      rfl
  | ok h =>
      simp [hchange]

theorem applyExecution_addDropped
    (m : Machine)
    (n : Nat)
    (now : Timestamp)
    (report : ExecutionReport) :
    (m.addDropped n).applyExecution now report =
      Prod.map (fun m => m.addDropped n) (fun outcome => outcome)
        (m.applyExecution now report) := by
  cases report with
  | started id total diagram fromCli =>
      rfl
  | complete id total =>
      exact onTarget_addDropped m n id fun _ => rfl
  | failed id error =>
      exact onTarget_addDropped m n id fun _ => rfl
  | aborted id =>
      exact onTarget_addDropped m n id fun _ => rfl

theorem apply_addDropped
    (m : Machine)
    (n : Nat)
    (now : Timestamp)
    (message : Message) :
    (m.addDropped n).apply now message =
      Prod.map (fun m => m.addDropped n) (fun outcome => outcome) (m.apply now message) := by
  unfold apply
  cases message.decode with
  | error e =>
      rfl
  | ok event =>
      cases event with
      | none =>
          rfl
      | some event =>
          cases event with
          | node id report =>
              have hk : (m.addDropped n).isKnown id = m.isKnown id := rfl
              simp only [hk, applyNode_addDropped]
              cases m.isKnown id with
              | true =>
                  rfl
              | false =>
                  have henqueue := m.addDropped_enqueue n (.ofMessage id message)
                  exact congrArg (fun m => (m, Except.ok ApplyOutcome.queued)) henqueue
          | execution report =>
              simp only [applyExecution_addDropped]
              rfl
          | _ =>
              rfl

theorem replayEntry_addDropped
    (m : Machine)
    (n : Nat)
    (now : Timestamp)
    (e : PendingEntry) :
    (m.addDropped n).replayEntry now e =
      Prod.map (fun m => m.addDropped n) (fun counted => counted) (m.replayEntry now e) := by
  unfold replayEntry
  simp only [applyNode_addDropped]
  split <;> rfl

theorem replayAll_addDropped
    (m : Machine)
    (n : Nat)
    (now : Timestamp)
    (es : List PendingEntry) :
    (m.addDropped n).replayAll now es =
      Prod.map (fun m => m.addDropped n) (fun count => count) (m.replayAll now es) := by
  induction es generalizing m with
  | nil =>
      rfl
  | cons e es ih =>
      simp only [replayAll, replayEntry_addDropped, Prod.map, ih]

theorem replay_addDropped
    (m : Machine)
    (n : Nat)
    (now : Timestamp) :
    (m.addDropped n).replay now =
      Prod.map (fun m => m.addDropped n) (fun count => count) (m.replay now) :=
  replayAll_addDropped { m with pending := m.pending.withoutReady m.isKnown } n now
    (m.pending.ready m.isKnown)

theorem abort_addDropped
    (m : Machine)
    (n : Nat)
    (now : Timestamp) :
    (m.addDropped n).abort now =
      Prod.map (fun m => m.addDropped n) (fun id => id) (m.abort now) := by
  have hlive : (m.addDropped n).live? = m.live? := rfl
  unfold abort
  rw [hlive]
  cases m.live? <;> rfl

theorem operate_addDropped
    (m : Machine)
    (n : Nat)
    (now : Timestamp)
    (op : Operation) :
    (m.addDropped n).operate now op =
      Prod.map (fun m => m.addDropped n) (fun answer => answer) (m.operate now op) := by
  cases op with
  | apply message =>
      simp only [operate, apply_addDropped]
      rfl
  | setKnown ids =>
      have h := replay_addDropped { m with known := .ofList ids } n now
      exact congrArg (Prod.map (fun m => m) Answer.replayed) h
  | register ids =>
      have hk : (m.addDropped n).isKnown = m.isKnown := rfl
      simp only [operate, register, hk]
      split
      · rfl
      · have h := replay_addDropped { m with known := m.known.addAll ids } n now
        exact congrArg (Prod.map (fun m => m) Answer.replayed) h
  | abort =>
      simp only [operate, abort_addDropped]
      rfl

/-! ### Alike states -/

/-- Two states that differ in times and in the number of evicted reports at most. -/
def Alike (m m' : Machine) : Prop :=
  ∃ n n', m.undated.addDropped n = m'.undated.addDropped n'

namespace Alike

variable {m m' : Machine}

/-- An operation treats alike states alike, whenever it comes. -/
theorem operate
    (h : m.Alike m')
    (now now' : Timestamp)
    (op : Operation) :
    (m.operate now op).1.Alike (m'.operate now' op).1 ∧
      (m.operate now op).2 = (m'.operate now' op).2 := by
  obtain ⟨n, n', h⟩ := h
  have hsame :
      Prod.map (fun m => m.undated.addDropped n) (fun answer => answer)
          (m.operate now op) =
        Prod.map (fun m => m.undated.addDropped n') (fun answer => answer)
          (m'.operate now' op) := by
    calc Prod.map (fun m => m.undated.addDropped n) (fun answer => answer) (m.operate now op)
        = (m.undated.addDropped n).operate .epoch op := by
          rw [operate_addDropped, operate_undated m now]
          rfl
      _ = (m'.undated.addDropped n').operate .epoch op := by
          rw [h]
      _ = Prod.map (fun m => m.undated.addDropped n') (fun answer => answer)
            (m'.operate now' op) := by
          rw [operate_addDropped, operate_undated m' now']
          rfl
  obtain ⟨hstate, hanswer⟩ := Prod.ext_iff.1 hsame
  exact ⟨⟨n, n', hstate⟩, hanswer⟩

/-- Alike states look the same. -/
theorem snapshot_eq
    (h : m.Alike m') :
    m.snapshot.undated = m'.snapshot.undated := by
  obtain ⟨n, n', h⟩ := h
  exact congrArg Machine.snapshot h

/-- The same operations have the same trace from alike states, whenever they come. -/
theorem trace_eq
    (h : m.Alike m')
    {ops ops' : List TimedOperation}
    (hops : ops.map Prod.snd = ops'.map Prod.snd) :
    m.trace ops = m'.trace ops' := by
  induction ops generalizing m m' ops' with
  | nil =>
      rw [List.map_eq_nil_iff.1 hops.symm]
      rfl
  | cons o ops ih =>
      obtain ⟨o', rest, rfl, hop, hrest⟩ := List.map_eq_cons_iff.1 hops.symm
      obtain ⟨hnext, hanswer⟩ := h.operate o.1 o'.1 o.2
      simp only [trace, hop, hanswer, hnext.snapshot_eq, ih hnext hrest.symm]

end Alike

/-! ### The start of an execution -/

/-- A start makes states alike that know the same nodes and have queues of one size. -/
theorem alike_start
    {m m' : Machine}
    (hknown : m.known = m'.known)
    (hcapacity : m.pending.capacity = m'.pending.capacity)
    (now now' : Timestamp)
    (id : String)
    (total : Option UInt64)
    (diagram : Option Json)
    (fromCli : Bool) :
    (m.start now id total diagram fromCli).Alike (m'.start now' id total diagram fromCli) := by
  -- Each queue keeps its own count of evictions, so that each gets the other's on top.
  refine ⟨m'.pending.dropped, m.pending.dropped, ?_⟩
  have htotal : m.totalNodes total diagram = m'.totalNodes total diagram := by
    simp only [totalNodes, hknown]
  simp only [start, htotal, hknown, addDropped, requeue, undated, PendingQueue.clear,
    hcapacity, Nat.add_comm m.pending.dropped]
  rfl

/-- A message that starts an execution is applied as the same start in every state. -/
theorem operate_of_starts
    {op : Operation}
    (hop : op.starts = true) :
    ∃ id total diagram fromCli, ∀ (m : Machine) (now : Timestamp),
      m.operate now op = (m.start now id total diagram fromCli, .outcome (.ok .applied)) := by
  obtain ⟨message, id, total, diagram, fromCli, rfl, hd⟩ := decode_of_starts hop
  refine ⟨id, total, diagram, fromCli, ?_⟩
  intro m now
  simp [operate, apply, hd, applyExecution]

/-- From the start of an execution on, only the known nodes and the size of the queue tell
two states apart, whatever happened to them before. -/
theorem trace_of_starts
    {m m' : Machine}
    (hknown : m.known = m'.known)
    (hcapacity : m.pending.capacity = m'.pending.capacity)
    {message : Message}
    (hstarts : (Operation.apply message).starts = true)
    (now now' : Timestamp)
    {ops ops' : List TimedOperation}
    (hops : ops.map Prod.snd = ops'.map Prod.snd) :
    m.trace ((now, .apply message) :: ops) = m'.trace ((now', .apply message) :: ops') := by
  obtain ⟨id, total, diagram, fromCli, hstart⟩ := operate_of_starts hstarts
  have halike := alike_start hknown hcapacity now now' id total diagram fromCli
  simp only [trace, hstart, halike.snapshot_eq, halike.trace_eq hops]

/-- A past with an unfinished execution, two reports that wait and one that was evicted. -/
def busyPast : List TimedOperation :=
  [(⟨1, 0⟩, .register ["a"]),
   (⟨2, 0⟩, .apply (.plain .executionStarted "execution_id" "old")),
   (⟨3, 0⟩, .apply (.plain .nodeStart "node_id" "a")),
   (⟨4, 0⟩, .apply (.plain .nodeStart "node_id" "b")),
   (⟨5, 0⟩, .apply (.plain .nodeStart "node_id" "c")),
   (⟨6, 0⟩, .apply (.plain .nodeError "node_id" "b"))]

/-- Another execution, in which a node of the busy past becomes known. -/
def nextExecution (later : Int) : List TimedOperation :=
  [(⟨later + 1, 0⟩, .apply (.plain .nodeComplete "node_id" "b")),
   (⟨later + 2, 0⟩, .register ["b", "c"]),
   (⟨later + 3, 0⟩, .abort)]

theorem busyPast_unseen :
    ((ofCapacity 2).run busyPast).pending.dropped = 1 ∧
      ((ofCapacity 2).run busyPast).pending.entries.length = 2 ∧
      ((ofCapacity 2).run busyPast).trace
          ((⟨7, 0⟩, .apply (.plain .executionStarted "execution_id" "new")) ::
            nextExecution 7) =
        ((ofCapacity 2).step ⟨1, 0⟩ (.register ["a"])).trace
          ((⟨2, 0⟩, .apply (.plain .executionStarted "execution_id" "new")) ::
            nextExecution 2) :=
  ⟨by decide, by decide, trace_of_starts rfl rfl rfl _ _ rfl⟩

end Machine
end RemoteRun
