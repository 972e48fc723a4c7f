import Mathlib.Data.List.Induction
import RemoteRun.Execution.Snapshot
import RemoteRun.Proofs.Execution.Active
import RemoteRun.Proofs.Execution.Bookkeeping
import RemoteRun.Proofs.Execution.Deferral
import RemoteRun.Proofs.Lists

/-!
# After an abort

An abort empties the running set at once, and nothing but the end of the execution is
written down: reports on nodes are accepted afterwards as before, whether they arrive
or are replayed, and one that starts or resumes a node puts it into the running set.

**Reports.** `offered` are the reports that an operation brings to nodes, and
`acceptedRun` those among all reports of a run that their nodes accept.

**Invariant.** While the execution has ended, the running set changes by accepted reports
only: `contains_running_run`.

**Results.** `running_after_abort`: every state with an aborted execution comes from the
abort of that execution, which empties the running set, and from operations without a
start; the running set holds the nodes that accepted reports brought back since.
-/

namespace RemoteRun

namespace NodeReport

/-- Whether a report that is accepted brings its node into the running set. -/
def enters : NodeReport → Bool
  | .start _ | .resumed => true
  | .progress _ | .complete _ _ | .skipped _ | .failed _ | .paused => false

/-- Whether a report that is accepted takes its node out of the running set. -/
def leaves : NodeReport → Bool
  | .complete _ _ | .skipped _ | .failed _ | .paused => true
  | .start _ | .resumed | .progress _ => false

theorem runs_eq
    (report : NodeReport)
    (was : Bool) :
    report.runs was = (report.enters || was && !report.leaves) := by
  cases report <;> simp [runs, enters, leaves]

end NodeReport

/-! ### The running set under accepted reports -/

/-- Among some reports one brings a node into the running set, and none after it takes
the node out. -/
def Reenters (reports : List (String × NodeReport)) (id : String) : Prop :=
  ∃ before report after,
    reports = before ++ (id, report) :: after ∧ report.enters = true ∧
      ∀ r ∈ after, r.1 = id → r.2.leaves = false

namespace Reenters

theorem not_nil
    (id : String) :
    ¬ Reenters [] id := by
  rintro ⟨before, report, after, hsplit, _, _⟩
  simp at hsplit

/-- The last report decides when it is on the node and enters or leaves. -/
theorem concat_iff
    (reports : List (String × NodeReport))
    (r : String × NodeReport)
    (id : String) :
    Reenters (reports ++ [r]) id ↔
      (r.1 = id ∧ r.2.enters = true) ∨
        (Reenters reports id ∧ (r.1 = id → r.2.leaves = false)) := by
  constructor
  · rintro ⟨before, report, after, hsplit, henters, hafter⟩
    rcases split_of_concat hsplit with ⟨others, hreports, rfl⟩ | ⟨_, rfl, _⟩
    · right
      constructor
      · refine ⟨before, report, others, hreports, henters, ?_⟩
        intro p hp
        exact hafter p (List.mem_append_left _ hp)
      · exact hafter r (List.mem_append_right _ List.mem_cons_self)
    · exact Or.inl ⟨rfl, henters⟩
  · rintro (⟨hid, henters⟩ | ⟨⟨before, report, after, rfl, henters, hafter⟩, hr⟩)
    · subst hid
      refine ⟨reports, r.2, [], rfl, henters, ?_⟩
      intro p hp
      cases hp
    · refine ⟨before, report, after ++ [r], by simp, henters, ?_⟩
      intro p hp
      rcases List.mem_append.1 hp with hp | hp
      · exact hafter p hp
      · obtain rfl := List.mem_singleton.1 hp
        exact hr

end Reenters

namespace Machine

/-- Whether a node is in the running set after some accepted reports. -/
def runsAfter (was : Bool) (id : String) (reports : List (String × NodeReport)) : Bool :=
  reports.foldl (fun was r => if r.1 = id then r.2.runs was else was) was

theorem runsAfter_append
    (was : Bool)
    (id : String)
    (reports more : List (String × NodeReport)) :
    runsAfter was id (reports ++ more) = runsAfter (runsAfter was id reports) id more :=
  List.foldl_append

/-- A node that was not in the running set is there afterwards when reports brought it
back. -/
theorem runsAfter_false_iff
    (id : String)
    (reports : List (String × NodeReport)) :
    runsAfter false id reports = true ↔ Reenters reports id := by
  induction reports using List.reverseRecOn with
  | nil =>
      simp [runsAfter, Reenters.not_nil]
  | append_singleton reports r ih =>
      rw [runsAfter_append, Reenters.concat_iff, ← ih]
      simp only [runsAfter, List.foldl_cons, List.foldl_nil, NodeReport.runs_eq]
      by_cases hid : r.1 = id <;> simp [hid]

/-! ### The accepted reports of a run -/

/-- The reports among some that their nodes accept, when they come one after the
other. -/
def acceptedOf (m : Machine) (now : Timestamp) :
    List (String × NodeReport) → List (String × NodeReport)
  | [] => []
  | (id, report) :: reports =>
      let later := (m.applyNode now id report).1.acceptedOf now reports
      if m.accepts id report then (id, report) :: later else later

/-- The reports that wait and whose nodes are among the known ones. -/
def readied (m : Machine) (known : IdSet) : List (String × NodeReport) :=
  (m.pending.ready known.contains).filterMap PendingEntry.report?

/-- The reports that an operation brings to nodes: that of a message on a known node, or
those that a change of the known nodes replays. -/
def offered (m : Machine) : Operation → List (String × NodeReport)
  | .apply message => message.report?.toList.filter fun r => m.isKnown r.1
  | .setKnown ids => m.readied (.ofList ids)
  | .register ids => if ids.all m.isKnown then [] else m.readied (m.known.addAll ids)
  | .abort => []

/-- The reports that nodes accept in a run, applied at once or replayed. -/
def acceptedRun (m : Machine) : List TimedOperation → List (String × NodeReport)
  | [] => []
  | (now, op) :: ops => m.acceptedOf now (m.offered op) ++ (m.step now op).acceptedRun ops

theorem contains_running_applyReports
    (m : Machine)
    (now : Timestamp)
    (reports : List (String × NodeReport))
    (id : String) :
    (m.applyReports now reports).running.contains id =
      runsAfter (m.running.contains id) id (m.acceptedOf now reports) := by
  induction reports generalizing m with
  | nil =>
      rfl
  | cons r reports ih =>
      rw [applyReports, ih, contains_running_applyNode, acceptedOf]
      cases ha : m.accepts r.1 r.2 with
      | false =>
          simp
      | true =>
          by_cases hid : r.1 = id <;> simp [hid, runsAfter]

/-- A change of the known nodes brings to nodes what it readies. -/
theorem running_replay
    (m : Machine)
    (now : Timestamp)
    (known : IdSet) :
    ({ m with known := known }.replay now).1.running =
      (m.applyReports now (m.readied known)).running := by
  have hreplay :
      ({ m with known := known }.replay now).1 =
        (m.requeue known (m.pending.withoutReady known.contains)).applyReports now
          (m.readied known) :=
    replayAll_fst _ now _
  rw [hreplay, requeue_applyReports]
  rfl

/-- Once the execution has ended, a report on it that starts none is ignored. -/
theorem applyExecution_of_terminal
    {m : Machine}
    {h : ExecutionHandle}
    (hm : m.execution = some h)
    (hterminal : h.isTerminal = true)
    (now : Timestamp)
    {report : ExecutionReport}
    (hstarts : ∀ id total diagram fromCli, report ≠ .started id total diagram fromCli) :
    ∃ reason, m.applyExecution now report = (m, .ignored reason) := by
  -- A report that changes an execution finds one that runs.
  have hignored :
      ∀ received change, ∃ reason, m.onTarget received change = (m, .ignored reason) := by
    intro received change
    rcases m.onTarget_cases received change with hignored | ⟨g, hg, hlive, _⟩
    · exact hignored
    · rw [hm, Option.some.injEq] at hg
      subst hg
      simp [hterminal] at hlive
  cases report with
  | started id total diagram fromCli =>
      exact absurd rfl (hstarts id total diagram fromCli)
  | complete id total =>
      exact hignored id _
  | failed id error =>
      exact hignored id _
  | aborted id =>
      exact hignored id _

/-- Once the execution has ended, a message that starts none changes the running set by
its report only. -/
theorem running_apply_of_terminal
    {m : Machine}
    {h : ExecutionHandle}
    (hm : m.execution = some h)
    (hterminal : h.isTerminal = true)
    (now : Timestamp)
    {message : Message}
    (hstarts : (Operation.apply message).starts = false) :
    (m.apply now message).1.running =
      (m.applyReports now (m.offered (.apply message))).running := by
  simp only [offered, Message.report?, apply]
  cases hd : message.decode with
  | error e =>
      rfl
  | ok event =>
      cases event with
      | none =>
          rfl
      | some event =>
          cases event with
          | node id report =>
              cases hk : m.isKnown id <;> simp [hk, applyReports]
          | execution report =>
              have hreport :
                  ∀ id total diagram fromCli,
                    report ≠ .started id total diagram fromCli := by
                rintro id total diagram fromCli rfl
                simp [Operation.starts, hd] at hstarts
              obtain ⟨reason, hr⟩ := applyExecution_of_terminal hm hterminal now hreport
              simp [hr, applyReports]
          | _ =>
              rfl

/-- Once the execution has ended, an operation that starts none changes the running set
by its reports only. -/
theorem running_step_of_terminal
    {m : Machine}
    {h : ExecutionHandle}
    (hm : m.execution = some h)
    (hterminal : h.isTerminal = true)
    (now : Timestamp)
    {op : Operation}
    (hop : op.starts = false) :
    (m.step now op).running = (m.applyReports now (m.offered op)).running := by
  cases op with
  | apply message =>
      exact running_apply_of_terminal hm hterminal now hop
  | setKnown ids =>
      exact running_replay m now _
  | register ids =>
      simp only [step, register, offered]
      split
      · rfl
      · exact running_replay m now _
  | abort =>
      have hlive : m.live? = none := by
        simp [live?, hm, hterminal]
      simp [step, abort, hlive, offered, applyReports]

theorem execution_step_of_terminal
    {m : Machine}
    {h : ExecutionHandle}
    (hm : m.execution = some h)
    (hterminal : h.isTerminal = true)
    (now : Timestamp)
    {op : Operation}
    (hop : op.starts = false) :
    ∃ n, (m.step now op).execution = some { h with completedNodes := n } :=
  advances_preserve (fun _ _ hadvance => terminal_execution_of_advance hadvance hterminal)
    (advances_step m now hop) ⟨h.completedNodes, hm⟩

/-- Once the execution has ended, a run that starts none changes the running set by
accepted reports only. -/
theorem contains_running_run
    {m : Machine}
    {h : ExecutionHandle}
    (hm : m.execution = some h)
    (hterminal : h.isTerminal = true)
    {ops : List TimedOperation}
    (hops : ∀ o ∈ ops, o.2.starts = false)
    (id : String) :
    (m.run ops).running.contains id =
      runsAfter (m.running.contains id) id (m.acceptedRun ops) := by
  induction ops generalizing m h with
  | nil =>
      rfl
  | cons o ops ih =>
      have hop := hops o List.mem_cons_self
      obtain ⟨n, hn⟩ := execution_step_of_terminal hm hterminal o.1 hop
      have hlater := ih hn hterminal fun p hp => hops p (List.mem_cons_of_mem o hp)
      rw [run, hlater, running_step_of_terminal hm hterminal o.1 hop,
        contains_running_applyReports, acceptedRun, runsAfter_append]

/-! ### The abort of an execution -/

end Machine

/-- Whether an operation is an abort or applies a message that tells of one. -/
def Operation.aborts : Operation → Bool
  | .apply message =>
      match message.decode with
      | .ok (some (.execution (.aborted _))) => true
      | _ => false
  | .abort => true
  | .setKnown _ | .register _ => false

namespace Machine

/-- An execution that runs is aborted by an abort only, and no node runs then. -/
theorem aborts_of_step
    {m : Machine}
    {g h : ExecutionHandle}
    (hm : m.execution = some g)
    (hlive : g.isTerminal = false)
    (now : Timestamp)
    {op : Operation}
    (hop : op.starts = false)
    (hstep : (m.step now op).execution = some h)
    (haborted : h.status = .aborted) :
    op.aborts = true ∧ h.executionId = g.executionId ∧
      (m.step now op).running = Table.empty := by
  have hactive : m.activeId? = some g.executionId := by
    simp [activeId?, live?, hm, hlive]
  -- An operation after which the execution still runs has not aborted it.
  have hended : (m.step now op).activeId? ≠ m.activeId? := by
    have hterminal : h.isTerminal = true := by
      simp [ExecutionHandle.isTerminal, haborted, ExecutionStatus.isTerminal]
    rw [activeId?_of_terminal hstep hterminal, hactive]
    simp
  have hchanged :
      ∀ received change, (m.onTarget received change).1.activeId? ≠ m.activeId? →
        (m.onTarget received change).1 = change g := by
    intro received change hne
    rcases m.onTarget_cases received change with ⟨reason, hr⟩ | ⟨k, hk, _, hr⟩
    · rw [hr] at hne
      exact absurd rfl hne
    · rw [hm, Option.some.injEq] at hk
      rw [hr, hk]
  cases op with
  | apply message =>
      by_cases hreport : ∃ report, message.decode = .ok (some (.execution report))
      · obtain ⟨report, hd⟩ := hreport
        have hresult : m.step now (.apply message) = (m.applyExecution now report).1 := by
          simp [step, apply, hd]
        rw [hresult] at hstep hended ⊢
        cases report with
        | started id total diagram fromCli =>
            simp [Operation.starts, hd] at hop
        | complete id total =>
            have hchange := congrArg Machine.execution (hchanged _ _ hended)
            obtain rfl := Option.some.inj (hstep.symm.trans hchange)
            cases haborted
        | failed id error =>
            have hchange := congrArg Machine.execution (hchanged _ _ hended)
            obtain rfl := Option.some.inj (hstep.symm.trans hchange)
            cases haborted
        | aborted id =>
            have hchange := hchanged _ _ hended
            obtain rfl :=
              Option.some.inj (hstep.symm.trans (congrArg Machine.execution hchange))
            exact ⟨by simp [Operation.aborts, hd], rfl, congrArg Machine.running hchange⟩
      · exact absurd (activeId?_apply m now fun r hr => hreport ⟨r, hr⟩) hended
  | setKnown ids =>
      exact absurd (activeId?_setKnown m now ids) hended
  | register ids =>
      exact absurd (activeId?_register m now ids) hended
  | abort =>
      have hfound : m.live? = some g := by
        simp [live?, hm, hlive]
      simp only [step, abort, hfound, Option.some.injEq] at hstep
      subst hstep
      refine ⟨rfl, rfl, ?_⟩
      simp only [step, abort, hfound]

/-- No execution comes to be without a start. -/
theorem execution_step_of_none
    {m : Machine}
    (hm : m.execution = none)
    (now : Timestamp)
    {op : Operation}
    (hop : op.starts = false) :
    (m.step now op).execution = none := by
  refine advances_preserve (P := fun k => k.execution = none) ?_ (advances_step m now hop) hm
  intro k k' hadvance hk
  cases hadvance with
  | report now id report =>
      simp [execution_applyNode, hk, executionAfter]
  | complete h now tokens hh _ =>
      simp [hk] at hh
  | fail h now error hh _ =>
      simp [hk] at hh
  | abort h now hh _ =>
      simp [hk] at hh
  | requeue known pending =>
      exact hk

/-- Operations that lead to an aborted execution: the abort while the execution runs,
which leaves no node running, and operations that start none. -/
structure AbortedBy
    (m : Machine)
    (id : String)
    (before : List TimedOperation)
    (now : Timestamp)
    (op : Operation)
    (after : List TimedOperation) : Prop where
  was : (m.run before).activeId? = some id
  aborts : op.aborts = true
  cleared : ((m.run before).step now op).running = Table.empty
  status :
    ∃ g, ((m.run before).step now op).execution = some g ∧ g.executionId = id ∧
      g.status = .aborted
  unstarted : ∀ o ∈ after, o.2.starts = false

/-- Every aborted execution of a run was aborted by one of its operations. -/
theorem exists_abortedBy
    {m : Machine}
    (hm : m.execution = none)
    (ops : List TimedOperation)
    {h : ExecutionHandle}
    (hrun : (m.run ops).execution = some h)
    (haborted : h.status = .aborted) :
    ∃ before now op after,
      ops = before ++ (now, op) :: after ∧
        m.AbortedBy h.executionId before now op after := by
  induction ops using List.reverseRecOn generalizing h with
  | nil =>
      rw [run, hm] at hrun
      cases hrun
  | append_singleton ops o ih =>
      rw [run_append] at hrun
      change ((m.run ops).step o.1 o.2).execution = some h at hrun
      have hop : o.2.starts = false := by
        rw [Bool.eq_false_iff]
        intro hstarts
        obtain ⟨id, total, diagram, fromCli, hs⟩ := step_of_starts (m.run ops) o.1 hstarts
        rw [hs] at hrun
        simp only [start, Option.some.injEq] at hrun
        subst hrun
        cases haborted
      cases hlast : (m.run ops).execution with
      | none =>
          rw [execution_step_of_none hlast o.1 hop] at hrun
          cases hrun
      | some g =>
          cases hterminal : g.isTerminal with
          | false =>
              obtain ⟨haborts, hid, hcleared⟩ :=
                aborts_of_step hlast hterminal o.1 hop hrun haborted
              refine ⟨ops, o.1, o.2, [], rfl, ?_, haborts, hcleared,
                ⟨h, hrun, rfl, haborted⟩, ?_⟩
              · simp [activeId?, live?, hlast, hterminal, hid]
              · intro p hp
                cases hp
          | true =>
              obtain ⟨n, hn⟩ := execution_step_of_terminal hlast hterminal o.1 hop
              rw [hrun, Option.some.injEq] at hn
              subst hn
              obtain ⟨before, now, op, after, hops, hby⟩ := ih hlast haborted
              refine ⟨before, now, op, after ++ [o], by simp [hops], ?_⟩
              refine { hby with unstarted := ?_ }
              intro p hp
              rcases List.mem_append.1 hp with hp | hp
              · exact hby.unstarted p hp
              · obtain rfl := List.mem_singleton.1 hp
                exact hop

/-- **After an abort only accepted reports run nodes.**  In every state whose execution was
aborted, the abort is one of the operations, it found the execution running and emptied
the running set, and no execution has started since.  The running set, in the state and in
its snapshot, holds exactly the nodes that a report accepted since the abort started or
resumed and that none accepted after it took out; without such a report it is empty. -/
theorem running_after_abort
    (capacity : Nat)
    (ops : List TimedOperation)
    {h : ExecutionHandle}
    (hrun : ((ofCapacity capacity).run ops).execution = some h)
    (haborted : h.status = .aborted) :
    ∃ before now op after,
      ops = before ++ (now, op) :: after ∧
      (ofCapacity capacity).AbortedBy h.executionId before now op after ∧
      (∀ id,
        ((ofCapacity capacity).run ops).running.contains id = true ↔
          Reenters ((((ofCapacity capacity).run before).step now op).acceptedRun after) id) ∧
      (∀ id,
        id ∈ ((ofCapacity capacity).run ops).snapshot.runningNodes ↔
          ((ofCapacity capacity).run ops).running.contains id = true) ∧
      ((∀ r ∈ (((ofCapacity capacity).run before).step now op).acceptedRun after,
          r.2.enters = false) →
        ((ofCapacity capacity).run ops).running = Table.empty ∧
          ((ofCapacity capacity).run ops).snapshot.runningNodes = []) := by
  obtain ⟨before, now, op, after, hops, hby⟩ := exists_abortedBy rfl ops hrun haborted
  obtain ⟨g, hg, _, hstatus⟩ := hby.status
  have hterminal : g.isTerminal = true := by
    simp [ExecutionHandle.isTerminal, hstatus, ExecutionStatus.isTerminal]
  have hsplit :
      (ofCapacity capacity).run ops =
        (((ofCapacity capacity).run before).step now op).run after := by
    rw [hops, run_append, run]
  have hcontains :
      ∀ id,
        ((ofCapacity capacity).run ops).running.contains id = true ↔
          Reenters ((((ofCapacity capacity).run before).step now op).acceptedRun after)
            id := by
    intro id
    rw [hsplit, contains_running_run hg hterminal hby.unstarted, hby.cleared]
    exact runsAfter_false_iff id _
  refine ⟨before, now, op, after, hops, hby, hcontains, ?_, ?_⟩
  · intro id
    exact Table.mem_keys_iff _ id
  · intro hnone
    have hempty : ((ofCapacity capacity).run ops).running = Table.empty := by
      apply IdSet.ext_contains
      intro id
      rw [Table.contains_empty, Bool.eq_false_iff]
      intro hid
      obtain ⟨early, report, late, haccepted, henters, _⟩ := (hcontains id).1 hid
      have hreport := hnone (id, report) (by simp [haccepted])
      rw [henters] at hreport
      cases hreport
    refine ⟨hempty, ?_⟩
    simp only [snapshot, hempty]
    rfl

/-- An execution that is aborted before its node starts. -/
def abortedEarly : List TimedOperation :=
  [(default, .register ["a"]),
   (default, .apply (.plain .executionStarted "execution_id" "e1")),
   (default, .abort)]

/-- The start of its node arrives after the abort. -/
def startedLate : List TimedOperation :=
  abortedEarly ++ [(default, .apply (.plain .nodeStart "node_id" "a"))]

/-- A node that starts after the abort runs. -/
theorem startedLate_runs :
    ∃ h, ((ofCapacity 8).run startedLate).execution = some h ∧ h.status = .aborted ∧
      ((ofCapacity 8).run startedLate).running.contains "a" = true ∧
      ((ofCapacity 8).run startedLate).snapshot.runningNodes = ["a"] :=
  ⟨_, rfl, rfl, by decide, by decide⟩

/-- It was brought back by a report that its node accepted after the abort. -/
theorem startedLate_reenters :
    ∃ h before now op after,
      ((ofCapacity 8).run startedLate).execution = some h ∧ h.status = .aborted ∧
      startedLate = before ++ (now, op) :: after ∧
      (ofCapacity 8).AbortedBy h.executionId before now op after ∧
      Reenters ((((ofCapacity 8).run before).step now op).acceptedRun after) "a" := by
  have hruns : ((ofCapacity 8).run startedLate).running.contains "a" = true := by
    decide
  obtain ⟨before, now, op, after, hops, hby, hcontains, _, _⟩ :=
    running_after_abort 8 startedLate rfl rfl
  exact ⟨_, before, now, op, after, rfl, rfl, hops, hby, (hcontains "a").1 hruns⟩

end Machine
end RemoteRun
