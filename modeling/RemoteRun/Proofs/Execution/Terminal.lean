import RemoteRun.Proofs.Execution.Run

/-!
# Terminal states

Until another execution starts, what has ended stays as it is.

**Events.** One event, applied at once or replayed, reaches the record of its own node
only, and the status of that node moves along `NodeStatus.next` or stays:
`OnlyOwnRecord`.  This holds in every state, so also between the events of one replay.

**Runs.** A run without a start loses no record, keeps the record of a finished node as
a whole, and keeps everything of an ended execution but its counter.

**Results.** `run_keeps_terminal` states both.
-/

namespace RemoteRun
namespace Machine

/-! ### One event -/

/-- Between two states at most the record of one node has changed, and its status has
moved along the lifecycle or stayed. -/
structure OnlyOwnRecord (own : Option String) (m m' : Machine) : Prop where
  others : ∀ id, own ≠ some id → m'.nodes.get? id = m.nodes.get? id
  status :
    ∀ id, own = some id →
      (m'.recordOf id).status = (m.recordOf id).status ∨
        (m'.recordOf id).status ∈ (m.recordOf id).status.next

namespace OnlyOwnRecord

theorem of_nodes_eq
    {m m' : Machine}
    (h : m'.nodes = m.nodes)
    (own : Option String) :
    OnlyOwnRecord own m m' where
  others := by
    intro id _
    rw [h]
  status := by
    intro id _
    unfold recordOf
    rw [h]
    exact Or.inl rfl

theorem applyNode
    (m : Machine)
    (now : Timestamp)
    (id : String)
    (report : NodeReport) :
    OnlyOwnRecord (some id) m (m.applyNode now id report).1 where
  others := by
    intro other hne
    have hid : id ≠ other := fun e => hne (congrArg some e)
    rw [nodes_applyNode, Table.get?_insert, if_neg hid]
  status := by
    intro other hown
    have hid : id = other := Option.some.inj hown
    subst hid
    rw [recordOf_applyNode, if_pos rfl]
    exact NodeRecord.status_after _ now report

/-- An event that arrives. -/
theorem apply
    (m : Machine)
    (now : Timestamp)
    {message : Message}
    {event : Event}
    (hdecode : message.decode = .ok (some event))
    (hstarts : (Operation.apply message).starts = false) :
    OnlyOwnRecord event.stateNodeId? m (m.apply now message).1 := by
  unfold Machine.apply
  rw [hdecode]
  cases event with
  | node id report =>
      by_cases hk : m.isKnown id = true
      · simp only [hk, if_true]
        exact applyNode m now id report
      · simp only [hk, Bool.false_eq_true, if_false]
        apply of_nodes_eq
        rfl
  | execution report =>
      rcases m.applyExecution_cases now report with
        ⟨id, total, diagram, fromCli, rfl, _⟩ | ⟨reason, hr⟩ | ⟨m', _, hnodes, hr⟩
      · simp [Operation.starts, hdecode] at hstarts
      · simp only [hr]
        exact of_nodes_eq rfl _
      · simp only [hr]
        exact of_nodes_eq hnodes _
  | _ =>
      exact of_nodes_eq rfl _

/-- An event that is replayed. -/
theorem replayEntry
    (m : Machine)
    (now : Timestamp)
    {e : PendingEntry}
    {event : Event}
    (hevent : replayed? e = .ok (some event)) :
    OnlyOwnRecord event.stateNodeId? m (m.replayEntry now e).1 := by
  unfold Machine.replayEntry
  rw [hevent]
  cases event with
  | node id report =>
      exact applyNode m now id report
  | _ =>
      exact of_nodes_eq rfl _

end OnlyOwnRecord

/-! ### Whole runs -/

/-- No advance loses a record. -/
theorem record_of_advance
    {m m' : Machine}
    (h : Advance m m')
    {id : String}
    (hm : ∃ r, m.nodes.get? id = some r) :
    ∃ r, m'.nodes.get? id = some r := by
  rcases nodes_of_advance h with hsame | ⟨now, other, report, hinsert⟩
  · rw [hsame]
    exact hm
  · rw [hinsert, Table.get?_insert]
    by_cases hid : other = id
    · exact ⟨_, if_pos hid⟩
    · rw [if_neg hid]
      exact hm

/-- No advance changes the record of a node in a terminal status. -/
theorem terminal_record_of_advance
    {m m' : Machine}
    (h : Advance m m')
    {id : String}
    {r : NodeRecord}
    (hterminal : r.status.isTerminal = true)
    (hm : m.nodes.get? id = some r) :
    m'.nodes.get? id = some r := by
  rcases nodes_of_advance h with hsame | ⟨now, other, report, hinsert⟩
  · rw [hsame]
    exact hm
  · rw [hinsert, Table.get?_insert]
    by_cases hid : other = id
    · subst hid
      have hrecord : m.recordOf other = r := by
        simp [recordOf, hm]
      rw [if_pos rfl, hrecord, NodeRecord.after_of_terminal hterminal]
    · rw [if_neg hid]
      exact hm

theorem countFinished_eq
    (h : ExecutionHandle) :
    ∃ n, h.countFinished = { h with completedNodes := n } := by
  unfold ExecutionHandle.countFinished
  split
  · exact ⟨_, rfl⟩
  · exact ⟨h.completedNodes, rfl⟩

/-- No advance changes an ended execution but for its counter. -/
theorem terminal_execution_of_advance
    {m m' : Machine}
    (h : Advance m m')
    {g : ExecutionHandle}
    (hterminal : g.isTerminal = true)
    (hm : ∃ n, m.execution = some { g with completedNodes := n }) :
    ∃ n, m'.execution = some { g with completedNodes := n } := by
  obtain ⟨n, hn⟩ := hm
  -- Advances that end an execution find one that runs.
  have hended : ∀ h, m.execution = some h → h.isTerminal = true := by
    intro h hh
    rw [hn, Option.some.injEq] at hh
    subst hh
    exact hterminal
  cases h with
  | report now id report =>
      rw [execution_applyNode, hn]
      unfold executionAfter
      cases m.accepts id report with
      | false =>
          exact ⟨n, rfl⟩
      | true =>
          cases report.finishes with
          | false =>
              exact ⟨n, rfl⟩
          | true =>
              obtain ⟨k, hk⟩ := countFinished_eq { g with completedNodes := n }
              exact ⟨k, congrArg some hk⟩
  | complete h now tokens hh hlive =>
      simp [hended h hh] at hlive
  | fail h now error hh hlive =>
      simp [hended h hh] at hlive
  | abort h now hh hlive =>
      simp [hended h hh] at hlive
  | requeue known pending =>
      exact ⟨n, hn⟩

theorem activeId?_of_terminal
    {m : Machine}
    {h : ExecutionHandle}
    (hm : m.execution = some h)
    (hterminal : h.isTerminal = true) :
    m.activeId? = none := by
  simp [activeId?, live?, hm, hterminal]

/-- **Terminal states absorb.**  Without a start, a run loses no record, leaves the
record of a finished node as it is, and leaves an ended execution as it is but for its
counter; and every event on the way, arriving or replayed, changes at most the record of
its own node, along the lifecycle. -/
theorem run_keeps_terminal
    (m : Machine)
    {ops : List TimedOperation}
    (hops : ∀ o ∈ ops, o.2.starts = false) :
    (∀ id r, m.nodes.get? id = some r →
      (∃ r', (m.run ops).nodes.get? id = some r') ∧
        (r.status.isTerminal = true → (m.run ops).nodes.get? id = some r)) ∧
    (∀ h, m.execution = some h → h.isTerminal = true →
      (∃ n, (m.run ops).execution = some { h with completedNodes := n }) ∧
        (m.run ops).activeId? = none) ∧
    (∀ (k : Machine) (now : Timestamp) (message : Message) (event : Event),
      message.decode = .ok (some event) → (Operation.apply message).starts = false →
        OnlyOwnRecord event.stateNodeId? k (k.apply now message).1) ∧
    (∀ (k : Machine) (now : Timestamp) (e : PendingEntry) (event : Event),
      replayed? e = .ok (some event) →
        OnlyOwnRecord event.stateNodeId? k (k.replayEntry now e).1) := by
  have hrun := advances_run m hops
  refine ⟨?_, ?_, ?_, ?_⟩
  · intro id r hr
    constructor
    · exact advances_preserve (fun _ _ h => record_of_advance h) hrun ⟨r, hr⟩
    · intro hterminal
      exact advances_preserve (fun _ _ h => terminal_record_of_advance h hterminal) hrun hr
  · intro h hh hterminal
    have hkept : ∃ n, (m.run ops).execution = some { h with completedNodes := n } :=
      advances_preserve (fun _ _ hadv => terminal_execution_of_advance hadv hterminal) hrun
        ⟨h.completedNodes, hh⟩
    obtain ⟨n, hn⟩ := hkept
    exact ⟨⟨n, hn⟩, activeId?_of_terminal hn hterminal⟩
  · intro k now message event hdecode hstarts
    exact OnlyOwnRecord.apply k now hdecode hstarts
  · intro k now e event hevent
    exact OnlyOwnRecord.replayEntry k now hevent

/-- A state in which the only node and the execution have completed. -/
def completedRun : Machine :=
  (ofCapacity 8).run
    [(default, .register ["a"]),
     (default, .apply (.plain .executionStarted "execution_id" "e")),
     (default, .apply (.plain .nodeComplete "node_id" "a")),
     (default, .apply (.plain .executionComplete "execution_id" "e"))]

/-- Operations after the end: another report, a change of the known nodes and an abort. -/
def lateOperations : List TimedOperation :=
  [(default, .apply (.plain .nodeStart "node_id" "a")),
   (default, .setKnown ["b"]),
   (default, .apply (.plain .nodeError "node_id" "a")),
   (default, .abort)]

theorem completedRun_keeps_terminal :
    (∀ o ∈ lateOperations, o.2.starts = false) ∧
    (∃ r, completedRun.nodes.get? "a" = some r ∧ r.status = .completed ∧
      (completedRun.run lateOperations).nodes.get? "a" = some r) ∧
    (completedRun.run lateOperations).activeId? = none := by
  have hlate : ∀ o ∈ lateOperations, o.2.starts = false := by
    decide
  have h := run_keeps_terminal completedRun hlate
  exact ⟨hlate, ⟨_, rfl, rfl, (h.1 "a" _ rfl).2 rfl⟩, (h.2.1 _ rfl rfl).2⟩

end Machine
end RemoteRun
