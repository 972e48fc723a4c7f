import RemoteRun.Proofs.Execution.Run

/-!
# Rejected messages

A message is rejected when it cannot be decoded or is ignored, for whatever reason.

**Results.** `apply_rejected`: a rejected message leaves the state as it is, with one
exception.  A report on a known node that has no record yet opens a pending record even
when the node does not accept it; nothing else changes.  `rejected_report_opens_record`
is the smallest such case.
-/

namespace RemoteRun
namespace Machine

/-- Whether a message was rejected. -/
def isRejection : Except ProtocolError ApplyOutcome → Bool
  | .error _ | .ok (.ignored _) => true
  | .ok .applied | .ok .queued => false

/-- A report that the node rejects leaves the record that there was, or a fresh one. -/
theorem applyNode_rejected
    {m : Machine}
    {now : Timestamp}
    {id : String}
    {report : NodeReport}
    (h : isRejection (.ok (m.applyNode now id report).2) = true) :
    (m.applyNode now id report).1 = { m with nodes := m.nodes.insert id (m.recordOf id) } := by
  cases ha : m.accepts id report with
  | true =>
      rw [applyNode_of_accepts now ha] at h
      simp [isRejection] at h
  | false =>
      rw [applyNode_of_not_accepts now ha]

/-- A rejected message brings a report on a known node and leaves its record, fresh if
there was none, or it changes nothing. -/
theorem apply_rejected_cases
    {m : Machine}
    {now : Timestamp}
    {message : Message}
    (h : isRejection (m.apply now message).2 = true) :
    (∃ id report, message.decode = .ok (some (.node id report)) ∧ m.isKnown id = true ∧
      (m.apply now message).1 = { m with nodes := m.nodes.insert id (m.recordOf id) }) ∨
    ((∀ id report, message.decode ≠ .ok (some (.node id report))) ∧
      (m.apply now message).1 = m) := by
  unfold apply at h ⊢
  cases hd : message.decode with
  | error e =>
      exact Or.inr ⟨by simp, rfl⟩
  | ok event =>
      cases event with
      | none =>
          exact Or.inr ⟨by simp, rfl⟩
      | some event =>
          cases event with
          | node id report =>
              left
              rw [hd] at h
              by_cases hk : m.isKnown id = true
              · simp only [hk, if_true] at h ⊢
                exact ⟨id, report, rfl, hk, applyNode_rejected h⟩
              · simp [hk, isRejection] at h
          | execution report =>
              right
              rw [hd] at h
              rcases m.applyExecution_cases now report with
                ⟨_, _, _, _, _, hr⟩ | ⟨reason, hr⟩ | ⟨m', _, _, hr⟩
              · simp [hr, isRejection] at h
              · exact ⟨by simp, by simp only [hr]⟩
              · simp [hr, isRejection] at h
          | _ =>
              exact Or.inr ⟨by simp, rfl⟩

/-- **Rejection.**  A rejected message leaves the state as it is exactly when it is no
report on a node without a record.  In the other case the node is known, and all that
changes is that it has a fresh record from then on. -/
theorem apply_rejected
    (m : Machine)
    (now : Timestamp)
    (message : Message)
    (h : isRejection (m.apply now message).2 = true) :
    ((m.apply now message).1 = m ↔
      ∀ id report, message.decode = .ok (some (.node id report)) →
        ∃ r, m.nodes.get? id = some r) ∧
    (∀ id report, message.decode = .ok (some (.node id report)) →
      m.nodes.get? id = none →
        m.isKnown id = true ∧
          (m.apply now message).1 = { m with nodes := m.nodes.insert id (.fresh id) }) := by
  rcases apply_rejected_cases h with ⟨id, report, hd, hk, hstate⟩ | ⟨hnone, hstate⟩
  · rw [hstate]
    refine ⟨⟨?_, ?_⟩, ?_⟩
    · intro hsame id' report' hd'
      obtain ⟨rfl, rfl⟩ : id = id' ∧ report = report' := by
        simpa [hd] using hd'
      refine ⟨m.recordOf id, ?_⟩
      have hget := congrArg (fun k : Machine => k.nodes.get? id) hsame
      simpa [Table.get?_insert] using hget.symm
    · intro hrecord
      obtain ⟨r, hr⟩ := hrecord id report hd
      have hof : m.recordOf id = r := by
        simp [recordOf, hr]
      rw [hof, Table.insert_of_get? hr]
    · intro id' report' hd' hfree
      obtain ⟨rfl, rfl⟩ : id = id' ∧ report = report' := by
        simpa [hd] using hd'
      refine ⟨hk, ?_⟩
      simp [recordOf, hfree]
  · refine ⟨⟨?_, ?_⟩, ?_⟩
    · intro _ id report hd
      exact absurd hd (hnone id report)
    · intro _
      exact hstate
    · intro id report hd
      exact absurd hd (hnone id report)

/-- A known node without a record. -/
def idleNode : Machine :=
  (ofCapacity 8).run [(default, .register ["a"])]

theorem idleNode_rejects_pause :
    isRejection (idleNode.apply default (.plain .nodePaused "node_id" "a")).2 = true ∧
    (idleNode.apply default (.plain .nodePaused "node_id" "a")).1 =
      { idleNode with nodes := idleNode.nodes.insert "a" (.fresh "a") } := by
  have hrejected :
      isRejection (idleNode.apply default (.plain .nodePaused "node_id" "a")).2 = true :=
    rfl
  exact ⟨hrejected, ((apply_rejected idleNode default _ hrejected).2 "a" .paused rfl rfl).2⟩

/-- A rejection that changes the state: the pause of a node that never started. -/
theorem rejected_report_opens_record :
    isRejection
        (((ofCapacity 8).run [(default, .register ["a"])]).apply default
          (.plain .nodePaused "node_id" "a")).2 = true ∧
      (((ofCapacity 8).run [(default, .register ["a"])]).apply default
          (.plain .nodePaused "node_id" "a")).1 ≠
        (ofCapacity 8).run [(default, .register ["a"])] := by
  refine ⟨rfl, ?_⟩
  intro hsame
  have hget := congrArg (fun k : Machine => (k.nodes.get? "a").isSome) hsame
  exact absurd hget (by decide)

end Machine
end RemoteRun
