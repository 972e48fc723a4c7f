import RemoteRun.Proofs.Execution.Report

/-!
# Reports one after another

**Input.** A list of reports, each with the node that it is about.

**Results.** What a list of reports makes of a state depends on the order of the reports
on each node only.  A report moves in front of reports on other nodes
(`applyReports_middle`), and a list may be split by a property of its nodes
(`applyReports_partition`).
-/

namespace RemoteRun
namespace Machine

/-- The state after reports that all come at one time. -/
def applyReports (m : Machine) (now : Timestamp) : List (String × NodeReport) → Machine
  | [] => m
  | (id, report) :: reports => (m.applyNode now id report).1.applyReports now reports

theorem applyReports_append
    (m : Machine)
    (now : Timestamp)
    (reports more : List (String × NodeReport)) :
    m.applyReports now (reports ++ more) = (m.applyReports now reports).applyReports now more := by
  induction reports generalizing m with
  | nil =>
      rfl
  | cons r reports ih =>
      exact ih (m.applyNode now r.1 r.2).1

/-- The known nodes and the queue take no part in reports. -/
theorem requeue_applyReports
    (m : Machine)
    (known : IdSet)
    (pending : PendingQueue)
    (now : Timestamp)
    (reports : List (String × NodeReport)) :
    (m.requeue known pending).applyReports now reports =
      (m.applyReports now reports).requeue known pending := by
  induction reports generalizing m with
  | nil =>
      rfl
  | cons r reports ih =>
      simp only [applyReports, requeue_applyNode, ih]

/-- A report moves in front of reports on other nodes. -/
theorem applyReports_middle
    (m : Machine)
    (now : Timestamp)
    {before : List (String × NodeReport)}
    {id : String}
    (hbefore : ∀ r ∈ before, r.1 ≠ id)
    (report : NodeReport)
    (rest : List (String × NodeReport)) :
    m.applyReports now (before ++ (id, report) :: rest) =
      m.applyReports now ((id, report) :: (before ++ rest)) := by
  induction before generalizing m with
  | nil =>
      rfl
  | cons r before ih =>
      have hne : r.1 ≠ id := hbefore r List.mem_cons_self
      have htail := ih (m.applyNode now r.1 r.2).1
        fun r' hr' => hbefore r' (List.mem_cons_of_mem r hr')
      calc m.applyReports now (r :: before ++ (id, report) :: rest)
          = (m.applyNode now r.1 r.2).1.applyReports now ((id, report) :: (before ++ rest)) :=
            htail
        _ = m.applyReports now ((id, report) :: (r :: before ++ rest)) := by
            simp only [applyReports, List.cons_append, applyNode_comm m hne]

/-- Reports on some nodes may come before the reports on the others. -/
theorem applyReports_partition
    (m : Machine)
    (now : Timestamp)
    (p : String → Bool)
    (reports : List (String × NodeReport)) :
    m.applyReports now
        (reports.filter (fun r => p r.1) ++ reports.filter fun r => !p r.1) =
      m.applyReports now reports := by
  induction reports generalizing m with
  | nil =>
      rfl
  | cons r reports ih =>
      obtain ⟨id, report⟩ := r
      cases hp : p id with
      | true =>
          simp only [List.filter_cons, hp, if_true, Bool.not_true, Bool.false_eq_true,
            if_false, List.cons_append]
          exact ih (m.applyNode now id report).1
      | false =>
          have hfront :
              ∀ r ∈ reports.filter (fun r => p r.1), r.1 ≠ id := by
            intro r hr hid
            have hpr := (List.mem_filter.1 hr).2
            simp [hid, hp] at hpr
          simp only [List.filter_cons, hp, Bool.false_eq_true, if_false, Bool.not_false,
            if_true]
          rw [applyReports_middle m now hfront]
          exact ih (m.applyNode now id report).1

end Machine
end RemoteRun
