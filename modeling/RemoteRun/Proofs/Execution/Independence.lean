import RemoteRun.Proofs.Execution.Deferral

/-!
# Nodes are independent of each other

Reports on different nodes may arrive in any order.  They share the records, the running
set and the counter of the execution, but none of these remembers in which order different
nodes were served.

**Messages of a node.** `Message.reportsOn` says which node a message reports on.  Two lists
of messages are `SameByNode` when for every node they have the same messages of this node in
the same order; how the nodes take turns, and the times, may differ.

**States.** A list of reports is rearranged by taking the first report of the other list out
of its middle (`applyReports_congr`).

**Outcomes.** What becomes of a message is decided by the record of its node alone, so that
the outcomes for a node are those of its record on its own (`outcomes_on_node`).

**Results.** `nodes_independent`: lists of reports on known nodes that are the same by node
lead to the same state, times aside, and each message has the same outcome in both.
-/

namespace RemoteRun

/-- A message and the time at which it is applied. -/
abbrev TimedMessage := Timestamp × Message

/-- Whether a message brings a report on a node. -/
def Message.reportsOn (message : Message) (id : String) : Bool :=
  message.report?.any fun r => r.1 == id

/-- For every node the same messages in the same order. -/
def SameByNode (messages others : List Message) : Prop :=
  ∀ id, messages.filter (·.reportsOn id) = others.filter (·.reportsOn id)

namespace NodeRecord

/-- What becomes of a report on a node in the light of its record. -/
def outcome (r : NodeRecord) (id : String) (report : NodeReport) : ApplyOutcome :=
  if r.accepts report then .applied
  else .ignored (.invalidTransition id r.status report.wireName)

/-- The messages that report on the node of a record, each with what becomes of it when
nothing but the record is there. -/
def outcomes (r : NodeRecord) (now : Timestamp) :
    List Message → List (Message × Except ProtocolError ApplyOutcome)
  | [] => []
  | message :: messages =>
      match message.report? with
      | some (id, report) =>
          (message, .ok (r.outcome id report)) :: (r.after now report).outcomes now messages
      | none => r.outcomes now messages

end NodeRecord

namespace Machine

/-- The state after messages, one after the other. -/
def applyAll (m : Machine) (messages : List TimedMessage) : Machine :=
  m.run (messages.map fun t => (t.1, .apply t.2))

/-- The messages, each with what becomes of it when they are applied one after the other. -/
def outcomes (m : Machine) :
    List TimedMessage → List (Message × Except ProtocolError ApplyOutcome)
  | [] => []
  | (now, message) :: messages =>
      (message, (m.apply now message).2) :: (m.apply now message).1.outcomes messages

/-- All messages bring reports on nodes that are known. -/
def Reporting (m : Machine) (messages : List Message) : Prop :=
  ∀ message ∈ messages, ∃ id report,
    message.report? = some (id, report) ∧ m.isKnown id = true

/-! ### States -/

/-- What reports make of a state depends on the reports on each node in their order only. -/
theorem applyReports_congr
    (m : Machine)
    (now : Timestamp)
    {reports others : List (String × NodeReport)}
    (hsame : ∀ id, reports.filter (·.1 == id) = others.filter (·.1 == id)) :
    m.applyReports now reports = m.applyReports now others := by
  induction reports generalizing m others with
  | nil =>
      cases others with
      | nil =>
          rfl
      | cons r others =>
          have hnone := hsame r.1
          simp at hnone
  | cons r reports ih =>
      obtain ⟨id, report⟩ := r
      -- The first report on the node stands somewhere in the other list, behind reports on
      -- other nodes only.
      have hfirst : others.filter (·.1 == id) = (id, report) :: reports.filter (·.1 == id) := by
        rw [← hsame id, List.filter_cons_of_pos (by simp)]
      obtain ⟨before, after, rfl, hbefore, _, hafter⟩ := List.filter_eq_cons_iff.1 hfirst
      have hne : ∀ r ∈ before, r.1 ≠ id := by
        intro r hr
        simpa using hbefore r hr
      have hrest : ∀ k, reports.filter (·.1 == k) = (before ++ after).filter (·.1 == k) := by
        intro k
        have hk := hsame k
        by_cases hid : id = k
        · subst hid
          have hnone : before.filter (·.1 == id) = [] := List.filter_eq_nil_iff.2 hbefore
          rw [List.filter_append, hnone, List.nil_append, hafter]
        · simpa [hid] using hk
      rw [applyReports_middle m now hne]
      exact ih (m.applyNode now id report).1 hrest

/-- A report on a known node goes to its record at once. -/
theorem apply_of_report
    {m : Machine}
    {message : Message}
    {id : String}
    {report : NodeReport}
    (hreport : message.report? = some (id, report))
    (hknown : m.isKnown id = true)
    (now : Timestamp) :
    m.apply now message =
      ((m.applyNode now id report).1, .ok ((m.recordOf id).outcome id report)) := by
  have hdecode : message.decode = .ok (some (.node id report)) := by
    unfold Message.report? at hreport
    split at hreport <;> simp_all
  have houtcome : (m.applyNode now id report).2 = (m.recordOf id).outcome id report := by
    unfold NodeRecord.outcome
    cases haccepts : m.accepts id report with
    | true =>
        rw [applyNode_of_accepts now haccepts]
        unfold accepts at haccepts
        simp [haccepts]
    | false =>
        rw [applyNode_of_not_accepts now haccepts]
        unfold accepts at haccepts
        simp [haccepts]
  simp [apply, hdecode, hknown, houtcome]

/-- A report changes nothing about which nodes are known. -/
theorem Reporting.tail
    {m : Machine}
    {message : Message}
    {messages : List Message}
    (h : m.Reporting (message :: messages))
    (now : Timestamp)
    (id : String)
    (report : NodeReport) :
    (m.applyNode now id report).1.Reporting messages := by
  intro other hother
  obtain ⟨id', report', hreport, hknown⟩ := h other (List.mem_cons_of_mem message hother)
  refine ⟨id', report', hreport, ?_⟩
  rw [isKnown, known_applyNode]
  exact hknown

/-- Messages do what their reports do. -/
theorem run_eq_applyReports
    {m : Machine}
    {messages : List Message}
    (h : m.Reporting messages)
    (now : Timestamp) :
    m.run (messages.map fun message => (now, .apply message)) =
      m.applyReports now (messages.filterMap Message.report?) := by
  induction messages generalizing m with
  | nil =>
      rfl
  | cons message messages ih =>
      obtain ⟨id, report, hreport, hknown⟩ := h message List.mem_cons_self
      rw [List.filterMap_cons_some hreport, applyReports, ← ih (h.tail now id report)]
      simp only [List.map_cons, run, step, apply_of_report hreport hknown]

/-- The reports on a node are those of the messages that report on it. -/
theorem reports_on_node
    (messages : List Message)
    (id : String) :
    (messages.filterMap Message.report?).filter (·.1 == id) =
      (messages.filter (·.reportsOn id)).filterMap Message.report? := by
  induction messages with
  | nil =>
      rfl
  | cons message messages ih =>
      cases hreport : message.report? with
      | none =>
          simp [hreport, Message.reportsOn, ih]
      | some r =>
          by_cases hid : r.1 = id
          · simp [hreport, Message.reportsOn, hid, ih]
          · simp [hreport, Message.reportsOn, hid, ih]

/-! ### Outcomes -/

theorem outcomes_undated
    (m : Machine)
    (messages : List TimedMessage) :
    m.undated.outcomes ((messages.map Prod.snd).map (Timestamp.epoch, ·)) =
      m.outcomes messages := by
  induction messages generalizing m with
  | nil =>
      rfl
  | cons t messages ih =>
      simp only [List.map_cons, outcomes, apply_undated m t.1, Prod.map, ih]

/-- The outcomes for a node are those of its record on its own. -/
theorem outcomes_on_node
    {m : Machine}
    {messages : List Message}
    (h : m.Reporting messages)
    (now : Timestamp)
    (id : String) :
    (m.outcomes (messages.map (now, ·))).filter (·.1.reportsOn id) =
      (m.recordOf id).outcomes now (messages.filter (·.reportsOn id)) := by
  induction messages generalizing m with
  | nil =>
      rfl
  | cons message messages ih =>
      obtain ⟨other, report, hreport, hknown⟩ := h message List.mem_cons_self
      have hrest := ih (h.tail now other report)
      rw [recordOf_applyNode] at hrest
      by_cases hid : other = id
      · subst hid
        have hon : message.reportsOn other = true := by
          simp [Message.reportsOn, hreport]
        simp only [List.map_cons, outcomes, apply_of_report hreport hknown, List.filter_cons,
          hon, if_true, NodeRecord.outcomes, hreport]
        simpa using hrest
      · have hoff : message.reportsOn id = false := by
          simp [Message.reportsOn, hreport, hid]
        simp only [List.map_cons, outcomes, apply_of_report hreport hknown, List.filter_cons,
          hoff, Bool.false_eq_true, if_false]
        simpa [hid] using hrest

/-- Every message gets an outcome. -/
theorem exists_outcome
    {m : Machine}
    {messages : List TimedMessage}
    (h : m.Reporting (messages.map Prod.snd)) :
    ∀ answered ∈ m.outcomes messages, ∃ outcome, answered.2 = .ok outcome := by
  induction messages generalizing m with
  | nil =>
      simp [outcomes]
  | cons t messages ih =>
      obtain ⟨id, report, hreport, hknown⟩ := h t.2 List.mem_cons_self
      intro answered hanswered
      rw [outcomes, apply_of_report hreport hknown, List.mem_cons] at hanswered
      rcases hanswered with rfl | hlater
      · exact ⟨_, rfl⟩
      · exact ih (h.tail t.1 id report) answered hlater

/-! ### Both together -/

theorem Reporting.undated
    {m : Machine}
    {messages : List Message}
    (h : m.Reporting messages) :
    m.undated.Reporting messages :=
  h

/-- Without times, messages do what their reports do. -/
theorem undated_applyAll
    {m : Machine}
    {messages : List TimedMessage}
    (h : m.Reporting (messages.map Prod.snd)) :
    (m.applyAll messages).undated =
      m.undated.applyReports .epoch ((messages.map Prod.snd).filterMap Message.report?) := by
  rw [applyAll, undated_run, ← run_eq_applyReports h.undated]
  simp [Function.comp_def]

/-- **Independence of nodes.**  Take any state and two lists of messages that all report on
nodes known there.  If for every node both lists have the same messages in the same order,
they lead to the same state, times aside.  Every message has an outcome, and the messages of
each node, in their order, have the same outcomes in both. -/
theorem nodes_independent
    (m : Machine)
    {messages others : List TimedMessage}
    (hmessages : m.Reporting (messages.map Prod.snd))
    (hothers : m.Reporting (others.map Prod.snd))
    (hsame : SameByNode (messages.map Prod.snd) (others.map Prod.snd)) :
    (m.applyAll messages).undated = (m.applyAll others).undated ∧
      (∀ answered ∈ m.outcomes messages, ∃ outcome, answered.2 = .ok outcome) ∧
      ∀ id, (m.outcomes messages).filter (·.1.reportsOn id) =
        (m.outcomes others).filter (·.1.reportsOn id) := by
  refine ⟨?_, exists_outcome hmessages, ?_⟩
  · rw [undated_applyAll hmessages, undated_applyAll hothers]
    apply applyReports_congr
    intro id
    rw [reports_on_node, reports_on_node, hsame id]
  · intro id
    rw [← outcomes_undated, ← outcomes_undated m others,
      outcomes_on_node hmessages.undated, outcomes_on_node hothers.undated, hsame id]

/-- An execution of one node, while two are known. -/
def narrowExecution : Machine :=
  (ofCapacity 2).run
    [(⟨1, 0⟩, .register ["a"]),
     (⟨2, 0⟩, .apply (.plain .executionStarted "execution_id" "e1")),
     (⟨3, 0⟩, .register ["b"])]

/-- Two nodes that take turns. -/
def takingTurns : List TimedMessage :=
  [(⟨4, 0⟩, .plain .nodeStart "node_id" "a"),
   (⟨5, 0⟩, .plain .nodeComplete "node_id" "b"),
   (⟨6, 0⟩, .plain .nodePaused "node_id" "a"),
   (⟨7, 0⟩, .plain .nodeComplete "node_id" "b"),
   (⟨8, 0⟩, .plain .nodeComplete "node_id" "a")]

/-- The same two nodes, one after the other. -/
def oneByOne : List TimedMessage :=
  [(⟨5, 0⟩, .plain .nodeStart "node_id" "a"),
   (⟨5, 0⟩, .plain .nodePaused "node_id" "a"),
   (⟨6, 0⟩, .plain .nodeComplete "node_id" "a"),
   (⟨9, 0⟩, .plain .nodeComplete "node_id" "b"),
   (⟨9, 0⟩, .plain .nodeComplete "node_id" "b")]

theorem takingTurns_oneByOne :
    narrowExecution.Reporting (takingTurns.map Prod.snd) ∧
      narrowExecution.Reporting (oneByOne.map Prod.snd) ∧
      SameByNode (takingTurns.map Prod.snd) (oneByOne.map Prod.snd) ∧
      (narrowExecution.applyAll takingTurns).undated =
        (narrowExecution.applyAll oneByOne).undated ∧
      (narrowExecution.outcomes takingTurns).filter (·.1.reportsOn "b") =
        (narrowExecution.outcomes oneByOne).filter (·.1.reportsOn "b") := by
  have hstart : (Message.plain .nodeStart "node_id" "a").report? = some ("a", .start none) :=
    rfl
  have hpause : (Message.plain .nodePaused "node_id" "a").report? = some ("a", .paused) :=
    rfl
  have hcomplete : ∀ id, (Message.plain .nodeComplete "node_id" id).report? =
      some (id, .complete none none) :=
    fun _ => rfl
  have ha : narrowExecution.isKnown "a" = true := by
    decide
  have hb : narrowExecution.isKnown "b" = true := by
    decide
  have hturns : narrowExecution.Reporting (takingTurns.map Prod.snd) := by
    simp [Reporting, takingTurns, hstart, hpause, hcomplete, ha, hb]
  have hsingle : narrowExecution.Reporting (oneByOne.map Prod.snd) := by
    simp [Reporting, oneByOne, hstart, hpause, hcomplete, ha, hb]
  have hsame : SameByNode (takingTurns.map Prod.snd) (oneByOne.map Prod.snd) := by
    intro id
    by_cases hid : "a" = id
    · subst hid
      simp [takingTurns, oneByOne, Message.reportsOn, hstart, hpause, hcomplete]
    · simp [takingTurns, oneByOne, Message.reportsOn, hstart, hpause, hcomplete, hid,
        List.filter_cons]
  obtain ⟨hstate, _, houtcomes⟩ := nodes_independent narrowExecution hturns hsingle hsame
  exact ⟨hturns, hsingle, hsame, hstate, houtcomes "b"⟩

end Machine
end RemoteRun
