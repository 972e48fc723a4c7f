import RemoteRun.Proofs.Execution.Reports
import RemoteRun.Proofs.Execution.Undated

/-!
# Deferred reports

Reports on nodes that are not known yet wait, and are replayed when their node becomes
known.  It does not matter when that happens.

**Schedules.** `Schedule es ops` says that `ops` are the messages `es` in order, with
registrations of nodes anywhere between them.

**Invariant.** While a schedule runs at one clock, the reports that wait are filed under
nodes that are not known.  What the schedule will have done in the end is what the
waiting reports and those of the messages to come do to the present state, one after the
other (`run_schedule`): a report that waits is passed by reports on other nodes only.

**Results.** `deferred_eq_direct`: a schedule that registers every node of its messages
ends, times aside, in the state that comes from registering first and applying the
messages in order.
-/

namespace RemoteRun

/-- The report that a message brings. -/
def Message.report? (message : Message) : Option (String × NodeReport) :=
  match message.decode with
  | .ok (some (.node id report)) => some (id, report)
  | _ => none

/-- A message that brings a report and is lifted from its own payload again. -/
structure Message.Replayable (message : Message) : Prop where
  reports : ∃ id report, message.decode = .ok (some (.node id report))
  lifts : Message.ofJson message.payload = .ok message

/-- The messages of a list in order, with registrations anywhere between them. -/
inductive Schedule : List Message → List Operation → Prop
  | nil :
      Schedule [] []
  | message
      (e : Message)
      {es : List Message}
      {ops : List Operation}
      (rest : Schedule es ops) :
      Schedule (e :: es) (.apply e :: ops)
  | register
      (ids : List String)
      {es : List Message}
      {ops : List Operation}
      (rest : Schedule es ops) :
      Schedule es (.register ids :: ops)

namespace Schedule

/-- All ids that are registered, in order. -/
def registrations : List Operation → List String
  | [] => []
  | .register ids :: ops => ids ++ registrations ops
  | .apply _ :: ops | .setKnown _ :: ops | .abort :: ops => registrations ops

/-- Messages without registrations between them. -/
theorem ofMessages
    (es : List Message) :
    Schedule es (es.map .apply) := by
  induction es with
  | nil =>
      exact .nil
  | cons e es ih =>
      exact .message e ih

theorem registrations_ofMessages
    (es : List Message) :
    registrations (es.map .apply) = [] := by
  induction es with
  | nil =>
      rfl
  | cons e es ih =>
      exact ih

end Schedule

namespace PendingEntry

/-- The report that an entry brings when it is replayed. -/
def report? (e : PendingEntry) : Option (String × NodeReport) :=
  match Machine.replayed? e with
  | .ok (some (.node id report)) => some (id, report)
  | _ => none

/-- An entry whose report is on the node that it waits for. -/
def Filed (e : PendingEntry) : Prop :=
  ∃ report, e.report? = some (e.nodeId, report)

theorem filed_ofMessage
    {message : Message}
    (hm : message.Replayable)
    {id : String}
    {report : NodeReport}
    (hd : message.decode = .ok (some (.node id report))) :
    (ofMessage id message).report? = some (id, report) := by
  simp [report?, Machine.replayed?, ofMessage, hm.lifts, hd]

/-- Reports of entries on some nodes are the reports of all entries on these nodes. -/
theorem reports_filter
    {es : List PendingEntry}
    (hes : ∀ e ∈ es, e.Filed)
    (p : String → Bool) :
    (es.filter fun e => p e.nodeId).filterMap report? =
      (es.filterMap report?).filter fun r => p r.1 := by
  induction es with
  | nil =>
      rfl
  | cons e es ih =>
      obtain ⟨report, hreport⟩ := hes e List.mem_cons_self
      have htail := ih fun e' he' => hes e' (List.mem_cons_of_mem e he')
      cases hp : p e.nodeId <;> simp [hp, hreport, htail]

end PendingEntry

theorem PendingQueue.enqueue_of_room
    {q : PendingQueue}
    (hroom : q.entries.length < q.capacity)
    (e : PendingEntry) :
    q.enqueue e = { q with entries := q.entries ++ [e] } := by
  have hfull : q.isFull = false := by
    simpa [isFull] using hroom
  simp [enqueue, hfull]

namespace Machine

/-- The reports that wait, in the order of their arrival. -/
def waiting (m : Machine) : List (String × NodeReport) :=
  m.pending.entries.filterMap PendingEntry.report?

/-- Replaying entries applies their reports. -/
theorem replayAll_fst
    (m : Machine)
    (now : Timestamp)
    (es : List PendingEntry) :
    (m.replayAll now es).1 = m.applyReports now (es.filterMap PendingEntry.report?) := by
  induction es generalizing m with
  | nil =>
      rfl
  | cons e es ih =>
      have hentry :
          (m.replayEntry now e).1 = m.applyReports now e.report?.toList := by
        unfold replayEntry PendingEntry.report?
        split <;> simp_all [applyReports]
      simp only [replayAll, ih, hentry, ← applyReports_append]
      cases h : e.report? <;> simp [h]

/-- Every waiting entry is filed under its node, and the node is not known now but will
be in the end. -/
structure Deferring (m : Machine) (final : IdSet) : Prop where
  filed : ∀ e ∈ m.pending.entries, e.Filed
  unknown : ∀ e ∈ m.pending.entries, m.isKnown e.nodeId = false
  awaited : ∀ e ∈ m.pending.entries, final.contains e.nodeId = true

namespace Deferring

variable {m : Machine} {final : IdSet}

/-- A waiting report is not about a known node. -/
theorem waiting_unknown
    (hm : m.Deferring final)
    {r : String × NodeReport}
    (hr : r ∈ m.waiting) :
    m.isKnown r.1 = false := by
  obtain ⟨e, he, hreport⟩ := List.mem_filterMap.1 hr
  obtain ⟨report, hfiled⟩ := hm.filed e he
  rw [hfiled, Option.some.injEq] at hreport
  subst hreport
  exact hm.unknown e he

/-- A report on a known node leaves what waits. -/
theorem applyNode
    (hm : m.Deferring final)
    (now : Timestamp)
    (id : String)
    (report : NodeReport) :
    (m.applyNode now id report).1.Deferring final where
  filed := by
    simpa using hm.filed
  unknown := by
    simpa [isKnown] using hm.unknown
  awaited := by
    simpa using hm.awaited

/-- A message for an unknown node joins the entries. -/
theorem enqueue
    (hm : m.Deferring final)
    (hroom : m.pending.entries.length < m.pending.capacity)
    {e : PendingEntry}
    (hfiled : e.Filed)
    (hunknown : m.isKnown e.nodeId = false)
    (hawaited : final.contains e.nodeId = true) :
    (m.requeue m.known (m.pending.enqueue e)).Deferring final := by
  have hmem :
      ∀ e' ∈ (m.requeue m.known (m.pending.enqueue e)).pending.entries,
        e' ∈ m.pending.entries ∨ e' = e := by
    intro e' he'
    simpa [requeue, PendingQueue.enqueue_of_room hroom] using he'
  constructor
  · intro e' he'
    rcases hmem e' he' with he' | rfl
    · exact hm.filed e' he'
    · exact hfiled
  · intro e' he'
    rcases hmem e' he' with he' | rfl
    · exact hm.unknown e' he'
    · exact hunknown
  · intro e' he'
    rcases hmem e' he' with he' | rfl
    · exact hm.awaited e' he'
    · exact hawaited

end Deferring

/-- When no entry is on a known node, a replay changes nothing. -/
theorem replay_of_none_ready
    {m : Machine}
    (hunknown : ∀ e ∈ m.pending.entries, m.isKnown e.nodeId = false)
    (now : Timestamp) :
    m.replay now = (m, 0) := by
  have hready : m.pending.ready m.isKnown = [] := by
    apply List.filter_eq_nil_iff.2
    intro e he
    simpa using hunknown e he
  have hrest : m.pending.withoutReady m.isKnown = m.pending := by
    unfold PendingQueue.withoutReady
    rw [List.filter_eq_self.2]
    intro e he
    simpa using hunknown e he
  simp only [replay, hready, hrest, replayAll]

/-- As long as no known node waits, registering nodes is replaying with more nodes known,
also when none of them is new. -/
theorem register_eq_replay
    {m : Machine}
    (hunknown : ∀ e ∈ m.pending.entries, m.isKnown e.nodeId = false)
    (now : Timestamp)
    (ids : List String) :
    m.register now ids = { m with known := m.known.addAll ids }.replay now := by
  unfold register
  split
  next hall =>
    have hknown : m.known.addAll ids = m.known := m.known.addAll_of_all_contains ids hall
    rw [hknown]
    exact (replay_of_none_ready hunknown now).symm
  next =>
    rfl

/-- Registering nodes applies the reports that wait for them; the others wait on. -/
theorem register_fst
    {m : Machine}
    {final : IdSet}
    (hm : m.Deferring final)
    (now : Timestamp)
    (ids : List String) :
    (m.register now ids).1 =
      (m.applyReports now
        (m.waiting.filter fun r => (m.known.addAll ids).contains r.1)).requeue
          (m.known.addAll ids) (m.pending.withoutReady (m.known.addAll ids).contains) := by
  rw [register_eq_replay hm.unknown]
  simp only [replay, replayAll_fst, PendingQueue.ready]
  rw [PendingEntry.reports_filter hm.filed]
  exact requeue_applyReports m _ _ now _

theorem Deferring.register
    {m : Machine}
    {final : IdSet}
    (hm : m.Deferring final)
    (now : Timestamp)
    (ids : List String) :
    (m.register now ids).1.Deferring final := by
  rw [register_fst hm]
  constructor
  · intro e he
    exact hm.filed e (List.mem_filter.1 he).1
  · intro e he
    have hunknown := (List.mem_filter.1 he).2
    simpa [isKnown, requeue] using hunknown
  · intro e he
    exact hm.awaited e (List.mem_filter.1 he).1

/-! ### What is still to come -/

/-- The state that the waiting reports and further ones lead to, with more nodes known. -/
def settled
    (m : Machine)
    (now : Timestamp)
    (ids : List String)
    (reports : List (String × NodeReport)) :
    Machine :=
  (m.applyReports now (m.waiting ++ reports)).requeue (m.known.addAll ids) m.pending.clear

theorem settled_of_empty
    {m : Machine}
    (hm : m.pending.entries = [])
    (now : Timestamp) :
    m.settled now [] [] = m := by
  have hclear : m.pending.clear = m.pending := by
    unfold PendingQueue.clear
    rw [← hm]
  unfold settled waiting
  rw [hm, hclear]
  rfl

/-- A report on a known node comes before all that wait. -/
theorem settled_applyNode
    {m : Machine}
    {final : IdSet}
    (hm : m.Deferring final)
    (now : Timestamp)
    {id : String}
    (hknown : m.isKnown id = true)
    (report : NodeReport)
    (ids : List String)
    (reports : List (String × NodeReport)) :
    (m.applyNode now id report).1.settled now ids reports =
      m.settled now ids ((id, report) :: reports) := by
  have hwaiting : ∀ r ∈ m.waiting, r.1 ≠ id := by
    rintro r hr rfl
    rw [hm.waiting_unknown hr] at hknown
    simp at hknown
  unfold settled
  rw [applyReports_middle m now hwaiting]
  simp only [waiting, known_applyNode, pending_applyNode]
  rfl

/-- A report that is queued comes after all that wait. -/
theorem settled_enqueue
    {m : Machine}
    (hroom : m.pending.entries.length < m.pending.capacity)
    (now : Timestamp)
    {e : PendingEntry}
    {report : NodeReport}
    (hreport : e.report? = some (e.nodeId, report))
    (ids : List String)
    (reports : List (String × NodeReport)) :
    (m.requeue m.known (m.pending.enqueue e)).settled now ids reports =
      m.settled now ids ((e.nodeId, report) :: reports) := by
  have hwaiting :
      (m.requeue m.known (m.pending.enqueue e)).waiting =
        m.waiting ++ [(e.nodeId, report)] := by
    simp [waiting, requeue, PendingQueue.enqueue_of_room hroom, hreport]
  unfold settled
  rw [hwaiting, requeue_applyReports, List.append_assoc]
  simp [requeue, PendingQueue.clear, PendingQueue.enqueue_of_room hroom]

/-- Registering nodes first makes no difference to what comes of everything. -/
theorem settled_register
    {m : Machine}
    {final : IdSet}
    (hm : m.Deferring final)
    (now : Timestamp)
    (ids more : List String)
    (reports : List (String × NodeReport)) :
    (m.register now ids).1.settled now more reports =
      m.settled now (ids ++ more) reports := by
  have hwaiting :
      (m.register now ids).1.waiting =
        m.waiting.filter fun r => !(m.known.addAll ids).contains r.1 := by
    rw [register_fst hm]
    exact PendingEntry.reports_filter hm.filed fun id => !(m.known.addAll ids).contains id
  have hsplit :=
    m.applyReports_partition now (fun id => (m.known.addAll ids).contains id) m.waiting
  unfold settled
  rw [hwaiting, register_fst hm, requeue_applyReports, ← applyReports_append,
    ← List.append_assoc, applyReports_append, hsplit, ← applyReports_append,
    IdSet.addAll_append]
  rfl

/-! ### Schedules -/

theorem report?_of_decode
    {message : Message}
    {id : String}
    {report : NodeReport}
    (hd : message.decode = .ok (some (.node id report))) :
    message.report? = some (id, report) := by
  simp [Message.report?, hd]

/-- One message of a schedule is applied or waits; what comes of everything is the
same. -/
theorem apply_deferring
    {m : Machine}
    {final : IdSet}
    (hm : m.Deferring final)
    (hroom : m.pending.entries.length < m.pending.capacity)
    (now : Timestamp)
    {message : Message}
    (hmessage : message.Replayable)
    {id : String}
    {report : NodeReport}
    (hd : message.decode = .ok (some (.node id report)))
    (hid : final.contains id = true) :
    (m.apply now message).1.Deferring final ∧
      (m.apply now message).1.known = m.known ∧
      (m.apply now message).1.pending.capacity = m.pending.capacity ∧
      (m.apply now message).1.pending.entries.length ≤ m.pending.entries.length + 1 ∧
      ∀ ids reports,
        (m.apply now message).1.settled now ids reports =
          m.settled now ids ((id, report) :: reports) := by
  cases hk : m.isKnown id with
  | true =>
      have happly : (m.apply now message).1 = (m.applyNode now id report).1 := by
        simp [apply, hd, hk]
      rw [happly]
      refine ⟨hm.applyNode now id report, by simp, by simp, by simp, ?_⟩
      intro ids reports
      exact settled_applyNode hm now hk report ids reports
  | false =>
      have happly :
          (m.apply now message).1 =
            m.requeue m.known (m.pending.enqueue (.ofMessage id message)) := by
        simp [apply, hd, hk, requeue]
      have hfiled := PendingEntry.filed_ofMessage hmessage hd
      have hentries := PendingQueue.enqueue_of_room hroom (.ofMessage id message)
      rw [happly]
      refine ⟨hm.enqueue hroom ⟨report, hfiled⟩ hk hid, rfl, ?_, ?_, ?_⟩
      · simp [requeue, hentries]
      · simp [requeue, hentries]
      · intro ids reports
        exact settled_enqueue hroom now hfiled ids reports

/-- A schedule at one clock ends in the state that everything waiting and everything to
come leads to, provided that all nodes become known and no report is evicted. -/
theorem run_schedule
    (now : Timestamp)
    {es : List Message}
    {ops : List Operation}
    (hs : Schedule es ops)
    {m : Machine}
    {final : IdSet}
    (hm : m.Deferring final)
    (hfinal : m.known.addAll (Schedule.registrations ops) = final)
    (hes : ∀ e ∈ es, e.Replayable)
    (hids : ∀ e ∈ es, ∀ id report, e.report? = some (id, report) → final.contains id = true)
    (hroom : m.pending.entries.length + es.length ≤ m.pending.capacity) :
    m.run (ops.map fun op => (now, op)) =
      m.settled now (Schedule.registrations ops) (es.filterMap Message.report?) := by
  induction hs generalizing m with
  | nil =>
      -- All nodes are known now, so that nothing waits.
      have hempty : m.pending.entries = [] := by
        rw [List.eq_nil_iff_forall_not_mem]
        intro e he
        have hknown := hm.awaited e he
        have hunknown := hm.unknown e he
        rw [← hfinal] at hknown
        unfold isKnown at hunknown
        simp [Schedule.registrations, IdSet.addAll, hunknown] at hknown
      exact (settled_of_empty hempty now).symm
  | @message e es ops rest ih =>
      obtain ⟨id, report, hd⟩ := (hes e List.mem_cons_self).reports
      have hreport := report?_of_decode hd
      have hid := hids e List.mem_cons_self id report hreport
      rw [List.length_cons] at hroom
      obtain ⟨hnext, hknown, hcapacity, hlength, hsettled⟩ :=
        apply_deferring hm (by omega) now (hes e List.mem_cons_self) hd hid
      rw [List.filterMap_cons_some hreport, Schedule.registrations, ← hsettled]
      apply ih hnext
      · rw [hknown]
        exact hfinal
      · exact fun e' he' => hes e' (List.mem_cons_of_mem e he')
      · exact fun e' he' => hids e' (List.mem_cons_of_mem e he')
      · rw [hcapacity]
        omega
  | @register ids es ops rest ih =>
      rw [Schedule.registrations, ← settled_register hm]
      apply ih (hm.register now ids)
      · rw [register_fst hm, ← hfinal, Schedule.registrations, IdSet.addAll_append]
        rfl
      · exact hes
      · exact hids
      · have hlength :
            (m.register now ids).1.pending.entries.length ≤ m.pending.entries.length := by
          rw [register_fst hm]
          exact List.length_filter_le _ _
        have hcapacity : (m.register now ids).1.pending.capacity = m.pending.capacity := by
          rw [register_fst hm]
          rfl
        omega

/-- **Deferral.**  Take a state in which nothing waits, messages that bring reports and
fit into the queue, and registrations anywhere between them that make all their nodes
known.  In the end nothing waits, and times aside the state is the same as when the
registrations come first and all messages are applied at once. -/
theorem deferred_eq_direct
    (m : Machine)
    {es : List Message}
    {schedule direct : List TimedOperation}
    (hempty : m.pending.entries = [])
    (hes : ∀ e ∈ es, e.Replayable)
    (hroom : es.length ≤ m.pending.capacity)
    (hschedule : Schedule es (schedule.map Prod.snd))
    (hids :
      ∀ e ∈ es, ∀ id report, e.report? = some (id, report) →
        m.isKnown id = true ∨ id ∈ Schedule.registrations (schedule.map Prod.snd))
    (hdirect :
      direct.map Prod.snd =
        .register (Schedule.registrations (schedule.map Prod.snd)) :: es.map .apply) :
    (m.run schedule).pending.entries = [] ∧
      (m.run schedule).undated = (m.run direct).undated := by
  have hfirst : Schedule es (direct.map Prod.snd) := by
    rw [hdirect]
    exact .register _ (.ofMessages es)
  have hsame :
      Schedule.registrations (direct.map Prod.snd) =
        Schedule.registrations (schedule.map Prod.snd) := by
    rw [hdirect, Schedule.registrations, Schedule.registrations_ofMessages, List.append_nil]
  have hm :
      m.undated.Deferring
        (m.known.addAll (Schedule.registrations (schedule.map Prod.snd))) := by
    constructor <;> simp [undated, hempty]
  have hknown :
      ∀ e ∈ es, ∀ id report, e.report? = some (id, report) →
        (m.known.addAll (Schedule.registrations (schedule.map Prod.snd))).contains id =
          true := by
    intro e he id report hreport
    rw [IdSet.contains_addAll]
    rcases hids e he id report hreport with hk | hmem
    · unfold isKnown at hk
      simp [hk]
    · simp [hmem]
  have hcapacity :
      m.undated.pending.entries.length + es.length ≤ m.undated.pending.capacity := by
    simpa [undated, hempty] using hroom
  have hdeferred := run_schedule .epoch hschedule hm rfl hes hknown hcapacity
  have hatOnce := run_schedule .epoch hfirst hm (by rw [hsame]; rfl) hes hknown hcapacity
  rw [hsame] at hatOnce
  have hequal : (m.run schedule).undated = (m.run direct).undated := by
    rw [undated_run, undated_run, hdeferred, hatOnce]
  refine ⟨?_, hequal⟩
  have hpending : (m.run schedule).undated.pending.entries = [] := by
    rw [undated_run, hdeferred]
    rfl
  exact hpending

/-- Two nodes that become known one after the other, while their reports arrive. -/
def lateRegistrations : List TimedOperation :=
  [(⟨1, 0⟩, .apply (.plain .nodeStart "node_id" "a")),
   (⟨2, 0⟩, .register ["b"]),
   (⟨3, 0⟩, .apply (.plain .nodeStart "node_id" "b")),
   (⟨4, 0⟩, .apply (.plain .nodeComplete "node_id" "a")),
   (⟨5, 0⟩, .register ["a"])]

/-- The same registrations before the reports. -/
def earlyRegistrations : List TimedOperation :=
  [(⟨6, 0⟩, .register ["b", "a"]),
   (⟨7, 0⟩, .apply (.plain .nodeStart "node_id" "a")),
   (⟨7, 0⟩, .apply (.plain .nodeStart "node_id" "b")),
   (⟨7, 0⟩, .apply (.plain .nodeComplete "node_id" "a"))]

theorem lateRegistrations_eq_early :
    ((ofCapacity 4).run lateRegistrations).pending.entries = [] ∧
      ((ofCapacity 4).run lateRegistrations).undated =
        ((ofCapacity 4).run earlyRegistrations).undated := by
  have hstart : ∀ id, (Message.plain .nodeStart "node_id" id).Replayable :=
    fun id => ⟨⟨id, .start none, rfl⟩, rfl⟩
  have hcomplete : ∀ id, (Message.plain .nodeComplete "node_id" id).Replayable :=
    fun id => ⟨⟨id, .complete none none, rfl⟩, rfl⟩
  have hschedule :
      Schedule
        [.plain .nodeStart "node_id" "a", .plain .nodeStart "node_id" "b",
          .plain .nodeComplete "node_id" "a"]
        (lateRegistrations.map Prod.snd) :=
    .message _ (.register _ (.message _ (.message _ (.register _ .nil))))
  apply deferred_eq_direct (ofCapacity 4) rfl _ (by decide) hschedule _ rfl
  · intro e he
    simp only [List.mem_cons, List.not_mem_nil, or_false] at he
    rcases he with rfl | rfl | rfl
    · exact hstart "a"
    · exact hstart "b"
    · exact hcomplete "a"
  · intro e he id report hreport
    right
    simp only [List.mem_cons, List.not_mem_nil, or_false] at he
    rcases he with rfl | rfl | rfl <;> cases hreport <;> decide

end Machine
end RemoteRun
