import RemoteRun.Proofs.Execution.Ledger
import RemoteRun.Proofs.Inbound.Naming

/-!
# Entries and their nodes

A report on a node that is not known yet is filed under this node, and is lifted and decoded
anew when the node becomes known.  Nothing compares the node of the second report with the
one that the entry is filed under.

**Entries.** `PendingEntry.Addressed` says that there is no need to: the message as it
arrived and the message that is lifted again name the node that the entry is filed under,
and a second report is one on this node.

**Origin.** Every entry that waits arrived in the run (`mem_arrivals_of_waiting`), so that
it is enough to look at messages that bring a report.

**Replay.** `Untouched` says that a node keeps its record and its place in the running set.
One entry leaves all nodes but its own untouched, and many leave all but theirs
(`untouched_replayAll`).

**Results.** `pending_addressed`: in every state of every run, all entries are addressed, an
entry that is replayed touches no node but the one it is filed under, and a replay touches
none under which nothing is filed.
-/

namespace RemoteRun

/-- A message as every one is made: by lifting a value. -/
def Message.Lifted (m : Message) : Prop :=
  ∃ value, ofJson value = .ok m

/-- An entry is filed under the node of its report, whichever way the node is found. -/
structure PendingEntry.Addressed (e : PendingEntry) : Prop where
  /-- The message that waits names the node. -/
  queued :
    ∃ message, e = .ofMessage e.nodeId message ∧ message.nodeId? = some e.nodeId
  /-- The message that is lifted again is of the same kind and names the node, and its event
  changes the record of this node, unless it cannot be decoded. -/
  lifted :
    ∃ again, Message.ofJson e.payload = .ok again ∧ again.kind = e.kind ∧
      again.nodeId? = some e.nodeId ∧
      ((∃ fault, again.decode = .error fault) ∨
        ∃ event, again.decode = .ok (some event) ∧ event.stateNodeId? = some e.nodeId)

namespace PendingEntry

/-- The entry of a lifted message is addressed when it is filed under the node of its
report. -/
theorem addressed_ofMessage
    {message : Message}
    (hlifted : message.Lifted)
    {id : String}
    {report : NodeReport}
    (hd : message.decode = .ok (some (.node id report))) :
    (ofMessage id message).Addressed := by
  obtain ⟨value, hvalue⟩ := hlifted
  obtain ⟨again, hagain, hkind, hnode, hcases⟩ := Message.relifted_cases hvalue hd
  refine ⟨⟨message, rfl, (Message.namesNode_of_decode hd).nodeId?_eq⟩, again, hagain, hkind,
    hnode, ?_⟩
  rcases hcases with ⟨fault, hfault⟩ | ⟨report, hreport⟩
  · exact Or.inl ⟨_, hfault⟩
  · exact Or.inr ⟨_, hreport, rfl⟩

/-- The second report of an addressed entry is on the node it is filed under, if there is
one. -/
theorem Addressed.replayed?_cases
    {e : PendingEntry}
    (he : e.Addressed) :
    (∃ fault, Machine.replayed? e = .error fault) ∨
      ∃ report, Machine.replayed? e = .ok (some (.node e.nodeId report)) := by
  obtain ⟨again, hagain, _, _, hcases⟩ := he.lifted
  unfold Machine.replayed?
  simp only [hagain]
  rcases hcases with ⟨fault, hfault⟩ | ⟨event, hevent, hnode⟩
  · exact Or.inl ⟨fault, hfault⟩
  · cases event with
    | node id report =>
        rw [Event.stateNodeId?, Option.some.injEq] at hnode
        exact Or.inr ⟨report, hnode ▸ hevent⟩
    | _ =>
        cases hnode

end PendingEntry

namespace Machine

/-! ### Origin -/

/-- Every entry that waits arrived in the run. -/
theorem mem_arrivals_of_waiting
    (capacity : Nat)
    {ops : List TimedOperation}
    {e : PendingEntry}
    (he : e ∈ ((ofCapacity capacity).run ops).pending.entries) :
    e ∈ arrivals ops := by
  obtain ⟨hkeeps, hsound⟩ := Ledger.run_keeps (Ledger.Keeps.ofCapacity capacity) .empty ops
  rw [List.nil_append] at hsound
  rw [← hkeeps.queue] at he
  obtain ⟨a, ha, rfl⟩ := List.mem_map.1 he
  have hnumbered := hsound.once.subset (List.mem_append_left _ ha)
  exact List.fst_mem_of_mem_zipIdx hnumbered

/-- What arrived in a run of lifted messages is addressed. -/
theorem addressed_of_mem_arrivals
    {ops : List TimedOperation}
    (hlifted : ∀ now message, (now, .apply message) ∈ ops → message.Lifted)
    {e : PendingEntry}
    (he : e ∈ arrivals ops) :
    e.Addressed := by
  obtain ⟨⟨now, op⟩, hop, harriving⟩ := List.mem_filterMap.1 he
  cases op with
  | apply message =>
      obtain ⟨id, report, hd, rfl⟩ := decode_of_arriving? harriving
      exact PendingEntry.addressed_ofMessage (hlifted now message hop) hd
  | setKnown ids | register ids | abort =>
      cases harriving

/-! ### What a replay touches -/

/-- A node keeps its record, or keeps having none, and its place in the running set. -/
structure Untouched (m m' : Machine) (id : String) : Prop where
  record : m'.nodes.get? id = m.nodes.get? id
  running : m'.running.contains id = m.running.contains id

theorem Untouched.trans
    {m m' m'' : Machine}
    {id : String}
    (h : m.Untouched m' id)
    (h' : m'.Untouched m'' id) :
    m.Untouched m'' id :=
  ⟨h'.record.trans h.record, h'.running.trans h.running⟩

/-- A report touches its own node only. -/
theorem untouched_applyNode
    (m : Machine)
    (now : Timestamp)
    {id other : String}
    (hne : other ≠ id)
    (report : NodeReport) :
    m.Untouched (m.applyNode now id report).1 other where
  record := by
    rw [nodes_applyNode, Table.get?_insert, if_neg hne.symm]
  running := by
    rw [running_applyNode]
    split
    · rw [contains_runningAfter, if_neg hne.symm]
    · rfl

/-- An addressed entry touches the node it is filed under only. -/
theorem untouched_replayEntry
    (m : Machine)
    (now : Timestamp)
    {e : PendingEntry}
    (he : e.Addressed)
    {id : String}
    (hne : id ≠ e.nodeId) :
    m.Untouched (m.replayEntry now e).1 id := by
  unfold replayEntry
  rcases he.replayed?_cases with ⟨fault, hfault⟩ | ⟨report, hreport⟩
  · rw [hfault]
    exact ⟨rfl, rfl⟩
  · rw [hreport]
    exact untouched_applyNode m now hne report

/-- Addressed entries touch the nodes they are filed under only. -/
theorem untouched_replayAll
    (m : Machine)
    (now : Timestamp)
    {es : List PendingEntry}
    (hes : ∀ e ∈ es, e.Addressed)
    {id : String}
    (hne : ∀ e ∈ es, id ≠ e.nodeId) :
    m.Untouched (m.replayAll now es).1 id := by
  induction es generalizing m with
  | nil =>
      exact ⟨rfl, rfl⟩
  | cons e es ih =>
      obtain ⟨he, hlater⟩ := List.forall_mem_cons.1 hes
      obtain ⟨hfirst, hothers⟩ := List.forall_mem_cons.1 hne
      exact (untouched_replayEntry m now he hfirst).trans
        (ih (m.replayEntry now e).1 hlater hothers)

/-- **Filing.**  In every state of every run of lifted messages, every entry that waits is
addressed: in each of the ways to find it, its node is the one that it is filed under.
Replayed in any state whatever, it touches no other node.  When the known nodes change, the
replay touches only nodes that are known now and under which an entry is filed. -/
theorem pending_addressed
    (capacity : Nat)
    {ops : List TimedOperation}
    (hlifted : ∀ now message, (now, .apply message) ∈ ops → message.Lifted) :
    let m := (ofCapacity capacity).run ops
    (∀ e ∈ m.pending.entries, e.Addressed) ∧
    (∀ e ∈ m.pending.entries, ∀ (state : Machine) now id, id ≠ e.nodeId →
      state.Untouched (state.replayEntry now e).1 id) ∧
    ∀ now known id,
      (∀ e ∈ m.pending.entries, e.nodeId = id → known.contains id = false) →
        m.Untouched ({ m with known := known }.replay now).1 id := by
  intro m
  have haddressed : ∀ e ∈ m.pending.entries, e.Addressed :=
    fun e he => addressed_of_mem_arrivals hlifted (mem_arrivals_of_waiting capacity he)
  refine ⟨haddressed, ?_, ?_⟩
  · intro e he state now id hne
    exact untouched_replayEntry state now (haddressed e he) hne
  · intro now known id hfree
    have hready : ∀ e ∈ m.pending.ready known.contains,
        e ∈ m.pending.entries ∧ known.contains e.nodeId = true :=
      fun e he => List.mem_filter.1 he
    have hothers : ∀ e ∈ m.pending.ready known.contains, id ≠ e.nodeId := by
      rintro e he rfl
      obtain ⟨hwaits, hknown⟩ := hready e he
      rw [hfree e hwaits rfl] at hknown
      cases hknown
    -- The entries are replayed after the known nodes and the queue have changed.
    have hreplayed :=
      untouched_replayAll (m.requeue known (m.pending.withoutReady known.contains)) now
        (fun e he => haddressed e (hready e he).1) hothers
    exact ⟨hreplayed.record, hreplayed.running⟩

/-- A report that names its node at two depths, in two spellings. -/
def respelledDeeper : Json :=
  .obj
    [("data", .obj [("data", .obj [("node_id", .str "b")]), ("nodeId", .str "a")]),
     ("type", .str "node_start")]

/-- Its message: the deeper node is passed over by decoding and hidden by the second
lifting. -/
def respelledMessage : Message :=
  ⟨"node_start",
    [("data", .obj [("node_id", .str "b")]), ("nodeId", .str "a"), ("type", .str "node_start")]⟩

/-- A run in which this report waits, and behind it one that cannot be decoded again. -/
def deeperRun : List TimedOperation :=
  [(⟨1, 0⟩, .register ["c"]), (⟨2, 0⟩, .apply respelledMessage),
   (⟨3, 0⟩, .apply Message.nestedTwiceMessage)]

theorem deeperRun_addressed :
    (∀ now message, (now, .apply message) ∈ deeperRun → message.Lifted) ∧
      ((ofCapacity 4).run deeperRun).pending.entries =
        [.ofMessage "a" respelledMessage, .ofMessage "a" Message.nestedTwiceMessage] ∧
      (∀ e ∈ ((ofCapacity 4).run deeperRun).pending.entries, e.Addressed) ∧
      replayed? (.ofMessage "a" respelledMessage) = .ok (some (.node "a" (.start none))) ∧
      (∃ fault, replayed? (.ofMessage "a" Message.nestedTwiceMessage) = .error fault) ∧
      ∀ now, ((ofCapacity 4).run deeperRun).Untouched
        (((ofCapacity 4).run deeperRun).setKnown now ["a", "b"]).1 "b" := by
  have hlifted : ∀ now message, (now, .apply message) ∈ deeperRun → message.Lifted := by
    intro now message hmem
    simp only [deeperRun, List.mem_cons, Prod.mk.injEq, reduceCtorEq, and_false, false_or,
      Operation.apply.injEq, List.not_mem_nil, or_false] at hmem
    rcases hmem with ⟨_, rfl⟩ | ⟨_, rfl⟩
    · exact ⟨respelledDeeper, rfl⟩
    · exact ⟨Message.nestedTwice, rfl⟩
  have hentries :
      ((ofCapacity 4).run deeperRun).pending.entries =
        [.ofMessage "a" respelledMessage, .ofMessage "a" Message.nestedTwiceMessage] :=
    rfl
  obtain ⟨haddressed, _, huntouched⟩ := pending_addressed 4 hlifted
  refine ⟨hlifted, hentries, haddressed, rfl, ⟨_, rfl⟩, ?_⟩
  intro now
  apply huntouched now (.ofList ["a", "b"]) "b"
  intro e he hnode
  rw [hentries] at he
  simp only [List.mem_cons, List.not_mem_nil, or_false] at he
  rcases he with rfl | rfl <;> exact absurd hnode (by decide)

end Machine
end RemoteRun
