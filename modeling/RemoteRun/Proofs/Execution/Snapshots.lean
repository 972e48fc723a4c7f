import RemoteRun.Execution.SnapshotJson
import RemoteRun.Proofs.Execution.Terminal
import RemoteRun.Proofs.Inbound.Gathering

/-!
# Snapshots are read back

A snapshot is written as a JSON object and read back as the same snapshot.

**Parts.** A written object holds the parts that are there and leaves out the others.  Looking a
part up gives its value or nothing (`Json.get?_written`), and reading takes nothing for an
absent part.

**Null.** Reading takes `null` for an absent part as well.  So a part is read back only if it is
never written as `null`, which asks for a proof in one place: the output of a node is any JSON
value.  It is none of `null`, because an output that is `null` does not count as one when the
report is decoded (`EventKind.plain_of_assemble`).

**Times.** A time is legible when its text is read back as this time.  Every time in a state is
the time of an operation.

**Results.** `ofJson?_toJson_snapshot`: in every state of every run at legible times, the
snapshot is read back from what it is written as.
-/

namespace RemoteRun

/-- A time is read back from its text. -/
def Timestamp.Legible (t : Timestamp) : Prop :=
  Timestamp.ofText? t.text = some t

instance : DecidablePred Timestamp.Legible :=
  fun t => inferInstanceAs (Decidable (Timestamp.ofText? t.text = some t))

namespace Json

/-! ### Written objects -/

/-- The parts that are there, as members. -/
def written (parts : List (String × Option Json)) : List (String × Json) :=
  parts.flatMap fun p => member? p.1 p.2

theorem keys_written_sublist
    (parts : List (String × Option Json)) :
    (Entries.keys (written parts)).Sublist (parts.map Prod.fst) := by
  induction parts with
  | nil =>
      exact .slnil
  | cons p parts ih =>
      obtain ⟨name, value⟩ := p
      cases value with
      | none =>
          exact ih.cons name
      | some v =>
          exact ih.cons_cons name

/-- A part is found under its name exactly when it is there. -/
theorem get?_written
    {parts : List (String × Option Json)}
    (hnames : (parts.map Prod.fst).Nodup)
    {name : String}
    {value : Option Json}
    (hpart : (name, value) ∈ parts) :
    (Entries.ofPairs (written parts)).get? name = value := by
  rw [Entries.ofPairs, Entries.get?_insertAll [] ((keys_written_sublist parts).nodup hnames)]
  rw [Entries.get?_nil, Option.or_none]
  induction parts with
  | nil =>
      cases hpart
  | cons p parts ih =>
      obtain ⟨other, found⟩ := p
      obtain ⟨hnew, hrest⟩ := List.nodup_cons.1 hnames
      have hcons : written ((other, found) :: parts) = member? other found ++ written parts := rfl
      rw [hcons, Entries.get?_append]
      rcases List.mem_cons.1 hpart with heq | hlater
      · obtain ⟨rfl, rfl⟩ := Prod.mk.inj heq
        cases value with
        | some v =>
            simp [member?, Entries.get?_cons]
        | none =>
            have hnone : name ∉ Entries.keys (written parts) :=
              fun hmem => hnew ((keys_written_sublist parts).subset hmem)
            simpa [member?, Entries.mem_keys_iff] using hnone
      · have hne : other ≠ name := by
          rintro rfl
          exact hnew (List.mem_map.2 ⟨_, hlater, rfl⟩)
        rw [ih hrest hlater]
        cases found <;> simp [member?, Entries.get?_cons, hne]

/-! ### Reading parts -/

section

variable {α : Type} {members : Entries Json} {name : String} {read : Json → Option α}

theorem required?_of_get?
    {value : Json}
    {a : α}
    (hget : members.get? name = some value)
    (hread : read value = some a) :
    required? members name read = some a := by
  rw [required?, hget, Option.bind_some, hread]

/-- A part that is left out or written as `null` when it is absent, and not written as `null`
otherwise. -/
theorem optional?_of_get?
    {write : α → Json}
    {a : Option α}
    (hget :
      members.get? name = a.map write ∨ members.get? name = some (.ofOption (a.map write)))
    (hread : ∀ x, a = some x → read (write x) = some x)
    (hnull : ∀ x, a = some x → write x ≠ .null) :
    optional? members name read = some a := by
  unfold optional?
  cases a with
  | none =>
      rcases hget with hget | hget <;> rw [hget] <;> rfl
  | some x =>
      have hx := hread x rfl
      have hxnull := hnull x rfl
      have hvalue : members.get? name = some (write x) := by
        rcases hget with hget | hget <;> exact hget
      rw [hvalue]
      cases hwrite : write x <;> simp_all

/-- Items that are each read back are read back together. -/
theorem all?_map
    {α β : Type}
    {read : β → Option α}
    {write : α → β}
    {items : List α}
    (h : ∀ a ∈ items, read (write a) = some a) :
    all? read (items.map write) = some items := by
  induction items with
  | nil =>
      rfl
  | cons a items ih =>
      obtain ⟨ha, hrest⟩ := List.forall_mem_cons.1 h
      simp [all?, ha, ih hrest]

end

/-! ### Texts, counts, times and words -/

section

variable {members : Entries Json} {name : String}

theorem requiredText_of_get?
    {text : String}
    (hget : members.get? name = some (.str text)) :
    required? members name string? = some text :=
  required?_of_get? hget rfl

theorem optionalText_of_get?
    {text : Option String}
    (hget : members.get? name = text.map .str) :
    optional? members name string? = some text :=
  optional?_of_get? (Or.inl hget) (fun _ _ => rfl) (by simp)

@[simp] theorem uint64?_ofUInt64
    (n : UInt64) :
    uint64? (ofUInt64 n) = some n :=
  Number.toUInt64?_ofUInt64 n

theorem requiredCount_of_get?
    {n : UInt64}
    (hget : members.get? name = some (.ofUInt64 n)) :
    required? members name uint64? = some n :=
  required?_of_get? hget (uint64?_ofUInt64 n)

theorem optionalCount_of_get?
    {n : Option UInt64}
    (hget : members.get? name = n.map .ofUInt64) :
    optional? members name uint64? = some n :=
  optional?_of_get? (Or.inl hget) (fun n _ => uint64?_ofUInt64 n) (by simp [ofUInt64])

theorem time?_ofTime
    {t : Timestamp}
    (h : t.Legible) :
    time? (ofTime t) = some t := by
  unfold Timestamp.Legible at h
  simp only [time?, ofTime, string?, Option.bind_some, h]

theorem requiredTime_of_get?
    {t : Timestamp}
    (hget : members.get? name = some (.ofTime t))
    (h : t.Legible) :
    required? members name time? = some t :=
  required?_of_get? hget (time?_ofTime h)

theorem optionalTime_of_get?
    {t : Option Timestamp}
    (hget : members.get? name = t.map .ofTime)
    (h : ∀ x, t = some x → x.Legible) :
    optional? members name time? = some t :=
  optional?_of_get? (Or.inl hget) (fun x hx => time?_ofTime (h x hx)) (by simp [ofTime])

end

theorem word?_status
    (s : NodeStatus) :
    word? NodeStatus.ofWord? (.str s.word) = some s := by
  cases s <;> rfl

theorem word?_executionStatus
    (s : ExecutionStatus) :
    word? ExecutionStatus.ofWord? (.str s.word) = some s := by
  cases s <;> rfl

end Json

/-! ### Records -/

namespace NodeRecord

/-- The parts of a record as they are written. -/
def parts (r : NodeRecord) : List (String × Option Json) :=
  [("node_id", some (.str r.nodeId)), ("status", some (.str r.status.word)),
   ("node_type", r.nodeType.map .str), ("started_at", r.startedAt.map .ofTime),
   ("ended_at", r.endedAt.map .ofTime), ("progress_text", r.progressText.map .str),
   ("token_count", r.tokenCount.map .ofUInt64), ("error_message", r.errorMessage.map .str),
   ("skip_reason", r.skipReason.map .str), ("output", r.output)]

theorem toJson_eq
    (r : NodeRecord) :
    r.toJson = .obj (Entries.ofPairs (Json.written r.parts)) := by
  simp [toJson, Json.ofMembers, Json.written, parts, Json.member?]

/-- The times of a record are legible, and its output is not `null`. -/
structure Legible (r : NodeRecord) : Prop where
  startedAt : ∀ t, r.startedAt = some t → t.Legible
  endedAt : ∀ t, r.endedAt = some t → t.Legible
  output : r.output ≠ some .null

/-- A legible record is read back. -/
theorem ofJson?_toJson
    {r : NodeRecord}
    (h : r.Legible) :
    ofJson? r.toJson = some r := by
  have hnames : (r.parts.map Prod.fst).Nodup := by
    simp [parts]
  have hget : ∀ p ∈ r.parts, (Entries.ofPairs (Json.written r.parts)).get? p.1 = p.2 :=
    fun p hp => Json.get?_written hnames hp
  rw [toJson_eq]
  generalize Entries.ofPairs (Json.written r.parts) = members at hget ⊢
  simp only [parts, List.forall_mem_cons] at hget
  obtain ⟨hid, hstatus, htype, hstarted, hended, hprogress, htokens, herror, hreason, houtput, _⟩ :=
    hget
  have houtput : members.get? "output" = r.output.map id := by
    rw [houtput, Option.map_id_fun, id]
  have hread : Json.optional? members "output" some = some r.output :=
    Json.optional?_of_get? (Or.inl houtput) (fun _ _ => rfl) fun v hv hnull => h.output (hnull ▸ hv)
  simp only [ofJson?, Json.object?, Option.bind_eq_bind, Option.bind_some,
    Json.requiredText_of_get? hid, Json.required?_of_get? hstatus (Json.word?_status r.status),
    Json.optionalText_of_get? htype, Json.optionalTime_of_get? hstarted h.startedAt,
    Json.optionalTime_of_get? hended h.endedAt, Json.optionalText_of_get? hprogress,
    Json.optionalCount_of_get? htokens, Json.optionalText_of_get? herror,
    Json.optionalText_of_get? hreason, hread]
  rfl

end NodeRecord

namespace ExecutionHandle

/-- The parts of an execution as they are written. -/
def parts (h : ExecutionHandle) : List (String × Option Json) :=
  [("execution_id", some (.str h.executionId)), ("status", some (.str h.status.word)),
   ("total_node_count", some (.ofUInt64 h.totalNodeCount)),
   ("completed_nodes", some (.ofUInt64 h.completedNodes)),
   ("started_at", some (.ofTime h.startedAt)), ("ended_at", h.endedAt.map .ofTime),
   ("terminal_error", h.terminalError.map .str), ("total_tokens", h.totalTokens.map .ofUInt64),
   ("external", some (.bool h.external))]

theorem toJson_eq
    (h : ExecutionHandle) :
    h.toJson = .obj (Entries.ofPairs (Json.written h.parts)) := by
  simp [toJson, Json.ofMembers, Json.written, parts, Json.member?]

/-- The times of an execution are legible. -/
structure Legible (h : ExecutionHandle) : Prop where
  startedAt : h.startedAt.Legible
  endedAt : ∀ t, h.endedAt = some t → t.Legible

/-- A legible execution is read back. -/
theorem ofJson?_toJson
    {h : ExecutionHandle}
    (hh : h.Legible) :
    ofJson? h.toJson = some h := by
  have hnames : (h.parts.map Prod.fst).Nodup := by
    simp [parts]
  have hget : ∀ p ∈ h.parts, (Entries.ofPairs (Json.written h.parts)).get? p.1 = p.2 :=
    fun p hp => Json.get?_written hnames hp
  rw [toJson_eq]
  generalize Entries.ofPairs (Json.written h.parts) = members at hget ⊢
  simp only [parts, List.forall_mem_cons] at hget
  obtain ⟨hid, hstatus, htotal, hcompleted, hstarted, hended, herror, htokens, hexternal, _⟩ := hget
  simp only [ofJson?, Json.object?, Option.bind_eq_bind, Option.bind_some,
    Json.requiredText_of_get? hid,
    Json.required?_of_get? hstatus (Json.word?_executionStatus h.status),
    Json.requiredCount_of_get? htotal, Json.requiredCount_of_get? hcompleted,
    Json.requiredTime_of_get? hstarted hh.startedAt, Json.optionalTime_of_get? hended hh.endedAt,
    Json.optionalText_of_get? herror, Json.optionalCount_of_get? htokens, hexternal, Json.bool?]
  rfl

end ExecutionHandle

/-! ### Snapshots -/

namespace Snapshot

/-- The parts of a snapshot, each of which is there. -/
def parts (s : Snapshot) : List (String × Option Json) :=
  [("execution", some (.ofOption (s.execution.map ExecutionHandle.toJson))),
   ("nodes", some (.obj (s.nodes.toList.map fun e => (e.1, e.2.toJson)))),
   ("running_nodes", some (.ofStrings s.runningNodes)),
   ("pending_events", some (.ofUInt64 s.pendingEvents)),
   ("known_nodes", some (.ofUInt64 s.knownNodes))]

theorem toJson_eq
    (s : Snapshot) :
    s.toJson = .obj (Entries.ofPairs (Json.written s.parts)) := by
  simp [toJson, Json.ofMembers, Json.written, parts, Json.member?]

/-- The execution and the records are legible. -/
structure Legible (s : Snapshot) : Prop where
  execution : ∀ h, s.execution = some h → h.Legible
  nodes : ∀ id r, s.nodes.get? id = some r → r.Legible

/-- Legible records are read back into the table that they were in. -/
theorem nodes?_toJson
    {nodes : Table NodeRecord}
    (h : ∀ id r, nodes.get? id = some r → r.Legible) :
    nodes? (.obj (nodes.toList.map fun e => (e.1, e.2.toJson))) = some nodes := by
  have hrecords :
      Json.all? (fun e : String × Json => (NodeRecord.ofJson? e.2).map (e.1, ·))
        (nodes.toList.map fun e => (e.1, e.2.toJson)) = some nodes.toList := by
    apply Json.all?_map
    intro e he
    have hr := h e.1 e.2 (Entries.get?_of_mem nodes.ascending he)
    simp [NodeRecord.ofJson?_toJson hr]
  have htable : Table.ofPairs nodes.toList = nodes := by
    simp [Table.ofPairs, Table.toList, Entries.ofPairs_of_ascending nodes.ascending]
  simp [nodes?, Json.object?, hrecords, htable]

/-- A legible snapshot is read back. -/
theorem ofJson?_toJson
    {s : Snapshot}
    (hs : s.Legible) :
    ofJson? s.toJson = some s := by
  have hnames : (s.parts.map Prod.fst).Nodup := by
    simp [parts]
  have hget : ∀ p ∈ s.parts, (Entries.ofPairs (Json.written s.parts)).get? p.1 = p.2 :=
    fun p hp => Json.get?_written hnames hp
  rw [toJson_eq]
  generalize Entries.ofPairs (Json.written s.parts) = members at hget ⊢
  simp only [parts, List.forall_mem_cons] at hget
  obtain ⟨hexecution, hnodes, hrunning, hpending, hknown, _⟩ := hget
  have hread : Json.optional? members "execution" ExecutionHandle.ofJson? = some s.execution :=
    Json.optional?_of_get? (Or.inr hexecution)
      (fun h hh => ExecutionHandle.ofJson?_toJson (hs.execution h hh))
      (by simp [ExecutionHandle.toJson, Json.ofMembers])
  have hids :
      Json.required? members "running_nodes" (fun v => v.array?.bind (Json.all? Json.string?)) =
        some s.runningNodes :=
    Json.required?_of_get? hrunning (Json.all?_map fun _ _ => rfl)
  simp only [ofJson?, Json.object?, Option.bind_eq_bind, Option.bind_some, hread, hids,
    Json.required?_of_get? hnodes (nodes?_toJson hs.nodes),
    Json.requiredCount_of_get? hpending, Json.requiredCount_of_get? hknown]
  rfl

end Snapshot

/-! ### Reports as they are decoded -/

/-- The output of a report is not `null`. -/
def NodeReport.Plain (report : NodeReport) : Prop :=
  ∀ output tokens, report = .complete output tokens → output ≠ some .null

/-- A value that was gathered is not `null`: this counts as absent. -/
theorem Gathered.value_ne_null
    (g : Gathered)
    (name : String) :
    g.value name ≠ some .null := by
  unfold value
  split
  next => simp
  next hother => exact hother

theorem EventKind.plain_of_assemble
    {kind : EventKind}
    {g : Gathered}
    {id : String}
    {report : NodeReport}
    (h : kind.assemble g = .node id report) :
    report.Plain := by
  rintro output tokens rfl
  cases kind <;>
    simp only [assemble, Event.node.injEq, NodeReport.complete.injEq, reduceCtorEq, and_false] at h
  obtain ⟨_, rfl, _⟩ := h
  exact g.value_ne_null "output"

/-- A report that a message brings has no `null` for an output. -/
theorem Machine.Brought.plain
    {id : String}
    {report : NodeReport}
    (h : Brought id report) :
    report.Plain := by
  obtain ⟨message, hdecode⟩ := h
  obtain ⟨kind, g, _, _, hevent⟩ := Message.decode_eq_some_iff.1 hdecode
  exact kind.plain_of_assemble hevent.symm

namespace NodeRecord.Legible

theorem fresh
    (id : String) :
    (NodeRecord.fresh id).Legible := by
  constructor <;> simp [NodeRecord.fresh]

/-- A plain report at a legible time leaves a legible record. -/
theorem after
    {r : NodeRecord}
    (h : r.Legible)
    {now : Timestamp}
    (hnow : now.Legible)
    {report : NodeReport}
    (hplain : report.Plain) :
    (r.after now report).Legible := by
  have hset : ∀ t, some now = some t → t.Legible := by
    rintro t ⟨⟩
    exact hnow
  unfold NodeRecord.after
  split
  next =>
    cases report with
    | start nodeType => exact ⟨hset, h.endedAt, h.output⟩
    | progress message => exact ⟨h.startedAt, h.endedAt, h.output⟩
    | complete output tokens => exact ⟨h.startedAt, hset, hplain output tokens rfl⟩
    | skipped reason => exact ⟨h.startedAt, hset, h.output⟩
    | failed error => exact ⟨h.startedAt, hset, h.output⟩
    | paused => exact ⟨h.startedAt, h.endedAt, h.output⟩
    | resumed => exact ⟨h.startedAt, h.endedAt, h.output⟩
  next => exact h

end NodeRecord.Legible

/-! ### Runs -/

namespace Machine

/-- Every record and the execution are legible. -/
structure Legible (m : Machine) : Prop where
  records : ∀ id r, m.nodes.get? id = some r → r.Legible
  execution : ∀ h, m.execution = some h → h.Legible

namespace Legible

variable {m : Machine} {now : Timestamp}

theorem ofCapacity
    (capacity : Nat) :
    (Machine.ofCapacity capacity).Legible := by
  constructor <;> simp [Machine.ofCapacity]

/-- Reports that are brought at legible times keep it so. -/
theorem report
    (hm : m.Legible)
    (hnow : now.Legible)
    (id : String)
    {report : NodeReport}
    (hplain : report.Plain) :
    (m.applyNode now id report).1.Legible where
  records := by
    intro other r hr
    rw [nodes_applyNode, Table.get?_insert] at hr
    by_cases hid : id = other
    · simp only [hid, if_true, Option.some.injEq] at hr
      subst hr
      refine NodeRecord.Legible.after ?_ hnow hplain
      unfold recordOf
      cases hfound : m.nodes.get? other with
      | none => exact .fresh other
      | some r => exact hm.records other r hfound
    · simp only [hid, if_false] at hr
      exact hm.records other r hr
  execution := by
    intro h hh
    rw [execution_applyNode] at hh
    split at hh
    next =>
      unfold executionAfter at hh
      split at hh
      next =>
        obtain ⟨g, hg, rfl⟩ := Option.map_eq_some_iff.1 hh
        obtain ⟨n, hn⟩ := countFinished_eq g
        rw [hn]
        exact ⟨(hm.execution g hg).startedAt, (hm.execution g hg).endedAt⟩
      next => exact hm.execution h hh
    next => exact hm.execution h hh

/-- An execution that ends at a legible time stays legible. -/
theorem ended
    (hm : m.Legible)
    (hnow : now.Legible)
    {h : ExecutionHandle}
    (hh : m.execution = some h)
    (g : ExecutionHandle)
    (hstarted : g.startedAt = h.startedAt)
    (hended : g.endedAt = some now)
    (running : IdSet) :
    Machine.Legible { m with execution := some g, running := running } where
  records := hm.records
  execution := by
    rintro _ ⟨⟩
    constructor
    · rw [hstarted]
      exact (hm.execution h hh).startedAt
    · rw [hended]
      rintro t ⟨⟩
      exact hnow

/-- A report on the execution at a legible time keeps it so. -/
theorem applyExecution
    (hm : m.Legible)
    (hnow : now.Legible)
    (report : ExecutionReport) :
    (m.applyExecution now report).1.Legible := by
  have htarget : ∀ received change,
      (∀ h, m.execution = some h → (change h).Legible) →
        (m.onTarget received change).1.Legible := by
    intro received change hchange
    rcases m.onTarget_cases received change with ⟨reason, hr⟩ | ⟨h, hh, _, hr⟩
    · rw [hr]
      exact hm
    · rw [hr]
      exact hchange h hh
  cases report with
  | started id total diagram fromCli =>
      refine ⟨by simp [Machine.applyExecution, Machine.start], ?_⟩
      rintro _ ⟨⟩
      exact ⟨hnow, by simp [ExecutionHandle.start]⟩
  | complete id total =>
      exact htarget id _ fun h hh => hm.ended hnow hh (h.complete now _) rfl rfl m.running
  | failed id error =>
      exact htarget id _ fun h hh => hm.ended hnow hh (h.fail now _) rfl rfl m.running
  | aborted id =>
      exact htarget id _ fun h hh => hm.ended hnow hh (h.abort now) rfl rfl Table.empty

theorem run
    (hm : m.Legible)
    {ops : List TimedOperation}
    (hops : ∀ o ∈ ops, o.1.Legible) :
    (m.run ops).Legible := by
  refine run_preserves_dated ?_ ?_ ?_ ?_ hm hops
  · exact fun m now id report hnow hbrought h => h.report hnow id hbrought.plain
  · exact fun m now report hnow h => h.applyExecution hnow report
  · exact fun m now g hnow hg h => h.ended hnow hg (g.abort now) rfl rfl Table.empty
  · exact fun m known pending h => ⟨h.records, h.execution⟩

end Legible

/-- **Snapshots survive serialization.**  In every state of every run, if the times of the
operations are read back from their texts, the snapshot is read back from the value that it is
written as, field for field. -/
theorem ofJson?_toJson_snapshot
    (capacity : Nat)
    {ops : List TimedOperation}
    (hclock : ∀ o ∈ ops, Timestamp.ofText? o.1.text = some o.1) :
    Snapshot.ofJson? ((ofCapacity capacity).run ops).snapshot.toJson =
      some ((ofCapacity capacity).run ops).snapshot := by
  have hlegible : ((ofCapacity capacity).run ops).Legible :=
    Legible.run (.ofCapacity capacity) hclock
  exact Snapshot.ofJson?_toJson ⟨hlegible.execution, hlegible.records⟩

/-- A run in which one node completes without an output, another one fails, and an entry
waits. -/
def mixedRun : List TimedOperation :=
  [(⟨1709210096, 500000000⟩, .register ["a", "b"]),
   (⟨1709210097, 0⟩, .apply (.plain .executionStarted "execution_id" "e1")),
   (⟨1709210098, 123456789⟩, .apply
     ⟨"node_complete",
       [("node_id", .str "a"), ("output", .null), ("token_count", .num (.ofUInt64 5)),
        ("type", .str "node_complete")]⟩),
   (⟨1709210099, 0⟩, .apply (.plain .nodeError "node_id" "b")),
   (⟨1709210100, 0⟩, .apply (.plain .nodeStart "node_id" "c")),
   (⟨1709210101, 0⟩, .apply (.plain .executionComplete "execution_id" "e1"))]

theorem mixedRun_restored :
    (∀ o ∈ mixedRun, Timestamp.ofText? o.1.text = some o.1) ∧
      Snapshot.ofJson? ((ofCapacity 8).run mixedRun).snapshot.toJson =
        some ((ofCapacity 8).run mixedRun).snapshot := by
  have hclock : ∀ o ∈ mixedRun, Timestamp.ofText? o.1.text = some o.1 := by
    decide +kernel
  exact ⟨hclock, ofJson?_toJson_snapshot 8 hclock⟩

end Machine
end RemoteRun
