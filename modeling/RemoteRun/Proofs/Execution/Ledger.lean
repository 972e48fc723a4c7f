import Mathlib.Data.List.Nodup
import RemoteRun.Proofs.Execution.Deferral
import RemoteRun.Proofs.Lists

/-!
# The account of the reports

Every report that arrives is applied at once or waits, and what waits is replayed,
evicted or discarded.

**Ledger.** A ledger runs beside the machine.  It numbers the reports in the order of
their arrival and notes what became of each: from the answer when a message is applied,
and from the nodes that are known after they have changed.

**Invariant.** `Ledger.Keeps`: what waits in the ledger is the queue of the machine, and
no waiting report is on a known node.  `Ledger.Sound`: each report stands in the ledger
once, and no report waits behind a later one on its node that was applied or replayed.

**Results.** `accounted_run`: at every point of every run each report has exactly one
fate or still waits, fates are final, and the reports on one node were applied and
replayed in the order of their arrival.
-/

namespace RemoteRun

/-- The report that an operation brings, as an entry under its node. -/
def Operation.arriving? : Operation → Option PendingEntry
  | .apply message => message.report?.map fun r => .ofMessage r.1 message
  | .setKnown _ | .register _ | .abort => none

/-- The reports of a run in the order of their arrival. -/
def arrivals (ops : List TimedOperation) : List PendingEntry :=
  ops.filterMap fun o => o.2.arriving?

/-- What became of a report: it was applied when it came, it was taken from the queue
for replay, it gave way to another one, or another execution started. -/
inductive Fate where
  | applied
  | replayed
  | evicted
  | discarded
deriving DecidableEq

/-- Whether a report reached its node. -/
def Fate.isHandled : Fate → Bool
  | .applied | .replayed => true
  | .evicted | .discarded => false

/-- A report and its number. -/
abbrev Arrival := PendingEntry × Nat

/-- The reports that wait, oldest first, and the fates of the others in the order in
which they came about. -/
structure Ledger where
  count : Nat
  waiting : List Arrival
  settled : List (Arrival × Fate)

namespace Ledger

/-- The ledger before the first report. -/
def empty : Ledger := ⟨0, [], []⟩

/-- The waiting reports on some nodes. -/
def ready (l : Ledger) (isKnown : String → Bool) : List Arrival :=
  l.waiting.filter fun a => isKnown a.1.nodeId

/-- The waiting reports on the other nodes. -/
def blocked (l : Ledger) (isKnown : String → Bool) : List Arrival :=
  l.waiting.filter fun a => !isKnown a.1.nodeId

/-- A report comes and waits. -/
def receive (l : Ledger) (e : PendingEntry) : Ledger :=
  { l with count := l.count + 1, waiting := l.waiting ++ [(e, l.count)] }

/-- A report comes and is applied. -/
def apply (l : Ledger) (e : PendingEntry) : Ledger :=
  { l with count := l.count + 1, settled := l.settled ++ [((e, l.count), .applied)] }

/-- Some of the waiting reports meet a fate, the rest waits on. -/
def settle (l : Ledger) (out rest : List Arrival) (fate : Fate) : Ledger :=
  { l with waiting := rest, settled := l.settled ++ out.map fun a => (a, fate) }

/-- The waiting reports on some nodes are taken for replay. -/
def replay (l : Ledger) (isKnown : String → Bool) : Ledger :=
  l.settle (l.ready isKnown) (l.blocked isKnown) .replayed

/-- The ledger after an operation on a state. -/
def step (l : Ledger) (m : Machine) (now : Timestamp) : Operation → Ledger
  | .apply message =>
      match (Operation.apply message).arriving? with
      | some e =>
          match (m.apply now message).2 with
          | .ok .queued =>
              if m.pending.isFull then
                (l.settle (l.waiting.take 1) (l.waiting.drop 1) .evicted).receive e
              else l.receive e
          | _ => l.apply e
      | none =>
          if (Operation.apply message).starts then l.settle l.waiting [] .discarded else l
  | .setKnown ids => l.replay (m.setKnown now ids).1.isKnown
  | .register ids => l.replay (m.register now ids).1.isKnown
  | .abort => l

/-- The ledger after operations, one after the other. -/
def run (l : Ledger) (m : Machine) : List TimedOperation → Ledger
  | [] => l
  | (now, op) :: ops => (l.step m now op).run (m.step now op) ops

/-- The whereabouts of every report: its fate, or nothing while it waits. -/
def fates (l : Ledger) : List (Arrival × Option Fate) :=
  l.waiting.map (fun a => (a, none)) ++ l.settled.map fun s => (s.1, some s.2)

/-- The reports that reached their node, in the order in which they did. -/
def handled (l : Ledger) : List Arrival :=
  (l.settled.filter fun s => s.2.isHandled).map Prod.fst

/-! ### What a ledger holds -/

/-- The ledger holds each of the reports that came once, numbered, and on each node what
was handled came before what waits and was handled in order. -/
structure Sound (l : Ledger) (came : List PendingEntry) : Prop where
  count : l.count = came.length
  once : (l.waiting ++ l.settled.map Prod.fst).Perm came.zipIdx
  waiting : l.waiting.Pairwise fun a b => a.2 < b.2
  ahead :
    ∀ s ∈ l.settled, s.2.isHandled = true → ∀ w ∈ l.waiting,
      s.1.1.nodeId = w.1.nodeId → s.1.2 < w.2
  inOrder :
    l.settled.Pairwise fun s t =>
      s.2.isHandled = true → t.2.isHandled = true → s.1.1.nodeId = t.1.1.nodeId →
        s.1.2 < t.1.2

namespace Sound

variable {l : Ledger} {came : List PendingEntry}

theorem empty : Ledger.empty.Sound [] where
  count := rfl
  once := List.Perm.refl []
  waiting := List.Pairwise.nil
  ahead := by simp [Ledger.empty]
  inOrder := List.Pairwise.nil

/-- Every number is below the count. -/
theorem number_lt
    (h : l.Sound came)
    {a : Arrival}
    (ha : a ∈ l.waiting ++ l.settled.map Prod.fst) :
    a.2 < l.count := by
  have hmem := h.once.subset ha
  have hlt := (List.mem_zipIdx hmem).2.1
  rw [h.count]
  omega

theorem number_lt_of_waiting
    (h : l.Sound came)
    {a : Arrival}
    (ha : a ∈ l.waiting) :
    a.2 < l.count :=
  h.number_lt (List.mem_append_left _ ha)

theorem number_lt_of_settled
    (h : l.Sound came)
    {s : Arrival × Fate}
    (hs : s ∈ l.settled) :
    s.1.2 < l.count :=
  h.number_lt (List.mem_append_right _ (List.mem_map_of_mem hs))

theorem zipIdx_append_one
    (h : l.Sound came)
    (e : PendingEntry) :
    (came ++ [e]).zipIdx = came.zipIdx ++ [(e, l.count)] := by
  simp [List.zipIdx_append, h.count]

/-- A report that waits comes after all others. -/
theorem receive
    (h : l.Sound came)
    (e : PendingEntry) :
    (l.receive e).Sound (came ++ [e]) where
  count := by
    simp [Ledger.receive, h.count]
  once := by
    rw [h.zipIdx_append_one]
    have hswap :
        (l.waiting ++ [(e, l.count)] ++ l.settled.map Prod.fst).Perm
          (l.waiting ++ l.settled.map Prod.fst ++ [(e, l.count)]) :=
      perm_moved _ _ _
    exact hswap.trans (h.once.append_right _)
  waiting := by
    apply List.pairwise_append.2
    refine ⟨h.waiting, List.pairwise_singleton _ _, ?_⟩
    intro a ha b hb
    rw [List.mem_singleton] at hb
    subst hb
    exact h.number_lt_of_waiting ha
  ahead := by
    intro s hs hhandled w hw hnode
    rcases List.mem_append.1 hw with hw | hw
    · exact h.ahead s hs hhandled w hw hnode
    · rw [List.mem_singleton] at hw
      subst hw
      exact h.number_lt_of_settled hs
  inOrder := h.inOrder

/-- A report is applied at once only when none waits on its node. -/
theorem apply
    (h : l.Sound came)
    {e : PendingEntry}
    (hfree : ∀ w ∈ l.waiting, e.nodeId ≠ w.1.nodeId) :
    (l.apply e).Sound (came ++ [e]) where
  count := by
    simp [Ledger.apply, h.count]
  once := by
    rw [h.zipIdx_append_one]
    simpa [Ledger.apply] using h.once.append_right [(e, l.count)]
  waiting := h.waiting
  ahead := by
    intro s hs hhandled w hw hnode
    rcases List.mem_append.1 hs with hs | hs
    · exact h.ahead s hs hhandled w hw hnode
    · rw [List.mem_singleton] at hs
      subst hs
      exact absurd hnode (hfree w hw)
  inOrder := by
    apply List.pairwise_append.2
    refine ⟨h.inOrder, List.pairwise_singleton _ _, ?_⟩
    intro s hs t ht _ _ _
    rw [List.mem_singleton] at ht
    subst ht
    exact h.number_lt_of_settled hs

/-- Waiting reports may meet a fate; if they are handled, nothing may wait on their nodes
any longer. -/
theorem settle
    (h : l.Sound came)
    {out rest : List Arrival}
    (hparts : (out ++ rest).Perm l.waiting)
    (hout : out.Sublist l.waiting)
    (hrest : rest.Sublist l.waiting)
    {fate : Fate}
    (hfree :
      fate.isHandled = true → ∀ a ∈ out, ∀ w ∈ rest, a.1.nodeId ≠ w.1.nodeId) :
    (l.settle out rest fate).Sound came where
  count := h.count
  once := by
    have hmoved :
        (rest ++ (l.settled ++ out.map fun a => (a, fate)).map Prod.fst).Perm
          (l.waiting ++ l.settled.map Prod.fst) := by
      have hfst : (out.map fun a => (a, fate)).map Prod.fst = out := by
        simp [Function.comp_def]
      rw [List.map_append, hfst]
      calc (rest ++ (l.settled.map Prod.fst ++ out)).Perm
            ((l.settled.map Prod.fst ++ out) ++ rest) := List.perm_append_comm
        _ = l.settled.map Prod.fst ++ (out ++ rest) := List.append_assoc _ _ _
        (l.settled.map Prod.fst ++ (out ++ rest)).Perm
            (l.settled.map Prod.fst ++ l.waiting) := hparts.append_left _
        (l.settled.map Prod.fst ++ l.waiting).Perm _ := List.perm_append_comm
    exact hmoved.trans h.once
  waiting := h.waiting.sublist hrest
  ahead := by
    -- A report that is handled now leaves none on its node behind, by `hfree`.
    intro s hs hhandled w hw hnode
    rcases List.mem_append.1 hs with hs | hs
    · exact h.ahead s hs hhandled w (hrest.subset hw) hnode
    · obtain ⟨a, ha, rfl⟩ := List.mem_map.1 hs
      exact absurd hnode (hfree hhandled a ha w hw)
  inOrder := by
    -- What was handled before came before what waited, by `ahead`.
    apply List.pairwise_append.2
    refine ⟨h.inOrder, ?_, ?_⟩
    · apply List.pairwise_map.2
      apply (h.waiting.sublist hout).imp
      intro a b hlt _ _ _
      exact hlt
    · intro s hs t ht hhandled _ hnode
      obtain ⟨a, ha, rfl⟩ := List.mem_map.1 ht
      exact h.ahead s hs hhandled a (hout.subset ha) hnode

end Sound

end Ledger

namespace Machine

/-! ### What the machine does to its queue -/

theorem arriving?_of_decode
    {message : Message}
    {id : String}
    {report : NodeReport}
    (hd : message.decode = .ok (some (.node id report))) :
    (Operation.apply message).arriving? = some (.ofMessage id message) := by
  simp [Operation.arriving?, report?_of_decode hd]

/-- A message that brings a report is about a node. -/
theorem decode_of_arriving?
    {message : Message}
    {e : PendingEntry}
    (h : (Operation.apply message).arriving? = some e) :
    ∃ id report, message.decode = .ok (some (.node id report)) ∧ e = .ofMessage id message := by
  obtain ⟨⟨id, report⟩, hreport, rfl⟩ := Option.map_eq_some_iff.1 h
  refine ⟨id, report, ?_, rfl⟩
  unfold Message.report? at hreport
  split at hreport <;> simp_all

theorem outcome_applyNode_ne_queued
    (m : Machine)
    (now : Timestamp)
    (id : String)
    (report : NodeReport) :
    (m.applyNode now id report).2 ≠ .queued := by
  cases h : m.accepts id report with
  | true =>
      simp [applyNode_of_accepts now h]
  | false =>
      simp [applyNode_of_not_accepts now h]

theorem queue_onTarget
    (m : Machine)
    (received : Option String)
    {change : ExecutionHandle → Machine}
    (hchange : ∀ h, (change h).known = m.known ∧ (change h).pending = m.pending) :
    (m.onTarget received change).1.known = m.known ∧
      (m.onTarget received change).1.pending = m.pending := by
  rcases m.onTarget_cases received change with ⟨reason, hr⟩ | ⟨h, _, _, hr⟩
  · rw [hr]
    exact ⟨rfl, rfl⟩
  · rw [hr]
    exact hchange h

/-- A message that brings no report changes the queue only when it starts an execution,
and the known nodes never. -/
theorem queue_apply_of_no_report
    {m : Machine}
    {message : Message}
    (h : (Operation.apply message).arriving? = none)
    (now : Timestamp) :
    (m.apply now message).1.known = m.known ∧
      (m.apply now message).1.pending =
        if (Operation.apply message).starts then m.pending.clear else m.pending := by
  cases hd : message.decode with
  | error fault =>
      simp [apply, Operation.starts, hd]
  | ok event =>
      cases event with
      | none =>
          simp [apply, Operation.starts, hd]
      | some event =>
          cases event with
          | node id report =>
              rw [arriving?_of_decode hd] at h
              simp at h
          | execution report =>
              have happly : (m.apply now message).1 = (m.applyExecution now report).1 := by
                simp [apply, hd]
              rw [happly]
              simp only [Operation.starts, hd]
              cases report with
              | started id total diagram fromCli =>
                  exact ⟨rfl, rfl⟩
              | complete id total =>
                  exact queue_onTarget m id fun _ => ⟨rfl, rfl⟩
              | failed id error =>
                  exact queue_onTarget m id fun _ => ⟨rfl, rfl⟩
              | aborted id =>
                  exact queue_onTarget m id fun _ => ⟨rfl, rfl⟩
          | _ =>
              simp [apply, Operation.starts, hd]

/-- Replaying entries leaves the known nodes and the queue. -/
theorem queue_replayAll
    (m : Machine)
    (now : Timestamp)
    (es : List PendingEntry) :
    (m.replayAll now es).1.known = m.known ∧ (m.replayAll now es).1.pending = m.pending := by
  induction es generalizing m with
  | nil =>
      exact ⟨rfl, rfl⟩
  | cons e es ih =>
      have hentry :
          (m.replayEntry now e).1.known = m.known ∧
            (m.replayEntry now e).1.pending = m.pending := by
        unfold replayEntry
        split <;> simp
      obtain ⟨hknown, hpending⟩ := ih (m.replayEntry now e).1
      exact ⟨hknown.trans hentry.1, hpending.trans hentry.2⟩

theorem isKnown_replay
    (m : Machine)
    (now : Timestamp) :
    (m.replay now).1.isKnown = m.isKnown := by
  unfold isKnown replay
  rw [(queue_replayAll _ now _).1]

theorem queue_abort
    (m : Machine)
    (now : Timestamp) :
    (m.abort now).1.known = m.known ∧ (m.abort now).1.pending = m.pending := by
  unfold abort
  cases m.live? <;> exact ⟨rfl, rfl⟩

end Machine

namespace Ledger

open Machine

/-! ### Ledger and machine -/

/-- The number of reports that gave way to others. -/
def evictions (l : Ledger) : Nat :=
  l.settled.countP fun s => s.2 = .evicted

/-- The ledger shows the queue of the machine, in which no known node waits, and the
number of its evictions. -/
structure Keeps (l : Ledger) (m : Machine) : Prop where
  queue : l.waiting.map Prod.fst = m.pending.entries
  unknown : ∀ e ∈ m.pending.entries, m.isKnown e.nodeId = false
  evictions : l.evictions = m.pending.dropped
  /-- A full queue has an entry to evict. -/
  room : 0 < m.pending.capacity

namespace Keeps

variable {l : Ledger} {m : Machine}

theorem waiting_unknown
    (h : l.Keeps m)
    {a : Arrival}
    (ha : a ∈ l.waiting) :
    m.isKnown a.1.nodeId = false := by
  apply h.unknown
  rw [← h.queue]
  exact List.mem_map_of_mem ha

/-- When other nodes become known, the machine replays what is ready in the ledger, in
this order, and what is blocked there waits on. -/
theorem replay_eq
    (h : l.Keeps m)
    (now : Timestamp)
    (known : IdSet) :
    { m with known := known }.replay now =
      (m.requeue known
        { m.pending with entries := (l.blocked known.contains).map Prod.fst }).replayAll now
          ((l.ready known.contains).map Prod.fst) := by
  have hready :
      m.pending.ready known.contains = (l.ready known.contains).map Prod.fst := by
    unfold PendingQueue.ready ready
    rw [← h.queue, List.filter_map]
    rfl
  have hblocked :
      m.pending.withoutReady known.contains =
        { m.pending with entries := (l.blocked known.contains).map Prod.fst } := by
    unfold PendingQueue.withoutReady blocked
    rw [← h.queue, List.filter_map]
    rfl
  unfold Machine.replay
  rw [← hready, ← hblocked]
  rfl

theorem replay
    (h : l.Keeps m)
    (now : Timestamp)
    (known : IdSet) :
    (l.replay known.contains).Keeps ({ m with known := known }.replay now).1 := by
  rw [h.replay_eq]
  obtain ⟨hknown, hpending⟩ :=
    queue_replayAll
      (m.requeue known { m.pending with entries := (l.blocked known.contains).map Prod.fst }) now
      ((l.ready known.contains).map Prod.fst)
  constructor
  · rw [hpending]
    rfl
  · intro e he
    rw [hpending] at he
    unfold isKnown
    rw [hknown]
    obtain ⟨a, ha, rfl⟩ := List.mem_map.1 he
    have hblocked := (List.mem_filter.1 ha).2
    simpa [requeue] using hblocked
  · rw [hpending]
    simpa [Ledger.evictions, Ledger.replay, settle, requeue, List.countP_map,
      Function.comp_def] using h.evictions
  · rw [hpending]
    exact h.room

theorem apply
    (h : l.Keeps m)
    (now : Timestamp)
    (id : String)
    (report : NodeReport)
    (e : PendingEntry) :
    (l.apply e).Keeps (m.applyNode now id report).1 := by
  constructor
  · simpa [Ledger.apply] using h.queue
  · simpa [isKnown] using h.unknown
  · simpa [Ledger.evictions, Ledger.apply] using h.evictions
  · simpa using h.room

/-- A report that waits is appended to the queue, in place of the oldest one when the
queue is full. -/
theorem receive
    (h : l.Keeps m)
    {e : PendingEntry}
    (hunknown : m.isKnown e.nodeId = false) :
    (if m.pending.isFull then
        (l.settle (l.waiting.take 1) (l.waiting.drop 1) .evicted).receive e
      else l.receive e).Keeps
      (m.requeue m.known (m.pending.enqueue e)) := by
  have hmem :
      ∀ e' ∈ (m.pending.enqueue e).entries, e' ∈ m.pending.entries ∨ e' = e := by
    intro e' he'
    unfold PendingQueue.enqueue at he'
    split at he' <;> rcases List.mem_append.1 he' with he' | he'
    · exact Or.inl (List.mem_of_mem_tail he')
    · exact Or.inr (List.mem_singleton.1 he')
    · exact Or.inl he'
    · exact Or.inr (List.mem_singleton.1 he')
  constructor
  · unfold PendingQueue.enqueue
    cases m.pending.isFull <;>
      simp [Ledger.receive, settle, requeue, List.map_tail, h.queue]
  · intro e' he'
    rcases hmem e' he' with he' | rfl
    · exact h.unknown e' he'
    · exact hunknown
  · have hcount := h.evictions
    unfold Ledger.evictions at hcount ⊢
    unfold PendingQueue.enqueue
    cases hfull : m.pending.isFull with
    | false =>
        simpa [Ledger.receive, requeue] using hcount
    | true =>
        -- A queue with room for one is full only when it has an entry.
        have hroom := h.room
        have hlength : m.pending.capacity ≤ m.pending.entries.length := by
          simpa [PendingQueue.isFull] using hfull
        rw [← h.queue, List.length_map] at hlength
        cases hwaiting : l.waiting with
        | nil =>
            rw [hwaiting, List.length_nil] at hlength
            omega
        | cons oldest others =>
            simp [Ledger.receive, settle, requeue, hcount]
  · unfold PendingQueue.enqueue
    split <;> exact h.room

theorem discard
    (h : l.Keeps m)
    {m' : Machine}
    (hpending : m'.pending = m.pending.clear) :
    (l.settle l.waiting [] .discarded).Keeps m' := by
  constructor
  · rw [hpending]
    rfl
  · intro e he
    rw [hpending] at he
    simp [PendingQueue.clear] at he
  · rw [hpending]
    simpa [Ledger.evictions, settle, PendingQueue.clear, List.countP_map, Function.comp_def]
      using h.evictions
  · rw [hpending]
    exact h.room

theorem of_queue_eq
    (h : l.Keeps m)
    {m' : Machine}
    (hknown : m'.known = m.known)
    (hpending : m'.pending = m.pending) :
    l.Keeps m' := by
  constructor
  · rw [hpending]
    exact h.queue
  · unfold isKnown
    rw [hpending, hknown]
    exact h.unknown
  · rw [hpending]
    exact h.evictions
  · rw [hpending]
    exact h.room

end Keeps

theorem ready_append_blocked
    (l : Ledger)
    (isKnown : String → Bool) :
    (l.ready isKnown ++ l.blocked isKnown).Perm l.waiting :=
  List.filter_append_perm _ _

/-- What is ready is on other nodes than what is blocked. -/
theorem ready_ne_blocked
    {l : Ledger}
    {isKnown : String → Bool}
    {a w : Arrival}
    (ha : a ∈ l.ready isKnown)
    (hw : w ∈ l.blocked isKnown) :
    a.1.nodeId ≠ w.1.nodeId := by
  intro hnode
  have hready := (List.mem_filter.1 ha).2
  have hblocked := (List.mem_filter.1 hw).2
  simp [hnode] at hready hblocked
  simp [hready] at hblocked

theorem Sound.replay
    {l : Ledger}
    {came : List PendingEntry}
    (h : l.Sound came)
    (isKnown : String → Bool) :
    (l.replay isKnown).Sound came :=
  h.settle (l.ready_append_blocked isKnown) List.filter_sublist List.filter_sublist
    fun _ _ ha _ hw => ready_ne_blocked ha hw

/-- A message that brings no report leaves the ledger, or discards what waits. -/
theorem step_of_no_report
    {l : Ledger}
    {m : Machine}
    {came : List PendingEntry}
    (hkeeps : l.Keeps m)
    (hsound : l.Sound came)
    (now : Timestamp)
    {message : Message}
    (he : (Operation.apply message).arriving? = none) :
    (l.step m now (.apply message)).Keeps (m.apply now message).1 ∧
      (l.step m now (.apply message)).Sound came := by
  obtain ⟨hknown, hpending⟩ := queue_apply_of_no_report he now
  simp only [step, he]
  cases hstarts : (Operation.apply message).starts with
  | true =>
      rw [hstarts, if_pos rfl] at hpending
      refine ⟨hkeeps.discard hpending, ?_⟩
      apply hsound.settle _ (List.Sublist.refl _) (List.nil_sublist _) _
      · rw [List.append_nil]
      · intro hhandled
        simp [Fate.isHandled] at hhandled
  | false =>
      rw [hstarts, if_neg (by simp)] at hpending
      exact ⟨hkeeps.of_queue_eq hknown hpending, hsound⟩

/-- A report on a known node is applied; nothing waits on its node. -/
theorem step_of_known
    {l : Ledger}
    {m : Machine}
    {came : List PendingEntry}
    (hkeeps : l.Keeps m)
    (hsound : l.Sound came)
    (now : Timestamp)
    {message : Message}
    {id : String}
    {report : NodeReport}
    (hd : message.decode = .ok (some (.node id report)))
    (hk : m.isKnown id = true) :
    (l.step m now (.apply message)).Keeps (m.apply now message).1 ∧
      (l.step m now (.apply message)).Sound (came ++ [.ofMessage id message]) := by
  have happly :
      m.apply now message =
        ((m.applyNode now id report).1, .ok (m.applyNode now id report).2) := by
    simp [Machine.apply, hd, hk]
  have hfree : ∀ w ∈ l.waiting, id ≠ w.1.nodeId := by
    rintro w hw rfl
    rw [hkeeps.waiting_unknown hw] at hk
    simp at hk
  simp only [step, arriving?_of_decode hd, happly]
  split
  next hqueued =>
    rw [Except.ok.injEq] at hqueued
    exact absurd hqueued (outcome_applyNode_ne_queued m now id report)
  next =>
    exact ⟨hkeeps.apply now id report _, hsound.apply hfree⟩

/-- A report on another node waits, in place of the oldest one when the queue is full. -/
theorem step_of_unknown
    {l : Ledger}
    {m : Machine}
    {came : List PendingEntry}
    (hkeeps : l.Keeps m)
    (hsound : l.Sound came)
    (now : Timestamp)
    {message : Message}
    {id : String}
    {report : NodeReport}
    (hd : message.decode = .ok (some (.node id report)))
    (hk : m.isKnown id = false) :
    (l.step m now (.apply message)).Keeps (m.apply now message).1 ∧
      (l.step m now (.apply message)).Sound (came ++ [.ofMessage id message]) := by
  have happly :
      m.apply now message =
        (m.requeue m.known (m.pending.enqueue (.ofMessage id message)), .ok .queued) := by
    simp [Machine.apply, hd, hk, requeue]
  simp only [step, arriving?_of_decode hd, happly]
  refine ⟨hkeeps.receive hk, ?_⟩
  split
  · apply Sound.receive
    apply hsound.settle _ (List.take_sublist _ _) (List.drop_sublist _ _) _
    · rw [List.take_append_drop]
    · intro hhandled
      simp [Fate.isHandled] at hhandled
  · exact hsound.receive _

/-- One message keeps the account. -/
theorem step_apply
    {l : Ledger}
    {m : Machine}
    {came : List PendingEntry}
    (hkeeps : l.Keeps m)
    (hsound : l.Sound came)
    (now : Timestamp)
    (message : Message) :
    (l.step m now (.apply message)).Keeps (m.apply now message).1 ∧
      (l.step m now (.apply message)).Sound
        (came ++ (Operation.apply message).arriving?.toList) := by
  cases he : (Operation.apply message).arriving? with
  | none =>
      rw [Option.toList_none, List.append_nil]
      exact step_of_no_report hkeeps hsound now he
  | some e =>
      obtain ⟨id, report, hd, rfl⟩ := decode_of_arriving? he
      rw [Option.toList_some]
      cases hk : m.isKnown id with
      | true =>
          exact step_of_known hkeeps hsound now hd hk
      | false =>
          exact step_of_unknown hkeeps hsound now hd hk

/-- One operation keeps the account. -/
theorem step_keeps
    {l : Ledger}
    {m : Machine}
    {came : List PendingEntry}
    (hkeeps : l.Keeps m)
    (hsound : l.Sound came)
    (now : Timestamp)
    (op : Operation) :
    (l.step m now op).Keeps (m.step now op) ∧
      (l.step m now op).Sound (came ++ op.arriving?.toList) := by
  cases op with
  | apply message =>
      exact step_apply hkeeps hsound now message
  | setKnown ids =>
      rw [Operation.arriving?, Option.toList_none, List.append_nil]
      simp only [step, Machine.step, setKnown, isKnown_replay]
      exact ⟨hkeeps.replay now (.ofList ids), hsound.replay _⟩
  | register ids =>
      rw [Operation.arriving?, Option.toList_none, List.append_nil]
      simp only [step, Machine.step, register_eq_replay hkeeps.unknown, isKnown_replay]
      exact ⟨hkeeps.replay now (m.known.addAll ids), hsound.replay _⟩
  | abort =>
      obtain ⟨hknown, hpending⟩ := queue_abort m now
      rw [Operation.arriving?, Option.toList_none, List.append_nil]
      exact ⟨hkeeps.of_queue_eq hknown hpending, hsound⟩

/-! ### Whole runs -/

/-- A run keeps the account. -/
theorem run_keeps
    {l : Ledger}
    {m : Machine}
    {came : List PendingEntry}
    (hkeeps : l.Keeps m)
    (hsound : l.Sound came)
    (ops : List TimedOperation) :
    (l.run m ops).Keeps (m.run ops) ∧ (l.run m ops).Sound (came ++ arrivals ops) := by
  induction ops generalizing l m came with
  | nil =>
      exact ⟨hkeeps, by simpa [arrivals, run] using hsound⟩
  | cons o ops ih =>
      obtain ⟨hkeeps', hsound'⟩ := step_keeps hkeeps hsound o.1 o.2
      have hrest := ih hkeeps' hsound'
      have hcame :
          came ++ o.2.arriving?.toList ++ arrivals ops = came ++ arrivals (o :: ops) := by
        unfold arrivals
        rw [List.append_assoc, List.filterMap_cons]
        cases o.2.arriving? <;> rfl
      rw [hcame] at hrest
      exact hrest

theorem Keeps.ofCapacity
    (capacity : Nat) :
    Ledger.empty.Keeps (Machine.ofCapacity capacity) where
  queue := rfl
  unknown := by
    simp [Machine.ofCapacity, PendingQueue.ofCapacity]
  evictions := rfl
  room := by
    simp only [Machine.ofCapacity, PendingQueue.ofCapacity]
    omega

/-- Settled reports stay settled. -/
theorem settled_step
    (l : Ledger)
    (m : Machine)
    (now : Timestamp)
    (op : Operation) :
    l.settled <+: (l.step m now op).settled := by
  cases op with
  | apply message =>
      simp only [step]
      split
      · split
        · split
          · exact List.prefix_append _ _
          · exact List.prefix_refl _
        · exact List.prefix_append _ _
      · split
        · exact List.prefix_append _ _
        · exact List.prefix_refl _
  | setKnown ids =>
      exact List.prefix_append _ _
  | register ids =>
      exact List.prefix_append _ _
  | abort =>
      exact List.prefix_refl _

theorem settled_prefix_run
    (l : Ledger)
    (m : Machine)
    (ops : List TimedOperation) :
    l.settled <+: (l.run m ops).settled := by
  induction ops generalizing l m with
  | nil =>
      exact List.prefix_refl _
  | cons o ops ih =>
      exact (l.settled_step m o.1 o.2).trans (ih _ _)

theorem run_append
    (l : Ledger)
    (m : Machine)
    (ops more : List TimedOperation) :
    l.run m (ops ++ more) = (l.run m ops).run (m.run ops) more := by
  induction ops generalizing l m with
  | nil =>
      rfl
  | cons o ops ih =>
      exact ih _ _

theorem Sound.fates_perm
    {l : Ledger}
    {came : List PendingEntry}
    (h : l.Sound came) :
    (l.fates.map Prod.fst).Perm came.zipIdx := by
  have hfst : l.fates.map Prod.fst = l.waiting ++ l.settled.map Prod.fst := by
    simp [fates, Function.comp_def]
  rw [hfst]
  exact h.once

/-- In a sound ledger each report has one fate, or waits and has none. -/
theorem Sound.existsUnique_fate
    {l : Ledger}
    {came : List PendingEntry}
    (h : l.Sound came)
    {a : Arrival}
    (ha : a ∈ came.zipIdx) :
    ∃! fate, (a, fate) ∈ l.fates := by
  have hperm := h.fates_perm
  have hnumbers : (came.zipIdx.map Prod.snd).Nodup := by
    rw [List.zipIdx_map_snd]
    exact List.nodup_range'
  have hnodup : (l.fates.map Prod.fst).Nodup :=
    hperm.nodup_iff.2 (List.Nodup.of_map Prod.snd hnumbers)
  obtain ⟨⟨b, fate⟩, hmem, rfl⟩ := List.mem_map.1 (hperm.symm.subset ha)
  refine ⟨fate, hmem, ?_⟩
  intro other hother
  exact congrArg Prod.snd (List.inj_on_of_nodup_map hnodup hother hmem rfl)

/-- In a sound ledger what was handled on one node was handled in the order of arrival. -/
theorem Sound.handled_inOrder
    {l : Ledger}
    {came : List PendingEntry}
    (h : l.Sound came)
    (id : String) :
    (l.handled.filter fun a => a.1.nodeId = id).Pairwise fun a b => a.2 < b.2 := by
  unfold handled
  rw [List.filter_map]
  apply List.pairwise_map.2
  apply List.Pairwise.imp_of_mem _ ((h.inOrder.sublist List.filter_sublist).sublist
    List.filter_sublist)
  intro s t hs ht hlt
  obtain ⟨hs, hsid⟩ := List.mem_filter.1 hs
  obtain ⟨ht, htid⟩ := List.mem_filter.1 ht
  have hsame : s.1.1.nodeId = t.1.1.nodeId := by
    simp_all
  exact hlt (List.mem_filter.1 hs).2 (List.mem_filter.1 ht).2 hsame

end Ledger

namespace Machine

/-- What is to be said of the reports that came, of the ledger and of the machine. -/
structure Accounted (m : Machine) (l : Ledger) (came : List PendingEntry) : Prop where
  /-- No entry that waits is on a known node. -/
  unknown : ∀ e ∈ m.pending.entries, m.isKnown e.nodeId = false
  /-- What waits in the ledger is the queue. -/
  queue : l.waiting.map Prod.fst = m.pending.entries
  /-- What was evicted in the ledger was dropped from the queue. -/
  evictions : l.evictions = m.pending.dropped
  /-- What is ready in the ledger is what the machine replays, in this order, when other
  nodes become known; the rest waits on. -/
  replays :
    ∀ now known,
      { m with known := known }.replay now =
        (m.requeue known
          { m.pending with entries := (l.blocked known.contains).map Prod.fst }).replayAll now
            ((l.ready known.contains).map Prod.fst)
  /-- Each report that came stands in the ledger once, and nothing else does. -/
  once : (l.fates.map Prod.fst).Perm came.zipIdx
  /-- Each report that came has exactly one fate, or it waits and has none. -/
  oneFate : ∀ a ∈ came.zipIdx, ∃! fate, (a, fate) ∈ l.fates
  /-- The reports on one node were applied and replayed in the order of their arrival. -/
  inOrder : ∀ id, (l.handled.filter fun a => a.1.nodeId = id).Pairwise fun a b => a.2 < b.2

/-- **Account.**  Every run is accounted for at each of its points, and what a fate was
at one point it is at all later ones. -/
theorem accounted_run
    (capacity : Nat)
    (ops : List TimedOperation) :
    Accounted ((ofCapacity capacity).run ops) (Ledger.empty.run (ofCapacity capacity) ops)
        (arrivals ops) ∧
      ∀ more,
        (Ledger.empty.run (ofCapacity capacity) ops).settled <+:
          (Ledger.empty.run (ofCapacity capacity) (ops ++ more)).settled := by
  obtain ⟨hkeeps, hsound⟩ := Ledger.run_keeps (Ledger.Keeps.ofCapacity capacity) .empty ops
  rw [List.nil_append] at hsound
  constructor
  · exact
    { unknown := hkeeps.unknown
      queue := hkeeps.queue
      evictions := hkeeps.evictions
      replays := hkeeps.replay_eq
      once := hsound.fates_perm
      oneFate := fun _ ha => hsound.existsUnique_fate ha
      inOrder := hsound.handled_inOrder }
  · intro more
    rw [Ledger.run_append]
    exact Ledger.settled_prefix_run _ _ more

end Machine
end RemoteRun
