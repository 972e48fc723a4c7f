import RemoteRun.Execution.Pending
import RemoteRun.Proofs.Lists

/-!
# The books of the queue

Entries come to a queue one at a time, and leave it in three ways: taken because their node
is known, evicted because the queue is full, or dropped all together.

**Books.** `QueueBooks` notes beside a queue what came to it and what left it in each way.
Both the numbers and the entries themselves must balance: `QueueBooks.Sound`.

**Single actions.** `PendingQueue.Receives` says what one more entry does, and
`PendingQueue.Parts` what is taken and what is kept, without naming how it is found.

**Results.** `books_balance`: after any actions on a queue of any capacity, the books are
sound, and the next action does what it should.
-/

namespace RemoteRun

/-- What may be done to a queue. -/
inductive QueueAction where
  | enqueue (e : PendingEntry)
  | take (isKnown : String → Bool)
  | clear

namespace PendingQueue

/-- What one more entry does to a queue with room for `bound` entries. -/
inductive Receives (bound : Nat) (q : PendingQueue) (e : PendingEntry) : Prop
  /-- While there is room, nothing is evicted. -/
  | room
      (hsize : q.size < bound)
      (hevicted : q.evicted? = none)
      (hentries : (q.enqueue e).entries = q.entries ++ [e])
      (hdropped : (q.enqueue e).dropped = q.dropped)
  /-- A full queue evicts its oldest entry, answers with it and counts it. -/
  | full
      (oldest : PendingEntry)
      (others : List PendingEntry)
      (hsize : q.size = bound)
      (hbefore : q.entries = oldest :: others)
      (hevicted : q.evicted? = some oldest)
      (hentries : (q.enqueue e).entries = others ++ [e])
      (hdropped : (q.enqueue e).dropped = q.dropped + 1)

/-- The entries of known nodes are taken and the others are kept, each in their order. -/
structure Parts (q : PendingQueue) (isKnown : String → Bool) : Prop where
  taken_known : ∀ e ∈ q.ready isKnown, isKnown e.nodeId = true
  kept_unknown : ∀ e ∈ (q.withoutReady isKnown).entries, isKnown e.nodeId = false
  taken_inOrder : (q.ready isKnown).Sublist q.entries
  kept_inOrder : (q.withoutReady isKnown).entries.Sublist q.entries
  whole : (q.ready isKnown ++ (q.withoutReady isKnown).entries).Perm q.entries
  dropped : (q.withoutReady isKnown).dropped = q.dropped

@[simp] theorem capacity_enqueue
    (q : PendingQueue)
    (e : PendingEntry) :
    (q.enqueue e).capacity = q.capacity := by
  unfold enqueue
  split <;> rfl

theorem parts
    (q : PendingQueue)
    (isKnown : String → Bool) :
    q.Parts isKnown where
  taken_known := by
    intro e he
    exact (List.mem_filter.1 he).2
  kept_unknown := by
    intro e he
    simpa using (List.mem_filter.1 he).2
  taken_inOrder := List.filter_sublist
  kept_inOrder := List.filter_sublist
  whole := List.filter_append_perm _ q.entries
  dropped := rfl

/-- A queue that holds no more than it has room for takes one more entry. -/
theorem receives
    {q : PendingQueue}
    (hpositive : 0 < q.capacity)
    (hsize : q.size ≤ q.capacity)
    (e : PendingEntry) :
    q.Receives q.capacity e := by
  unfold size at hsize
  by_cases hroom : q.entries.length < q.capacity
  · have hfull : q.isFull = false := by
      simpa [isFull] using hroom
    exact .room hroom (by simp [evicted?, hfull]) (by simp [enqueue, hfull])
      (by simp [enqueue, hfull])
  · have hfull : q.isFull = true := by
      simp only [isFull, decide_eq_true_eq]
      omega
    cases hentries : q.entries with
    | nil =>
        rw [hentries, List.length_nil] at hroom
        exact absurd hpositive hroom
    | cons oldest others =>
        refine .full oldest others ?_ hentries ?_ ?_ ?_
        · unfold size
          omega
        · simp [evicted?, hfull, hentries]
        · simp [enqueue, hfull, hentries]
        · simp [enqueue, hfull]

end PendingQueue

/-- A queue with the entries that came to it, those that were taken, evicted and dropped all
together, and the number that was answered for the last. -/
structure QueueBooks where
  queue : PendingQueue
  came : List PendingEntry := []
  taken : List PendingEntry := []
  evicted : List PendingEntry := []
  discarded : List PendingEntry := []
  cleared : Nat := 0

namespace QueueBooks

/-- The books of a new queue. -/
def ofCapacity (capacity : Nat) : QueueBooks :=
  { queue := .ofCapacity capacity }

/-- The books after an action. -/
def act (b : QueueBooks) : QueueAction → QueueBooks
  | .enqueue e =>
      { b with
        queue := b.queue.enqueue e
        came := b.came ++ [e]
        evicted := b.evicted ++ b.queue.evicted?.toList }
  | .take isKnown =>
      { b with
        queue := b.queue.withoutReady isKnown
        taken := b.taken ++ b.queue.ready isKnown }
  | .clear =>
      { b with
        queue := b.queue.clear
        discarded := b.discarded ++ b.queue.entries
        cleared := b.cleared + b.queue.size }

/-- The books after actions, one after the other. -/
def run (b : QueueBooks) (actions : List QueueAction) : QueueBooks :=
  actions.foldl act b

/-- The entries that left, and behind them those that are there. -/
def all (b : QueueBooks) : List PendingEntry :=
  b.taken ++ (b.discarded ++ b.evicted) ++ b.queue.entries

/-- The books of a queue with room for `bound` entries balance. -/
structure Sound (bound : Nat) (b : QueueBooks) : Prop where
  capacity : b.queue.capacity = bound
  size_le : b.queue.size ≤ bound
  dropped : b.queue.dropped = b.evicted.length
  cleared : b.cleared = b.discarded.length
  /-- What is there stands in the order in which it came. -/
  inOrder : b.queue.entries.Sublist b.came
  /-- Whatever came left once or is there once. -/
  whole : b.all.Perm b.came

namespace Sound

variable {bound : Nat} {b : QueueBooks}

theorem ofCapacity
    (capacity : Nat) :
    (QueueBooks.ofCapacity capacity).Sound (max capacity 1) where
  capacity := rfl
  size_le := Nat.zero_le _
  dropped := rfl
  cleared := rfl
  inOrder := List.Sublist.refl []
  whole := List.Perm.refl []

theorem receives
    (h : b.Sound bound)
    (hbound : 0 < bound)
    (e : PendingEntry) :
    b.queue.Receives bound e := by
  have hsize := h.size_le
  rw [← h.capacity] at hbound hsize ⊢
  exact PendingQueue.receives hbound hsize e

theorem enqueue
    (h : b.Sound bound)
    (hbound : 0 < bound)
    (e : PendingEntry) :
    (b.act (.enqueue e)).Sound bound := by
  have hcapacity : (b.queue.enqueue e).capacity = bound := by
    rw [PendingQueue.capacity_enqueue, h.capacity]
  have hwhole := h.whole.append_right [e]
  cases h.receives hbound e with
  | room hsize hevicted hentries hdropped =>
      refine ⟨hcapacity, ?_, ?_, h.cleared, ?_, ?_⟩
      · simp only [act, PendingQueue.size, hentries, List.length_append, List.length_singleton]
        exact hsize
      · simpa [act, hevicted, hdropped] using h.dropped
      · simp only [act, hentries]
        exact h.inOrder.append (List.Sublist.refl [e])
      · simpa [all, act, hevicted, hentries] using hwhole
  | full oldest others hsize hbefore hevicted hentries hdropped =>
      refine ⟨hcapacity, ?_, ?_, h.cleared, ?_, ?_⟩
      · have hlength : (others ++ [e]).length = b.queue.entries.length := by
          simp [hbefore]
        simp only [act, PendingQueue.size, hentries, hlength]
        exact h.size_le
      · simp [act, hevicted, hdropped, h.dropped]
      · have hothers : others.Sublist b.came :=
          (List.sublist_cons_self oldest others).trans (hbefore ▸ h.inOrder)
        simp only [act, hentries]
        exact hothers.append (List.Sublist.refl [e])
      · simpa [all, act, hevicted, hentries, hbefore] using hwhole

/-- What is taken moves from one account to another. -/
theorem take
    (h : b.Sound bound)
    (isKnown : String → Bool) :
    (b.act (.take isKnown)).Sound bound := by
  have hparts := b.queue.parts isKnown
  have hall : (b.act (.take isKnown)).all.Perm b.all := by
    simp only [all, QueueBooks.act]
    refine ((perm_moved b.taken (b.queue.ready isKnown) _).append_right _).trans ?_
    rw [List.append_assoc (b.taken ++ _)]
    exact hparts.whole.append_left _
  exact ⟨h.capacity, Nat.le_trans hparts.kept_inOrder.length_le h.size_le, h.dropped, h.cleared,
    hparts.kept_inOrder.trans h.inOrder, hall.trans h.whole⟩

/-- What is there is dropped, and its number is answered. -/
theorem clear
    (h : b.Sound bound) :
    (b.act .clear).Sound bound := by
  have hall : (b.act .clear).all.Perm b.all := by
    simp only [all, QueueBooks.act, PendingQueue.clear, List.append_nil]
    have hmoved := perm_moved (b.taken ++ b.discarded) b.queue.entries b.evicted
    simpa only [List.append_assoc] using hmoved
  refine ⟨h.capacity, Nat.zero_le _, h.dropped, ?_, List.nil_sublist _, hall.trans h.whole⟩
  simp [QueueBooks.act, PendingQueue.size, h.cleared]

/-- Every action keeps the books sound. -/
theorem act
    (h : b.Sound bound)
    (hbound : 0 < bound)
    (a : QueueAction) :
    (b.act a).Sound bound := by
  cases a with
  | enqueue e =>
      exact h.enqueue hbound e
  | take isKnown =>
      exact h.take isKnown
  | clear =>
      exact h.clear

theorem run
    (h : b.Sound bound)
    (hbound : 0 < bound)
    (actions : List QueueAction) :
    (b.run actions).Sound bound := by
  induction actions generalizing b with
  | nil =>
      exact h
  | cons a actions ih =>
      exact ih (h.act hbound a)

/-- As many entries came as left or are there. -/
theorem length_came
    (h : b.Sound bound) :
    b.came.length = b.taken.length + b.cleared + b.queue.dropped + b.queue.size := by
  rw [← h.whole.length_eq, h.cleared, h.dropped]
  simp only [all, List.length_append, PendingQueue.size]
  omega

end Sound

/-- **The books balance.**  Whatever capacity is asked for and whatever is done to a queue:
it never holds more than it has room for; the entries that came are, in number and one by
one, those that were taken, dropped all together, evicted or are there; what is there stands
in the order in which it came; one more entry evicts the oldest one, and only from a full
queue; and what is taken next are the entries of the known nodes, in order, while the others
stay in order. -/
theorem books_balance
    (capacity : Nat)
    (actions : List QueueAction) :
    let b := (ofCapacity capacity).run actions
    b.queue.size ≤ max capacity 1 ∧
    b.came.length = b.taken.length + b.cleared + b.queue.dropped + b.queue.size ∧
    b.all.Perm b.came ∧
    b.queue.entries.Sublist b.came ∧
    (∀ e, b.queue.Receives (max capacity 1) e) ∧
    ∀ isKnown, b.queue.Parts isKnown := by
  intro b
  have hbound : 0 < max capacity 1 := by
    omega
  have hsound : b.Sound (max capacity 1) :=
    (Sound.ofCapacity capacity).run hbound actions
  exact ⟨hsound.size_le, hsound.length_came, hsound.whole, hsound.inOrder,
    hsound.receives hbound, b.queue.parts⟩

end QueueBooks

end RemoteRun
