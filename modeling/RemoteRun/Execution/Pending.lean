import RemoteRun.Inbound.Message

/-!
# Pending reports

Reports on nodes that are not known yet, in the order of their arrival.

**Results.** An entry leaves the queue once: taken when its node becomes known,
cleared when an execution starts, or evicted as the oldest one when the queue is
full.  `dropped` counts the evicted ones.
-/

namespace RemoteRun

/-- A report that waits for its node. -/
structure PendingEntry where
  kind : String
  nodeId : String
  payload : Json

namespace PendingEntry

/-- The entry of a message under a node. -/
def ofMessage (nodeId : String) (m : Message) : PendingEntry :=
  ⟨m.kind, nodeId, m.payload⟩

end PendingEntry

/-- A bounded queue of entries, oldest first, and the number of evicted ones.  That number is
idealised: it has no bound, where a machine counts in a word. -/
structure PendingQueue where
  entries : List PendingEntry
  capacity : Nat
  dropped : Nat

namespace PendingQueue

/-- The queue without entries; it has room for at least one. -/
def ofCapacity (capacity : Nat) : PendingQueue :=
  ⟨[], max capacity 1, 0⟩

/-- The number of entries. -/
def size (q : PendingQueue) : Nat := q.entries.length

/-- Whether another entry would evict the oldest one. -/
def isFull (q : PendingQueue) : Bool := decide (q.capacity ≤ q.entries.length)

/-- The entry that the next one would evict. -/
def evicted? (q : PendingQueue) : Option PendingEntry :=
  if q.isFull then q.entries.head? else none

/-- Append an entry, in place of the oldest one when the queue is full. -/
def enqueue (q : PendingQueue) (e : PendingEntry) : PendingQueue :=
  if q.isFull then { q with entries := q.entries.tail ++ [e], dropped := q.dropped + 1 }
  else { q with entries := q.entries ++ [e] }

/-- The entries whose node is known. -/
def ready (q : PendingQueue) (isKnown : String → Bool) : List PendingEntry :=
  q.entries.filter fun e => isKnown e.nodeId

/-- Keep the entries whose node is not known. -/
def withoutReady (q : PendingQueue) (isKnown : String → Bool) : PendingQueue :=
  { q with entries := q.entries.filter fun e => !isKnown e.nodeId }

/-- Drop every entry. -/
def clear (q : PendingQueue) : PendingQueue :=
  { q with entries := [] }

end PendingQueue

end RemoteRun
