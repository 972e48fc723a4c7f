/-!
# Registries

Listeners in the order of their registration, each under an id of its own.

**Results.** Ids count up from one and are never used twice.  Removing a listener
keeps the order of the others.  A subscription can be ended once; ending it again,
or when the registry is gone, does nothing.
-/

namespace RemoteRun

/-- Registered listeners with their ids.  The next id is a number without a bound, where a
machine counts in words of 64 bits: ids are idealised as never running out. -/
structure Registry (ε : Type) where
  nextId : Nat := 1
  entries : List (Nat × ε) := []

/-- The right to end one registration. -/
structure Subscription where
  id : Nat
  active : Bool
deriving DecidableEq

namespace Registry

variable {ε : Type}

/-- Register a listener. -/
def insert (r : Registry ε) (entry : ε) : Registry ε × Subscription :=
  (⟨r.nextId + 1, r.entries ++ [(r.nextId, entry)]⟩, ⟨r.nextId, true⟩)

/-- Whether an id is registered. -/
def contains (r : Registry ε) (id : Nat) : Bool :=
  r.entries.any fun e => e.1 == id

/-- Remove the listener with an id. -/
def detach (r : Registry ε) (id : Nat) : Registry ε :=
  { r with entries := r.entries.filter fun e => e.1 != id }

/-- The listeners in order. -/
def listeners (r : Registry ε) : List ε :=
  r.entries.map Prod.snd

/-- The number of listeners. -/
def size (r : Registry ε) : Nat :=
  r.entries.length

/-- End a subscription: the registry, the subscription, and whether this call
removed the listener. -/
def unsubscribe (r : Registry ε) (s : Subscription) : Registry ε × Subscription × Bool :=
  if s.active then (r.detach s.id, { s with active := false }, r.contains s.id)
  else (r, s, false)

end Registry

end RemoteRun
