import Mathlib.Data.List.Chain

/-!
# Lists that grow at the end

Runs and histories are lists to which more is appended.

**Splitting.** An item that stands in two lists joined stands in one of them.

**Chains.** What is appended is linked to the last item that was there.

**Permutations.** A part of a list may be moved to its end.

**Searching.** An item that nothing else in the list matches is found.
-/

namespace RemoteRun

variable {α : Type}

/-- An item that stands in two lists joined stands in one of them. -/
theorem split_of_append
    {items more before after : List α}
    {x : α}
    (h : items ++ more = before ++ x :: after) :
    (∃ rest, items = before ++ x :: rest ∧ after = rest ++ more) ∨
      ∃ rest, before = items ++ rest ∧ more = rest ++ x :: after := by
  rcases List.append_eq_append_iff.1 h with ⟨rest, hbefore, hmore⟩ | ⟨rest, hitems, hafter⟩
  · exact Or.inr ⟨rest, hbefore, hmore⟩
  · cases rest with
    | nil =>
        refine Or.inr ⟨[], ?_, ?_⟩
        · simpa using hitems.symm
        · simpa using hafter.symm
    | cons y rest =>
        obtain ⟨rfl, rfl⟩ := List.cons.inj hafter
        exact Or.inl ⟨rest, hitems, rfl⟩

/-- An item that stands in a list with one more item stands in the list or is the last one. -/
theorem split_of_concat
    {items before after : List α}
    {x last : α}
    (h : items ++ [last] = before ++ x :: after) :
    (∃ rest, items = before ++ x :: rest ∧ after = rest ++ [last]) ∨
      before = items ∧ x = last ∧ after = [] := by
  rcases split_of_append h with hbefore | ⟨rest, rfl, hlast⟩
  · exact Or.inl hbefore
  · cases rest with
    | nil =>
        obtain ⟨rfl, rfl⟩ := List.cons.inj hlast
        exact Or.inr ⟨List.append_nil items, rfl, rfl⟩
    | cons y rest =>
        have hlength := congrArg List.length hlast
        simp at hlength

theorem isChain_append_of_last
    {R : α → α → Prop}
    {xs ys : List α}
    {x : α}
    (hx : x ∈ xs.getLast?)
    (hxs : xs.IsChain R)
    (hys : (x :: ys).IsChain R) :
    (xs ++ ys).IsChain R := by
  refine hxs.append (List.isChain_cons.1 hys).2 ?_
  intro y hy
  obtain rfl := Option.mem_unique hx hy
  exact (List.isChain_cons.1 hys).1

theorem getLast?_append_of_last
    {xs : List α}
    {x : α}
    (hx : x ∈ xs.getLast?)
    (ys : List α) :
    (xs ++ ys).getLast? = (x :: ys).getLast? := by
  rw [List.getLast?_append, List.getLast?_cons, Option.mem_def.1 hx]
  cases ys.getLast? <;> rfl

/-- A part in the middle may stand at the end. -/
theorem perm_moved
    (front part back : List α) :
    (front ++ part ++ back).Perm (front ++ back ++ part) := by
  rw [List.append_assoc, List.append_assoc]
  exact List.perm_append_comm.append_left front

theorem find?_eq_some_of_unique
    {items : List α}
    {p : α → Bool}
    {x : α}
    (hx : x ∈ items)
    (hp : p x = true)
    (hunique : ∀ y ∈ items, p y = true → y = x) :
    items.find? p = some x := by
  obtain ⟨y, hy⟩ := Option.isSome_iff_exists.1 (List.find?_isSome.2 ⟨x, hx, hp⟩)
  rw [hy, hunique y (List.mem_of_find?_eq_some hy) (List.find?_some hy)]

end RemoteRun
