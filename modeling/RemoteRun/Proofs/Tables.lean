import Mathlib.Data.List.Perm.Basic
import RemoteRun.Keyed.Table

/-!
# Images, values and sets of tables

Facts about tables that the theory of the state needs and the running program does
not.

**Images.** `Table.map` changes every value and keeps the keys; lookups and
insertions go through it.

**Values.** An insertion exchanges at most one value: `Table.values_insert_perm` says
so up to order, so that every count and every sum over the values follows.

**Sets.** Two sets of ids with the same members are equal.
-/

namespace RemoteRun
namespace Entries

variable {α β : Type}

theorem get?_map
    (es : Entries α)
    (f : α → β)
    (key : String) :
    get? (es.map fun e => (e.1, f e.2)) key = (get? es key).map f := by
  induction es with
  | nil =>
      rfl
  | cons e es ih =>
      obtain ⟨k, v⟩ := e
      simp only [List.map_cons, get?_cons, ih]
      by_cases h : k = key <;> simp [h]

theorem get?_append
    (es fs : Entries α)
    (key : String) :
    get? (es ++ fs) key = (get? es key).or (get? fs key) := by
  induction es with
  | nil =>
      rfl
  | cons e es ih =>
      obtain ⟨k, v⟩ := e
      rw [List.cons_append, get?_cons, get?_cons, ih]
      by_cases hk : k = key <;> simp [hk]

theorem Ascending.map
    {es : Entries α}
    (h : Ascending es)
    (f : α → β) :
    Ascending (es.map fun e => (e.1, f e.2)) :=
  List.Pairwise.map _ (fun _ _ hlt => hlt) h

/-- Insertion under a new key adds one entry, up to order. -/
theorem insert_perm
    {es : Entries α}
    {key : String}
    (hnew : get? es key = none)
    (value : α) :
    (es.insert key value).Perm ((key, value) :: es) := by
  induction es with
  | nil =>
      exact List.Perm.refl _
  | cons e es ih =>
      obtain ⟨k, v⟩ := e
      have hne : key ≠ k := by
        rintro rfl
        simp [get?_cons] at hnew
      have hrest : get? es key = none := by
        simpa [get?_cons, hne.symm] using hnew
      unfold insert
      by_cases hlt : key < k
      · simp [hlt]
      · simp only [hlt, hne, if_false]
        exact ((ih hrest).cons (k, v)).trans (List.Perm.swap (key, value) (k, v) es)

/-- Insertion under a new key adds one entry. -/
theorem mem_insert_iff
    {es : Entries α}
    {key : String}
    (hnew : get? es key = none)
    (value : α)
    (e : String × α) :
    e ∈ es.insert key value ↔ e = (key, value) ∨ e ∈ es := by
  rw [(insert_perm hnew value).mem_iff, List.mem_cons]

/-- Dropping a key takes away one entry, up to order. -/
theorem perm_cons_erase
    {es : Entries α}
    {key : String}
    {value : α}
    (h : get? es key = some value) :
    es.Perm ((key, value) :: es.erase key) := by
  induction es with
  | nil =>
      simp at h
  | cons e es ih =>
      obtain ⟨k, v⟩ := e
      unfold erase
      by_cases hk : k = key
      · simp only [get?_cons, hk, if_true, Option.some.injEq] at h
        simp [hk, h]
      · simp only [get?_cons, hk, if_false] at h ⊢
        exact ((ih h).cons (k, v)).trans (List.Perm.swap (key, value) (k, v) _)

theorem mem_or_mem_of_mem_insertAll
    {es : Entries α}
    {pairs : List (String × α)}
    {e : String × α}
    (h : e ∈ es.insertAll pairs) :
    e ∈ es ∨ e ∈ pairs := by
  induction pairs generalizing es with
  | nil =>
      exact Or.inl h
  | cons p pairs ih =>
      rcases ih h with he | he
      · rcases mem_insert he with rfl | he
        · exact Or.inr List.mem_cons_self
        · exact Or.inl he
      · exact Or.inr (List.mem_cons_of_mem p he)

/-- Collected pairs are pairs that were there. -/
theorem mem_of_mem_ofPairs
    {pairs : List (String × α)}
    {e : String × α}
    (h : e ∈ ofPairs pairs) :
    e ∈ pairs := by
  rcases mem_or_mem_of_mem_insertAll h with h | h
  · simp at h
  · exact h

/-- The keys of ascending entries differ. -/
theorem Ascending.nodup_keys
    {es : Entries α}
    (h : Ascending es) :
    es.keys.Nodup :=
  List.Pairwise.map Prod.fst (fun _ _ hlt => ne_of_lt hlt) h

/-- Inserted pairs win over what was there. -/
theorem get?_insertAll
    (es : Entries α)
    {pairs : List (String × α)}
    (h : (keys pairs).Nodup)
    (key : String) :
    get? (es.insertAll pairs) key = (get? pairs key).or (get? es key) := by
  induction pairs generalizing es with
  | nil =>
      rfl
  | cons p pairs ih =>
      obtain ⟨k, v⟩ := p
      obtain ⟨hnew, hpairs⟩ := List.nodup_cons.1 h
      have hstep :
          get? (es.insertAll ((k, v) :: pairs)) key =
            (get? pairs key).or (get? (es.insert k v) key) :=
        ih (es.insert k v) hpairs
      rw [hstep, get?_insert, get?_cons]
      by_cases hk : k = key
      · subst hk
        have hnone : get? pairs k = none := by
          have hkeys : k ∉ keys pairs := hnew
          simpa [mem_keys_iff] using hkeys
        simp [hnone]
      · simp [hk]

/-- Ascending entries are their own collection. -/
theorem ofPairs_of_ascending
    {es : Entries α}
    (h : Ascending es) :
    ofPairs es = es := by
  refine (ascending_ofPairs es).ext h ?_
  intro key
  simp [ofPairs, get?_insertAll [] h.nodup_keys key]

/-- Ascending entries are given by their members. -/
theorem Ascending.ext_mem
    {es fs : Entries α}
    (hes : es.Ascending)
    (hfs : fs.Ascending)
    (h : ∀ e, e ∈ es ↔ e ∈ fs) :
    es = fs := by
  apply hes.ext hfs
  intro key
  cases hf : fs.get? key with
  | some value =>
      exact get?_of_mem hes ((h _).2 (mem_of_get? hf))
  | none =>
      cases he : es.get? key with
      | none =>
          rfl
      | some value =>
          have hfound := get?_of_mem hfs ((h _).1 (mem_of_get? he))
          rw [hf] at hfound
          cases hfound

/-- Dropping a key leaves the entries under all others, in whatever order they stand. -/
theorem mem_erase_of_ne
    {es : Entries α}
    {key : String}
    {e : String × α}
    (he : e ∈ es)
    (hne : e.1 ≠ key) :
    e ∈ es.erase key := by
  induction es with
  | nil =>
      cases he
  | cons d es ih =>
      obtain ⟨k, v⟩ := d
      unfold erase
      by_cases hk : k = key
      · rcases List.mem_cons.1 he with rfl | hlater
        · exact absurd hk hne
        · simpa only [hk, if_true] using hlater
      · rw [if_neg hk]
        rcases List.mem_cons.1 he with rfl | hlater
        · exact List.mem_cons_self
        · exact List.mem_cons_of_mem _ (ih hlater)

theorem get?_erase_of_ne
    (es : Entries α)
    {key other : String}
    (hne : key ≠ other) :
    (es.erase key).get? other = es.get? other := by
  induction es with
  | nil =>
      rfl
  | cons e es ih =>
      obtain ⟨k, v⟩ := e
      unfold erase
      by_cases hk : k = key
      · have hother : k ≠ other := hk ▸ hne
        rw [if_pos hk, get?_cons, if_neg hother]
      · rw [if_neg hk, get?_cons, get?_cons, ih]

theorem mem_erase_iff
    {es : Entries α}
    (hes : es.Ascending)
    (key : String)
    (e : String × α) :
    e ∈ es.erase key ↔ e ∈ es ∧ e.1 ≠ key := by
  obtain ⟨k, v⟩ := e
  constructor
  · intro h
    refine ⟨mem_of_mem_erase h, ?_⟩
    rintro rfl
    have hfound := get?_of_mem (hes.erase k) h
    simp [get?_erase hes] at hfound
  · rintro ⟨h, hne⟩
    exact mem_erase_of_ne h hne

/-- Dropping a key undoes what was put under it. -/
theorem erase_insert_eq_erase
    {es : Entries α}
    (hes : es.Ascending)
    (key : String)
    (value : α) :
    (es.insert key value).erase key = es.erase key := by
  apply ((hes.insert key value).erase key).ext (hes.erase key)
  intro other
  rw [get?_erase (hes.insert key value), get?_erase hes, get?_insert]
  by_cases h : key = other <;> simp [h]

/-- Dropping a key that is not there changes nothing. -/
theorem erase_of_get?_eq_none
    {es : Entries α}
    {key : String}
    (h : get? es key = none) :
    es.erase key = es := by
  induction es with
  | nil =>
      rfl
  | cons e es ih =>
      obtain ⟨k, v⟩ := e
      have hne : k ≠ key := by
        rintro rfl
        simp [get?_cons] at h
      simp only [get?_cons, hne, if_false] at h
      simp [erase, hne, ih h]

/-- Dropping a key that was just put in leads back. -/
theorem erase_insert
    {es : Entries α}
    {key : String}
    (hes : Ascending es)
    (hnew : get? es key = none)
    (value : α) :
    (es.insert key value).erase key = es := by
  rw [erase_insert_eq_erase hes, erase_of_get?_eq_none hnew]

/-- Insertions under different keys commute. -/
theorem insert_comm
    {es : Entries α}
    (hes : Ascending es)
    {key other : String}
    (h : key ≠ other)
    (v w : α) :
    (es.insert key v).insert other w = (es.insert other w).insert key v := by
  apply Ascending.ext ((hes.insert key v).insert other w) ((hes.insert other w).insert key v)
  intro k
  simp only [get?_insert]
  by_cases h1 : key = k
  · subst h1
    simp [h.symm]
  · simp [h1]

/-- The values after an insertion and the value that gave way are the values before
it and the new one. -/
theorem values_insert_perm
    {es : Entries α}
    (h : Ascending es)
    (key : String)
    (value : α) :
    ((es.insert key value).map Prod.snd ++ (get? es key).toList).Perm
      (value :: es.map Prod.snd) := by
  induction es with
  | nil =>
      simp [insert]
  | cons e es ih =>
      obtain ⟨k, v⟩ := e
      unfold insert
      by_cases hlt : key < k
      · have hnone : get? ((k, v) :: es) key = none := by
          apply get?_eq_none_of_lt
          intro e he
          rcases List.mem_cons.1 he with rfl | he
          · exact hlt
          · exact String.lt_trans hlt (h.head_lt e he)
        simp [hlt, hnone]
      · by_cases heq : key = k
        · subst heq
          simp only [hlt, if_false, if_true, get?_cons, List.map_cons, Option.toList_some]
          exact (List.perm_append_singleton v _).cons value
        · have hne : k ≠ key := fun e => heq e.symm
          simp only [hlt, heq, hne, if_false, get?_cons, List.map_cons, List.cons_append]
          exact ((ih h.tail).cons v).trans (List.Perm.swap value v _)

end Entries

namespace Table

variable {α β : Type}

theorem contains_erase
    (t : Table α)
    (key other : String) :
    (t.erase key).contains other = (!decide (key = other) && t.contains other) := by
  unfold contains
  rw [get?_erase]
  by_cases h : key = other <;> simp [h]

@[simp] theorem contains_empty
    (key : String) :
    (empty : Table α).contains key = false :=
  rfl

/-- Putting back the value of a key changes nothing. -/
theorem insert_of_get?
    {t : Table α}
    {key : String}
    {value : α}
    (h : t.get? key = some value) :
    t.insert key value = t := by
  ext1 other
  rw [get?_insert]
  by_cases hk : key = other
  · subst hk
    simp [h]
  · simp [hk]

/-- Insertions under different keys commute. -/
theorem insert_comm
    (t : Table α)
    {key other : String}
    (h : key ≠ other)
    (v w : α) :
    (t.insert key v).insert other w = (t.insert other w).insert key v := by
  ext1 k
  exact congrArg (Entries.get? · k) (Entries.insert_comm t.ascending h v w)

theorem values_insert_perm
    (t : Table α)
    (key : String)
    (value : α) :
    ((t.insert key value).values ++ (t.get? key).toList).Perm (value :: t.values) :=
  Entries.values_insert_perm t.ascending key value

/-- The image of a table under a function of its values. -/
def map (t : Table α) (f : α → β) : Table β :=
  ⟨t.entries.map fun e => (e.1, f e.2), t.ascending.map f⟩

@[simp] theorem get?_map
    (t : Table α)
    (f : α → β)
    (key : String) :
    (t.map f).get? key = (t.get? key).map f :=
  Entries.get?_map t.entries f key

theorem values_map
    (t : Table α)
    (f : α → β) :
    (t.map f).values = t.values.map f := by
  simp [map, values, Function.comp_def]

theorem map_insert
    (t : Table α)
    (key : String)
    (value : α)
    (f : α → β) :
    (t.insert key value).map f = (t.map f).insert key (f value) := by
  ext1 other
  simp only [get?_map, get?_insert]
  by_cases h : key = other <;> simp [h]

end Table

namespace IdSet

/-- A set is given by its members. -/
theorem ext_contains
    {s t : IdSet}
    (h : ∀ id, s.contains id = t.contains id) :
    s = t := by
  apply Table.ext
  intro id
  have hid := h id
  unfold Table.contains at hid
  cases hs : s.get? id <;> cases ht : t.get? id <;> simp_all

theorem addAll_append
    (s : IdSet)
    (ids more : List String) :
    s.addAll (ids ++ more) = (s.addAll ids).addAll more :=
  List.foldl_append

/-- Ids that are members already add nothing. -/
theorem addAll_of_all_contains
    (s : IdSet)
    (ids : List String)
    (h : ids.all s.contains = true) :
    s.addAll ids = s := by
  apply ext_contains
  intro id
  rw [contains_addAll]
  by_cases hid : id ∈ ids
  · have := List.all_eq_true.1 h id hid
    simp [hid, this]
  · simp [hid]

end IdSet

end RemoteRun
