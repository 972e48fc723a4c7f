/-!
# Keyed entries

Lists of key and value pairs, kept strictly ascending in the key.

**Order.** Keys are compared as strings, by code point.  This is also the byte
order of their encoding, so a written object lists its keys in byte order.

**Results.** `insert` and `erase` keep a list ascending, `get?` after either is
given by one equation each, and two ascending lists with the same lookups are
equal.
-/

namespace RemoteRun

/-- Key and value pairs in list order. -/
abbrev Entries (α : Type) := List (String × α)

namespace Entries

variable {α : Type}

/-- Strictly ascending keys. -/
def Ascending (es : Entries α) : Prop :=
  es.Pairwise (fun a b => a.1 < b.1)

/-- The value of a key. -/
def get? : Entries α → String → Option α
  | [], _ => none
  | (k, v) :: es, key => if k = key then some v else get? es key

/-- Put a value under a key, at the key's place in the order. -/
def insert : Entries α → String → α → Entries α
  | [], key, value => [(key, value)]
  | (k, v) :: es, key, value =>
      if key < k then (key, value) :: (k, v) :: es
      else if key = k then (key, value) :: es
      else (k, v) :: insert es key value

/-- Drop a key. -/
def erase : Entries α → String → Entries α
  | [], _ => []
  | (k, v) :: es, key => if k = key then es else (k, v) :: erase es key

/-- The keys in order. -/
def keys (es : Entries α) : List String :=
  es.map Prod.fst

/-- Insert pairs one after the other; the last value of a key stays. -/
def insertAll (es : Entries α) (pairs : List (String × α)) : Entries α :=
  pairs.foldl (fun acc p => insert acc p.1 p.2) es

/-- The ascending entries of a list of pairs; the last value of a key wins. -/
def ofPairs (pairs : List (String × α)) : Entries α :=
  insertAll [] pairs

/-- Keys are totally ordered. -/
theorem lt_or_eq_or_gt (a b : String) : a < b ∨ a = b ∨ b < a := by
  rcases Decidable.em (a < b) with h | h
  · exact .inl h
  · rcases Decidable.em (b < a) with g | g
    · exact .inr (.inr g)
    · exact .inr (.inl (String.le_antisymm g h))

theorem ne_of_lt {a b : String} (h : a < b) : a ≠ b := by
  intro e
  subst e
  exact String.lt_irrefl a h

@[simp] theorem get?_nil (key : String) : get? ([] : Entries α) key = none := rfl

theorem get?_cons (k : String) (v : α) (es : Entries α) (key : String) :
    get? ((k, v) :: es) key = if k = key then some v else get? es key := rfl

/-- A key in the list is a key of the list. -/
theorem mem_keys_iff (es : Entries α) (key : String) :
    key ∈ es.keys ↔ (es.get? key).isSome := by
  induction es with
  | nil => simp [keys]
  | cons e es ih =>
      obtain ⟨k, v⟩ := e
      simp only [keys, List.map_cons, List.mem_cons, get?_cons] at *
      by_cases h : k = key
      · simp [h]
      · have h' : key ≠ k := fun e => h e.symm
        simp [h, h', ih]

/-- A found value is an entry. -/
theorem mem_of_get? {es : Entries α} {key : String} {value : α}
    (h : es.get? key = some value) : (key, value) ∈ es := by
  induction es with
  | nil => simp at h
  | cons e es ih =>
      obtain ⟨k, v⟩ := e
      rw [get?_cons] at h
      by_cases hk : k = key
      · simp_all
      · simp only [hk, if_false] at h
        exact List.mem_cons_of_mem _ (ih h)

theorem Ascending.tail {e : String × α} {es : Entries α}
    (h : Ascending (e :: es)) : Ascending es :=
  (List.pairwise_cons.1 h).2

theorem Ascending.head_lt {k : String} {v : α} {es : Entries α}
    (h : Ascending ((k, v) :: es)) : ∀ e ∈ es, k < e.1 :=
  (List.pairwise_cons.1 h).1

/-- Below the first key there is nothing to find. -/
theorem get?_eq_none_of_lt {es : Entries α} {key : String}
    (h : ∀ e ∈ es, key < e.1) : es.get? key = none := by
  cases hg : es.get? key with
  | none => rfl
  | some v => exact absurd (h _ (mem_of_get? hg)) (String.lt_irrefl key)

/-- In ascending entries every entry is found. -/
theorem get?_of_mem {es : Entries α} (h : Ascending es) {key : String} {value : α}
    (hm : (key, value) ∈ es) : es.get? key = some value := by
  induction es with
  | nil => simp at hm
  | cons e es ih =>
      obtain ⟨k, v⟩ := e
      rw [get?_cons]
      rcases List.mem_cons.1 hm with hm | hm
      · simp_all
      · have hlt := h.head_lt _ hm
        have hne : k ≠ key := ne_of_lt hlt
        simp [hne, ih h.tail hm]

/-- Reading after an insertion. -/
theorem get?_insert (es : Entries α) (key : String) (value : α) (other : String) :
    (es.insert key value).get? other = if key = other then some value else es.get? other := by
  induction es with
  | nil => simp [insert, get?_cons]
  | cons e es ih =>
      obtain ⟨k, v⟩ := e
      unfold insert
      by_cases h1 : key < k
      · simp [h1, get?_cons]
      · by_cases h2 : key = k
        · subst h2
          simp only [h1, if_false, if_true, get?_cons]
          by_cases h3 : key = other <;> simp [h3]
        · simp only [h1, h2, if_false, get?_cons, ih]
          by_cases h3 : k = other
          · subst h3
            simp [h2]
          · simp [h3]

/-- What an insertion puts in the list. -/
theorem mem_insert {es : Entries α} {key : String} {value : α} {e : String × α}
    (h : e ∈ es.insert key value) : e = (key, value) ∨ e ∈ es := by
  induction es with
  | nil => simp [insert] at h; exact .inl h
  | cons e' es ih =>
      obtain ⟨k, v⟩ := e'
      unfold insert at h
      by_cases h1 : key < k
      · simp only [h1, if_true, List.mem_cons] at h ⊢
        rcases h with h | h | h <;> simp [h]
      · by_cases h2 : key = k
        · subst h2
          simp only [h1, if_false, if_true, List.mem_cons] at h ⊢
          rcases h with h | h <;> simp [h]
        · simp only [h1, h2, if_false, List.mem_cons] at h ⊢
          rcases h with h | h
          · simp [h]
          · rcases ih h with h | h <;> simp [h]

/-- Insertion keeps the order. -/
theorem Ascending.insert {es : Entries α} (h : Ascending es) (key : String) (value : α) :
    Ascending (es.insert key value) := by
  induction es with
  | nil => exact List.pairwise_singleton _ _
  | cons e es ih =>
      obtain ⟨k, v⟩ := e
      unfold Entries.insert
      by_cases h1 : key < k
      · simp only [h1, if_true]
        refine List.pairwise_cons.2 ⟨?_, h⟩
        intro e he
        rcases List.mem_cons.1 he with he | he
        · subst he; exact h1
        · exact String.lt_trans h1 (h.head_lt e he)
      · by_cases h2 : key = k
        · subst h2
          simp only [h1, if_false, if_true]
          exact List.pairwise_cons.2 ⟨h.head_lt, h.tail⟩
        · simp only [h1, h2, if_false]
          refine List.pairwise_cons.2 ⟨?_, ih h.tail⟩
          intro e he
          rcases mem_insert he with he | he
          · subst he
            rcases lt_or_eq_or_gt key k with g | g | g
            · exact absurd g h1
            · exact absurd g h2
            · exact g
          · exact h.head_lt e he

theorem mem_of_mem_erase {es : Entries α} {key : String} {e : String × α}
    (h : e ∈ es.erase key) : e ∈ es := by
  induction es with
  | nil => simp [erase] at h
  | cons e' es ih =>
      obtain ⟨k, v⟩ := e'
      unfold erase at h
      by_cases h1 : k = key
      · simp only [h1, if_true] at h
        exact List.mem_cons_of_mem _ h
      · simp only [h1, if_false, List.mem_cons] at h ⊢
        rcases h with h | h
        · exact .inl h
        · exact .inr (ih h)

/-- Dropping a key keeps the order. -/
theorem Ascending.erase {es : Entries α} (h : Ascending es) (key : String) :
    Ascending (es.erase key) := by
  induction es with
  | nil => exact List.Pairwise.nil
  | cons e es ih =>
      obtain ⟨k, v⟩ := e
      unfold Entries.erase
      by_cases h1 : k = key
      · simp only [h1, if_true]
        exact h.tail
      · simp only [h1, if_false]
        exact List.pairwise_cons.2
          ⟨fun e he => h.head_lt e (mem_of_mem_erase he), ih h.tail⟩

/-- Reading after dropping a key. -/
theorem get?_erase {es : Entries α} (h : Ascending es) (key other : String) :
    (es.erase key).get? other = if key = other then none else es.get? other := by
  induction es with
  | nil => simp [erase]
  | cons e es ih =>
      obtain ⟨k, v⟩ := e
      unfold erase
      by_cases h1 : k = key
      · subst h1
        simp only [if_true, get?_cons]
        by_cases h2 : k = other
        · subst h2
          simp [get?_eq_none_of_lt h.head_lt]
        · simp [h2]
      · simp only [h1, if_false, get?_cons, ih h.tail]
        by_cases h2 : k = other
        · subst h2
          have : key ≠ k := fun e => h1 e.symm
          simp [this]
        · simp [h2]

/-- Ascending entries are given by their lookups. -/
theorem Ascending.ext {es fs : Entries α} (he : Ascending es) (hf : Ascending fs)
    (h : ∀ key, es.get? key = fs.get? key) : es = fs := by
  induction es generalizing fs with
  | nil =>
      cases fs with
      | nil => rfl
      | cons f fs =>
          obtain ⟨k, v⟩ := f
          have := h k
          simp [get?_cons] at this
  | cons e es ih =>
      obtain ⟨k, v⟩ := e
      cases fs with
      | nil =>
          have := h k
          simp [get?_cons] at this
      | cons f fs =>
          obtain ⟨l, w⟩ := f
          have hkl : k = l := by
            rcases lt_or_eq_or_gt k l with g | g | g
            · have hk := h k
              have hnone : get? ((l, w) :: fs) k = none := by
                apply get?_eq_none_of_lt
                intro e he
                rcases List.mem_cons.1 he with he | he
                · subst he; exact g
                · exact String.lt_trans g (hf.head_lt e he)
              rw [hnone] at hk
              simp [get?_cons] at hk
            · exact g
            · have hl := h l
              have hnone : get? ((k, v) :: es) l = none := by
                apply get?_eq_none_of_lt
                intro e hm
                rcases List.mem_cons.1 hm with hm | hm
                · subst hm; exact g
                · exact String.lt_trans g (he.head_lt e hm)
              rw [hnone] at hl
              simp [get?_cons] at hl
          subst hkl
          have hv : v = w := by
            have := h k
            simpa [get?_cons] using this
          subst hv
          have hrest : es = fs := by
            apply ih he.tail hf.tail
            intro key
            by_cases hk : k = key
            · subst hk
              rw [get?_eq_none_of_lt he.head_lt, get?_eq_none_of_lt hf.head_lt]
            · have := h key
              simpa [get?_cons, hk] using this
          rw [hrest]

theorem Ascending.insertAll {es : Entries α} (h : Ascending es) (pairs : List (String × α)) :
    Ascending (es.insertAll pairs) := by
  unfold Entries.insertAll
  induction pairs generalizing es with
  | nil => exact h
  | cons p pairs ih => exact ih (h.insert p.1 p.2)

/-- Collected pairs are ascending. -/
theorem ascending_ofPairs (pairs : List (String × α)) : Ascending (ofPairs pairs) :=
  Ascending.insertAll List.Pairwise.nil pairs

end Entries

end RemoteRun
