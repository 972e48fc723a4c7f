import RemoteRun.Keyed.Entries

/-!
# Tables

Finite maps from strings, in one canonical form: ascending entries.

**Results.** Two tables with the same lookups are the same table, and each
operation is described by what it does to a lookup.  A set of ids is a table
whose values say nothing.
-/

namespace RemoteRun

/-- A finite map from strings. -/
structure Table (α : Type) where
  entries : Entries α
  ascending : entries.Ascending

namespace Table

variable {α : Type}

/-- The table without keys. -/
def empty : Table α :=
  ⟨[], List.Pairwise.nil⟩

instance : EmptyCollection (Table α) := ⟨empty⟩
instance : Inhabited (Table α) := ⟨empty⟩

/-- The value of a key. -/
def get? (t : Table α) (key : String) : Option α :=
  t.entries.get? key

/-- Whether a key has a value. -/
def contains (t : Table α) (key : String) : Bool :=
  (t.get? key).isSome

/-- Put a value under a key. -/
def insert (t : Table α) (key : String) (value : α) : Table α :=
  ⟨t.entries.insert key value, t.ascending.insert key value⟩

/-- Drop a key. -/
def erase (t : Table α) (key : String) : Table α :=
  ⟨t.entries.erase key, t.ascending.erase key⟩

/-- The keys in order. -/
def keys (t : Table α) : List String :=
  t.entries.keys

/-- The values in key order. -/
def values (t : Table α) : List α :=
  t.entries.map Prod.snd

/-- The pairs in key order. -/
def toList (t : Table α) : List (String × α) :=
  t.entries

/-- The table of a list of pairs; the last value of a key wins. -/
def ofPairs (pairs : List (String × α)) : Table α :=
  ⟨Entries.ofPairs pairs, Entries.ascending_ofPairs pairs⟩

@[simp] theorem get?_empty (key : String) : (empty : Table α).get? key = none := rfl

theorem get?_insert (t : Table α) (key : String) (value : α) (other : String) :
    (t.insert key value).get? other = if key = other then some value else t.get? other :=
  Entries.get?_insert t.entries key value other

theorem get?_erase (t : Table α) (key other : String) :
    (t.erase key).get? other = if key = other then none else t.get? other :=
  Entries.get?_erase t.ascending key other

theorem mem_keys_iff (t : Table α) (key : String) :
    key ∈ t.keys ↔ (t.get? key).isSome :=
  Entries.mem_keys_iff t.entries key

/-- A table is given by its lookups. -/
@[ext] theorem ext {t u : Table α} (h : ∀ key, t.get? key = u.get? key) : t = u := by
  obtain ⟨es, hs⟩ := t
  obtain ⟨fs, ht⟩ := u
  have : es = fs := hs.ext ht h
  subst this
  rfl

end Table

/-- A finite set of ids. -/
abbrev IdSet := Table Unit

namespace IdSet

/-- Add an id. -/
def add (s : IdSet) (id : String) : IdSet :=
  s.insert id ()

/-- Add every id of a list. -/
def addAll (s : IdSet) (ids : List String) : IdSet :=
  ids.foldl add s

/-- The set of the ids of a list. -/
def ofList (ids : List String) : IdSet :=
  addAll Table.empty ids

theorem contains_add (s : IdSet) (id other : String) :
    (s.add id).contains other = (decide (id = other) || s.contains other) := by
  unfold add Table.contains
  rw [Table.get?_insert]
  by_cases h : id = other <;> simp [h]

theorem contains_addAll (s : IdSet) (ids : List String) (other : String) :
    (s.addAll ids).contains other = (decide (other ∈ ids) || s.contains other) := by
  unfold addAll
  induction ids generalizing s with
  | nil => simp
  | cons id ids ih =>
      rw [List.foldl_cons, ih, contains_add]
      by_cases h : id = other
      · subst h; simp
      · have h' : other ≠ id := fun e => h e.symm
        simp [h, h']

end IdSet

end RemoteRun
