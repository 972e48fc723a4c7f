import RemoteRun.Proofs.Canonical
import RemoteRun.Proofs.Json.Lexemes

/-!
# Written values read back

**Domain.** Values without doubles, nested as deep as the reader allows.  A double is
written and read through arithmetic of its own, of which nothing is said here.

**Normal form.** The writer writes the members of an object as they stand, also in no
order and a key twice.  The reader collects them: `normal` does so at every depth, and
leaves a canonical value as it is.

**Argument.** `ReadsBack` says that a text is read as a value whatever follows it, as long
as that cannot belong to the value.  It goes from the parts to the text of an array or an
object, one lemma for each kind of value, and from there by induction on the nesting that
is still allowed, on which the reader recurses.

**Results.** `read_write`: the text of a value is read as its normal form, and
`normal_of_canonical`: a canonical value is in normal form.
-/

namespace RemoteRun
namespace Json

/-! ### Nesting, doubles and the normal form -/

mutual

/-- How deep arrays and objects are nested inside a value. -/
def depth : Json → Nat
  | .arr items => depthItems items + 1
  | .obj members => depthMembers members + 1
  | _ => 0

/-- The greatest depth of an item. -/
def depthItems : List Json → Nat
  | [] => 0
  | item :: items => max (depth item) (depthItems items)

/-- The greatest depth of a member's value. -/
def depthMembers : List (String × Json) → Nat
  | [] => 0
  | (_, value) :: members => max (depth value) (depthMembers members)

end

mutual

/-- No number inside the value is a double. -/
def RealFree : Json → Prop
  | .num (.real _) => False
  | .arr items => RealFreeItems items
  | .obj members => RealFreeMembers members
  | _ => True

/-- No number inside an item is a double. -/
def RealFreeItems : List Json → Prop
  | [] => True
  | item :: items => RealFree item ∧ RealFreeItems items

/-- No number inside a member's value is a double. -/
def RealFreeMembers : List (String × Json) → Prop
  | [] => True
  | (_, value) :: members => RealFree value ∧ RealFreeMembers members

end

mutual

/-- The value with the members of every object collected: in ascending key order, the
last one of a key. -/
def normal : Json → Json
  | .arr items => .arr (normalItems items)
  | .obj members => .ofMembers (normalMembers members)
  | v => v

/-- The items in normal form. -/
def normalItems : List Json → List Json
  | [] => []
  | item :: items => normal item :: normalItems items

/-- The members with their values in normal form. -/
def normalMembers : List (String × Json) → List (String × Json)
  | [] => []
  | (key, value) :: members => (key, normal value) :: normalMembers members

end

theorem depthItems_le_iff
    (items : List Json)
    (d : Nat) :
    depthItems items ≤ d ↔ ∀ item ∈ items, item.depth ≤ d := by
  induction items with
  | nil =>
      simp [depthItems]
  | cons item items ih =>
      rw [depthItems, Nat.max_le, ih, List.forall_mem_cons]

theorem depthMembers_le_iff
    (members : List (String × Json))
    (d : Nat) :
    depthMembers members ≤ d ↔ ∀ e ∈ members, e.2.depth ≤ d := by
  induction members with
  | nil =>
      simp [depthMembers]
  | cons e members ih =>
      rw [depthMembers, Nat.max_le, ih, List.forall_mem_cons]

theorem realFreeItems_iff
    (items : List Json) :
    RealFreeItems items ↔ ∀ item ∈ items, item.RealFree := by
  induction items with
  | nil =>
      simp [RealFreeItems]
  | cons item items ih =>
      simp [RealFreeItems, ih]

theorem realFreeMembers_iff
    (members : List (String × Json)) :
    RealFreeMembers members ↔ ∀ e ∈ members, e.2.RealFree := by
  induction members with
  | nil =>
      simp [RealFreeMembers]
  | cons e members ih =>
      simp [RealFreeMembers, ih]

theorem normalItems_eq_map
    (items : List Json) :
    normalItems items = items.map normal := by
  induction items with
  | nil =>
      rfl
  | cons item items ih =>
      rw [normalItems, ih, List.map_cons]

theorem normalMembers_eq_map
    (members : List (String × Json)) :
    normalMembers members = members.map fun e => (e.1, e.2.normal) := by
  induction members with
  | nil =>
      rfl
  | cons e members ih =>
      rw [normalMembers, ih, List.map_cons]

theorem renderItems_eq_map
    (items : List Json) :
    renderItems items = items.map render := by
  induction items with
  | nil =>
      rfl
  | cons item items ih =>
      rw [renderItems, ih, List.map_cons]

theorem renderMembers_eq_map
    (members : List (String × Json)) :
    renderMembers members =
      members.map fun e => renderString e.1 ++ ':' :: e.2.render := by
  induction members with
  | nil =>
      rfl
  | cons e members ih =>
      rw [renderMembers, ih, List.map_cons]

mutual

/-- A canonical value is in normal form. -/
theorem normal_of_canonical : (v : Json) → v.Canonical → v.normal = v
  | .null, _ | .bool _, _ | .num _, _ | .str _, _ => rfl
  | .arr items, h => congrArg arr (normalItems_of_canonical items h)
  | .obj members, h => by
      rw [normal, normalMembers_of_canonical members h.2, ofMembers,
        Entries.ofPairs_of_ascending h.1]

theorem normalItems_of_canonical :
    (items : List Json) → CanonicalItems items → normalItems items = items
  | [], _ => rfl
  | item :: items, h => by
      rw [normalItems, normal_of_canonical item h.1, normalItems_of_canonical items h.2]

theorem normalMembers_of_canonical :
    (members : List (String × Json)) → CanonicalMembers members →
      normalMembers members = members
  | [], _ => rfl
  | (key, value) :: members, h => by
      rw [normalMembers, normal_of_canonical value h.1, normalMembers_of_canonical members h.2]

end

/-! ### Texts that read back -/

/-- A text is read as `a`, whatever may follow a value behind it. -/
def ReadsBack {α : Type} (part : List Char → Reading α) (text : List Char) (a : α) : Prop :=
  ∀ rest, Ends rest → part (text ++ rest) = .ok (a, rest)

/-- A text that starts a value or a member: with no blank and no closing character. -/
def Opens (text : List Char) : Prop :=
  ∃ c cs, text = c :: cs ∧ isBlank c = false ∧ ¬ IsClosing c

theorem skipBlank_cons
    {c : Char}
    (h : isBlank c = false)
    (cs : List Char) :
    skipBlank (c :: cs) = c :: cs := by
  simp [skipBlank, h]

section Parts

variable {α : Type} {part : List Char → Reading α} {close : Char}
  {texts : List (List Char)} {as : List α}

theorem length_le_length_separated
    (texts : List (List Char)) :
    texts.length ≤ (separated texts).length + 1 := by
  induction texts with
  | nil =>
      simp
  | cons text texts ih =>
      cases texts with
      | nil =>
          simp
      | cons next texts =>
          simp only [separated, List.length_append, List.length_cons] at ih ⊢
          omega

/-- Parts that are read back one by one are read back with commas between them. -/
theorem parts_separated
    (hclose : IsClosing close)
    (h : List.Forall₂ (ReadsBack part) texts as)
    (hne : texts ≠ [])
    {fuel : Nat}
    (hfuel : texts.length ≤ fuel)
    (rest : List Char) :
    parts part close fuel (separated texts ++ close :: rest) = .ok (as, rest) := by
  -- On the parts: behind each stands a comma or the closing character, so that it is read
  -- back by itself.
  induction h generalizing fuel with
  | nil =>
      exact absurd rfl hne
  | @cons text a texts as hfirst hothers ih =>
      obtain ⟨fuel, rfl⟩ : ∃ n, fuel = n + 1 :=
        Nat.exists_eq_add_one.2 (by simp only [List.length_cons] at hfuel; omega)
      cases hothers with
      | nil =>
          have hread := hfirst (close :: rest) (hclose.ends rest)
          rw [separated, parts, hread]
          rcases hclose with rfl | rfl <;> rfl
      | @cons next b texts as hnext hlast =>
          have hrest :
              separated (text :: next :: texts) ++ close :: rest =
                text ++ ',' :: (separated (next :: texts) ++ close :: rest) := by
            simp [separated]
          have hread := hfirst _ (ends_comma (separated (next :: texts) ++ close :: rest))
          have htail := @ih (by simp) fuel (by simpa using hfuel)
          rw [hrest, parts, hread]
          simp [andThen, skipBlank, isBlank, htail]

theorem opens_separated
    {text : List Char}
    (h : Opens text)
    (texts : List (List Char)) :
    Opens (separated (text :: texts)) := by
  obtain ⟨c, cs, rfl, hc⟩ := h
  cases texts with
  | nil =>
      exact ⟨c, cs, rfl, hc⟩
  | cons next texts =>
      exact ⟨c, cs ++ ',' :: separated (next :: texts), rfl, hc⟩

/-- No part or some, up to the closing character. -/
theorem enclosed_separated
    (hclose : IsClosing close)
    (h : List.Forall₂ (ReadsBack part) texts as)
    (hopens : ∀ text ∈ texts, Opens text)
    (rest : List Char) :
    enclosed part close (separated texts ++ close :: rest) = .ok (as, rest) := by
  cases texts with
  | nil =>
      cases h
      rcases hclose with rfl | rfl <;> rfl
  | cons text texts =>
      obtain ⟨c, cs, hcs, hblank, hopen⟩ :=
        opens_separated (hopens text List.mem_cons_self) texts
      have hc : c ≠ close := fun h => hopen (h ▸ hclose)
      -- The fuel is the length of the text, which has a comma or the end behind each part.
      have hfuel : (text :: texts).length ≤ (cs ++ close :: rest).length + 1 := by
        have := length_le_length_separated (text :: texts)
        rw [hcs] at this
        simp only [List.length_cons, List.length_append] at this ⊢
        omega
      have hparts := parts_separated hclose h (by simp) hfuel rest
      rw [hcs] at hparts ⊢
      rw [List.cons_append, enclosed, skipBlank_cons hblank]
      simp only [hc, if_false]
      exact hparts

end Parts

/-! ### Each kind of value -/

section Values

variable {nested : Option (List Char → Reading Json)}

theorem readsBack_null : ReadsBack (valueWith nested) (render .null) .null := by
  intro rest _
  simp [render, valueWith, skipBlank, isBlank, word]

theorem readsBack_bool
    (b : Bool) :
    ReadsBack (valueWith nested) (render (.bool b)) (.bool b) := by
  intro rest _
  cases b <;> simp [render, valueWith, skipBlank, isBlank, word]

theorem readsBack_str
    (s : String) :
    ReadsBack (valueWith nested) (render (.str s)) (.str s) := by
  intro rest _
  have hstring := string_renderString s rest
  simp [render, renderString, valueWith, skipBlank, isBlank, hstring, andThen]

/-- A digit starts a number. -/
theorem valueWith_of_isDigit
    {c : Char}
    (h : c.isDigit = true)
    (cs : List Char) :
    valueWith nested (c :: cs) = number false (c :: cs) := by
  have hdigit : (digit? c).isSome = true := by
    rw [digit?_of_isDigit h]
    rfl
  have hne : ∀ d : Char, d.isDigit = false → c ≠ d := fun _ => ne_of_isDigit h
  unfold valueWith
  rw [skipBlank_cons (isBlank_of_isDigit h)]
  simp [hne '"' rfl, hne '[' rfl, hne '\x7b' rfl, hne 'n' rfl, hne 't' rfl, hne 'f' rfl,
    hne '-' rfl, hdigit]

theorem readsBack_integer
    (value : Int)
    (bounded : leastInteger ≤ value ∧ value < integerBound) :
    ReadsBack (valueWith nested) (render (.num (.integer value bounded)))
      (.num (.integer value bounded)) := by
  intro rest hrest
  have hnumber := number_digits value bounded hrest
  rw [render, renderNumber, renderInt]
  by_cases hneg : value < 0
  · rw [decide_eq_true hneg] at hnumber
    rw [if_pos hneg, List.cons_append]
    simp [valueWith, skipBlank, isBlank, hnumber]
  · rw [decide_eq_false hneg] at hnumber
    obtain ⟨c, cs, hdigits, hc⟩ := exists_digits_eq_cons value.natAbs
    rw [if_neg hneg]
    rw [hdigits] at hnumber ⊢
    rw [List.cons_append, valueWith_of_isDigit hc]
    exact hnumber

theorem readsBack_arr
    {value : List Char → Reading Json}
    {items read : List Json}
    (h : List.Forall₂ (ReadsBack value) (items.map render) read)
    (hopens : ∀ item ∈ items, Opens item.render) :
    ReadsBack (valueWith (some value)) (render (.arr items)) (.arr read) := by
  intro rest _
  have henclosed := enclosed_separated (.inl rfl) h (List.forall_mem_map.2 hopens) rest
  rw [← renderItems_eq_map] at henclosed
  simp [render, valueWith, skipBlank, isBlank, henclosed, andThen]

theorem opens_member
    (key : String)
    (text : List Char) :
    Opens (renderString key ++ ':' :: text) :=
  ⟨'"', _, rfl, by decide, by decide⟩

theorem readsBack_member
    {value : List Char → Reading Json}
    (key : String)
    {text : List Char}
    {v : Json}
    (h : ReadsBack value text v) :
    ReadsBack (member value) (renderString key ++ ':' :: text) (key, v) := by
  intro rest hrest
  have hstring := string_renderString key (':' :: (text ++ rest))
  have hvalue := h rest hrest
  simp [member, renderString, skipBlank, isBlank, hstring, hvalue, andThen]

theorem readsBack_obj
    {value : List Char → Reading Json}
    {members read : List (String × Json)}
    (h : List.Forall₂ (ReadsBack (member value))
      (members.map fun e => renderString e.1 ++ ':' :: e.2.render) read) :
    ReadsBack (valueWith (some value)) (render (.obj members)) (.ofMembers read) := by
  intro rest _
  have henclosed := enclosed_separated (.inr rfl) h
    (List.forall_mem_map.2 fun e _ => opens_member e.1 e.2.render) rest
  rw [← renderMembers_eq_map] at henclosed
  simp [render, valueWith, skipBlank, isBlank, henclosed, andThen]

end Values

theorem opens_renderInt
    (value : Int) :
    Opens (renderInt value) := by
  unfold renderInt
  split
  · exact ⟨'-', _, rfl, by decide, by decide⟩
  · obtain ⟨c, cs, hdigits, hc⟩ := exists_digits_eq_cons value.natAbs
    refine ⟨c, cs, hdigits, isBlank_of_isDigit hc, ?_⟩
    rintro (h | h)
    · exact ne_of_isDigit hc rfl h
    · exact ne_of_isDigit hc rfl h

theorem opens_render
    {v : Json}
    (h : v.RealFree) :
    Opens v.render := by
  cases v with
  | null =>
      exact ⟨'n', _, rfl, by decide, by decide⟩
  | bool b =>
      cases b with
      | false =>
          exact ⟨'f', _, rfl, by decide, by decide⟩
      | true =>
          exact ⟨'t', _, rfl, by decide, by decide⟩
  | num n =>
      cases n with
      | integer value bounded =>
          exact opens_renderInt value
      | real bits =>
          exact h.elim
  | str s =>
      exact ⟨'"', _, rfl, by decide, by decide⟩
  | arr items =>
      exact ⟨'[', _, rfl, by decide, by decide⟩
  | obj members =>
      exact ⟨'\x7b', _, rfl, by decide, by decide⟩

/-- A value without parts is read on any nesting. -/
theorem readsBack_of_depth_eq_zero
    {nested : Option (List Char → Reading Json)}
    {v : Json}
    (hreal : v.RealFree)
    (hdepth : v.depth = 0) :
    ReadsBack (valueWith nested) v.render v.normal := by
  cases v with
  | null =>
      exact readsBack_null
  | bool b =>
      exact readsBack_bool b
  | num n =>
      cases n with
      | integer value bounded =>
          exact readsBack_integer value bounded
      | real bits =>
          exact hreal.elim
  | str s =>
      exact readsBack_str s
  | arr items =>
      simp [depth] at hdepth
  | obj members =>
      simp [depth] at hdepth

/-- A written value is read as its normal form where its nesting is allowed. -/
theorem readsBack_value
    {v : Json}
    (hreal : v.RealFree)
    {d : Nat}
    (hdepth : v.depth ≤ d) :
    ReadsBack (value d) v.render v.normal := by
  -- On the nesting that is still allowed: the parts of an array or an object are allowed
  -- one level less.
  induction d generalizing v with
  | zero =>
      exact readsBack_of_depth_eq_zero hreal (by omega)
  | succ d ih =>
      cases v with
      | arr items =>
          have hitems : ∀ item ∈ items, item.RealFree := (realFreeItems_iff items).1 hreal
          have hless : ∀ item ∈ items, item.depth ≤ d :=
            (depthItems_le_iff items d).1 (Nat.le_of_succ_le_succ hdepth)
          have hread :
              List.Forall₂ (ReadsBack (value d)) (items.map render) (items.map normal) := by
            rw [List.forall₂_map_left_iff, List.forall₂_map_right_iff, List.forall₂_same]
            exact fun item hitem => ih (hitems item hitem) (hless item hitem)
          rw [normal, normalItems_eq_map]
          exact readsBack_arr hread fun item hitem => opens_render (hitems item hitem)
      | obj members =>
          have hmembers : ∀ e ∈ members, e.2.RealFree := (realFreeMembers_iff members).1 hreal
          have hless : ∀ e ∈ members, e.2.depth ≤ d :=
            (depthMembers_le_iff members d).1 (Nat.le_of_succ_le_succ hdepth)
          have hread :
              List.Forall₂ (ReadsBack (member (value d)))
                (members.map fun e => renderString e.1 ++ ':' :: e.2.render)
                (members.map fun e => (e.1, e.2.normal)) := by
            rw [List.forall₂_map_left_iff, List.forall₂_map_right_iff, List.forall₂_same]
            exact fun e he => readsBack_member e.1 (ih (hmembers e he) (hless e he))
          rw [normal, normalMembers_eq_map]
          exact readsBack_obj hread
      | null | bool | num | str =>
          exact readsBack_of_depth_eq_zero hreal rfl

/-- The text of a value is read as the value's normal form. -/
theorem read_write
    {v : Json}
    (hreal : v.RealFree)
    (hdepth : v.depth ≤ nestingLimit) :
    read v.write = .ok v.normal := by
  have hvalue := readsBack_value hreal hdepth [] ends_nil
  rw [List.append_nil] at hvalue
  simp [read, readWithin, write, hvalue, skipBlank]

end Json
end RemoteRun
