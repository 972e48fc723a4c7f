import RemoteRun.Json.Reader
import RemoteRun.Proofs.Tables

/-!
# Canonical values

Every object inside a value that was read lists its members in ascending key order.

**Reading.** `Yields` says of a reading that whatever it reads has a property.  It goes
through sequences of readings and through the parts of arrays and objects, so that
`value` yields canonical values by induction on the nesting.

**Results.** `canonical_of_read`: a value that was read is canonical at every depth.
-/

namespace RemoteRun
namespace Json

theorem canonicalItems_iff
    (items : List Json) :
    CanonicalItems items ↔ ∀ item ∈ items, item.Canonical := by
  induction items with
  | nil =>
      simp [CanonicalItems]
  | cons item items ih =>
      simp [CanonicalItems, ih]

theorem canonicalMembers_iff
    (members : List (String × Json)) :
    CanonicalMembers members ↔ ∀ e ∈ members, e.2.Canonical := by
  induction members with
  | nil =>
      simp [CanonicalMembers]
  | cons e members ih =>
      simp [CanonicalMembers, ih]

/-- An object from canonical values is canonical. -/
theorem canonical_ofMembers
    {members : List (String × Json)}
    (h : ∀ e ∈ members, e.2.Canonical) :
    (ofMembers members).Canonical := by
  refine ⟨Entries.ascending_ofPairs members, (canonicalMembers_iff _).2 ?_⟩
  intro e he
  exact h e (Entries.mem_of_mem_ofPairs he)

/-! ### What a reading yields -/

/-- Whatever is read has a property. -/
def Yields {α : Type} (P : α → Prop) (reading : Reading α) : Prop :=
  ∀ a rest, reading = .ok (a, rest) → P a

namespace Yields

variable {α β : Type} {P : α → Prop} {Q : β → Prop}

theorem error
    (fault : Fault) :
    Yields P (.error fault) := by
  intro a rest h
  simp at h

theorem ok
    {a : α}
    (h : P a)
    (rest : List Char) :
    Yields P (.ok (a, rest)) := by
  intro b rest' hb
  simp only [Except.ok.injEq, Prod.mk.injEq] at hb
  exact hb.1 ▸ h

theorem andThen
    {first : Reading α}
    {next : α → List Char → Reading β}
    (hfirst : Yields P first)
    (hnext : ∀ a rest, P a → Yields Q (next a rest)) :
    Yields Q (andThen first next) := by
  intro b rest h
  unfold Json.andThen at h
  split at h
  next a mid => exact hnext a mid (hfirst a mid rfl) b rest h
  next => simp at h

/-- A reading of which nothing is known. -/
theorem trivial
    (reading : Reading α) :
    Yields (fun _ => True) reading :=
  fun _ _ _ => True.intro

end Yields

variable {α : Type} {P : α → Prop}

theorem yields_parts
    {part : List Char → Reading α}
    (hpart : ∀ cs, Yields P (part cs))
    (close : Char)
    (fuel : Nat)
    (cs : List Char) :
    Yields (fun items => ∀ a ∈ items, P a) (parts part close fuel cs) := by
  induction fuel generalizing cs with
  | zero =>
      exact .error _
  | succ fuel ih =>
      refine .andThen (hpart cs) ?_
      intro first rest hfirst
      split
      · exact .error _
      · split
        · refine .andThen (ih _) ?_
          intro others rest hothers
          exact .ok (List.forall_mem_cons.2 ⟨hfirst, hothers⟩) rest
        · split
          · exact .ok (List.forall_mem_singleton.2 hfirst) _
          · exact .error _

theorem yields_enclosed
    {part : List Char → Reading α}
    (hpart : ∀ cs, Yields P (part cs))
    (close : Char)
    (cs : List Char) :
    Yields (fun items => ∀ a ∈ items, P a) (enclosed part close cs) := by
  unfold enclosed
  split
  · exact .error _
  · split
    · exact .ok (by simp) _
    · exact yields_parts hpart close _ _

theorem yields_member
    {value : List Char → Reading Json}
    (hvalue : ∀ cs, Yields Canonical (value cs))
    (cs : List Char) :
    Yields (fun e => e.2.Canonical) (member value cs) := by
  unfold member
  split
  · exact .error _
  · split
    · refine .andThen (.trivial _) ?_
      intro key rest _
      split
      · exact .error _
      · split
        · refine .andThen (hvalue _) ?_
          intro v rest hv
          exact Yields.ok (P := fun e : String × Json => e.2.Canonical) hv rest
        · exact .error _
    · exact .error _

theorem yields_word
    {value : Json}
    (hvalue : value.Canonical)
    (letters cs : List Char) :
    Yields Canonical (word value letters cs) := by
  induction letters generalizing cs with
  | nil =>
      exact .ok hvalue cs
  | cons letter letters ih =>
      cases cs with
      | nil =>
          exact .error _
      | cons c cs =>
          unfold word
          split
          · exact ih cs
          · exact .error _

theorem yields_number
    (negative : Bool)
    (cs : List Char) :
    Yields Canonical (number negative cs) := by
  refine .andThen (.trivial _) ?_
  intro whole rest _
  refine .andThen (.trivial _) ?_
  intro frac rest _
  refine .andThen (.trivial _) ?_
  intro expo rest _
  split
  · exact .ok True.intro rest
  · exact .error _

/-- Arrays and objects of canonical values are canonical, and nothing else holds
values. -/
theorem yields_valueWith
    {nested : Option (List Char → Reading Json)}
    (hnested : ∀ value ∈ nested, ∀ cs, Yields Canonical (value cs))
    (cs : List Char) :
    Yields Canonical (valueWith nested cs) := by
  unfold valueWith
  split
  · exact .error _
  next c rest _ =>
    split
    · refine .andThen (.trivial _) ?_
      intro text rest _
      exact .ok (by simp [Canonical]) rest
    split
    · cases nested with
      | none =>
          exact .error _
      | some value =>
          refine .andThen (yields_enclosed (hnested value rfl) _ _) ?_
          intro items rest hitems
          have harray : (arr items).Canonical := (canonicalItems_iff items).2 hitems
          exact .ok harray rest
    split
    · cases nested with
      | none =>
          exact .error _
      | some value =>
          refine .andThen (yields_enclosed (yields_member (hnested value rfl)) _ _) ?_
          intro members rest hmembers
          exact .ok (canonical_ofMembers hmembers) rest
    split
    · exact yields_word (by simp [Canonical]) _ _
    split
    · exact yields_word (by simp [Canonical]) _ _
    split
    · exact yields_word (by simp [Canonical]) _ _
    split
    · exact yields_number _ _
    split
    · exact yields_number _ _
    · exact .error _

/-- Values are canonical at every depth of nesting. -/
theorem yields_value
    (depth : Nat)
    (cs : List Char) :
    Yields Canonical (value depth cs) := by
  induction depth generalizing cs with
  | zero =>
      exact yields_valueWith (by simp) cs
  | succ depth ih =>
      apply yields_valueWith
      intro value hvalue
      rw [Option.mem_some_iff] at hvalue
      subst hvalue
      exact ih

/-- A value that was read is canonical. -/
theorem canonical_of_read
    {text : String}
    {v : Json}
    (h : read text = .ok v) :
    v.Canonical := by
  unfold read readWithin at h
  split at h
  · simp at h
  next w rest hw =>
    split at h
    · rw [Except.ok.injEq] at h
      exact h ▸ yields_value nestingLimit text.toList w rest hw
    · simp at h

end Json
end RemoteRun
