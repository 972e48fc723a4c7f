import RemoteRun.Proofs.Inbound.Precedence
import RemoteRun.Proofs.Lists

/-!
# Envelopes

Some engines write all members of a frame at its top level, others nest some of them under
`data`.

**Splitting.** `nested` is a part of the members of an object, in the same order, and
`without members nested` is what stays at the top level.

**Merging.** Nested members come back one after the other, each unless its key is spelled
at the top level or was spelled by an earlier one.  So all of them come back exactly when
none of them shares its spelling with another member (`mergeMissing_without_iff`).

**Results.** `ofJson_enveloped_without`: while no two members share a spelling, it makes no
difference which of them are nested.
-/

namespace RemoteRun

namespace Message

/-- The members that stay at the top level when some are nested. -/
def without (members nested : Entries Json) : Entries Json :=
  members.filter fun e => !nested.keys.contains e.1

theorem ascending_without
    {members : Entries Json}
    (h : members.Ascending)
    (nested : Entries Json) :
    (without members nested).Ascending :=
  List.Pairwise.filter _ h

section Split

variable {members nested : Entries Json}

/-- A member stays unless it is nested: no other member has its key. -/
theorem mem_without
    (hmembers : members.Ascending)
    (hnested : nested.Sublist members)
    (e : String × Json) :
    e ∈ without members nested ↔ e ∈ members ∧ e ∉ nested := by
  have hkey : e ∈ members → (e.1 ∈ nested.keys ↔ e ∈ nested) := by
    intro he
    constructor
    · intro hmem
      obtain ⟨d, hd, hsame⟩ := List.mem_map.1 hmem
      have hfound := Entries.get?_of_mem hmembers (hnested.subset hd)
      rw [hsame, Entries.get?_of_mem hmembers he, Option.some.injEq] at hfound
      have hde : d = e := Prod.ext hsame hfound.symm
      exact hde ▸ hd
    · intro hmem
      exact List.mem_map_of_mem hmem
  simp only [without, List.mem_filter, Bool.not_eq_true', List.contains_eq_mem,
    decide_eq_false_iff_not]
  constructor
  · rintro ⟨he, hnot⟩
    exact ⟨he, fun hmem => hnot ((hkey he).2 hmem)⟩
  · rintro ⟨he, hnot⟩
    exact ⟨he, fun hmem => hnot ((hkey he).1 hmem)⟩

/-- What is looked up is found at the top level unless it is nested. -/
theorem get?_without
    (hmembers : members.Ascending)
    {key : String}
    (hkey : key ∉ nested.keys) :
    (without members nested).get? key = members.get? key := by
  cases hg : members.get? key with
  | some value =>
      apply Entries.get?_of_mem (ascending_without hmembers nested)
      simp only [without, List.mem_filter, Bool.not_eq_true', List.contains_eq_mem,
        decide_eq_false_iff_not]
      exact ⟨Entries.mem_of_get? hg, hkey⟩
  | none =>
      cases hw : (without members nested).get? key with
      | none =>
          rfl
      | some value =>
          have hmem := (List.mem_filter.1 (Entries.mem_of_get? hw)).1
          rw [Entries.get?_of_mem hmembers hmem] at hg
          cases hg

/-- Merging brings every nested member back exactly when none of them shares its spelling
with another member. -/
theorem mergeMissing_without_iff
    (hmembers : members.Ascending)
    (hnested : nested.Sublist members) :
    mergeMissing (without members nested) nested = members ↔
      ∀ e ∈ nested, ∀ d ∈ members, snakeCase d.1 = snakeCase e.1 → d = e := by
  have hmerged := ascending_mergeMissing (ascending_without hmembers nested) nested
  constructor
  · intro hall e he d hd hspelling
    have hback : ∀ f ∈ nested,
        spells (without members nested) (snakeCase f.1) = false ∧
          nested.find? (fun g => snakeCase g.1 == snakeCase f.1) = some f := by
      intro f hf
      have hmem : f ∈ mergeMissing (without members nested) nested :=
        hall.symm ▸ hnested.subset hf
      rcases (mem_mergeMissing _ nested f).1 hmem with hkept | hfirst
      · exact absurd hf ((mem_without hmembers hnested f).1 hkept).2
      · exact hfirst
    obtain ⟨hnew, hfirst⟩ := hback e he
    by_cases hdn : d ∈ nested
    · have hsecond := (hback d hdn).2
      rw [hspelling, hfirst, Option.some.injEq] at hsecond
      exact hsecond.symm
    · have hkept := (mem_without hmembers hnested d).2 ⟨hd, hdn⟩
      have hspells := (spells_eq_true_iff (without members nested) _).2 ⟨d, hkept, hspelling⟩
      rw [hnew] at hspells
      cases hspells
  · intro hapart
    apply hmerged.ext_mem hmembers
    intro e
    rw [mem_mergeMissing, mem_without hmembers hnested]
    constructor
    · rintro (⟨he, _⟩ | ⟨_, hfirst⟩)
      · exact he
      · exact hnested.subset (List.mem_of_find?_eq_some hfirst)
    · intro he
      by_cases hn : e ∈ nested
      · right
        constructor
        · rw [Bool.eq_false_iff]
          intro hspells
          obtain ⟨d, hd, hspelling⟩ := (spells_eq_true_iff _ _).1 hspells
          obtain ⟨hmem, hout⟩ := (mem_without hmembers hnested d).1 hd
          exact hout (hapart e hn d hmem hspelling ▸ hn)
        · -- The first nested member of this spelling is a member like any other.
          refine find?_eq_some_of_unique hn (beq_iff_eq.2 rfl) ?_
          intro d hd hspelling
          exact hapart e hn d (hnested.subset hd) (beq_iff_eq.1 hspelling)
      · exact Or.inl ⟨he, hn⟩

/-- **Envelopes.**  Take an object with a kind, without a `data`, no two of whose members
share a spelling, and any part of its members without the kind.  The object with this part
nested under `data` is lifted to the same message as the object itself, and this message
has all its members. -/
theorem ofJson_enveloped_without
    (hmembers : members.Ascending)
    {kind : String}
    (htype : members.get? "type" = some (.str kind))
    (hkind : kind ≠ "")
    (hdata : members.get? "data" = none)
    (hspellings : (members.map fun e => snakeCase e.1).Nodup)
    (hnested : nested.Sublist members)
    (houtside : "type" ∉ nested.keys) :
    ofJson (enveloped (without members nested) nested) = ofJson (.obj members) ∧
      ofJson (.obj members) = .ok ⟨kind, members⟩ := by
  have hfree : "data" ∉ nested.keys := by
    intro hmem
    obtain ⟨e, he, hsame⟩ := List.mem_map.1 hmem
    have hfound := Entries.get?_of_mem hmembers (hnested.subset he)
    rw [hsame, hdata] at hfound
    cases hfound
  have hkindOf : ∀ {es : Entries Json}, es.get? "type" = some (.str kind) →
      kindOf? es = some kind := by
    intro es hes
    simp [kindOf?, hes, hkind]
  have hplain : ofJson (.obj members) = .ok ⟨kind, members⟩ := by
    simp [ofJson, lift?, hkindOf htype, flatten, hdata]
  have hmerged : mergeMissing (without members nested) nested = members := by
    rw [mergeMissing_without_iff hmembers hnested]
    intro e he d hd hspelling
    exact List.inj_on_of_nodup_map hspellings hd (hnested.subset he) hspelling
  refine ⟨?_, hplain⟩
  rw [hplain, ofJson_enveloped_of_kind (ascending_without hmembers nested), hmerged]
  · rw [get?_without hmembers hfree, hdata]
  · exact hkindOf ((get?_without hmembers houtside).trans htype)

end Split

/-- A report whose keys have several spellings of their own, one of them close to `data`. -/
def startMembers : Entries Json :=
  [("Data", .null), ("nodeId", .str "a"), ("node_type", .str "llm"), ("type", .str "node_start")]

/-- A part of its members. -/
def startNested : Entries Json :=
  [("Data", .null), ("node_type", .str "llm")]

/-- The report with this part nested. -/
def startEnvelope : Json :=
  .obj
    [("data", .obj [("Data", .null), ("node_type", .str "llm")]), ("nodeId", .str "a"),
     ("type", .str "node_start")]

theorem startEnvelope_lifts :
    enveloped (without startMembers startNested) startNested = startEnvelope ∧
      ofJson startEnvelope = ofJson (.obj startMembers) ∧
      ofJson (.obj startMembers) = .ok ⟨"node_start", startMembers⟩ := by
  have hascending : startMembers.Ascending := by
    unfold Entries.Ascending startMembers
    decide
  have hspellings : (startMembers.map fun e => snakeCase e.1).Nodup := by
    decide
  have hnested : startNested.Sublist startMembers :=
    .cons_cons _ (.cons _ (.cons_cons _ (.cons _ .slnil)))
  have henveloped : enveloped (without startMembers startNested) startNested = startEnvelope :=
    rfl
  have htype : startMembers.get? "type" = some (.str "node_start") :=
    rfl
  have hlifted :=
    ofJson_enveloped_without hascending htype (by decide) rfl hspellings hnested (by decide)
  exact ⟨henveloped, henveloped ▸ hlifted⟩

end Message

end RemoteRun
