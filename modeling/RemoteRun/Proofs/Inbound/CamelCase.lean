import Mathlib.Data.List.Count
import RemoteRun.Proofs.Inbound.Lifting
import RemoteRun.Proofs.Lists

/-!
# Keys in camel case

Engines write the key of a field in snake case or in camel case.

**Spellings.** The name of a field has one underscore at most, so that no keys but the name and
its camel case have this snake case (`eq_or_eq_camelCase`).  Both are accepted for every field
but `from_cli`.

**Respelling.** `respell` puts the camel case of a name in its place, unless the object has this
key already.  `Respelled` says so of the members, whatever their order.

**Merging.** A member that is respelled on either side of a merge is respelled in the merge, or
the merge is the same as before because the target spells it too.
-/

namespace RemoteRun

namespace Message

/-! ### Camel case -/

/-- The characters of a key in camel case: what follows an underscore becomes a capital. -/
def camelChars : List Char → List Char
  | [] => []
  | c :: cs => if c = '_' then (camelChars cs).modifyHead Char.toUpper else c :: camelChars cs

/-- A key in camel case. -/
def camelCase (key : String) : String :=
  String.ofList (camelChars key.toList)

theorem camelChars_of_notMem
    {cs : List Char}
    (h : '_' ∉ cs) :
    camelChars cs = cs := by
  induction cs with
  | nil =>
      rfl
  | cons c cs ih =>
      rw [List.mem_cons, not_or] at h
      obtain ⟨hc, hcs⟩ := h
      rw [camelChars, if_neg (Ne.symm hc), ih hcs]

theorem toUpper_small
    {c : Char}
    (hc : 'A' ≤ c ∧ c ≤ 'Z') :
    (Char.ofNat (c.toNat + 32)).toUpper = c := by
  have hall : ∀ n ≤ 25, (Char.ofNat (65 + n + 32)).toUpper = Char.ofNat (65 + n) := by
    decide
  have hlow : 65 ≤ c.toNat := hc.1
  have hhigh : c.toNat ≤ 90 := hc.2
  have h := hall (c.toNat - 65) (by omega)
  rwa [show 65 + (c.toNat - 65) = c.toNat by omega, Char.ofNat_toNat] at h

/-- Of a spelling with one underscore at most, there are no other spellings than itself and
its camel case. -/
theorem eq_or_eq_camelChars
    {cs ds : List Char}
    (hcount : ds.count '_' ≤ 1)
    (h : cs.flatMap snakeChar = ds) :
    cs = ds ∨ cs = camelChars ds := by
  induction cs generalizing ds with
  | nil =>
      exact Or.inl h
  | cons c cs ih =>
      rw [List.flatMap_cons] at h
      by_cases hc : 'A' ≤ c ∧ c ≤ 'Z'
      · right
        rw [snakeChar, if_pos hc, List.cons_append, List.singleton_append] at h
        subst h
        rw [List.count_cons_self] at hcount
        have hplain : '_' ∉ Char.ofNat (c.toNat + 32) :: cs.flatMap snakeChar :=
          List.count_eq_zero.1 (by omega)
        have hcs := eq_of_flatMap_snakeChar (List.not_mem_of_not_mem_cons hplain) rfl
        rw [camelChars, if_pos rfl, camelChars_of_notMem hplain, List.modifyHead_cons,
          toUpper_small hc, ← hcs]
      · rw [snakeChar, if_neg hc, List.singleton_append] at h
        subst h
        by_cases hunder : c = '_'
        · left
          subst hunder
          rw [List.count_cons_self] at hcount
          have hplain : '_' ∉ cs.flatMap snakeChar :=
            List.count_eq_zero.1 (by omega)
          rw [← eq_of_flatMap_snakeChar hplain rfl]
        · rw [List.count_cons_of_ne hunder] at hcount
          rw [camelChars, if_neg hunder]
          rcases ih hcount rfl with hsame | hcamel
          · exact Or.inl (by rw [← hsame])
          · exact Or.inr (by rw [← hcamel])

theorem eq_or_eq_camelCase
    {key name : String}
    (hcount : name.toList.count '_' ≤ 1)
    (h : snakeCase key = name) :
    key = name ∨ key = camelCase name := by
  subst h
  rw [snakeCase, String.toList_ofList] at hcount
  have hchars := eq_or_eq_camelChars hcount rfl
  rw [camelCase, snakeCase, String.toList_ofList]
  rcases hchars with hsame | hcamel
  · left
    rw [← hsame, String.ofList_toList]
  · right
    rw [← hcamel, String.ofList_toList]

end Message

namespace EventKind

/-- The names of the fields of a kind. -/
def names (kind : EventKind) : List String :=
  kind.fields.map (·.name)

variable {kind : EventKind} {name : String}

/-- Neither the name of a field nor its camel case is a key that a frame has of its own. -/
theorem ne_of_frameKey
    (h : name ∈ kind.names)
    {key : String}
    (hkey : key = "type" ∨ key = "data") :
    name ≠ key ∧ Message.camelCase name ≠ key := by
  revert name
  rcases hkey with rfl | rfl <;> cases kind <;> decide

theorem count_name
    (h : name ∈ kind.names) :
    name.toList.count '_' ≤ 1 := by
  revert name
  cases kind <;> decide

theorem snakeCase_name
    (h : name ∈ kind.names) :
    Message.snakeCase name = name := by
  revert name
  cases kind <;> decide

theorem snakeCase_camelCase_name
    (h : name ∈ kind.names) :
    Message.snakeCase (Message.camelCase name) = name := by
  revert name
  cases kind <;> decide

example : Message.camelCase "total_nodes" = "totalNodes" := by
  decide

/-- Camel case is accepted for every field but the flag. -/
theorem spelled?_camelCase_name
    (h : name ∈ kind.names)
    (hflag : name ≠ "from_cli") :
    Field.spelled? kind.fields (Message.camelCase name) = Field.spelled? kind.fields name := by
  have hall : ∀ f ∈ kind.fields, f.name ≠ "from_cli" →
      f.accepts (Message.camelCase f.name) = true := by
    cases kind <;> decide
  obtain ⟨f, hf, rfl⟩ := List.mem_map.1 h
  rw [spelled?_of_accepts hf f.accepts_name, spelled?_of_accepts hf (hall f hf hflag)]

/-- The camel case of the flag is no spelling of a field. -/
theorem spelled?_camelFlag
    (kind : EventKind) :
    Field.spelled? kind.fields (Message.camelCase "from_cli") = none := by
  cases kind <;> decide

/-- The flag has no spelling but its name. -/
theorem eq_flag_of_accepts
    {f : Field}
    (hf : f ∈ kind.fields)
    (hname : f.name = "from_cli")
    {key : String}
    (hkey : f.accepts key = true) :
    key = "from_cli" := by
  have haliases : ∀ f ∈ kind.fields, f.name = "from_cli" → f.aliases = [] := by
    cases kind <;> decide
  rw [Field.accepts, hname, haliases f hf hname, List.contains_nil, Bool.or_false] at hkey
  exact (beq_iff_eq.1 hkey).symm

/-- The flag may be missing. -/
theorem name_ne_flag_of_required
    {f : Field}
    (hf : f ∈ kind.fields)
    (hrequired : f.required = true) :
    f.name ≠ "from_cli" := by
  revert f
  cases kind <;> decide

end EventKind

namespace Message

/-! ### Respelling one member -/

/-- Put the camel case of a name in its place, unless the object has this key already. -/
def respell (members : Entries Json) (name : String) : Entries Json :=
  match members.get? name with
  | some value =>
      if (members.get? (camelCase name)).isNone then
        (members.erase name).insert (camelCase name) value
      else members
  | none => members

/-- The others are the members with the camel case of a name in its place. -/
structure Respelled (name : String) (value : Json) (members others : Entries Json) : Prop where
  there : (name, value) ∈ members
  free : ∀ e ∈ members, e.1 ≠ camelCase name
  mem_iff : ∀ e, e ∈ others ↔ e = (camelCase name, value) ∨ e ∈ members ∧ e.1 ≠ name

theorem respell_cases
    {members : Entries Json}
    (hmembers : members.Ascending)
    (name : String) :
    (∃ value, Respelled name value members (respell members name)) ∨
      respell members name = members := by
  cases hthere : members.get? name with
  | none =>
      right
      simp [respell, hthere]
  | some value =>
      cases hfree : members.get? (camelCase name) with
      | some other =>
          right
          simp [respell, hthere, hfree]
      | none =>
          left
          have hrespell :
              respell members name = (members.erase name).insert (camelCase name) value := by
            simp [respell, hthere, hfree]
          have hnew : (members.erase name).get? (camelCase name) = none := by
            rw [Entries.get?_erase hmembers, hfree, ite_self]
          refine ⟨value, Entries.mem_of_get? hthere, ?_, ?_⟩
          · rintro e he hkey
            have hfound := Entries.get?_of_mem hmembers he
            rw [hkey, hfree] at hfound
            cases hfound
          · intro e
            rw [hrespell, Entries.mem_insert_iff hnew, Entries.mem_erase_iff hmembers]

theorem ascending_respell
    {members : Entries Json}
    (hmembers : members.Ascending)
    (name : String) :
    (respell members name).Ascending := by
  unfold respell
  split
  · split
    · exact (hmembers.erase name).insert _ _
    · exact hmembers
  · exact hmembers

/-- Other keys are looked up as before. -/
theorem get?_respell
    {members : Entries Json}
    (hmembers : members.Ascending)
    {name key : String}
    (hname : name ≠ key)
    (hcamel : camelCase name ≠ key) :
    (respell members name).get? key = members.get? key := by
  unfold respell
  split
  · split
    · rw [Entries.get?_insert, if_neg hcamel, Entries.get?_erase hmembers, if_neg hname]
    · rfl
  · rfl

namespace Respelled

variable {kind : EventKind} {name : String} {value : Json} {members others : Entries Json}

/-- Up to order, one member has another key. -/
theorem perm
    (h : Respelled name value members others)
    (hmembers : members.Ascending)
    (hothers : others.Ascending) :
    members.Perm ((name, value) :: members.erase name) ∧
      others.Perm ((camelCase name, value) :: members.erase name) := by
  refine ⟨Entries.perm_cons_erase (Entries.get?_of_mem hmembers h.there), ?_⟩
  have hnew : (camelCase name, value) ∉ members.erase name := by
    intro hmem
    exact h.free _ (Entries.mem_of_mem_erase hmem) rfl
  have hrest : (members.erase name).Nodup :=
    (hmembers.erase name).nodup_keys.of_map _
  rw [List.perm_ext_iff_of_nodup (hothers.nodup_keys.of_map _) (List.nodup_cons.2 ⟨hnew, hrest⟩)]
  intro e
  rw [h.mem_iff, List.mem_cons, Entries.mem_erase_iff hmembers]

/-- What is spelled stays spelled. -/
theorem spells_eq
    (h : Respelled name value members others)
    (hname : name ∈ kind.names)
    (canonical : String) :
    spells others canonical = spells members canonical := by
  have hsame : snakeCase (camelCase name) = snakeCase name :=
    (kind.snakeCase_camelCase_name hname).trans (kind.snakeCase_name hname).symm
  rw [Bool.eq_iff_iff, spells_eq_true_iff, spells_eq_true_iff]
  constructor
  · rintro ⟨e, he, hspelling⟩
    rcases (h.mem_iff e).1 he with rfl | ⟨he, _⟩
    · exact ⟨_, h.there, hsame.symm.trans hspelling⟩
    · exact ⟨e, he, hspelling⟩
  · rintro ⟨e, he, hspelling⟩
    by_cases hkey : e.1 = name
    · exact ⟨_, (h.mem_iff _).2 (Or.inl rfl), hsame.trans (hkey ▸ hspelling)⟩
    · exact ⟨e, (h.mem_iff e).2 (Or.inr ⟨he, hkey⟩), hspelling⟩

/-- Under other spellings the same member comes first. -/
theorem find?_other
    (h : Respelled name value members others)
    (hname : name ∈ kind.names)
    (hmembers : members.Ascending)
    (hothers : others.Ascending)
    {canonical : String}
    (hother : name ≠ canonical) :
    others.find? (fun d => snakeCase d.1 == canonical) =
      members.find? fun d => snakeCase d.1 == canonical := by
  have hfilter :
      (others.filter fun d => snakeCase d.1 == canonical) =
        members.filter fun d => snakeCase d.1 == canonical := by
    have hes : Entries.Ascending (others.filter fun d => snakeCase d.1 == canonical) :=
      List.Pairwise.filter _ hothers
    apply hes.ext_mem (List.Pairwise.filter _ hmembers)
    intro e
    simp only [List.mem_filter, h.mem_iff, beq_iff_eq]
    constructor
    · rintro ⟨rfl | ⟨he, _⟩, hspelling⟩
      · rw [kind.snakeCase_camelCase_name hname] at hspelling
        exact absurd hspelling hother
      · exact ⟨he, hspelling⟩
    · rintro ⟨he, hspelling⟩
      refine ⟨Or.inr ⟨he, ?_⟩, hspelling⟩
      rintro rfl
      rw [kind.snakeCase_name hname] at hspelling
      exact hother hspelling
  rw [← List.head?_filter, ← List.head?_filter, hfilter]

/-- Under its own spelling there is this member only, before and afterwards. -/
theorem find?_own
    (h : Respelled name value members others)
    (hname : name ∈ kind.names)
    (hmembers : members.Ascending) :
    members.find? (fun d => snakeCase d.1 == name) = some (name, value) ∧
      others.find? (fun d => snakeCase d.1 == name) = some (camelCase name, value) := by
  have honly : ∀ d ∈ members, snakeCase d.1 = name → d = (name, value) := by
    intro d hd hspelling
    rcases eq_or_eq_camelCase (kind.count_name hname) hspelling with hkey | hkey
    · have hfound := Entries.get?_of_mem hmembers hd
      rw [hkey, Entries.get?_of_mem hmembers h.there, Option.some.injEq] at hfound
      exact Prod.ext hkey hfound.symm
    · exact absurd hkey (h.free d hd)
  constructor
  · apply find?_eq_some_of_unique h.there
    · exact beq_iff_eq.2 (kind.snakeCase_name hname)
    · exact fun d hd hspelling => honly d hd (beq_iff_eq.1 hspelling)
  · apply find?_eq_some_of_unique ((h.mem_iff _).2 (Or.inl rfl))
    · exact beq_iff_eq.2 (kind.snakeCase_camelCase_name hname)
    · intro d hd hspelling
      rcases (h.mem_iff d).1 hd with hnew | ⟨hold, hkey⟩
      · exact hnew
      · exact absurd (congrArg Prod.fst (honly d hold (beq_iff_eq.1 hspelling))) hkey

/-! ### Respelling and merging -/

/-- A member that is respelled in the target is respelled in the merge. -/
theorem mergeMissing_target
    (h : Respelled name value members others)
    (hname : name ∈ kind.names)
    (source : Entries Json) :
    Respelled name value (mergeMissing members source) (mergeMissing others source) := by
  have hspelled : spells members name = true :=
    (spells_eq_true_iff members _).2 ⟨_, h.there, kind.snakeCase_name hname⟩
  have hkey : ∀ e : String × Json, spells members (snakeCase e.1) = false →
      e.1 ≠ name ∧ e.1 ≠ camelCase name := by
    intro e hnew
    constructor <;> intro hkey
    · rw [hkey, kind.snakeCase_name hname, hspelled] at hnew
      cases hnew
    · rw [hkey, kind.snakeCase_camelCase_name hname, hspelled] at hnew
      cases hnew
  refine ⟨(mem_mergeMissing members source _).2 (Or.inl h.there), ?_, ?_⟩
  · intro e he
    rcases (mem_mergeMissing members source e).1 he with he | ⟨hnew, _⟩
    · exact h.free e he
    · exact (hkey e hnew).2
  · intro e
    rw [mem_mergeMissing, mem_mergeMissing, h.mem_iff, h.spells_eq hname]
    constructor
    · rintro ((hrespelled | ⟨he, hne⟩) | ⟨hnew, hfirst⟩)
      · exact Or.inl hrespelled
      · exact Or.inr ⟨Or.inl he, hne⟩
      · exact Or.inr ⟨Or.inr ⟨hnew, hfirst⟩, (hkey e hnew).1⟩
    · rintro (hrespelled | ⟨he | hnew, hne⟩)
      · exact Or.inl (Or.inl hrespelled)
      · exact Or.inl (Or.inr ⟨he, hne⟩)
      · exact Or.inr hnew

/-- A member that is respelled in the source makes no difference where the target spells it. -/
theorem mergeMissing_of_spelled
    (h : Respelled name value members others)
    (hname : name ∈ kind.names)
    (hmembers : members.Ascending)
    (hothers : others.Ascending)
    {target : Entries Json}
    (htarget : target.Ascending)
    (hspelled : spells target name = true) :
    mergeMissing target others = mergeMissing target members := by
  apply (ascending_mergeMissing htarget others).ext_mem (ascending_mergeMissing htarget members)
  intro e
  rw [mem_mergeMissing, mem_mergeMissing]
  by_cases hspelling : name = snakeCase e.1
  · simp [← hspelling, hspelled]
  · rw [h.find?_other hname hmembers hothers hspelling]

/-- Elsewhere it is respelled in the merge. -/
theorem mergeMissing_of_not_spelled
    (h : Respelled name value members others)
    (hname : name ∈ kind.names)
    (hmembers : members.Ascending)
    (hothers : others.Ascending)
    {target : Entries Json}
    (hspelled : spells target name = false) :
    Respelled name value (mergeMissing target members) (mergeMissing target others) := by
  obtain ⟨hold, hnew⟩ := h.find?_own hname hmembers
  have houtside : ∀ e ∈ target, snakeCase e.1 ≠ name := by
    intro e he hspelling
    rw [(spells_eq_true_iff target name).2 ⟨e, he, hspelling⟩] at hspelled
    cases hspelled
  -- Of the own spelling there is one member in either merge.
  have hone : ∀ e : String × Json, snakeCase e.1 = name →
      (e ∈ mergeMissing target members ↔ e = (name, value)) ∧
        (e ∈ mergeMissing target others ↔ e = (camelCase name, value)) := by
    intro e hspelling
    have he : e ∉ target := fun he => houtside e he hspelling
    simp [mem_mergeMissing, he, hspelling, hspelled, hold, hnew, eq_comm]
  refine ⟨(hone (name, value) (kind.snakeCase_name hname)).1.2 rfl, ?_, ?_⟩
  · intro e he hkey
    have hspelling : snakeCase e.1 = name := by
      rw [hkey, kind.snakeCase_camelCase_name hname]
    have hsame := (hone e hspelling).1.1 he
    rw [hsame] at hkey
    exact h.free _ h.there hkey
  · intro e
    by_cases hspelling : snakeCase e.1 = name
    · rw [(hone e hspelling).1, (hone e hspelling).2]
      constructor
      · exact Or.inl
      · rintro (hrespelled | ⟨rfl, hne⟩)
        · exact hrespelled
        · exact absurd rfl hne
    · have hne : e.1 ≠ name := by
        rintro rfl
        exact hspelling (kind.snakeCase_name hname)
      have hne' : e ≠ (camelCase name, value) := by
        rintro rfl
        exact hspelling (kind.snakeCase_camelCase_name hname)
      rw [mem_mergeMissing, mem_mergeMissing,
        h.find?_other hname hmembers hothers (Ne.symm hspelling)]
      simp [hne, hne']

end Respelled

end Message

end RemoteRun
