import Mathlib.Data.List.Find
import RemoteRun.Proofs.Inbound.CamelCase

/-!
# Respelling frames

A frame may have its keys in snake case or in camel case, at its top level and under `data`.

**Frames.** A step respells one key at either level, and steps follow one another
(`respellAll`).  One step leaves the flattened members as they are, or respells the same name
among them (`flatten_apply`).

**Gathering.** The order of the members makes no difference, and a field is taken under every
key that it accepts.  A respelled `from_cli` is passed over, and its field is not gathered.

**Results.** `decode_respelled`: a frame that is decoded is decoded to the same event after
any such steps, but for the flag, which is lost when `from_cli` is respelled.  `cliStart` is a
frame that loses it.
-/

namespace RemoteRun

namespace Message

/-! ### Respelling a frame -/

/-- The members of the object under `data`. -/
def nestedMembers (members : Entries Json) : Entries Json :=
  ((members.get? "data").bind Json.object?).getD []

theorem flatten_eq_mergeMissing
    (members : Entries Json) :
    flatten members = mergeMissing (members.erase "data") (nestedMembers members) := by
  unfold flatten nestedMembers
  cases hdata : members.get? "data" with
  | none =>
      rw [Entries.erase_of_get?_eq_none hdata]
      rfl
  | some value =>
      cases value <;> rfl

/-- Respell a key of the nested object. -/
def respellNested (members : Entries Json) (name : String) : Entries Json :=
  match (members.get? "data").bind Json.object? with
  | some nested => members.insert "data" (.obj (respell nested name))
  | none => members

/-- A key of the top level or of the nested object is respelled. -/
inductive Respelling where
  | top (name : String)
  | nested (name : String)

namespace Respelling

/-- The name that is respelled. -/
def name : Respelling → String
  | .top name => name
  | .nested name => name

/-- The frame afterwards. -/
def apply (members : Entries Json) : Respelling → Entries Json
  | .top name => respell members name
  | .nested name => respellNested members name

end Respelling

/-- The frame after steps that are taken one after the other. -/
def respellAll (members : Entries Json) (steps : List Respelling) : Entries Json :=
  steps.foldl Respelling.apply members

/-- Both levels list their members in key order. -/
structure Ordered (members : Entries Json) : Prop where
  top : members.Ascending
  nested : (nestedMembers members).Ascending

theorem Ordered.of_canonical
    {members : Entries Json}
    (h : (Json.obj members).Canonical) :
    Ordered members := by
  refine ⟨h.1, ?_⟩
  unfold nestedMembers
  cases hdata : members.get? "data" with
  | none =>
      exact List.Pairwise.nil
  | some value =>
      have hvalue := (Json.canonicalMembers_iff members).1 h.2 _ (Entries.mem_of_get? hdata)
      cases value with
      | obj nested =>
          exact hvalue.1
      | _ =>
          exact List.Pairwise.nil

section Step

variable {kind : EventKind} {name : String} {members : Entries Json}

theorem nestedMembers_top
    (hmembers : members.Ascending)
    (hname : name ∈ kind.names) :
    nestedMembers (respell members name) = nestedMembers members := by
  obtain ⟨hdata, hcamel⟩ := kind.ne_of_frameKey hname (Or.inr rfl)
  unfold nestedMembers
  rw [get?_respell hmembers hdata hcamel]

theorem nestedMembers_nested
    (members : Entries Json)
    (name : String) :
    nestedMembers (respellNested members name) = respell (nestedMembers members) name := by
  unfold respellNested nestedMembers
  cases hnested : (members.get? "data").bind Json.object? with
  | none =>
      simp [hnested, respell]
  | some nested =>
      simp [Entries.get?_insert, Json.object?]

theorem erase_data_nested
    (hmembers : members.Ascending)
    (name : String) :
    (respellNested members name).erase "data" = members.erase "data" := by
  unfold respellNested
  split
  · exact Entries.erase_insert_eq_erase hmembers "data" _
  · rfl

theorem Ordered.apply
    (h : Ordered members)
    {step : Respelling}
    (hname : step.name ∈ kind.names) :
    Ordered (step.apply members) := by
  cases step with
  | top name =>
      have hmem : name ∈ kind.names := hname
      refine ⟨ascending_respell h.top name, ?_⟩
      rw [Respelling.apply, nestedMembers_top h.top hmem]
      exact h.nested
  | nested name =>
      rw [Respelling.apply]
      constructor
      · unfold respellNested
        split
        · exact h.top.insert "data" _
        · exact h.top
      · rw [nestedMembers_nested]
        exact ascending_respell h.nested name

theorem kindOf?_apply
    (h : Ordered members)
    {step : Respelling}
    (hname : step.name ∈ kind.names) :
    kindOf? (step.apply members) = kindOf? members := by
  have htype : (step.apply members).get? "type" = members.get? "type" := by
    cases step with
    | top name =>
        obtain ⟨htype, hcamel⟩ := kind.ne_of_frameKey hname (Or.inl rfl)
        exact get?_respell h.top htype hcamel
    | nested name =>
        rw [Respelling.apply, respellNested]
        split
        · rw [Entries.get?_insert, if_neg (by decide)]
        · rfl
  rw [kindOf?, kindOf?, htype]

/-- A member that is respelled outside `data` is respelled among the others. -/
theorem Respelled.erase_data
    {value : Json}
    {others : Entries Json}
    (h : Respelled name value members others)
    (hname : name ∈ kind.names)
    (hmembers : members.Ascending)
    (hothers : others.Ascending) :
    Respelled name value (members.erase "data") (others.erase "data") := by
  obtain ⟨hdata, hcamel⟩ := kind.ne_of_frameKey hname (Or.inr rfl)
  refine ⟨(Entries.mem_erase_iff hmembers _ _).2 ⟨h.there, hdata⟩, ?_, ?_⟩
  · exact fun e he => h.free e (Entries.mem_of_mem_erase he)
  · intro e
    rw [Entries.mem_erase_iff hothers, Entries.mem_erase_iff hmembers, h.mem_iff]
    constructor
    · rintro ⟨rfl | ⟨he, hne⟩, hdata⟩
      · exact Or.inl rfl
      · exact Or.inr ⟨⟨he, hdata⟩, hne⟩
    · rintro (rfl | ⟨⟨he, hdata⟩, hne⟩)
      · exact ⟨Or.inl rfl, hcamel⟩
      · exact ⟨Or.inr ⟨he, hne⟩, hdata⟩

/-- One step respells the same name among the flattened members, or leaves them as they
are. -/
theorem flatten_apply
    (h : Ordered members)
    {step : Respelling}
    (hname : step.name ∈ kind.names) :
    (∃ value, Respelled step.name value (flatten members) (flatten (step.apply members))) ∨
      flatten (step.apply members) = flatten members := by
  rw [flatten_eq_mergeMissing members, flatten_eq_mergeMissing (step.apply members)]
  cases step with
  | top name =>
      have hmem : name ∈ kind.names := hname
      rw [Respelling.apply, nestedMembers_top h.top hmem]
      rcases respell_cases h.top name with ⟨value, hrespelled⟩ | hsame
      · have htop := hrespelled.erase_data hname h.top (ascending_respell h.top name)
        exact Or.inl ⟨value, htop.mergeMissing_target hname _⟩
      · exact Or.inr (by rw [hsame])
  | nested name =>
      rw [Respelling.apply, erase_data_nested h.top, nestedMembers_nested]
      rcases respell_cases h.nested name with ⟨value, hrespelled⟩ | hsame
      · have hothers := ascending_respell h.nested name
        cases hspelled : spells (members.erase "data") name with
        | true =>
            exact Or.inr
              (hrespelled.mergeMissing_of_spelled hname h.nested hothers (h.top.erase "data") hspelled)
        | false =>
            exact Or.inl
              ⟨value, hrespelled.mergeMissing_of_not_spelled hname h.nested hothers hspelled⟩
      · exact Or.inr (by rw [hsame])

end Step

end Message

/-! ### Respelling and gathering -/

namespace Field

variable {kind : EventKind} {name : String} {value : Json} {members others gathered : Entries Json}

theorem missing?_erase_flag
    (kind : EventKind)
    (hgathered : gathered.Ascending) :
    missing? kind.fields (gathered.erase "from_cli") = missing? kind.fields gathered := by
  unfold missing?
  congr 1
  apply List.find?_congr
  intro f hf
  cases hrequired : f.required with
  | false =>
      rfl
  | true =>
      rw [Entries.get?_erase hgathered,
        if_neg (Ne.symm (EventKind.name_ne_flag_of_required hf hrequired))]

/-- Any name but the flag may be respelled. -/
theorem gather_respelled
    (h : Message.Respelled name value members others)
    (hmembers : members.Ascending)
    (hothers : others.Ascending)
    (hname : name ∈ kind.names)
    (hflag : name ≠ "from_cli")
    (hgather : gather kind.fields members = .ok gathered) :
    gather kind.fields others = .ok gathered := by
  rw [gather_eq_ok_iff] at hgather ⊢
  obtain ⟨htake, hmissing⟩ := hgather
  obtain ⟨hold, hnew⟩ := h.perm hmembers hothers
  have hempty : Entries.Ascending ([] : Entries Json) := List.Pairwise.nil
  refine ⟨takeAll_perm hnew.symm hempty ?_, hmissing⟩
  obtain ⟨next, hnext, hrest⟩ :=
    takeAll_cons_eq_ok_iff.1 (takeAll_perm hold hempty htake)
  refine takeAll_cons_eq_ok_iff.2 ⟨next, ?_, hrest⟩
  rw [take_eq] at hnext ⊢
  rw [kind.spelled?_camelCase_name hname hflag]
  exact hnext

/-- The flag is passed over when it is respelled. -/
theorem gather_respelled_flag
    (h : Message.Respelled "from_cli" value members others)
    (hmembers : members.Ascending)
    (hothers : others.Ascending)
    (hname : "from_cli" ∈ kind.names)
    (hgather : gather kind.fields members = .ok gathered) :
    gather kind.fields others = .ok (gathered.erase "from_cli") := by
  rw [gather_eq_ok_iff] at hgather ⊢
  obtain ⟨htake, hmissing⟩ := hgather
  obtain ⟨hold, hnew⟩ := h.perm hmembers hothers
  have hempty : Entries.Ascending ([] : Entries Json) := List.Pairwise.nil
  rw [missing?_erase_flag kind (ascending_takeAll hempty htake)]
  refine ⟨takeAll_perm hnew.symm hempty ?_, hmissing⟩
  -- The flag may be the last one that is taken, and what was taken before is all but the flag.
  have hlast := hold.trans (List.perm_append_singleton _ _).symm
  obtain ⟨next, hnext, hflag⟩ :=
    takeAll_concat_eq_ok_iff.1 (takeAll_perm hlast hempty htake)
  obtain ⟨f, hf, hflagname⟩ := List.mem_map.1 hname
  have hspelled : spelled? kind.fields "from_cli" = some f :=
    EventKind.spelled?_of_accepts hf (hflagname ▸ f.accepts_name)
  rcases take_eq_ok_iff.1 hflag with ⟨hnone, _⟩ | ⟨g, hg, hfree, _, rfl⟩
  · rw [hspelled] at hnone
    cases hnone
  · rw [hspelled, Option.some.injEq] at hg
    subst hg
    rw [hflagname] at hfree ⊢
    rw [Entries.erase_insert (ascending_takeAll hempty hnext) hfree]
    exact takeAll_cons_eq_ok_iff.2 ⟨[], take_of_unknown (kind.spelled?_camelFlag), hnext⟩

end Field

/-- The event with its flag lowered. -/
def Event.withoutFlag : Event → Event
  | .execution (.started id totalNodes diagram _) =>
      .execution (.started id totalNodes diagram false)
  | event => event

/-- Nothing but the flag is read from `from_cli`. -/
theorem EventKind.assemble_erase_flag
    (kind : EventKind)
    {gathered : Gathered}
    (hgathered : gathered.Ascending) :
    kind.assemble (gathered.erase "from_cli") = (kind.assemble gathered).withoutFlag := by
  cases kind <;>
    simp [assemble, Event.withoutFlag, Gathered.text, Gathered.optionalText, Gathered.count,
      Gathered.flag, Gathered.value, Entries.get?_erase hgathered]

namespace Message

/-! ### Respelling and decoding -/

section Run

variable {kind : EventKind} {members gathered : Entries Json}

theorem gather_apply
    (h : Ordered members)
    {step : Respelling}
    (hname : step.name ∈ kind.names)
    (hgather : Field.gather kind.fields (flatten members) = .ok gathered) :
    Field.gather kind.fields (flatten (step.apply members)) = .ok gathered ∨
      step.name = "from_cli" ∧
        Field.gather kind.fields (flatten (step.apply members)) =
          .ok (gathered.erase "from_cli") := by
  have hbefore := ascending_flatten h.top
  have hafter := ascending_flatten (h.apply hname).top
  rcases flatten_apply h hname with ⟨value, hrespelled⟩ | hsame
  · by_cases hflag : step.name = "from_cli"
    · rw [hflag] at hrespelled hname
      exact Or.inr
        ⟨hflag, Field.gather_respelled_flag hrespelled hbefore hafter hname hgather⟩
    · exact Or.inl (Field.gather_respelled hrespelled hbefore hafter hname hflag hgather)
  · exact Or.inl (by rw [hsame, hgather])

theorem Ordered.respellAll
    (h : Ordered members)
    {steps : List Respelling}
    (hsteps : ∀ step ∈ steps, step.name ∈ kind.names) :
    Ordered (respellAll members steps) := by
  induction steps generalizing members with
  | nil =>
      exact h
  | cons step steps ih =>
      obtain ⟨hname, hrest⟩ := List.forall_mem_cons.1 hsteps
      exact ih (h.apply hname) hrest

theorem gather_respellAll
    (h : Ordered members)
    {steps : List Respelling}
    (hsteps : ∀ step ∈ steps, step.name ∈ kind.names)
    (hgather : Field.gather kind.fields (flatten members) = .ok gathered) :
    Field.gather kind.fields (flatten (respellAll members steps)) = .ok gathered ∨
      (∃ step ∈ steps, step.name = "from_cli") ∧
        Field.gather kind.fields (flatten (respellAll members steps)) =
          .ok (gathered.erase "from_cli") := by
  induction steps generalizing members gathered with
  | nil =>
      exact Or.inl hgather
  | cons step steps ih =>
      obtain ⟨hname, hrest⟩ := List.forall_mem_cons.1 hsteps
      have hordered := h.apply hname
      rcases gather_apply h hname hgather with hkept | ⟨hflag, hlost⟩
      · rcases ih hordered hrest hkept with hkept | ⟨⟨later, hlater, hflag⟩, hlost⟩
        · exact Or.inl hkept
        · exact Or.inr ⟨⟨later, List.mem_cons_of_mem step hlater, hflag⟩, hlost⟩
      · -- The flag cannot be lost twice.
        have htwice : (gathered.erase "from_cli").erase "from_cli" = gathered.erase "from_cli" := by
          apply Entries.erase_of_get?_eq_none
          rw [Entries.get?_erase (Field.ascending_gather hgather), if_pos rfl]
        refine Or.inr ⟨⟨step, List.mem_cons_self, hflag⟩, ?_⟩
        rcases ih hordered hrest hlost with hkept | ⟨_, hlost⟩
        · exact hkept
        · exact htwice ▸ hlost

/-- The flag stays as long as `from_cli` stands among the flattened members. -/
theorem gather_respellAll_eq
    (h : Ordered members)
    {steps : List Respelling}
    (hsteps : ∀ step ∈ steps, step.name ∈ kind.names)
    (hgather : Field.gather kind.fields (flatten members) = .ok gathered) :
    Field.gather kind.fields (flatten (respellAll members steps)) =
      .ok
        (if ((flatten (respellAll members steps)).get? "from_cli").isSome then gathered
          else gathered.erase "from_cli") := by
  have hflat : (flatten (respellAll members steps)).Ascending :=
    ascending_flatten (h.respellAll hsteps).top
  generalize hthere : (flatten (respellAll members steps)).get? "from_cli" = there
  rcases gather_respellAll h hsteps hgather with hkept | ⟨⟨step, hstep, hflag⟩, hlost⟩
  · cases there with
    | some value =>
        exact hkept
    | none =>
        have hnone : gathered.get? "from_cli" = none := by
          cases hvalue : gathered.get? "from_cli" with
          | none =>
              rfl
          | some value =>
              obtain ⟨e, he, f, hf, hname, hspells, _⟩ := Field.mem_of_get?_gather hkept hvalue
              have hkey := EventKind.eq_flag_of_accepts hf hname hspells
              have hfound := Entries.get?_of_mem hflat he
              rw [hkey, hthere] at hfound
              cases hfound
        rw [hkept, Entries.erase_of_get?_eq_none hnone, ite_self]
  · cases there with
    | none =>
        exact hlost
    | some value =>
        obtain ⟨f, hf, hname⟩ := List.mem_map.1 (hflag ▸ hsteps step hstep)
        have hfound :=
          Field.get?_gather hlost hf (Entries.mem_of_get? hthere) (hname ▸ f.accepts_name)
        rw [hname, Entries.get?_erase (Field.ascending_gather hgather), if_pos rfl] at hfound
        cases hfound

theorem kindOf?_respellAll
    (h : Ordered members)
    {steps : List Respelling}
    (hsteps : ∀ step ∈ steps, step.name ∈ kind.names) :
    kindOf? (respellAll members steps) = kindOf? members := by
  induction steps generalizing members with
  | nil =>
      rfl
  | cons step steps ih =>
      obtain ⟨hname, hrest⟩ := List.forall_mem_cons.1 hsteps
      exact (ih (h.apply hname) hrest).trans (kindOf?_apply h hname)

end Run

/-- **Respelling.**  Take a frame that is decoded, and respell names of fields of its kind at
the top level and in the nested object, in any order and number.  The frame is lifted to a
message of the same kind as before.  As long as the flag is not among the names, it is decoded
to the same event.  In any case nothing but the flag may differ: the event is the same while
`from_cli` still stands among the flattened members, and has its flag lowered otherwise. -/
theorem decode_respelled
    {members : Entries Json}
    (hframe : (Json.obj members).Canonical)
    {m : Message}
    (hm : ofJson (.obj members) = .ok m)
    {kind : EventKind}
    (hkind : EventKind.ofWireName? m.kind = some kind)
    {event : Event}
    (hevent : m.decode = .ok (some event))
    {steps : List Respelling}
    (hsteps : ∀ step ∈ steps, step.name ∈ kind.names) :
    ∃ again, ofJson (.obj (respellAll members steps)) = .ok again ∧ again.kind = m.kind ∧
      ((∀ step ∈ steps, step.name ≠ "from_cli") → again.decode = m.decode) ∧
      again.decode =
        .ok (some
          (if (again.members.get? "from_cli").isSome then event else event.withoutFlag)) ∧
      (again.decode = m.decode ↔
        (again.members.get? "from_cli").isSome ∨ event.withoutFlag = event) := by
  have hordered := Ordered.of_canonical hframe
  obtain ⟨_, hmembers, hkindOf, hflat⟩ := ofJson_eq_ok hm
  obtain rfl := Json.obj.inj hmembers
  obtain ⟨kind', gathered, hkind', hgather, rfl⟩ := decode_eq_some_iff.1 hevent
  obtain rfl := Option.some.inj (hkind.symm.trans hkind')
  rw [hflat] at hgather
  have hagain : ofJson (.obj (respellAll members steps)) =
      .ok ⟨m.kind, flatten (respellAll members steps)⟩ := by
    simp [ofJson, lift?, kindOf?_respellAll hordered hsteps, hkindOf]
  have hdecode : decode ⟨m.kind, flatten (respellAll members steps)⟩ =
      .ok (some
        (if ((flatten (respellAll members steps)).get? "from_cli").isSome
          then kind.assemble gathered else (kind.assemble gathered).withoutFlag)) := by
    refine decode_eq_some_iff.2
      ⟨kind, _, hkind, gather_respellAll_eq hordered hsteps hgather, ?_⟩
    split
    · rfl
    · exact (kind.assemble_erase_flag (Field.ascending_gather hgather)).symm
  refine ⟨_, hagain, rfl, ?_, hdecode, ?_⟩
  · intro hflags
    rcases gather_respellAll hordered hsteps hgather with hkept | ⟨⟨step, hstep, hflag⟩, _⟩
    · rw [hevent]
      exact decode_eq_some_iff.2 ⟨kind, gathered, hkind, hkept, rfl⟩
    · exact absurd hflag (hflags step hstep)
  · rw [hdecode, hevent, Except.ok.injEq, Option.some.injEq]
    split <;> simp_all

/-- A report on a node with a member at each level. -/
def nodeFrame : Entries Json :=
  [("data", .obj [("node_type", .str "llm")]), ("node_id", .str "a"), ("type", .str "node_start")]

/-- Its message. -/
def nodeMessage : Message :=
  ⟨"node_start", [("node_id", .str "a"), ("node_type", .str "llm"), ("type", .str "node_start")]⟩

theorem nodeFrame_respelled :
    respellAll nodeFrame [.top "node_id", .nested "node_type"] =
        [("data", .obj [("nodeType", .str "llm")]), ("nodeId", .str "a"),
         ("type", .str "node_start")] ∧
      ∃ again,
        ofJson (.obj (respellAll nodeFrame [.top "node_id", .nested "node_type"])) = .ok again ∧
          again.kind = "node_start" ∧ again.decode = .ok (some (.node "a" (.start (some "llm")))) := by
  have hframe : (Json.obj nodeFrame).Canonical := by
    refine ⟨?_, ⟨?_, trivial, trivial⟩, trivial, trivial, trivial⟩ <;>
      unfold Entries.Ascending <;> decide
  have hevent : nodeMessage.decode = .ok (some (.node "a" (.start (some "llm")))) :=
    rfl
  obtain ⟨again, hagain, hkind, hsame, _⟩ :=
    @decode_respelled nodeFrame hframe nodeMessage rfl .nodeStart rfl _ hevent
      [.top "node_id", .nested "node_type"] (by decide)
  exact ⟨by rfl, again, hagain, hkind, (hsame (by decide)).trans hevent⟩

/-- The start of an execution from the command line. -/
def cliStart : Entries Json :=
  [("execution_id", .str "e1"), ("from_cli", .bool true), ("type", .str "execution_started")]

/-- The camel case of `from_cli` is passed over: the respelled start is decoded, and its flag is
lost. -/
theorem cliStart_loses_flag :
    (ofJson (.obj cliStart)).bind decode =
        .ok (some (.execution (.started "e1" none none true))) ∧
      respellAll cliStart [.top "from_cli"] =
        [("execution_id", .str "e1"), ("fromCli", .bool true), ("type", .str "execution_started")] ∧
      (ofJson (.obj (respellAll cliStart [.top "from_cli"]))).bind decode =
        .ok (some (.execution (.started "e1" none none false))) :=
  ⟨rfl, rfl, rfl⟩

end Message

end RemoteRun
