import RemoteRun.Proofs.Inbound.Lifting

/-!
# Precedence of the top level

A frame may hold fields at its top level and further ones in a nested `data` object.

**Two notions of the same field.** Merging compares keys in snake case.  Decoding takes
all spellings of a field for the same, also those that differ in snake case, such as
`id` and `execution_id` or `message` and `error`.

**Results.** `topLevel_precedes`: as long as no two spellings of one field survive side
by side, no field is refused as a duplicate and the top level decides.  This is so when
every nested spelling of a field that the top level spells too has the snake case of a
key at the top level.  Where two spellings do survive, the frame is refused;
`aliases_clash` is such a frame.
-/

namespace RemoteRun
namespace Message

/-- A frame with a nested `data` object. -/
def enveloped (top nested : Entries Json) : Json :=
  .obj (top.insert "data" (.obj nested))

/-- An envelope is lifted by merging its nested members into its top level. -/
theorem ofJson_enveloped_of_kind
    {top : Entries Json}
    (htop : top.Ascending)
    (hdata : top.get? "data" = none)
    {kind : String}
    (hkind : kindOf? top = some kind)
    (nested : Entries Json) :
    ofJson (enveloped top nested) = .ok ⟨kind, mergeMissing top nested⟩ := by
  have hsame : kindOf? (top.insert "data" (.obj nested)) = kindOf? top := by
    simp [kindOf?, Entries.get?_insert]
  have hflat : flatten (top.insert "data" (.obj nested)) = mergeMissing top nested := by
    simp [flatten, Entries.get?_insert, Entries.erase_insert htop hdata]
  simp [ofJson, lift?, enveloped, hsame, hkind, hflat]

theorem ofJson_enveloped
    {top : Entries Json}
    (htop : top.Ascending)
    (hdata : top.get? "data" = none)
    {kind : EventKind}
    (htype : top.get? "type" = some (.str kind.wireName))
    (nested : Entries Json) :
    ofJson (enveloped top nested) = .ok ⟨kind.wireName, mergeMissing top nested⟩ := by
  have hkind : kindOf? top = some kind.wireName := by
    have hname : kind.wireName.isEmpty = false := by
      cases kind <;> rfl
    simp [kindOf?, htype, hname]
  exact ofJson_enveloped_of_kind htop hdata hkind nested

/-- A message of a kind is decoded by gathering the fields of the kind. -/
theorem decode_of_kind
    (kind : EventKind)
    (members : Entries Json) :
    decode ⟨kind.wireName, members⟩ =
      match Field.gather kind.fields members with
      | .ok gathered => .ok (some (kind.assemble gathered))
      | .error fault => .error (.malformed kind.wireName fault) := by
  cases hg : Field.gather kind.fields members <;> simp [decode, hg]

/-- Every nested spelling of a field that the top level spells too is hidden there. -/
def Hidden (fields : List Field) (top nested : Entries Json) : Prop :=
  ∀ f ∈ fields, ∀ e ∈ top, ∀ d ∈ nested, f.accepts e.1 = true → f.accepts d.1 = true →
    spells top (snakeCase d.1) = true

instance (fields : List Field) (top nested : Entries Json) :
    Decidable (Hidden fields top nested) := by
  unfold Hidden
  infer_instance

/-- A merge spells no field twice when each part does not and what the parts share is
hidden. -/
theorem spelledOnce_mergeMissing
    {fields : List Field}
    {top nested : Entries Json}
    (htop : Field.SpelledOnce fields top)
    (hnested : Field.SpelledOnce fields nested)
    (hhidden : Hidden fields top nested) :
    Field.SpelledOnce fields (mergeMissing top nested) := by
  have hcross :
      ∀ f ∈ fields, ∀ e ∈ top, ∀ d, spells top (snakeCase d.1) = false → d ∈ nested →
        f.accepts e.1 = true → ¬ f.accepts d.1 = true := by
    intro f hf e he d hnew hd hespells hdspells
    have hthere := hhidden f hf e he d hd hespells hdspells
    rw [hnew] at hthere
    simp at hthere
  intro f hf e he d hd hespells hdspells
  rcases (mem_mergeMissing top nested e).1 he with he | ⟨hnew, hfirst⟩ <;>
    rcases (mem_mergeMissing top nested d).1 hd with hd | ⟨hnew', hfirst'⟩
  · exact htop f hf e he d hd hespells hdspells
  · exact absurd hdspells (hcross f hf e he d hnew' (List.mem_of_find?_eq_some hfirst') hespells)
  · exact absurd hespells (hcross f hf d hd e hnew (List.mem_of_find?_eq_some hfirst) hdspells)
  · exact hnested f hf e (List.mem_of_find?_eq_some hfirst) d (List.mem_of_find?_eq_some hfirst')
      hespells hdspells

/-- Decoding members that spell no field twice refuses no duplicate, and what they say of
a field is what the event says of it. -/
theorem decode_of_spelledOnce
    {kind : EventKind}
    {members : Entries Json}
    (hmembers : members.Ascending)
    (honce : Field.SpelledOnce kind.fields members) :
    (∀ name, decode ⟨kind.wireName, members⟩ ≠ .error (.malformed kind.wireName (.duplicate name))) ∧
      ∀ event, decode ⟨kind.wireName, members⟩ = .ok (some event) →
        ∃ gathered, event = kind.assemble gathered ∧
          ∀ f ∈ kind.fields, ∀ e ∈ members, f.accepts e.1 = true →
            gathered.get? f.name = some e.2 := by
  simp only [decode_of_kind]
  cases hg : Field.gather kind.fields members with
  | ok gathered =>
      refine ⟨by simp, ?_⟩
      intro event hevent
      simp only [Except.ok.injEq, Option.some.injEq] at hevent
      exact ⟨gathered, hevent.symm, fun f hf e he hspells => Field.get?_gather hg hf he hspells⟩
  | error fault =>
      refine ⟨?_, by simp⟩
      intro name hduplicate
      simp only [Except.error.injEq, ProtocolError.malformed.injEq, true_and] at hduplicate
      exact Field.gather_ne_duplicate hmembers honce name (by rw [hg, hduplicate])

/-- Members that spell a field twice are refused. -/
theorem decode_of_not_spelledOnce
    {kind : EventKind}
    {members : Entries Json}
    (htwice : ¬ Field.SpelledOnce kind.fields members) :
    ∃ fault, decode ⟨kind.wireName, members⟩ = .error (.malformed kind.wireName fault) := by
  simp only [decode_of_kind]
  cases hg : Field.gather kind.fields members with
  | ok gathered =>
      exact absurd (Field.spelledOnce_of_gather hg) htwice
  | error fault =>
      exact ⟨fault, rfl⟩

/-- **Precedence.**  Take a frame whose top level and whose nested object each spell no
field twice.  If its flattened members spell no field twice either, decoding refuses no
duplicate, and a decoded event has the value of the top level in every field that the
top level spells; otherwise the frame is refused.  The first is the case as long as
every nested spelling of a field that the top level spells too is hidden there. -/
theorem topLevel_precedes
    {top nested : Entries Json}
    {kind : EventKind}
    (hascending : top.Ascending)
    (hdata : top.get? "data" = none)
    (htype : top.get? "type" = some (.str kind.wireName))
    (htop : Field.SpelledOnce kind.fields top)
    (hnested : Field.SpelledOnce kind.fields nested) :
    ∃ m, ofJson (enveloped top nested) = .ok m ∧
      (Hidden kind.fields top nested → Field.SpelledOnce kind.fields m.members) ∧
      (Field.SpelledOnce kind.fields m.members →
        (∀ name, m.decode ≠ .error (.malformed m.kind (.duplicate name))) ∧
        ∀ event, m.decode = .ok (some event) →
          ∃ gathered, event = kind.assemble gathered ∧
            ∀ f ∈ kind.fields, ∀ e ∈ top, f.accepts e.1 = true →
              gathered.get? f.name = some e.2) ∧
      (¬ Field.SpelledOnce kind.fields m.members →
        ∃ fault, m.decode = .error (.malformed m.kind fault)) := by
  refine ⟨_, ofJson_enveloped hascending hdata htype nested, ?_, ?_, ?_⟩
  · exact spelledOnce_mergeMissing htop hnested
  · intro honce
    obtain ⟨hfree, hvalues⟩ :=
      decode_of_spelledOnce (ascending_mergeMissing hascending nested) honce
    refine ⟨hfree, ?_⟩
    intro event hevent
    obtain ⟨gathered, hassembled, hfound⟩ := hvalues event hevent
    refine ⟨gathered, hassembled, ?_⟩
    intro f hf e he
    exact hfound f hf e ((mem_mergeMissing top nested e).2 (Or.inl he))
  · exact decode_of_not_spelledOnce

/-- The top level of a report on progress. -/
def progressTop : Entries Json :=
  [("node_id", .str "top"), ("type", .str "node_progress")]

/-- Its nested object, which spells the node too. -/
def progressNested : Entries Json :=
  [("message", .str "50%"), ("nodeId", .str "nested")]

theorem progressTop_precedes :
    ∃ m, ofJson (enveloped progressTop progressNested) = .ok m ∧
      (∀ name, m.decode ≠ .error (.malformed m.kind (.duplicate name))) ∧
      m.decode = .ok (some (.node "top" (.progress "50%"))) := by
  have hascending : progressTop.Ascending := by
    unfold Entries.Ascending progressTop
    decide
  have htype : progressTop.get? "type" = some (.str EventKind.nodeProgress.wireName) :=
    rfl
  obtain ⟨m, hm, hhidden, honce, _⟩ :=
    topLevel_precedes hascending rfl htype (by decide)
      (by decide : Field.SpelledOnce EventKind.nodeProgress.fields progressNested)
  refine ⟨m, hm, (honce (hhidden (by decide))).1, ?_⟩
  cases hm
  rfl

/-- An execution under the short spelling of its id. -/
def shortTop : Entries Json :=
  [("id", .str "e1"), ("type", .str "execution_started")]

/-- A nested object with the long spelling. -/
def longNested : Entries Json :=
  [("execution_id", .str "e2")]

/-- Two spellings of one field, one at each level, that differ in snake case: each level
spells no field twice, and yet the frame is refused as a duplicate. -/
theorem aliases_clash :
    Field.SpelledOnce EventKind.executionStarted.fields shortTop ∧
      Field.SpelledOnce EventKind.executionStarted.fields longNested ∧
      (ofJson (enveloped shortTop longNested)).bind decode =
        .error (.malformed "execution_started" (.duplicate "execution_id")) :=
  ⟨by decide, by decide, rfl⟩

end Message
end RemoteRun
