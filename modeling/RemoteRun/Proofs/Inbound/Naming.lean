import RemoteRun.Proofs.Inbound.Respelling

/-!
# The node that a message names

Three ways lead to the node of a report.  Decoding takes the field of the node in either
spelling, a look at the members takes the first spelling that is there, and a report that
waited is flattened once more and decoded again.

**Naming.** `NamesNode members id` says that some member spells the node and that every
member that does has this id.  All three ways are looked at through it.

**Flattening.** Both spellings of the node have the same snake case.  Where the members name
a node already, no nested spelling of it is moved to them.

**Results.**
* `namesNode_of_decode`: the members of a report name the node of the report.
* `NamesNode.nodeId?_eq`: the node that is named is found under either spelling.
* `NamesNode.flatten`: flattening makes no difference to the node that is named.
* `NamesNode.decode_cases`: what is decoded to a report is one on the node that is named.
* `relifted_cases`: all of this for a report that is lifted again.
-/

namespace RemoteRun

namespace EventKind

/-- The events of a kind are reports on the node that the field of the node has. -/
structure ReportsNode (kind : EventKind) : Prop where
  field : Field.node ∈ kind.fields
  report :
    ∀ gathered : Gathered, ∃ report,
      kind.assemble gathered = .node (gathered.text "node_id") report

/-- A kind of which one event is a report on a node has no others. -/
theorem reportsNode_of_assemble
    {kind : EventKind}
    {gathered : Gathered}
    {id : String}
    {report : NodeReport}
    (h : kind.assemble gathered = .node id report) :
    kind.ReportsNode := by
  cases kind with
  | nodeStart | nodeProgress | nodeComplete | nodeSkipped | nodeError | nodePaused
  | nodeResumed =>
      exact ⟨List.mem_cons_self, fun _ => ⟨_, rfl⟩⟩
  | _ =>
      cases h

end EventKind

namespace Message

/-! ### Spellings of the node -/

theorem accepts_node_iff
    {key : String} :
    Field.node.accepts key = true ↔ key = "node_id" ∨ key = "nodeId" := by
  simp [Field.node, Field.textOf, Field.accepts_iff_mem_spellings, Field.spellings]

theorem snakeCase_of_accepts_node
    {key : String}
    (h : Field.node.accepts key = true) :
    snakeCase key = "node_id" := by
  rcases accepts_node_iff.1 h with rfl | rfl <;> decide

/-- Some member spells the node, and every member that does has this id. -/
structure NamesNode (members : Entries Json) (id : String) : Prop where
  spelled : ∃ e ∈ members, Field.node.accepts e.1 = true
  same : ∀ e ∈ members, Field.node.accepts e.1 = true → e.2 = .str id

/-! ### Decoding -/

/-- The members of a report name the node of the report. -/
theorem namesNode_of_decode
    {m : Message}
    {id : String}
    {report : NodeReport}
    (h : m.decode = .ok (some (.node id report))) :
    NamesNode m.members id := by
  obtain ⟨kind, gathered, _, hgather, hevent⟩ := decode_eq_some_iff.1 h
  have hkind := EventKind.reportsNode_of_assemble hevent.symm
  have hid : id = Gathered.text gathered "node_id" := by
    obtain ⟨other, hother⟩ := hkind.report gathered
    rw [hother, Event.node.injEq] at hevent
    exact hevent.1
  obtain ⟨e, he, hspells, text, htext⟩ :=
    Field.exists_text_of_gather hgather hkind.field rfl rfl
  have hfound : ∀ d ∈ m.members, Field.node.accepts d.1 = true →
      gathered.get? "node_id" = some d.2 :=
    fun d hd hdspells => Field.get?_gather hgather hkind.field hd hdspells
  have hname : id = text := by
    rw [hid, Gathered.text, hfound e he hspells, htext]
  refine ⟨⟨e, he, hspells⟩, ?_⟩
  intro d hd hdspells
  have hvalue := hfound d hd hdspells
  rw [hfound e he hspells, Option.some.injEq] at hvalue
  rw [← hvalue, htext, hname]

namespace NamesNode

variable {id : String}

/-- What is decoded to an event of a kind that reports on nodes is a report on the node that
is named. -/
theorem decode_cases
    {m : Message}
    (h : NamesNode m.members id)
    {kind : EventKind}
    (hkind : EventKind.ofWireName? m.kind = some kind)
    (hreports : kind.ReportsNode) :
    (∃ fault, m.decode = .error (.malformed m.kind fault)) ∨
      ∃ report, m.decode = .ok (some (.node id report)) := by
  cases hgather : Field.gather kind.fields m.members with
  | error fault =>
      left
      refine ⟨fault, ?_⟩
      simp only [decode, hkind, hgather]
  | ok gathered =>
      right
      obtain ⟨e, he, hspells⟩ := h.spelled
      have hfound : gathered.get? "node_id" = some e.2 :=
        Field.get?_gather hgather hreports.field he hspells
      have hid : Gathered.text gathered "node_id" = id := by
        rw [Gathered.text, hfound, h.same e he hspells]
      obtain ⟨report, hreport⟩ := hreports.report gathered
      refine ⟨report, decode_eq_some_iff.2 ⟨kind, gathered, hkind, hgather, ?_⟩⟩
      rw [hreport, hid]

/-! ### Looking the node up -/

/-- The node that is named is found under either spelling. -/
theorem nodeId?_eq
    {m : Message}
    (h : NamesNode m.members id) :
    m.nodeId? = some id := by
  have hfound : ∀ key value, Field.node.accepts key = true →
      m.members.get? key = some value → value = .str id :=
    fun key value hkey hvalue => h.same (key, value) (Entries.mem_of_get? hvalue) hkey
  unfold nodeId?
  cases hsnake : m.members.get? "node_id" with
  | some value =>
      rw [hfound "node_id" value (by decide) hsnake]
      rfl
  | none =>
      -- The member that is there has the other spelling.
      obtain ⟨e, he, hspells⟩ := h.spelled
      have hthere : (m.members.get? e.1).isSome = true :=
        (Entries.mem_keys_iff m.members e.1).1 (List.mem_map_of_mem he)
      rcases accepts_node_iff.1 hspells with hkey | hkey
      · rw [hkey, hsnake] at hthere
        cases hthere
      · rw [hkey] at hthere
        obtain ⟨value, hvalue⟩ := Option.isSome_iff_exists.1 hthere
        rw [hvalue, hfound "nodeId" value (by decide) hvalue]
        rfl

/-! ### Flattening -/

/-- Flattening makes no difference to the node that is named. -/
theorem flatten
    {members : Entries Json}
    (h : NamesNode members id) :
    NamesNode (flatten members) id := by
  rw [flatten_eq_mergeMissing]
  obtain ⟨e, he, hspells⟩ := h.spelled
  have hkept : e ∈ Entries.erase members "data" := by
    apply Entries.mem_erase_of_ne he
    rcases accepts_node_iff.1 hspells with hkey | hkey <;> simp [hkey]
  have hthere : spells (Entries.erase members "data") "node_id" = true :=
    (spells_eq_true_iff _ _).2 ⟨e, hkept, snakeCase_of_accepts_node hspells⟩
  constructor
  · exact ⟨e, (mem_mergeMissing _ _ e).2 (Or.inl hkept), hspells⟩
  · intro d hd hdspells
    rcases (mem_mergeMissing _ _ d).1 hd with hd | ⟨hnew, _⟩
    · exact h.same d (Entries.mem_of_mem_erase hd) hdspells
    · -- A nested spelling of the node is hidden by the one at the top level.
      rw [snakeCase_of_accepts_node hdspells, hthere] at hnew
      cases hnew

end NamesNode

/-! ### Lifting again -/

/-- A report that is lifted again keeps its kind and names its node, and it is a report on
this node if it can be decoded. -/
theorem relifted_cases
    {value : Json}
    {m : Message}
    (hm : ofJson value = .ok m)
    {id : String}
    {report : NodeReport}
    (hd : m.decode = .ok (some (.node id report))) :
    ∃ again, ofJson m.payload = .ok again ∧ again.kind = m.kind ∧ again.nodeId? = some id ∧
      ((∃ fault, again.decode = .error (.malformed m.kind fault)) ∨
        ∃ report, again.decode = .ok (some (.node id report))) := by
  obtain ⟨kind, _, hkind, _, hevent⟩ := decode_eq_some_iff.1 hd
  have hnames : NamesNode (flatten m.members) id :=
    (namesNode_of_decode hd).flatten
  have hreports := EventKind.reportsNode_of_assemble hevent.symm
  exact ⟨⟨m.kind, flatten m.members⟩, ofJson_payload hm, rfl, hnames.nodeId?_eq,
    hnames.decode_cases hkind hreports⟩

end Message

end RemoteRun
