import Mathlib.Data.List.Permutation
import RemoteRun.Execution.Machine
import RemoteRun.Proofs.Canonical
import RemoteRun.Proofs.Inbound.Gathering

/-!
# Lifting a message again

A report that waits is kept as its flattened object, and is lifted a second time when
its node becomes known.

**Merging.** Nested members join the top level one after the other.
`mem_mergeMissing` says which ones: those whose spelling is new at the top level, and of
the nested members with one spelling the first.  Under a key without underscores and
capitals, the top level comes first and the nested object second
(`get?_mergeMissing`).

**Results.** `ofJson_payload_iff`: a flattened message is lifted to itself again exactly
when the nested object had no `data` of its own.  Otherwise this inner `data` is opened
by the second lifting, or dropped if it is no object; `relifted_report_lost` is a report
that is lost in this way.
-/

namespace RemoteRun

theorem Json.sizeOf_lt_of_get?
    {value inner : Json}
    {key : String}
    (h : value.get? key = some inner) :
    sizeOf inner < sizeOf value := by
  cases value with
  | obj members =>
      have hmem := List.sizeOf_lt_of_mem (Entries.mem_of_get? h)
      simp only [Prod.mk.sizeOf_spec, Json.obj.sizeOf_spec] at hmem ⊢
      omega
  | _ =>
      simp [Json.get?] at h

namespace Message

/-! ### Spellings -/

theorem flatMap_snakeChar
    (cs : List Char) :
    cs.flatMap snakeChar = cs ∨ '_' ∈ cs.flatMap snakeChar := by
  induction cs with
  | nil =>
      exact Or.inl rfl
  | cons c cs ih =>
      rw [List.flatMap_cons]
      by_cases hc : 'A' ≤ c ∧ c ≤ 'Z'
      · right
        simp [snakeChar, hc]
      · rcases ih with ih | ih
        · left
          simp [snakeChar, hc, ih]
        · right
          exact List.mem_append_right _ ih

theorem eq_of_flatMap_snakeChar
    {cs ds : List Char}
    (hplain : '_' ∉ ds)
    (h : cs.flatMap snakeChar = ds) :
    cs = ds := by
  subst h
  rcases flatMap_snakeChar cs with hsame | hunder
  · exact hsame.symm
  · exact absurd hunder hplain

/-- A spelling without underscores is the spelling of itself only. -/
theorem eq_of_snakeCase_eq
    {key canonical : String}
    (hplain : '_' ∉ canonical.toList)
    (h : snakeCase key = canonical) :
    key = canonical := by
  subst h
  unfold snakeCase at hplain ⊢
  rw [String.toList_ofList] at hplain
  rw [← eq_of_flatMap_snakeChar hplain rfl, String.ofList_toList]

theorem spells_eq_true_iff
    (members : Entries Json)
    (canonical : String) :
    spells members canonical = true ↔ ∃ e ∈ members, snakeCase e.1 = canonical := by
  simp [spells]

theorem get?_eq_none_of_spells_eq_false
    {members : Entries Json}
    {key : String}
    (h : spells members (snakeCase key) = false) :
    members.get? key = none := by
  cases hg : members.get? key with
  | none =>
      rfl
  | some value =>
      have hspells :=
        (spells_eq_true_iff members (snakeCase key)).2 ⟨_, Entries.mem_of_get? hg, rfl⟩
      rw [h] at hspells
      simp at hspells

/-! ### Merging -/

theorem mem_addMissing
    (target : Entries Json)
    (entry e : String × Json) :
    e ∈ addMissing target entry ↔
      e ∈ target ∨ e = entry ∧ spells target (snakeCase entry.1) = false := by
  unfold addMissing
  cases hs : spells target (snakeCase entry.1) with
  | true =>
      simp
  | false =>
      rw [if_neg (by simp), Entries.mem_insert_iff (get?_eq_none_of_spells_eq_false hs)]
      rw [eq_self, and_true]
      exact or_comm

theorem spells_addMissing
    (target : Entries Json)
    (entry : String × Json)
    (canonical : String) :
    spells (addMissing target entry) canonical =
      (spells target canonical || snakeCase entry.1 == canonical) := by
  rw [Bool.eq_iff_iff, Bool.or_eq_true, spells_eq_true_iff, spells_eq_true_iff, beq_iff_eq]
  constructor
  · rintro ⟨e, he, rfl⟩
    rcases (mem_addMissing target entry e).1 he with he | ⟨rfl, _⟩
    · exact Or.inl ⟨e, he, rfl⟩
    · exact Or.inr rfl
  · rintro (⟨e, he, rfl⟩ | rfl)
    · exact ⟨e, (mem_addMissing target entry e).2 (Or.inl he), rfl⟩
    · cases hs : spells target (snakeCase entry.1) with
      | true =>
          obtain ⟨e, he, hspelling⟩ := (spells_eq_true_iff target _).1 hs
          exact ⟨e, (mem_addMissing target entry e).2 (Or.inl he), hspelling⟩
      | false =>
          exact ⟨entry, (mem_addMissing target entry entry).2 (Or.inr ⟨rfl, hs⟩), rfl⟩

/-- What a merge holds: the target, and of the members of each spelling that is new
there the first one. -/
theorem mem_mergeMissing
    (target source : Entries Json)
    (e : String × Json) :
    e ∈ mergeMissing target source ↔
      e ∈ target ∨
        spells target (snakeCase e.1) = false ∧
          source.find? (fun d => snakeCase d.1 == snakeCase e.1) = some e := by
  induction source generalizing target with
  | nil =>
      simp [mergeMissing]
  | cons d source ih =>
      have hstep : mergeMissing target (d :: source) = mergeMissing (addMissing target d) source :=
        rfl
      rw [hstep, ih, mem_addMissing, spells_addMissing, List.find?_cons]
      by_cases hsame : snakeCase d.1 = snakeCase e.1
      · cases hs : spells target (snakeCase e.1) <;> simp [hsame, hs, eq_comm]
      · have hne : e ≠ d := by
          rintro rfl
          exact hsame rfl
        have hspelling : (snakeCase d.1 == snakeCase e.1) = false := by
          simpa using hsame
        simp [hspelling, hne]

theorem ascending_mergeMissing
    {target : Entries Json}
    (h : target.Ascending)
    (source : Entries Json) :
    (mergeMissing target source).Ascending := by
  induction source generalizing target with
  | nil =>
      exact h
  | cons d source ih =>
      apply ih
      unfold addMissing
      split
      · exact h
      · exact h.insert d.1 d.2

/-- A key that is its own only spelling is looked up in the target first and in the
source second. -/
theorem get?_mergeMissing
    {key : String}
    (hself : snakeCase key = key)
    (hplain : '_' ∉ key.toList)
    (target source : Entries Json) :
    (mergeMissing target source).get? key = (target.get? key).or (source.get? key) := by
  induction source generalizing target with
  | nil =>
      simp [mergeMissing]
  | cons d source ih =>
      have hstep : mergeMissing target (d :: source) = mergeMissing (addMissing target d) source :=
        rfl
      have hadd :
          (addMissing target d).get? key =
            (target.get? key).or (if d.1 = key then some d.2 else none) := by
        unfold addMissing
        by_cases hd : d.1 = key
        · cases hs : spells target (snakeCase d.1) with
          | true =>
              obtain ⟨e, he, hspelling⟩ := (spells_eq_true_iff target _).1 hs
              rw [hd, hself] at hspelling
              have hkey := eq_of_snakeCase_eq hplain hspelling
              have hthere : (target.get? key).isSome = true :=
                (Entries.mem_keys_iff target key).1 (List.mem_map.2 ⟨e, he, hkey⟩)
              obtain ⟨value, hvalue⟩ := Option.isSome_iff_exists.1 hthere
              simp [hvalue]
          | false =>
              have hnew := get?_eq_none_of_spells_eq_false hs
              rw [hd] at hnew
              simp [Entries.get?_insert, hd, hnew]
        · split <;> simp [Entries.get?_insert, hd]
      rw [hstep, ih, hadd, Option.or_assoc]
      obtain ⟨k, value⟩ := d
      by_cases hk : k = key <;> simp [Entries.get?_cons, hk]

/-! ### Flattening -/

theorem ascending_flatten
    {members : Entries Json}
    (h : members.Ascending) :
    (flatten members).Ascending := by
  unfold flatten
  split
  · exact ascending_mergeMissing (h.erase "data") _
  · exact h.erase "data"
  · exact h

/-- What stands under `data` afterwards is what stood under it in the nested object. -/
theorem get?_flatten_data
    {members : Entries Json}
    (h : members.Ascending) :
    (flatten members).get? "data" = (members.get? "data").bind (·.get? "data") := by
  unfold flatten
  cases hd : members.get? "data" with
  | none =>
      simp [hd]
  | some value =>
      cases value with
      | obj nested =>
          have hself : snakeCase "data" = "data" := by
            decide
          simp [get?_mergeMissing hself (by decide), Entries.get?_erase h, Json.get?]
      | _ =>
          simp [Entries.get?_erase h, Json.get?]

/-- Flattening changes every object with a `data`: the value under `data` would be its
own member otherwise. -/
theorem flatten_eq_self_iff
    {members : Entries Json}
    (h : members.Ascending) :
    flatten members = members ↔ members.get? "data" = none := by
  constructor
  · intro hsame
    have htwice := get?_flatten_data h
    rw [hsame] at htwice
    cases hd : members.get? "data" with
    | none =>
        rfl
    | some inner =>
        rw [hd] at htwice
        exact absurd (Json.sizeOf_lt_of_get? htwice.symm) (Nat.lt_irrefl _)
  · intro hnone
    simp [flatten, hnone]

theorem kindOf?_flatten
    {members : Entries Json}
    {kind : String}
    (hkind : kindOf? members = some kind) :
    kindOf? (flatten members) = some kind := by
  have htype : ∃ value, members.get? "type" = some value := by
    unfold kindOf? at hkind
    cases ht : members.get? "type" with
    | none =>
        simp [ht] at hkind
    | some value =>
        exact ⟨value, rfl⟩
  obtain ⟨value, hvalue⟩ := htype
  have hsame : (flatten members).get? "type" = members.get? "type" := by
    have herase : (members.erase "data").get? "type" = some value := by
      rw [Entries.get?_erase_of_ne members (by decide), hvalue]
    unfold flatten
    split
    · rw [get?_mergeMissing (by decide) (by decide), herase, hvalue]
      rfl
    · rw [herase, hvalue]
    · rfl
  unfold kindOf? at hkind ⊢
  rw [hsame]
  exact hkind

/-! ### Lifting again -/

theorem ofJson_eq_ok
    {value : Json}
    {m : Message}
    (h : ofJson value = .ok m) :
    ∃ members, value = .obj members ∧ kindOf? members = some m.kind ∧
      m.members = flatten members := by
  unfold ofJson lift? at h
  cases value with
  | obj members =>
      cases hk : kindOf? members with
      | none =>
          simp [hk] at h
      | some kind =>
          simp only [hk, Option.map_some, Except.ok.injEq] at h
          subst h
          exact ⟨members, rfl, hk, rfl⟩
  | _ =>
      simp at h

/-- The payload of a message that is lifted from a canonical value is canonical. -/
theorem canonical_payload
    {value : Json}
    (hvalue : value.Canonical)
    {m : Message}
    (hm : ofJson value = .ok m) :
    m.payload.Canonical := by
  obtain ⟨members, rfl, _, hmembers⟩ := ofJson_eq_ok hm
  obtain ⟨hascending, hvalues⟩ := hvalue
  have hall := (Json.canonicalMembers_iff members).1 hvalues
  have herased : ∀ e ∈ Entries.erase members "data", e.2.Canonical :=
    fun e he => hall e (Entries.mem_of_mem_erase he)
  refine ⟨hmembers ▸ ascending_flatten hascending, (Json.canonicalMembers_iff _).2 ?_⟩
  intro e he
  rw [hmembers] at he
  unfold flatten at he
  split at he
  next nested hdata =>
    rcases (mem_mergeMissing _ nested e).1 he with he | ⟨_, hfirst⟩
    · exact herased e he
    · have hnested := (hall _ (Entries.mem_of_get? hdata)).2
      exact (Json.canonicalMembers_iff nested).1 hnested e (List.mem_of_find?_eq_some hfirst)
  · exact herased e he
  · exact hall e he

/-- A message decodes to the same event without its `data`. -/
theorem decode_erase_data
    (m : Message) :
    decode ⟨m.kind, m.members.erase "data"⟩ = m.decode := by
  have hno : ∀ kind : EventKind, ∀ f ∈ kind.fields, f.accepts "data" = false := by
    intro kind
    cases kind <;> decide
  unfold decode
  cases EventKind.ofWireName? m.kind with
  | none =>
      rfl
  | some kind =>
      simp only [Field.gather_erase (hno kind)]

/-- Flattening once more makes no difference to decoding, unless there is an object to
take apart. -/
theorem decode_flatten
    {m : Message}
    (h : ∀ nested, m.members.get? "data" ≠ some (.obj nested)) :
    decode ⟨m.kind, flatten m.members⟩ = m.decode := by
  unfold flatten
  cases hd : m.members.get? "data" with
  | none =>
      rfl
  | some inner =>
      cases inner with
      | obj nested =>
          exact absurd hd (h nested)
      | _ =>
          exact decode_erase_data m

/-- What stands under `data` in the nested `data` object. -/
def innerData? (value : Json) : Option Json :=
  (value.get? "data").bind (·.get? "data")

/-- The second lifting keeps the kind and flattens once more. -/
theorem ofJson_payload
    {value : Json}
    {m : Message}
    (hm : ofJson value = .ok m) :
    ofJson m.payload = .ok ⟨m.kind, flatten m.members⟩ := by
  obtain ⟨members, _, hkind, hmembers⟩ := ofJson_eq_ok hm
  have hk := kindOf?_flatten hkind
  rw [← hmembers] at hk
  simp [ofJson, lift?, payload, hk]

/-- What stands under `data` in a message stood there in the nested object. -/
theorem get?_data_of_ofJson
    {value : Json}
    (hvalue : value.Canonical)
    {m : Message}
    (hm : ofJson value = .ok m) :
    m.members.get? "data" = innerData? value := by
  obtain ⟨members, rfl, _, hmembers⟩ := ofJson_eq_ok hm
  rw [hmembers, get?_flatten_data hvalue.1]
  rfl

/-- **Lifting again.**  The payload of a message is canonical too and always lifted to a
message of the same kind.  It is the same message exactly when the nested `data` object
had no `data` of its own, and as long as this inner `data` is no object, the report that
waits is the report that arrived. -/
theorem ofJson_payload_iff
    {value : Json}
    (hvalue : value.Canonical)
    {m : Message}
    (hm : ofJson value = .ok m) :
    m.payload.Canonical ∧ (ofJson m.payload = .ok m ↔ innerData? value = none) ∧
      ∃ again, ofJson m.payload = .ok again ∧ again.kind = m.kind ∧
        ((∀ inner, innerData? value ≠ some (.obj inner)) →
          again.decode = m.decode ∧
            ∀ id, Machine.replayed? (.ofMessage id m) = m.decode) := by
  have hcanonical := canonical_payload hvalue hm
  have hdata := get?_data_of_ofJson hvalue hm
  have hagain := ofJson_payload hm
  refine ⟨hcanonical, ?_, _, hagain, rfl, ?_⟩
  · rw [hagain, ← hdata, ← flatten_eq_self_iff hcanonical.1]
    constructor
    · intro hsame
      rw [Except.ok.injEq] at hsame
      exact congrArg Message.members hsame
    · intro hsame
      rw [hsame]
  · intro hinner
    rw [← hdata] at hinner
    have hdecode := decode_flatten hinner
    refine ⟨hdecode, ?_⟩
    intro id
    simp only [Machine.replayed?, PendingEntry.ofMessage, hagain]
    exact hdecode

/-- A report in an envelope whose nested keys look like those of an envelope. -/
def envelopedReport : Json :=
  .obj
    [("data", .obj [("nodeId", .str "a"), ("nodeType", .str "llm"), ("type", .str "x")]),
     ("type", .str "node_start")]

/-- Its text. -/
def envelopedText : String :=
  "\x7b\"type\":\"node_start\",\"data\":" ++
    "\x7b\"type\":\"x\",\"nodeType\":\"llm\",\"nodeId\":\"a\"\x7d\x7d"

/-- Its message. -/
def envelopedMessage : Message :=
  ⟨"node_start", [("nodeId", .str "a"), ("nodeType", .str "llm"), ("type", .str "node_start")]⟩

theorem envelopedMessage_lifts :
    Json.read envelopedText = .ok envelopedReport ∧
      ofJson envelopedReport = .ok envelopedMessage ∧
      ofJson envelopedMessage.payload = .ok envelopedMessage ∧
      Machine.replayed? (.ofMessage "a" envelopedMessage) = envelopedMessage.decode := by
  have hread : Json.read envelopedText = .ok envelopedReport := by
    cbv
  have hlift : ofJson envelopedReport = .ok envelopedMessage :=
    rfl
  have hcanonical := Json.canonical_of_read hread
  obtain ⟨_, hsame, again, hagain, hkind, hdecode⟩ := ofJson_payload_iff hcanonical hlift
  have hinner : innerData? envelopedReport = none :=
    rfl
  refine ⟨hread, hlift, hsame.2 hinner, (hdecode ?_).2 "a"⟩
  intro inner
  rw [hinner]
  simp

/-- A report whose nested object has a `data` of its own, with a node type that is no
text. -/
def nestedTwice : Json :=
  .obj
    [("data", .obj [("data", .obj [("node_type", .num (.ofUInt64 5))]), ("node_id", .str "a")]),
     ("type", .str "node_start")]

/-- Its message: the inner object is passed over by decoding. -/
def nestedTwiceMessage : Message :=
  ⟨"node_start",
    [("data", .obj [("node_type", .num (.ofUInt64 5))]), ("node_id", .str "a"),
     ("type", .str "node_start")]⟩

/-- A report that is understood when it arrives and refused when it was deferred. -/
theorem relifted_report_lost :
    ofJson nestedTwice = .ok nestedTwiceMessage ∧
      ofJson nestedTwiceMessage.payload ≠ .ok nestedTwiceMessage ∧
      nestedTwiceMessage.decode = .ok (some (.node "a" (.start none))) ∧
      Machine.replayed? (.ofMessage "a" nestedTwiceMessage) =
        .error
          (.malformed "node_start" (.wrongType (.num (.ofUInt64 5)) "a string")) := by
  refine ⟨rfl, ?_, rfl, rfl⟩
  intro hsame
  have hagain :
      ofJson nestedTwiceMessage.payload =
        .ok ⟨"node_start",
          [("node_id", .str "a"), ("node_type", .num (.ofUInt64 5)),
           ("type", .str "node_start")]⟩ :=
    rfl
  rw [hagain, Except.ok.injEq] at hsame
  simp [nestedTwiceMessage] at hsame

end Message
end RemoteRun
