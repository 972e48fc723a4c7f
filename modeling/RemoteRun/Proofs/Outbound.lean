import RemoteRun.Inbound.Decode
import RemoteRun.Outbound
import RemoteRun.Proofs.Json.RoundTrip

/-!
# Messages that are read back

The text of an outbound message, read by whoever parses frames as the client does.

**Payload.** `Outbound.payload` lists by hand what a message is to arrive with: its fields
under their names and its kind under `type`.  No message has a field `data`, so that
nothing is moved when the frame is lifted.

**Options.** They are written with the named options first and the extra ones behind them,
and the last entry of a key is the one that counts.  `get?_collected` says what each key
stands for in the end.

**Domain.** The diagram and the extra options are canonical, as values are by their type,
hold no doubles, and the message is nested no deeper than a reader allows.

**Results.** `parse_write`: parsing the text of a message gives its kind and its payload.
-/

namespace RemoteRun

namespace ExecuteOptions

/-- The named option of a key: a flag only when it is true, the time limit only when there
is one. -/
def setting? (o : ExecuteOptions) (key : String) : Option Json :=
  if key = "monitor" then (if o.monitor then some (.bool true) else none)
  else if key = "debug_mode" then (if o.debugMode then some (.bool true) else none)
  else if key = "timeout_seconds" then
    o.timeoutSeconds.map fun seconds => .num (.ofUInt64 seconds)
  else none

/-- The options as a reader collects them. -/
def collected (o : ExecuteOptions) : Entries Json :=
  Entries.ofPairs (o.named ++ o.extra)

theorem nodup_keys_named
    (o : ExecuteOptions) :
    (Entries.keys o.named).Nodup := by
  obtain ⟨monitor, debugMode, timeoutSeconds, extra⟩ := o
  cases monitor <;> cases debugMode <;> cases timeoutSeconds <;>
    simp [named, Entries.keys]

/-- Named options are flags and integers. -/
theorem canonical_and_realFree_of_mem_named
    {o : ExecuteOptions}
    {e : String × Json}
    (h : e ∈ o.named) :
    e.2.Canonical ∧ e.2.RealFree := by
  obtain ⟨monitor, debugMode, timeoutSeconds, extra⟩ := o
  revert e
  cases monitor <;> cases debugMode <;> cases timeoutSeconds <;>
    simp [named, Json.Canonical, Json.RealFree, Number.ofUInt64]

/-- An option that is written only when it is set. -/
theorem get?_if
    (set : Bool)
    (name key : String)
    (value : Json) :
    Entries.get? (if set then [(name, value)] else []) key =
      if key = name then (if set then some value else none) else none := by
  cases set <;> simp [Entries.get?, eq_comm]

theorem get?_named
    (o : ExecuteOptions)
    (key : String) :
    Entries.get? o.named key = o.setting? key := by
  simp only [named, setting?, Entries.get?_append, get?_if]
  by_cases hmonitor : key = "monitor"
  · subst hmonitor
    cases o.timeoutSeconds <;> simp [Entries.get?]
  by_cases hdebug : key = "debug_mode"
  · subst hdebug
    cases o.timeoutSeconds <;> simp [Entries.get?]
  · cases o.timeoutSeconds <;> simp [Entries.get?, hmonitor, hdebug, eq_comm]

/-- A key of the options stands for its extra option, and for the named one when there is
no extra one. -/
theorem get?_collected
    {o : ExecuteOptions}
    (h : Entries.Ascending o.extra)
    (key : String) :
    o.collected.get? key = (o.extra.get? key).or (o.setting? key) := by
  have hsplit : o.collected = (Entries.ofPairs o.named).insertAll o.extra :=
    List.foldl_append
  have hnamed : (Entries.ofPairs o.named).get? key = o.setting? key := by
    simp [Entries.ofPairs, Entries.get?_insertAll [] o.nodup_keys_named key, get?_named]
  rw [hsplit, Entries.get?_insertAll _ h.nodup_keys, hnamed]

theorem ascending_collected
    (o : ExecuteOptions) :
    Entries.Ascending o.collected :=
  Entries.ascending_ofPairs _

/-- Writing collects nothing: the members stand as they are, and the reader collects them. -/
theorem normal_toJson
    {o : ExecuteOptions}
    (h : (Json.obj o.extra).Canonical) :
    o.toJson.normal = .obj o.collected := by
  have hmembers : Json.CanonicalMembers (o.named ++ o.extra) := by
    rw [Json.canonicalMembers_iff]
    intro e he
    rcases List.mem_append.1 he with he | he
    · exact (canonical_and_realFree_of_mem_named he).1
    · exact (Json.canonicalMembers_iff o.extra).1 h.2 e he
  rw [toJson, Json.normal, Json.normalMembers_of_canonical _ hmembers, Json.ofMembers, collected]

theorem realFree_toJson
    {o : ExecuteOptions}
    (h : (Json.obj o.extra).RealFree) :
    o.toJson.RealFree := by
  refine (Json.realFreeMembers_iff (o.named ++ o.extra)).2 ?_
  intro e he
  rcases List.mem_append.1 he with he | he
  · exact (canonical_and_realFree_of_mem_named he).2
  · exact (Json.realFreeMembers_iff o.extra).1 h e he

end ExecuteOptions

namespace Outbound

/-- The diagram and the extra options of a message have a property. -/
def Carries (P : Json → Prop) : Outbound → Prop
  | .executeDiagram diagram options => P diagram ∧ P (.obj options.extra)
  | _ => True

/-- What a message is to arrive with, by key. -/
def payload : Outbound → Entries Json
  | .executeDiagram diagram options =>
      [("diagram", diagram), ("options", .obj options.collected),
        ("type", .str "execute_diagram")]
  | .pauseNode node execution =>
      [("execution_id", .str execution), ("node_id", .str node), ("type", .str "pause_node")]
  | .resumeNode node execution =>
      [("execution_id", .str execution), ("node_id", .str node), ("type", .str "resume_node")]
  | .skipNode node execution =>
      [("execution_id", .str execution), ("node_id", .str node), ("type", .str "skip_node")]
  | .abortExecution execution =>
      [("execution_id", .str execution), ("type", .str "abort_execution")]
  | .interactiveResponse node execution response =>
      [("execution_id", .str execution), ("node_id", .str node), ("response", .str response),
        ("type", .str "interactive_response")]
  | .heartbeat => [("type", .str "heartbeat")]
  | .subscribeMonitor => [("type", .str "subscribe_monitor")]

theorem realFree_toJson
    {m : Outbound}
    (h : m.Carries Json.RealFree) :
    m.toJson.RealFree := by
  cases m with
  | executeDiagram diagram options =>
      exact ⟨True.intro, h.1, ExecuteOptions.realFree_toJson h.2, True.intro⟩
  | _ =>
      simp [toJson, fields, Json.RealFree, Json.RealFreeMembers]

/-- The object a reader collects from a written message. -/
theorem normal_toJson
    {m : Outbound}
    (h : m.Carries Json.Canonical) :
    m.toJson.normal = .obj m.payload := by
  rw [toJson, tag_eq_kind]
  cases m with
  | executeDiagram diagram options =>
      simp only [fields, Json.normal, Json.normalMembers, Json.normal_of_canonical diagram h.1,
        ExecuteOptions.normal_toJson h.2, Json.ofMembers]
      simp only [Entries.ofPairs, Entries.insertAll, Entries.insert, List.foldl_cons,
        List.foldl_nil, String.reduceLT, String.reduceEq, if_true, if_false, kind, payload]
  | _ =>
      simp only [fields, Json.normal, Json.normalMembers, Json.ofMembers]
      simp only [Entries.ofPairs, Entries.insertAll, Entries.insert, List.foldl_cons,
        List.foldl_nil, String.reduceLT, String.reduceEq, if_true, if_false, kind, payload]

/-- A payload is lifted as it is. -/
theorem lift_payload
    (m : Outbound) :
    Message.ofJson (.obj m.payload) = .ok ⟨m.kind, m.payload⟩ := by
  have hkind : Message.kindOf? m.payload = some m.kind := by
    cases m <;> rfl
  have hflat : Message.flatten m.payload = m.payload := by
    cases m <;> rfl
  rw [Message.ofJson, Message.lift?, hkind, Option.map_some, hflat]

/-- The text of a message is parsed into its kind and its payload.  Each key of its options
stands for the extra option, and else for the named one if that is set. -/
theorem parse_write
    (m : Outbound)
    (hcanonical : m.Carries Json.Canonical)
    (hreal : m.Carries Json.RealFree)
    (hdepth : m.toJson.depth ≤ 127) :
    Message.parse m.write = .ok ⟨m.kind, m.payload⟩ ∧
      ∀ diagram options, m = .executeDiagram diagram options →
        Entries.Ascending options.collected ∧
          ∀ key, options.collected.get? key =
            (options.extra.get? key).or (options.setting? key) := by
  constructor
  · have hread : Json.read m.write = .ok m.toJson.normal :=
      Json.read_write (realFree_toJson hreal) hdepth
    rw [Message.parse, hread, normal_toJson hcanonical]
    exact lift_payload m
  · rintro diagram options rfl
    exact ⟨options.ascending_collected, ExecuteOptions.get?_collected hcanonical.2.1⟩

/-- A request with a text that has to be escaped, and with an extra option that repeats a
named one. -/
def quietRequest : Outbound :=
  .executeDiagram
    (.obj [("label", .str "say \"on\\off\"\n\x01é"), ("nodes", .arr [.num (.ofUInt64 7), .null])])
    ⟨true, false, some 30, [("monitor", .str "quiet"), ("retries", .arr [])]⟩

/-- The extra option is the one that arrives. -/
theorem parse_write_quietRequest :
    Message.parse quietRequest.write =
      .ok ⟨"execute_diagram",
        [("diagram", .obj [("label", .str "say \"on\\off\"\n\x01é"),
            ("nodes", .arr [.num (.ofUInt64 7), .null])]),
          ("options", .obj [("monitor", .str "quiet"), ("retries", .arr []),
            ("timeout_seconds", .num (.ofUInt64 30))]),
          ("type", .str "execute_diagram")]⟩ := by
  have hcanonical : quietRequest.Carries Json.Canonical := by
    simp only [quietRequest, Carries, Json.Canonical, Json.CanonicalItems, Json.CanonicalMembers,
      Entries.Ascending, and_true]
    decide
  have hreal : quietRequest.Carries Json.RealFree := by
    simp [quietRequest, Carries, Json.RealFree, Json.RealFreeItems, Json.RealFreeMembers,
      Number.ofUInt64]
  have hdepth : quietRequest.toJson.depth ≤ 127 := by decide
  have hoptions : ExecuteOptions.collected
      ⟨true, false, some 30, [("monitor", .str "quiet"), ("retries", .arr [])]⟩ =
        [("monitor", .str "quiet"), ("retries", .arr []),
          ("timeout_seconds", .num (.ofUInt64 30))] :=
    rfl
  rw [(parse_write quietRequest hcanonical hreal hdepth).1, quietRequest, kind, payload, hoptions]

end Outbound

end RemoteRun
