import Mathlib.Logic.Relation
import RemoteRun.Proofs.Execution.Report

/-!
# Runs of the machine

**Operations.** A message is applied, nodes become known, or the execution is taken as
aborted.  Each operation happens at a time of its own; nothing is assumed of the
order of these times.

**Advances.** Whatever an operation does without starting an execution is a sequence of
a few kinds of elementary changes: a report on a node, the end of a running
execution, and a change of the known nodes and the queue.  `Advance` lists them with
their guards, and later modules look at nothing else.

**Results.**
* `advances_step`: an operation that starts no execution is a sequence of advances.
* `step_of_starts`: any other operation is a start.
* `run_preserves`: a property that every advance and every start keeps holds
  throughout a run.
* `run_preserves_dated`: the same for properties that look at times, and at reports as
  messages bring them.
-/

namespace RemoteRun

/-- A message with one field besides its kind. -/
def Message.plain (kind : EventKind) (field value : String) : Message :=
  ⟨kind.wireName, [(field, .str value), ("type", .str kind.wireName)]⟩

/-- An operation on the state. -/
inductive Operation where
  | apply (message : Message)
  | setKnown (ids : List String)
  | register (ids : List String)
  | abort

/-- An operation and the time at which it happens. -/
abbrev TimedOperation := Timestamp × Operation

namespace Operation

/-- Whether an operation applies a message that starts an execution. -/
def starts : Operation → Bool
  | .apply message =>
      match message.decode with
      | .ok (some (.execution (.started _ _ _ _))) => true
      | _ => false
  | .setKnown _ | .register _ | .abort => false

end Operation

namespace Machine

/-- The state after an operation. -/
def step (m : Machine) (now : Timestamp) : Operation → Machine
  | .apply message => (m.apply now message).1
  | .setKnown ids => (m.setKnown now ids).1
  | .register ids => (m.register now ids).1
  | .abort => (m.abort now).1

/-- The state after operations, one after the other. -/
def run (m : Machine) : List TimedOperation → Machine
  | [] => m
  | (now, op) :: ops => (m.step now op).run ops

theorem run_append
    (m : Machine)
    (ops more : List TimedOperation) :
    m.run (ops ++ more) = (m.run ops).run more := by
  induction ops generalizing m with
  | nil =>
      rfl
  | cons o ops ih =>
      exact ih (m.step o.1 o.2)

/-- An elementary change that starts no execution. -/
inductive Advance : Machine → Machine → Prop
  | report
      (m : Machine)
      (now : Timestamp)
      (id : String)
      (report : NodeReport) :
      Advance m (m.applyNode now id report).1
  | complete
      (m : Machine)
      (h : ExecutionHandle)
      (now : Timestamp)
      (tokens : Option UInt64)
      (hm : m.execution = some h)
      (hlive : h.isTerminal = false) :
      Advance m { m with execution := some (h.complete now tokens) }
  | fail
      (m : Machine)
      (h : ExecutionHandle)
      (now : Timestamp)
      (error : String)
      (hm : m.execution = some h)
      (hlive : h.isTerminal = false) :
      Advance m { m with execution := some (h.fail now (errorText error)) }
  | abort
      (m : Machine)
      (h : ExecutionHandle)
      (now : Timestamp)
      (hm : m.execution = some h)
      (hlive : h.isTerminal = false) :
      Advance m { m with execution := some (h.abort now), running := Table.empty }
  | requeue
      (m : Machine)
      (known : IdSet)
      (pending : PendingQueue) :
      Advance m (m.requeue known pending)

/-- Advances one after the other. -/
abbrev Advances : Machine → Machine → Prop :=
  Relation.ReflTransGen Advance

/-! ### What each operation does -/

/-- A report reaches the execution only while it runs. -/
theorem target_eq_ok
    {execution : Option ExecutionHandle}
    {received : Option String}
    {h : ExecutionHandle}
    (ht : target execution received = .ok h) :
    execution = some h ∧ h.isTerminal = false := by
  unfold target at ht
  cases execution with
  | none =>
      simp at ht
  | some g =>
      cases received with
      | none =>
          by_cases hg : g.isTerminal = true <;> simp_all
      | some id =>
          by_cases hid : id = g.executionId
          · by_cases hg : g.isTerminal = true <;> simp_all
          · simp [hid] at ht

/-- A report changes the running execution that it names, or it is ignored and changes
nothing. -/
theorem onTarget_cases
    (m : Machine)
    (received : Option String)
    (change : ExecutionHandle → Machine) :
    (∃ reason, m.onTarget received change = (m, .ignored reason)) ∨
      ∃ h, m.execution = some h ∧ h.isTerminal = false ∧
        m.onTarget received change = (change h, .applied) := by
  unfold onTarget
  cases ht : target m.execution received with
  | error reason =>
      exact Or.inl ⟨reason, rfl⟩
  | ok h =>
      obtain ⟨hm, hlive⟩ := target_eq_ok ht
      exact Or.inr ⟨h, hm, hlive, rfl⟩

/-- A report on the execution starts one, is ignored and changes nothing, or is an
advance that leaves the records alone. -/
theorem applyExecution_cases
    (m : Machine)
    (now : Timestamp)
    (report : ExecutionReport) :
    (∃ id total diagram fromCli,
      report = .started id total diagram fromCli ∧
        m.applyExecution now report =
          (m.start now id total diagram fromCli, .applied)) ∨
    (∃ reason, m.applyExecution now report = (m, .ignored reason)) ∨
    ∃ m', Advance m m' ∧ m'.nodes = m.nodes ∧
      m.applyExecution now report = (m', .applied) := by
  cases report with
  | started id total diagram fromCli =>
      exact Or.inl ⟨id, total, diagram, fromCli, rfl, rfl⟩
  | complete id total =>
      right
      rcases m.onTarget_cases id _ with hignored | ⟨h, hm, hlive, happlied⟩
      · exact Or.inl hignored
      · exact Or.inr ⟨_, .complete m h now _ hm hlive, rfl, happlied⟩
  | failed id error =>
      right
      rcases m.onTarget_cases id _ with hignored | ⟨h, hm, hlive, happlied⟩
      · exact Or.inl hignored
      · exact Or.inr ⟨_, .fail m h now error hm hlive, rfl, happlied⟩
  | aborted id =>
      right
      rcases m.onTarget_cases id _ with hignored | ⟨h, hm, hlive, happlied⟩
      · exact Or.inl hignored
      · exact Or.inr ⟨_, .abort m h now hm hlive, rfl, happlied⟩

theorem advances_apply
    (m : Machine)
    (now : Timestamp)
    {message : Message}
    (hstarts : (Operation.apply message).starts = false) :
    Advances m (m.apply now message).1 := by
  unfold apply
  cases hd : message.decode with
  | error e =>
      exact .refl
  | ok event =>
      cases event with
      | none =>
          exact .refl
      | some event =>
          cases event with
          | node id report =>
              by_cases hk : m.isKnown id = true
              · simp only [hk, if_true]
                exact .single (.report m now id report)
              · simp only [hk]
                exact .single (.requeue m m.known _)
          | execution report =>
              rcases m.applyExecution_cases now report with
                ⟨id, total, diagram, fromCli, rfl, _⟩ | ⟨reason, hr⟩ | ⟨m', hadv, _, hr⟩
              · simp [Operation.starts, hd] at hstarts
              · simp only [hr]
                exact .refl
              · simp only [hr]
                exact .single hadv
          | _ =>
              exact .refl

theorem advances_replayEntry
    (m : Machine)
    (now : Timestamp)
    (e : PendingEntry) :
    Advances m (m.replayEntry now e).1 := by
  unfold replayEntry
  split
  next id report _ => exact .single (.report m now id report)
  next => exact .refl
  next => exact .refl
  next => exact .refl

theorem advances_replayAll
    (m : Machine)
    (now : Timestamp)
    (es : List PendingEntry) :
    Advances m (m.replayAll now es).1 := by
  induction es generalizing m with
  | nil =>
      exact .refl
  | cons e es ih =>
      exact (advances_replayEntry m now e).trans (ih (m.replayEntry now e).1)

/-- Changing the known nodes and replaying what is ready is a sequence of advances. -/
theorem advances_replay
    (m : Machine)
    (now : Timestamp)
    (known : IdSet) :
    Advances m ({ m with known := known }.replay now).1 :=
  .head (.requeue m known _) (advances_replayAll _ now _)

theorem advances_abort
    (m : Machine)
    (now : Timestamp) :
    Advances m (m.abort now).1 := by
  unfold abort
  cases hl : m.live? with
  | none =>
      exact .refl
  | some h =>
      obtain ⟨hm, hlive⟩ := Option.filter_eq_some_iff.1 hl
      exact .single (.abort m h now hm (by simpa using hlive))

/-- An operation that starts no execution is a sequence of advances. -/
theorem advances_step
    (m : Machine)
    (now : Timestamp)
    {op : Operation}
    (hop : op.starts = false) :
    Advances m (m.step now op) := by
  cases op with
  | apply message =>
      exact advances_apply m now hop
  | setKnown ids =>
      exact advances_replay m now _
  | register ids =>
      simp only [step, register]
      split
      · exact .refl
      · exact advances_replay m now _
  | abort =>
      exact advances_abort m now

/-- What starts an execution is a message that says so. -/
theorem decode_of_starts
    {op : Operation}
    (hop : op.starts = true) :
    ∃ message id total diagram fromCli,
      op = .apply message ∧
        message.decode = .ok (some (.execution (.started id total diagram fromCli))) := by
  cases op with
  | apply message =>
      simp only [Operation.starts] at hop
      split at hop
      next id total diagram fromCli hd =>
        exact ⟨message, id, total, diagram, fromCli, rfl, hd⟩
      next => simp at hop
  | setKnown ids =>
      simp [Operation.starts] at hop
  | register ids =>
      simp [Operation.starts] at hop
  | abort =>
      simp [Operation.starts] at hop

/-- An operation that starts an execution does nothing else. -/
theorem step_of_starts
    (m : Machine)
    (now : Timestamp)
    {op : Operation}
    (hop : op.starts = true) :
    ∃ id total diagram fromCli,
      m.step now op = m.start now id total diagram fromCli := by
  obtain ⟨message, id, total, diagram, fromCli, rfl, hd⟩ := decode_of_starts hop
  refine ⟨id, total, diagram, fromCli, ?_⟩
  simp [step, apply, hd, applyExecution]

/-- An advance leaves the records alone or brings a report to one of them. -/
theorem nodes_of_advance
    {m m' : Machine}
    (h : Advance m m') :
    m'.nodes = m.nodes ∨
      ∃ now id report,
        m'.nodes = m.nodes.insert id ((m.recordOf id).after now report) := by
  cases h with
  | report now id report =>
      exact Or.inr ⟨now, id, report, nodes_applyNode m now id report⟩
  | complete h now tokens hm hlive =>
      exact Or.inl rfl
  | fail h now error hm hlive =>
      exact Or.inl rfl
  | abort h now hm hlive =>
      exact Or.inl rfl
  | requeue known pending =>
      exact Or.inl rfl

/-! ### Whole runs -/

/-- A run without a start is a sequence of advances. -/
theorem advances_run
    (m : Machine)
    {ops : List TimedOperation}
    (hops : ∀ o ∈ ops, o.2.starts = false) :
    Advances m (m.run ops) := by
  induction ops generalizing m with
  | nil =>
      exact .refl
  | cons o ops ih =>
      have hfirst := advances_step m o.1 (hops o List.mem_cons_self)
      exact hfirst.trans (ih _ fun p hp => hops p (List.mem_cons_of_mem o hp))

theorem advances_preserve
    {P : Machine → Prop}
    (hadvance : ∀ m m', Advance m m' → P m → P m')
    {m m' : Machine}
    (h : Advances m m')
    (hm : P m) :
    P m' := by
  induction h with
  | refl =>
      exact hm
  | tail _ hlast ih =>
      exact hadvance _ _ hlast ih

/-- What every advance and every start keeps holds throughout a run. -/
theorem run_preserves
    {P : Machine → Prop}
    (hadvance : ∀ m m', Advance m m' → P m → P m')
    (hstart :
      ∀ m now id total diagram fromCli, P m → P (m.start now id total diagram fromCli))
    {m : Machine}
    (hm : P m)
    (ops : List TimedOperation) :
    P (m.run ops) := by
  induction ops generalizing m with
  | nil =>
      exact hm
  | cons o ops ih =>
      apply ih
      cases hop : o.2.starts with
      | true =>
          obtain ⟨id, total, diagram, fromCli, hs⟩ := step_of_starts m o.1 hop
          rw [hs]
          exact hstart m o.1 id total diagram fromCli hm
      | false =>
          exact advances_preserve hadvance (advances_step m o.1 hop) hm

/-! ### Times and messages -/

/-- A message brings a report on a node. -/
def Brought (id : String) (report : NodeReport) : Prop :=
  ∃ message : Message, message.decode = .ok (some (.node id report))

section Dated

variable {P : Machine → Prop} {now : Timestamp}

theorem replayAll_preserves
    (hreport :
      ∀ m id report, Brought id report → P m → P (m.applyNode now id report).1)
    {m : Machine}
    (hm : P m)
    (es : List PendingEntry) :
    P (m.replayAll now es).1 := by
  induction es generalizing m with
  | nil =>
      exact hm
  | cons e es ih =>
      have hentry : P (m.replayEntry now e).1 := by
        unfold replayEntry
        split
        next id report hreplayed =>
          refine hreport m id report ?_ hm
          unfold replayed? at hreplayed
          split at hreplayed
          next => simp at hreplayed
          next message _ => exact ⟨message, hreplayed⟩
        next => exact hm
        next => exact hm
        next => exact hm
      exact ih hentry

/-- What the elementary changes at a time keep is kept by every operation at this time. -/
theorem step_preserves_dated
    (hreport :
      ∀ m id report, Brought id report → P m → P (m.applyNode now id report).1)
    (hexecution : ∀ m report, P m → P (m.applyExecution now report).1)
    (habort :
      ∀ m h, m.execution = some h → P m →
        P { m with execution := some (h.abort now), running := Table.empty })
    (hrequeue : ∀ m known pending, P m → P (m.requeue known pending))
    {m : Machine}
    (hm : P m)
    (op : Operation) :
    P (m.step now op) := by
  have hreplay : ∀ known, P ({ m with known := known }.replay now).1 := by
    intro known
    exact replayAll_preserves hreport (hrequeue m known _ hm) _
  cases op with
  | apply message =>
      simp only [step, apply]
      split
      next => exact hm
      next => exact hm
      next id report hdecode =>
        split
        · exact hreport m id report ⟨message, hdecode⟩ hm
        · exact hrequeue m m.known _ hm
      next report _ => exact hexecution m report hm
      next => exact hm
  | setKnown ids =>
      exact hreplay _
  | register ids =>
      simp only [step, register]
      split
      · exact hm
      · exact hreplay _
  | abort =>
      simp only [step, abort]
      split
      next => exact hm
      next h hlive => exact habort m h (Option.filter_eq_some_iff.1 hlive).1 hm

end Dated

/-- What the elementary changes at certain times keep holds throughout a run at such
times. -/
theorem run_preserves_dated
    {P : Machine → Prop}
    {Q : Timestamp → Prop}
    (hreport :
      ∀ m now id report, Q now → Brought id report → P m → P (m.applyNode now id report).1)
    (hexecution : ∀ m now report, Q now → P m → P (m.applyExecution now report).1)
    (habort :
      ∀ m now h, Q now → m.execution = some h → P m →
        P { m with execution := some (h.abort now), running := Table.empty })
    (hrequeue : ∀ m known pending, P m → P (m.requeue known pending))
    {m : Machine}
    (hm : P m)
    {ops : List TimedOperation}
    (hops : ∀ o ∈ ops, Q o.1) :
    P (m.run ops) := by
  induction ops generalizing m with
  | nil =>
      exact hm
  | cons o ops ih =>
      obtain ⟨hnow, hrest⟩ := List.forall_mem_cons.1 hops
      refine ih (step_preserves_dated ?_ ?_ ?_ hrequeue hm o.2) hrest
      · exact fun m id report => hreport m o.1 id report hnow
      · exact fun m report => hexecution m o.1 report hnow
      · exact fun m h => habort m o.1 h hnow

end Machine

end RemoteRun
