import RemoteRun.Proofs.Client.PromptScope
import RemoteRun.Proofs.Execution.Ledger

/-!
# What a request leaves behind

A request makes the nodes of its diagram known as soon as there is a diagram, before it is
known whether the engine will ever hear of it.

**Attendance.** While a client looks after a request, the request takes its turns, the
connection comes and goes, and an abort may be commanded.  None of this but the abort touches
what is known of the execution.

**Results.**
* `Follows.reached`: what a client knows of the execution is what a machine comes to by
  operations of its own.
* `request_leaves`: without a diagram a request leaves everything; with one it leaves what
  making these nodes known leaves, whatever becomes of it.
* `unreachable_request_forgets`: a request that fails for want of a connection has replaced
  the known nodes of the execution that runs.
-/

namespace RemoteRun

namespace Machine

/-! ### Knowing other nodes -/

section SetKnown

variable (m : Machine) (now : Timestamp) (ids : List String)

theorem known_setKnown :
    (m.setKnown now ids).1.known = .ofList ids :=
  (queue_replayAll _ now _).1

/-- The entries of other nodes wait on. -/
theorem pending_setKnown :
    (m.setKnown now ids).1.pending = m.pending.withoutReady (IdSet.ofList ids).contains :=
  (queue_replayAll _ now _).2

end SetKnown

theorem contains_ofList
    (ids : List String)
    (id : String) :
    (IdSet.ofList ids).contains id = decide (id ∈ ids) := by
  simp [IdSet.ofList, IdSet.contains_addAll]

/-- When no entry waits for them, nodes become known and nothing else happens. -/
theorem setKnown_of_none_waiting
    {m : Machine}
    {ids : List String}
    (hnone : ∀ e ∈ m.pending.entries, e.nodeId ∉ ids)
    (now : Timestamp) :
    m.setKnown now ids = ({ m with known := .ofList ids }, 0) := by
  apply replay_of_none_ready
  intro e he
  rw [isKnown, contains_ofList]
  simpa using hnone e he

/-- No entry of a machine that was reached waits for a known node. -/
theorem unknown_run
    (capacity : Nat)
    (ops : List TimedOperation) :
    ∀ e ∈ ((ofCapacity capacity).run ops).pending.entries,
      ((ofCapacity capacity).run ops).isKnown e.nodeId = false :=
  (Ledger.run_keeps (Ledger.Keeps.ofCapacity capacity) .empty ops).1.unknown

/-! ### Following is a run -/

/-- To follow a message is to apply it and perhaps to know other nodes. -/
theorem follow_eq_run
    (load : DiagramLoader)
    (m : Machine)
    (now : Timestamp)
    (message : Message) :
    ∃ ops, m.follow load now message = m.run ops := by
  unfold follow
  split
  next =>
    split
    next ids _ => exact ⟨[(now, .apply message), (now, .setKnown ids)], rfl⟩
    next => exact ⟨[(now, .apply message)], rfl⟩
  next => exact ⟨[(now, .apply message)], rfl⟩

theorem followFrame_eq_run
    (load : DiagramLoader)
    (m : Machine)
    (now : Timestamp)
    (text : String) :
    ∃ ops, m.followFrame load now text = m.run ops := by
  unfold followFrame
  split
  next => exact ⟨[], rfl⟩
  next message _ => exact m.follow_eq_run load now message

end Machine

namespace Desk

variable {σ : Type} {send : Sink σ}

theorem abort_machine
    (d : Desk σ)
    (now : Moment) :
    (d.abort send now).1.session.machine = (d.session.machine.abort now.date).1 := by
  unfold abort Machine.abort
  simp only [cancelRequests]
  cases d.session.machine.live? <;> rfl

/-- Of all commands only an abort touches the machine. -/
theorem give_machine
    (d : Desk σ)
    (now : Moment)
    (command : Command)
    {given : Desk σ × CommandOutcome}
    (h : d.give send now command = .ok given) :
    ∃ ops, given.1.session.machine = d.session.machine.run ops := by
  cases command with
  | pause node | resume node | skip node =>
      simp only [give, Except.ok.injEq] at h
      rw [← h, sendFor_session]
      exact ⟨[], rfl⟩
  | abort =>
      simp only [give, Except.ok.injEq] at h
      rw [← h, abort_machine]
      exact ⟨[(now.date, .abort)], rfl⟩
  | respond node response =>
      simp only [give, Except.ok.injEq] at h
      rw [← h]
      exact ⟨[], rfl⟩
  | cancelPrompt =>
      simp only [give, cancelPrompt] at h
      split at h
      next => cases h
      next =>
        cases h
        exact ⟨[], rfl⟩

theorem execute_machine
    (d : Desk σ)
    (now : Moment)
    (delivery : Delivery)
    (diagram : Except DiagramError Json)
    (options : ExecuteOptions) :
    ∃ ops, (d.execute now delivery diagram options).1.session.machine =
      d.session.machine.run ops := by
  cases diagram with
  | error e =>
      exact ⟨[], rfl⟩
  | ok diagram =>
      exact ⟨[(now.date, .setKnown (Diagram.nodeIds diagram))], rfl⟩

theorem prompt_machine
    (d : Desk σ)
    (now : Moment)
    {asked : Desk σ × Option Prompt}
    (h : d.prompt now = .ok asked) :
    asked.1.session.machine = d.session.machine := by
  unfold prompt at h
  split at h
  next => cases h
  next =>
    cases h
    rfl

end Desk

namespace Client

variable {υ α : Type}

theorem turnRequest_session
    (c : Client υ α)
    (id : Nat)
    (o : RequestObservation) :
    (c.turnRequest id o).1.session = c.session := by
  have htaken := (takeOver_keeps (c.desk.turn Connection.send c.delivery id o).2
    (c.setDesk (c.desk.turn Connection.send c.delivery id o).1).collect).1
  exact htaken.trans (c.desk.turn_session c.delivery id o)

namespace Follows

variable {load : DiagramLoader} {handlers : List (Matcher × υ)} {c : Client υ α}

/-- Whatever happens to a client happens to its machine by operations. -/
theorem act_machine
    (h : Follows load handlers c c.session.machine)
    (o : Observer υ α)
    (a : ClientAction) :
    ∃ ops, (c.act o.application a).session.machine = c.session.machine.run ops := by
  cases a with
  | frame now text =>
      have hnext := (h.processFrame o now text).1.machine_eq
      simp only [Client.act, hnext]
      exact Machine.followFrame_eq_run load _ now.date text
  | takeFrame now =>
      rcases c.takeFrame?_cases o.application now with ⟨htake, _⟩ | ⟨text, frames, htake, _⟩
      · rw [Client.act, htake]
        exact ⟨[], rfl⟩
      · have htaken : Follows load handlers { c with frames := frames } c.session.machine :=
          h.of_same rfl rfl
        have hnext := (htaken.processFrame o now text).1.machine_eq
        simp only [Client.act, htake, Option.getD_some, hnext]
        exact Machine.followFrame_eq_run load _ now.date text
  | give now command =>
      simp only [Client.act, Client.give]
      cases hgiven : c.desk.give Connection.send now command with
      | error e =>
          exact ⟨[], rfl⟩
      | ok given =>
          exact c.desk.give_machine now command hgiven
  | register now ids =>
      exact ⟨[(now.date, .register ids)], rfl⟩
  | execute now diagram options =>
      exact c.desk.execute_machine now c.delivery diagram options
  | turnRequest id o' =>
      refine ⟨[], ?_⟩
      rw [Client.act, turnRequest_session]
      rfl
  | onConnection f =>
      exact ⟨[], rfl⟩
  | listen listening =>
      exact ⟨[], rfl⟩
  | prompt now =>
      simp only [Client.act, Client.prompt]
      cases hasked : c.desk.prompt now with
      | error e =>
          exact ⟨[], rfl⟩
      | ok asked =>
          exact ⟨[], c.desk.prompt_machine now hasked⟩

theorem run_machine
    (h : Follows load handlers c c.session.machine)
    (o : Observer υ α)
    (actions : List ClientAction) :
    ∃ ops, (c.run o.application actions).session.machine = c.session.machine.run ops := by
  induction actions generalizing c with
  | nil =>
      exact ⟨[], rfl⟩
  | cons a actions ih =>
      obtain ⟨ops, hops⟩ := h.act_machine o a
      obtain ⟨more, hmore⟩ := ih (h.act o a).1
      refine ⟨ops ++ more, ?_⟩
      rw [Machine.run_append, ← hops, ← hmore]
      rfl

end Follows

/-- What a client knows of the execution is what a machine comes to by operations. -/
theorem reached
    (o : Observer υ α)
    (s : Settings)
    (path : DeliveryPath)
    (load : DiagramLoader)
    (state : α)
    (handlers : List (Matcher × υ))
    (actions : List ClientAction) :
    ∃ ops, (((ofSettings s path load state).listenAll handlers).run
      o.application actions).session.machine =
        (Machine.ofCapacity s.pendingCapacity).run ops :=
  (Follows.fresh s path load state handlers).run_machine o actions

end Client

/-! ### Attendance -/

/-- What may happen while a client looks after a request: a turn of the request, a change of
the connection, or an abort. -/
inductive Attendance where
  | turn (o : RequestObservation)
  | connection (f : Connection → Connection)
  | abort (now : Moment)

namespace Attendance

/-- What happens to the client that looks after the request with a number. -/
def action (id : Nat) : Attendance → ClientAction
  | .turn o => .turnRequest id o
  | .connection f => .onConnection f
  | .abort now => .give now .abort

end Attendance

namespace Machine

/-- The state after what happens in the meantime: only aborts touch it. -/
def attended (m : Machine) : List Attendance → Machine
  | [] => m
  | .abort now :: rest => (m.abort now.date).1.attended rest
  | .turn _ :: rest => m.attended rest
  | .connection _ :: rest => m.attended rest

/-- Meanwhile nothing but the execution changes, and the running set only by an abort that
finds the execution running: it is empty then. -/
theorem attended_keeps
    (m : Machine)
    (attendance : List Attendance) :
    (m.attended attendance).known = m.known ∧
    (m.attended attendance).nodes = m.nodes ∧
    (m.attended attendance).pending = m.pending ∧
    ((m.attended attendance).running = m.running ∨
      (∃ now, .abort now ∈ attendance) ∧ m.activeId?.isSome ∧
        (m.attended attendance).running = Table.empty) := by
  induction attendance generalizing m with
  | nil =>
      exact ⟨rfl, rfl, rfl, Or.inl rfl⟩
  | cons a rest ih =>
      cases a with
      | turn o | connection f =>
          obtain ⟨hknown, hnodes, hpending, hrunning⟩ := ih m
          refine ⟨hknown, hnodes, hpending, hrunning.imp id ?_⟩
          rintro ⟨⟨now, hnow⟩, hlater⟩
          exact ⟨⟨now, List.mem_cons_of_mem _ hnow⟩, hlater⟩
      | abort now =>
          have hhere : ∃ later, Attendance.abort later ∈ Attendance.abort now :: rest :=
            ⟨now, List.mem_cons_self⟩
          obtain ⟨hknown, hnodes, hpending, hrunning⟩ := ih (m.abort now.date).1
          cases hlive : m.live? with
          | none =>
              have hsame : (m.abort now.date).1 = m := by
                simp [abort, hlive]
              rw [hsame] at hknown hnodes hpending hrunning
              rw [attended, hsame]
              exact ⟨hknown, hnodes, hpending, hrunning.imp id fun hlater => ⟨hhere, hlater.2⟩⟩
          | some h =>
              have habort : (m.abort now.date).1 =
                  { m with execution := some (h.abort now.date), running := Table.empty } := by
                simp [abort, hlive]
              have hactive : m.activeId?.isSome := by
                simp [activeId?, hlive]
              rw [attended]
              rw [habort] at hknown hnodes hpending hrunning ⊢
              refine ⟨hknown, hnodes, hpending, Or.inr ⟨hhere, hactive, ?_⟩⟩
              rcases hrunning with hempty | ⟨_, _, hempty⟩
              · exact hempty
              · exact hempty

end Machine

namespace Client

variable {υ α : Type}

/-- While a client looks after a request, its machine sees the aborts and nothing else. -/
theorem attended_machine
    (application : Application υ α)
    (c : Client υ α)
    (id : Nat)
    (attendance : List Attendance) :
    (c.run application (attendance.map (Attendance.action id))).session.machine =
      c.session.machine.attended attendance := by
  induction attendance generalizing c with
  | nil =>
      rfl
  | cons a rest ih =>
      rw [List.map_cons, Client.run, ih]
      cases a with
      | turn o =>
          rw [Attendance.action, act, turnRequest_session, Machine.attended]
      | connection f =>
          rfl
      | abort now =>
          have habort : (c.act application (.give now .abort)).session.machine =
              (c.session.machine.abort now.date).1 :=
            @Desk.abort_machine _ Connection.send c.desk now
          rw [Attendance.action, habort, Machine.attended]

/-- **What a request leaves.**  In every state that a client reaches: a request without a
diagram returns that error and leaves the session as it is.  One with a diagram leaves, at
every later moment and whatever it observes or returns, what making the nodes of its diagram
known leaves, but for what aborts do.  So the known nodes are those of the diagram, and the
entries of other nodes wait on; where no entry waits for a node of the diagram, the records
and the queue are the same, and the running set is unless an abort has found the execution
running and emptied it.  If the nodes of the diagram were the known ones before, all of this
is the same. -/
theorem request_leaves
    (o : Observer υ α)
    (s : Settings)
    (path : DeliveryPath)
    (load : DiagramLoader)
    (state : α)
    (handlers : List (Matcher × υ))
    (before : List ClientAction)
    (now : Moment)
    (options : ExecuteOptions) :
    let c := ((ofSettings s path load state).listenAll handlers).run o.application before
    let m := c.session.machine
    (∀ e, (c.execute now (.error e) options).2 = .error e ∧
      (c.execute now (.error e) options).1.session = c.session) ∧
    ∀ (diagram : Json) (attendance : List Attendance),
      let ids := Diagram.nodeIds diagram
      let started := (c.execute now (.ok diagram) options).1
      let m' := (started.run o.application
        (attendance.map (Attendance.action c.desk.requests.length))).session.machine
      m' = (m.setKnown now.date ids).1.attended attendance ∧
      m'.known = .ofList ids ∧
      m'.pending = m.pending.withoutReady (fun id => decide (id ∈ ids)) ∧
      ((∀ e ∈ m.pending.entries, e.nodeId ∉ ids) ∨ .ofList ids = m.known →
        m'.nodes = m.nodes ∧ m'.pending = m.pending ∧
          (m'.running = m.running ∨
            (∃ later, .abort later ∈ attendance) ∧ m.activeId?.isSome ∧
              m'.running = Table.empty)) := by
  intro c m
  refine ⟨fun e => ⟨rfl, rfl⟩, ?_⟩
  intro diagram attendance ids started m'
  have hm' : m' = (m.setKnown now.date ids).1.attended attendance :=
    attended_machine o.application started _ attendance
  obtain ⟨hknown, hnodes, hpending, hrunning⟩ :=
    (m.setKnown now.date ids).1.attended_keeps attendance
  rw [← hm', Machine.known_setKnown] at hknown
  rw [← hm'] at hnodes hpending hrunning
  have hwaits : m'.pending = m.pending.withoutReady (fun id => decide (id ∈ ids)) := by
    rw [hpending, Machine.pending_setKnown]
    congr 1
    funext id
    exact Machine.contains_ofList ids id
  refine ⟨hm', hknown, hwaits, ?_⟩
  intro hcase
  have hnone : ∀ e ∈ m.pending.entries, e.nodeId ∉ ids := by
    rcases hcase with hnone | hsame
    · exact hnone
    · -- No entry waits for a node that was known before.
      obtain ⟨ops, hops⟩ := reached o s path load state handlers before
      have hunknown := Machine.unknown_run s.pendingCapacity ops
      rw [← hops] at hunknown
      intro e he hmem
      have hknown := hunknown e he
      rw [Machine.isKnown, ← hsame, Machine.contains_ofList] at hknown
      simp [hmem] at hknown
  rw [Machine.setKnown_of_none_waiting hnone] at hnodes hpending hrunning
  exact ⟨hnodes, hpending, hrunning⟩

/-- A client that tracks an execution and knows one node of it. -/
def trackingClient : Client Unit Unit :=
  quietClient.run quiet.application
    [.register ⟨0, default⟩ ["a"], .frame ⟨0, default⟩ startedText]

/-- A diagram with two other nodes. -/
def otherDiagram : Json :=
  .obj [("nodes", .arr [.obj [("id", .str "b")], .obj [("id", .str "c")]])]

/-- The same client after a request for that diagram, which found no connection in time. -/
def timedOutClient : Client Unit Unit :=
  (trackingClient.execute ⟨1, default⟩ (.ok otherDiagram) {}).1.run quiet.application
    [.turnRequest 0 .timedOut]

/-- A request may fail and have replaced the known nodes of the execution that runs. -/
theorem unreachable_request_forgets :
    trackingClient.session.machine.activeId? = some "e1" ∧
    (timedOutClient.desk.requests[0]?).bind Request.result? =
      some (.error (.connection (.waitTimeout (.ofSecs 5)))) ∧
    trackingClient.session.machine.known.keys = ["a"] ∧
    timedOutClient.session.machine.known.keys = ["b", "c"] ∧
    timedOutClient.session.machine.known ≠ trackingClient.session.machine.known := by
  have hresult : (timedOutClient.desk.requests[0]?).bind Request.result? =
      some (.error (.connection (.waitTimeout (.ofSecs 5)))) := by
    simp only [timedOutClient, trackingClient, run, act, processFrame, parse_startedText]
    rfl
  have hkeys : trackingClient.session.machine.known.keys = ["a"] ∧
      timedOutClient.session.machine.known.keys = ["b", "c"] := by
    decide +kernel
  refine ⟨by decide +kernel, hresult, hkeys.1, hkeys.2, ?_⟩
  intro hsame
  rw [hsame, hkeys.1] at hkeys
  simp at hkeys

end Client

end RemoteRun
