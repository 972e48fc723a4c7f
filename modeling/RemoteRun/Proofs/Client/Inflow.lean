import RemoteRun.Proofs.Client.Forwarding
import RemoteRun.Proofs.Client.Handing
import RemoteRun.Proofs.Connection.Reception

/-!
# Inbound frames

Lines that are opened one after the other and the streams of accepted calls all end in one
queue.  A client that listens takes frames from the queue and processes them; it may stop
to listen, and listen again.

**Moves.** The connection moves, requests and forwarders take turns, the client begins or
ceases to listen and takes frames, and whatever else is done with it, all in any order.
Handlers of the application may do what they like, except that they change the connection
by asking for moves only (`Participant`).

**Arrivals.** `Intake.arrivals` lists the frames that come over lines or are forwarded,
each with its source.  `Intake.served` lists those that the client takes from the queue, each
with the client before and after.

**Invariant.** `Accounted`: what was taken, followed by the queue, is what has arrived.
The arrivals over lines are those of the first line, then those of the second, and so on,
because at most one pump takes texts, that of the newest line.  The arrivals of a call
followed by what is left of its stream are the frames of the call.

**Results.**
* `Intake.take_cases`: a frame that is taken from the queue is processed at once.
* `Intake.application_move`: no other move calls a handler of the application, unless it
  processes a frame of its own.
* `Intake.frames_once_in_order`: the invariant holds throughout every run, and every frame
  that is taken is processed as it has to be.
-/

namespace RemoteRun

/-! ### Sources -/

/-- Where a frame comes from: a line of the connection, or the stream of a call. -/
inductive FrameSource where
  | line (n : Nat)
  | call (n : Nat)
deriving DecidableEq

namespace FrameSource

/-- Whether a source is a line. -/
def isLine : FrameSource → Bool
  | .line _ => true
  | .call _ => false

end FrameSource

/-- Frames with their sources. -/
abbrev SourcedFrames := List (FrameSource × String)

namespace SourcedFrames

/-- The frames of one source. -/
def ofSource (source : FrameSource) (frames : SourcedFrames) : List String :=
  (frames.filter fun f => f.1 == source).map Prod.snd

/-- The frames of all lines. -/
def ofLines (frames : SourcedFrames) : List String :=
  (frames.filter fun f => f.1.isLine).map Prod.snd

theorem ofSource_append
    (source : FrameSource)
    (frames more : SourcedFrames) :
    ofSource source (frames ++ more) = ofSource source frames ++ ofSource source more := by
  simp [ofSource]

theorem ofLines_append
    (frames more : SourcedFrames) :
    ofLines (frames ++ more) = ofLines frames ++ ofLines more := by
  simp [ofLines]

theorem ofSource_singleton
    (source other : FrameSource)
    (text : String) :
    ofSource source [(other, text)] = if other = source then [text] else [] := by
  by_cases h : other = source <;> simp [ofSource, h]

theorem ofSource_eq_nil
    {source : FrameSource}
    {frames : SourcedFrames}
    (h : ∀ f ∈ frames, f.1 ≠ source) :
    ofSource source frames = [] := by
  simpa [ofSource] using h

/-- The frames of lines come over one line after the other: over the first `lines` lines. -/
structure Serial (frames : SourcedFrames) (lines : Nat) : Prop where
  line_lt : ∀ n text, (FrameSource.line n, text) ∈ frames → n < lines
  ofLines_eq :
    frames.ofLines = (List.range lines).flatMap fun n => frames.ofSource (.line n)

namespace Serial

variable {frames : SourcedFrames} {lines : Nat}

theorem nil :
    Serial [] 0 where
  line_lt := by simp
  ofLines_eq := rfl

/-- No frame has come over a line that is opened. -/
theorem opened
    (h : Serial frames lines) :
    Serial frames (lines + 1) where
  line_lt := by
    intro n text hmem
    have := h.line_lt n text hmem
    omega
  ofLines_eq := by
    have hnone : frames.ofSource (.line lines) = [] := by
      apply ofSource_eq_nil
      rintro ⟨source, text⟩ hmem rfl
      exact absurd (h.line_lt lines text hmem) (Nat.lt_irrefl _)
    rw [h.ofLines_eq, List.range_succ, List.flatMap_append, List.flatMap_singleton, hnone,
      List.append_nil]

/-- A frame comes over the newest line. -/
theorem received
    (h : Serial frames (lines + 1))
    (text : String) :
    Serial (frames ++ [(.line lines, text)]) (lines + 1) where
  line_lt := by
    intro n text' hmem
    rcases List.mem_append.1 hmem with hmem | hmem
    · exact h.line_lt n text' hmem
    · have hsame : n = lines := by
        simpa using (Prod.ext_iff.1 (List.mem_singleton.1 hmem)).1
      omega
  ofLines_eq := by
    have holder :
        ((List.range lines).flatMap fun n =>
            ofSource (.line n) (frames ++ [(.line lines, text)])) =
          (List.range lines).flatMap fun n => frames.ofSource (.line n) := by
      apply List.flatMap_congr
      intro n hn
      have hne : lines ≠ n := by
        have := List.mem_range.1 hn
        omega
      simp [ofSource_append, ofSource_singleton, hne]
    have hlines := h.ofLines_eq
    rw [List.range_succ, List.flatMap_append, List.flatMap_singleton] at hlines ⊢
    rw [holder, ofLines_append, hlines, ofSource_append, ofSource_singleton, if_pos rfl,
      List.append_assoc]
    rfl

/-- A frame comes from a call. -/
theorem forwarded
    (h : Serial frames lines)
    (call : Nat)
    (text : String) :
    Serial (frames ++ [(.call call, text)]) lines where
  line_lt := by
    intro n text' hmem
    rcases List.mem_append.1 hmem with hmem | hmem
    · exact h.line_lt n text' hmem
    · simp at hmem
  ofLines_eq := by
    have hsame : ∀ n, ofSource (.line n) (frames ++ [(.call call, text)]) =
        frames.ofSource (.line n) := by
      intro n
      simp [ofSource_append, ofSource_singleton]
    simp only [hsame, ← h.ofLines_eq, ofLines_append]
    exact List.append_nil _

end Serial

end SourcedFrames

/-! ### Moves -/

/-- An application whose handlers may do what they like, except that they change the
connection by asking for moves only. -/
structure Participant (υ α : Type) where
  application : Application υ α
  asks :
    ∀ (h : υ) (m : Message) (b : ClientBus υ α),
      ∃ ms : List Connection.Move,
        (∀ move ∈ ms, move.isAsked = true) ∧
          (application h m b).1.world.desk.sink = b.world.desk.sink.run ms

/-- Handlers that only observe ask for nothing. -/
def Observer.participant {υ α : Type} (o : Observer υ α) : Participant υ α where
  application := o.application
  asks := by
    intro h m b
    exact ⟨[], by simp, rfl⟩

/-- What may happen to a client and the streams of its calls. -/
inductive IntakeMove (υ : Type) where
  | connection (m : Connection.Move)
  | listen (listening : Bool)
  | take (now : Moment)
  | process (now : Moment) (text : String)
  | give (now : Moment) (command : Command)
  | register (now : Moment) (ids : List String)
  | prompt (now : Moment)
  | execute (now : Moment) (diagram : Except DiagramError Json) (options : ExecuteOptions)
  | reroute (router : Router (ClientHandler υ))
  | request (id : Nat) (o : RequestObservation)
  | forward (call : Nat)

/-- Whether a move processes a frame, of the queue or one that comes with the move. -/
def IntakeMove.processes {υ : Type} : IntakeMove υ → Bool
  | .take _ | .process _ _ => true
  | .connection _ | .listen _ | .give _ _ | .register _ _ | .prompt _ | .execute _ _ _
  | .reroute _ | .request _ _ | .forward _ => false

namespace Intake

variable {υ α : Type}

/-- An action of the client. -/
def act (p : Participant υ α) (i : Intake υ α) (a : ClientAction) : Intake υ α :=
  { i with client := i.client.act p.application a }

/-- The client and the streams after a move. -/
def move (p : Participant υ α) (i : Intake υ α) : IntakeMove υ → Intake υ α
  | .connection m => i.act p (.onConnection (·.move m))
  | .listen listening => i.act p (.listen listening)
  | .take now => i.act p (.takeFrame now)
  | .process now text => i.act p (.frame now text)
  | .give now command => i.act p (.give now command)
  | .register now ids => i.act p (.register now ids)
  | .prompt now => i.act p (.prompt now)
  | .execute now diagram options => i.act p (.execute now diagram options)
  | .reroute router =>
      { i with client := { i.client with bus := { i.client.bus with router := router } } }
  | .request id o => i.turnRequest id o
  | .forward call => i.forward call

/-- The client and the streams after moves, one after the other. -/
def run (p : Participant υ α) : Intake υ α → List (IntakeMove υ) → Intake υ α
  | i, [] => i
  | i, m :: ms => (i.move p m).run p ms

/-! ### Accounts of a run -/

/-- The frames that a move brings into the queue: what a line yields, or the next frame of
a stream. -/
def arriving (i : Intake υ α) : IntakeMove υ → SourcedFrames
  | .connection m => (i.client.connection.received m).map fun (n, text) => (.line n, text)
  | .forward call =>
      (((i.streams[call]?).bind CallStream.next?).map fun text => (.call call, text)).toList
  | _ => []

/-- The frame that a move takes from the queue, with the client that has taken it and the
client after the move. -/
def serving (p : Participant υ α) (i : Intake υ α) : IntakeMove υ → List (FrameTurn υ α)
  | .take now =>
      ((i.client.frame? (.takeFrame now)).map fun frame =>
        { now := frame.1
          text := frame.2
          found := { i.client with frames := i.client.frames.tail }
          left := (i.move p (.take now)).client }).toList
  | _ => []

/-- The call that is accepted in a move: all of its frames. -/
def opening (i : Intake υ α) : IntakeMove υ → List CallFrames
  | .request id o => (i.accepting id o).toList
  | _ => []

section Run

variable {β : Type} (p : Participant υ α) (of : Intake υ α → IntakeMove υ → List β)

/-- What the moves of a run bring, one after the other. -/
def along : Intake υ α → List (IntakeMove υ) → List β
  | _, [] => []
  | i, m :: ms => of i m ++ along (i.move p m) ms

end Run

/-- All frames that arrive in a run, with their sources. -/
def arrivals (p : Participant υ α) : Intake υ α → List (IntakeMove υ) → SourcedFrames :=
  along p arriving

/-- All frames that are taken from the queue in a run, each with the client before and
after. -/
def served (p : Participant υ α) : Intake υ α → List (IntakeMove υ) → List (FrameTurn υ α) :=
  along p (serving p)

/-- All calls that are accepted in a run. -/
def calls (p : Participant υ α) : Intake υ α → List (IntakeMove υ) → List CallFrames :=
  along p opening

end Intake

/-! ### Moves that bring no frame -/

namespace Client

variable {υ α : Type}

/-- What is done to a client opens no line and leaves its queue, provided that nothing of
the connection waits to be taken over. -/
def Calm (c c' : Client υ α) : Prop :=
  c.connection.Receptive →
    c'.connection.Receptive ∧ c'.connection.lines = c.connection.lines ∧
      c'.frames = c.frames

theorem Calm.trans
    {c c' c'' : Client υ α}
    (h : c.Calm c')
    (h' : c'.Calm c'') :
    c.Calm c'' := by
  intro hc
  obtain ⟨hreceptive, hlines, hframes⟩ := h hc
  obtain ⟨hreceptive', hlines', hframes'⟩ := h' hreceptive
  exact ⟨hreceptive', hlines'.trans hlines, hframes'.trans hframes⟩

theorem calm_of_asked
    {c c' : Client υ α}
    (ms : List Connection.Move)
    (hms : ∀ m ∈ ms, m.isAsked = true)
    (hconnection : c'.connection = c.connection.run ms)
    (hframes : c'.frames = c.frames) :
    c.Calm c' := by
  intro hc
  rw [hconnection]
  obtain ⟨hreceptive, hlines⟩ := hc.asked_run hms
  exact ⟨hreceptive, hlines, hframes⟩

theorem calm_of_same
    {c c' : Client υ α}
    (hconnection : c'.connection = c.connection)
    (hframes : c'.frames = c.frames) :
    c.Calm c' :=
  calm_of_asked [] (by simp) hconnection hframes

/-- Whoever sends one message at most asks for one move at most. -/
theorem calm_of_sends
    {c c' : Client υ α}
    (hconnection : Sends Connection.send c.connection c'.connection)
    (hframes : c'.frames = c.frames) :
    c.Calm c' := by
  rcases hconnection with hsame | ⟨message, hsent⟩
  · exact calm_of_same hsame hframes
  · refine calm_of_asked [.send message] ?_ hsent hframes
    simp [Connection.Move.isAsked]

/-- Taking over leaves nothing of the connection to be taken over. -/
theorem receptive_collect
    {c : Client υ α}
    (horderly : c.connection.Orderly)
    (hnewest : c.connection.Newest) :
    c.collect.connection.Receptive where
  orderly := horderly.kept ⟨rfl, rfl, rfl, rfl, rfl⟩
  newest := hnewest.of_same rfl rfl
  taken := by
    have heffects : c.collect.connection.effects =
        c.connection.effects.filter fun e => e.notice?.isNone && e.frame?.isNone := rfl
    rw [Connection.delivered, heffects, List.filterMap_eq_nil_iff]
    intro e he
    have := (List.mem_filter.1 he).2
    simp_all

theorem calm_collect
    (c : Client υ α) :
    c.Calm c.collect := by
  intro hc
  refine ⟨receptive_collect hc.orderly hc.newest, rfl, ?_⟩
  have hframes : c.collect.frames = c.frames ++ c.connection.delivered := rfl
  rw [hframes, hc.taken, List.append_nil]

/-- Handlers ask for moves of the connection, and the reactions of the session for none. -/
theorem sink_callAll
    (p : Participant υ α)
    (load : DiagramLoader)
    (now : Moment)
    (m : Message)
    (routes : List (Route (ClientHandler υ)))
    (b : ClientBus υ α) :
    ∃ ms : List Connection.Move, (∀ move ∈ ms, move.isAsked = true) ∧
      (Bus.callAll (callHandler p.application load now) m b routes).1.world.desk.sink =
        b.world.desk.sink.run ms := by
  refine (Bus.callAll_keeps
    (P := fun b' : ClientBus υ α => ∃ ms : List Connection.Move, (∀ move ∈ ms, move.isAsked = true) ∧
      b'.world.desk.sink = b.world.desk.sink.run ms)
    ?_ ⟨[], by simp, rfl⟩).1
  rintro ⟨matcher, handler⟩ _ b' ⟨ms, hms, hb'⟩
  cases handler with
  | reaction r =>
      refine ⟨ms, hms, ?_⟩
      rw [← hb', Bus.afterCall, Bus.settle_world]
      rfl
  | application h =>
      obtain ⟨ms', hms', hasks⟩ := p.asks h m b'
      refine ⟨ms ++ ms', ?_, ?_⟩
      · intro move hmove
        rcases List.mem_append.1 hmove with hmove | hmove
        · exact hms move hmove
        · exact hms' move hmove
      · rw [Bus.afterCall, Bus.settle_world, Connection.run_append, ← hb']
        exact hasks

/-- Processing a frame is calm, whatever the handlers do. -/
theorem calm_processFrame
    (p : Participant υ α)
    (c : Client υ α)
    (now : Moment)
    (text : String) :
    c.Calm (c.processFrame p.application now text).1 := by
  unfold processFrame
  cases Message.parse text with
  | error e =>
      exact calm_of_same rfl rfl
  | ok m =>
      obtain ⟨ms, hms, hsink⟩ :=
        sink_callAll p c.load now m (c.bus.router.matching m.kind) c.bus
      exact calm_of_asked ms hms hsink rfl

theorem calm_give
    (c : Client υ α)
    (now : Moment)
    (command : Command)
    {given : Client υ α × CommandOutcome}
    (h : c.give now command = .ok given) :
    c.Calm given.1 := by
  unfold give at h
  cases hgiven : c.desk.give Connection.send now command with
  | error e =>
      simp [hgiven] at h
  | ok answered =>
      simp only [hgiven, Except.ok.injEq] at h
      rw [← h]
      have hsent : c.Calm
          ((c.noteAll (c.desk.notices now command)).setDesk answered.1) :=
        calm_of_sends (c.desk.give_sends now command hgiven) rfl
      exact hsent.trans (calm_collect _)

theorem calm_execute
    (c : Client υ α)
    (now : Moment)
    (diagram : Except DiagramError Json)
    (options : ExecuteOptions) :
    c.Calm (c.execute now diagram options).1 :=
  calm_of_same (c.desk.execute_sink now c.delivery diagram options) rfl

theorem calm_prompt
    (c : Client υ α)
    (now : Moment)
    {asked : Client υ α × Option Prompt}
    (h : c.prompt now = .ok asked) :
    c.Calm asked.1 := by
  unfold prompt at h
  cases hasked : c.desk.prompt now with
  | error e =>
      simp [hasked] at h
  | ok answered =>
      simp only [hasked, Except.ok.injEq] at h
      rw [← h]
      exact calm_of_same (c.desk.prompt_sink now hasked) rfl

/-- The desk after a turn of a request, with what it sends. -/
theorem calm_turn
    (c : Client υ α)
    (id : Nat)
    (o : RequestObservation) :
    c.Calm (c.setDesk (c.desk.turn Connection.send c.delivery id o).1).collect := by
  have hsends : Sends Connection.send c.connection
      (c.desk.turn Connection.send c.delivery id o).1.sink := by
    unfold Desk.turn
    cases c.desk.requests[id]? with
    | none =>
        exact Or.inl rfl
    | some r =>
        exact r.turn_sends Connection.send c.connection c.delivery o
  have hturn : c.Calm (c.setDesk (c.desk.turn Connection.send c.delivery id o).1) :=
    calm_of_sends hsends rfl
  exact hturn.trans (calm_collect _)

/-- Notices are calm. -/
theorem calm_takeOver
    {effects : List RequestEffect}
    (heffects : ∀ e ∈ effects, e.forwarded? = none)
    (c : Client υ α) :
    c.Calm (effects.foldl takeOver c) := by
  induction effects generalizing c with
  | nil =>
      exact calm_of_same rfl rfl
  | cons e effects ih =>
      have hrest := ih fun e' he' => heffects e' (List.mem_cons_of_mem e he')
      have he := heffects e List.mem_cons_self
      have hone : c.Calm (c.takeOver e) := by
        cases e with
        | forward frames =>
            cases he
        | _ =>
            exact calm_of_same rfl rfl
      exact hone.trans (hrest _)

end Client

namespace Intake

variable {υ α : Type}

/-! ### Taking frames -/

/-- A client that listens takes the first frame of the queue, if there is one, and processes
that frame. -/
theorem take_cases
    (i : Intake υ α)
    (p : Participant υ α)
    (now : Moment) :
    (i.serving p (.take now) = [] ∧ i.move p (.take now) = i) ∨
      ∃ text frames, i.client.frames = text :: frames ∧
        ∃ t : FrameTurn υ α, t.text = text ∧ t.Processed p.application ∧
          t.found = { i.client with frames := frames } ∧
          i.serving p (.take now) = [t] ∧
          i.move p (.take now) = { i with client := t.left } ∧
          t.left = (Client.processFrame p.application t.found now text).1 := by
  cases hlistening : i.client.listening with
  | false =>
      left
      simp [Intake.move, act, Client.act, Client.takeFrame?, serving, Client.frame?, hlistening]
  | true =>
      cases hframes : i.client.frames with
      | nil =>
          left
          simp [Intake.move, act, Client.act, Client.takeFrame?, serving, Client.frame?,
            hlistening, hframes]
      | cons text frames =>
          right
          have hmove : i.move p (.take now) =
              { i with
                client := (Client.processFrame p.application
                  { i.client with frames := frames } now text).1 } := by
            simp [Intake.move, act, Client.act, Client.takeFrame?, hlistening, hframes]
          refine ⟨text, frames, rfl, ⟨now, text, _, _⟩, rfl,
            FrameTurn.processed_processFrame p.application _ now text, rfl, ?_, hmove, rfl⟩
          simp [serving, Client.frame?, hlistening, hframes, hmove]

/-- Every frame that a move takes from the queue is processed. -/
theorem processed_of_mem_serving
    {i : Intake υ α}
    {p : Participant υ α}
    {m : IntakeMove υ}
    {t : FrameTurn υ α}
    (ht : t ∈ i.serving p m) :
    t.Processed p.application := by
  cases m with
  | take now =>
      rcases i.take_cases p now with ⟨hnone, _⟩ | ⟨_, _, _, t', _, hprocessed, _, hone, _⟩
      · rw [hnone] at ht
        cases ht
      · rw [hone] at ht
        obtain rfl := List.mem_singleton.1 ht
        exact hprocessed
  | _ =>
      cases ht

/-- Every frame that is taken from the queue in a run is processed. -/
theorem processed_of_mem_served
    {p : Participant υ α}
    {ms : List (IntakeMove υ)}
    {i : Intake υ α}
    {t : FrameTurn υ α}
    (ht : t ∈ i.served p ms) :
    t.Processed p.application := by
  induction ms generalizing i with
  | nil =>
      cases ht
  | cons m ms ih =>
      rcases List.mem_append.1 ht with hnow | hlater
      · exact processed_of_mem_serving hnow
      · exact ih hlater

/-! ### Moves that call no handler of the application -/

/-- What is taken over from a request leaves the state of the application. -/
theorem application_takeOver
    (i : Intake υ α)
    (effects : List RequestEffect) :
    (effects.foldl takeOver i).client.bus.world.application =
      i.client.bus.world.application := by
  induction effects generalizing i with
  | nil =>
      rfl
  | cons e effects ih =>
      rw [List.foldl_cons, ih]
      cases e <;> rfl

/-- Whatever the handlers of an application would do to its state: a move that processes no
frame leaves it as it is. -/
theorem application_move
    (i : Intake υ α)
    (p : Participant υ α)
    {m : IntakeMove υ}
    (hm : m.processes = false) :
    (i.move p m).client.bus.world.application = i.client.bus.world.application := by
  cases m with
  | take now =>
      cases hm
  | process now text =>
      cases hm
  | give now command =>
      simp only [Intake.move, act, Client.act, Client.give]
      cases i.client.desk.give Connection.send now command <;> rfl
  | prompt now =>
      simp only [Intake.move, act, Client.act, Client.prompt]
      cases i.client.desk.prompt now <;> rfl
  | request id o =>
      exact application_takeOver _ _
  | forward call =>
      simp only [Intake.move, Intake.forward]
      cases i.streams[call]? with
      | none =>
          rfl
      | some s =>
          cases hrest : s.rest with
          | nil =>
              simp only [hrest]
          | cons frame rest =>
              cases frame with
              | ok text =>
                  simp only [hrest]
              | error e =>
                  simp only [hrest]
                  rfl
  | _ =>
      rfl

/-! ### The account -/

/-- Frames that were taken and those that wait are the ones that have arrived.  Those of
lines came over one line after the other; those of a call, followed by what is left of its
stream, are the frames of the call up to its first error. -/
structure Accounted (i : Intake υ α) (taken : List String) (came : SourcedFrames)
    (calls : List CallFrames) : Prop where
  receptive : i.client.connection.Receptive
  queue : taken ++ i.client.frames = came.map Prod.snd
  serial : came.Serial i.client.connection.lines
  call_lt : ∀ n text, (FrameSource.call n, text) ∈ came → n < calls.length
  streams :
    ∀ n : Nat,
      (i.streams[n]?).map (fun s => came.ofSource (.call n) ++ s.rest.accepted) =
        (calls[n]?).map CallFrames.accepted

namespace Accounted

variable {i : Intake υ α} {taken : List String} {came : SourcedFrames}
variable {calls : List CallFrames}

/-- A client that has done nothing. -/
theorem fresh
    {c : Client υ α}
    (hconnection : ∃ policy heartbeat, c.connection = .ofPolicy policy heartbeat)
    (hframes : c.frames = []) :
    Accounted ⟨c, []⟩ [] [] [] where
  receptive := by
    obtain ⟨policy, heartbeat, hc⟩ := hconnection
    rw [hc]
    exact .ofPolicy policy heartbeat
  queue := by
    rw [hframes]
    rfl
  serial := by
    obtain ⟨policy, heartbeat, hc⟩ := hconnection
    rw [hc]
    exact .nil
  call_lt := by simp
  streams := by simp

/-- What is calm changes no account. -/
theorem calm
    (h : i.Accounted taken came calls)
    {c : Client υ α}
    (hc : i.client.Calm c) :
    ({ i with client := c } : Intake υ α).Accounted taken came calls := by
  obtain ⟨hreceptive, hlines, hframes⟩ := hc h.receptive
  constructor
  · exact hreceptive
  · rw [hframes]
    exact h.queue
  · rw [hlines]
    exact h.serial
  · exact h.call_lt
  · exact h.streams

/-- A calm move that brings nothing and takes nothing. -/
theorem quiet
    (h : i.Accounted taken came calls)
    {c : Client υ α}
    (hc : i.client.Calm c) :
    ({ i with client := c } : Intake υ α).Accounted (taken ++ []) (came ++ [])
      (calls ++ []) := by
  simpa using h.calm hc

/-- What a line yields joins the queue. -/
theorem connection
    (h : i.Accounted taken came calls)
    (p : Participant υ α)
    (m : Connection.Move) :
    (i.move p (.connection m)).Accounted taken (came ++ i.arriving (.connection m)) calls := by
  have hconnection := h.receptive
  have hframes : (i.move p (.connection m)).client.frames =
      i.client.frames ++ (i.client.connection.received m).map Prod.snd := by
    have hdelivered := i.client.connection.delivered_move m
    rw [hconnection.taken, List.nil_append] at hdelivered
    rw [← hdelivered]
    rfl
  have hlines : (i.move p (.connection m)).client.connection.lines =
      (i.client.connection.move m).lines := rfl
  have hcame : came.Serial i.client.connection.lines := h.serial
  have hserial : SourcedFrames.Serial (came ++ i.arriving (.connection m))
      (i.client.connection.move m).lines := by
    cases hreceived : i.client.connection.received m with
    | nil =>
        simp only [arriving, hreceived, List.map_nil, List.append_nil]
        rcases Connection.Receptive.lines_le i.client.connection m with hsame | hmore
        · rw [hsame]
          exact hcame
        · rw [hmore]
          exact hcame.opened
    | cons r others =>
        obtain ⟨line, text⟩ := r
        have hmem : (line, text) ∈ i.client.connection.received m := by
          rw [hreceived]
          exact List.mem_cons_self
        obtain ⟨hone, hnewest, hsame⟩ := hconnection.of_received hmem
        rw [hsame, arriving, hone, ← hnewest]
        rw [← hnewest] at hcame
        exact hcame.received text
  constructor
  · exact Client.receptive_collect (hconnection.orderly.move m)
      (hconnection.newest.move hconnection.orderly m)
  · rw [hframes, ← List.append_assoc, h.queue]
    simp [arriving, Function.comp_def]
  · rw [hlines]
    exact hserial
  · intro n text hmem
    rcases List.mem_append.1 hmem with hmem | hmem
    · exact h.call_lt n text hmem
    · simp [arriving] at hmem
  · intro n
    have hnone : SourcedFrames.ofSource (.call n) (i.arriving (.connection m)) = [] := by
      apply SourcedFrames.ofSource_eq_nil
      intro f hf
      obtain ⟨r, _, rfl⟩ := List.mem_map.1 hf
      simp
    rw [SourcedFrames.ofSource_append, hnone, List.append_nil]
    exact h.streams n

/-- The client takes the first frame of the queue and processes it. -/
theorem take
    (h : i.Accounted taken came calls)
    (p : Participant υ α)
    (now : Moment) :
    (i.move p (.take now)).Accounted
      (taken ++ (i.serving p (.take now)).map FrameTurn.text) came calls := by
  rcases i.take_cases p now with
    ⟨hserving, hmove⟩ | ⟨text, frames, hframes, t, htext, _, hfound, hserving, hmove, hleft⟩
  · rw [hserving, hmove, List.map_nil, List.append_nil]
    exact h
  · have htaken :
        ({ i with client := t.found } : Intake υ α).Accounted (taken ++ [text]) came calls := by
      have hqueue := h.queue
      rw [hframes] at hqueue
      rw [hfound]
      constructor
      · exact h.receptive
      · simpa using hqueue
      · exact h.serial
      · exact h.call_lt
      · exact h.streams
    rw [hserving, hmove, List.map_singleton, htext, hleft]
    exact htaken.calm (Client.calm_processFrame p _ now text)

/-- Every accepted call has a stream. -/
theorem length_eq
    (h : i.Accounted taken came calls) :
    i.streams.length = calls.length := by
  have hcalls : calls.length ≤ i.streams.length := by
    rw [← List.getElem?_eq_none_iff, ← Option.map_eq_none_iff (f := CallFrames.accepted),
      ← h.streams i.streams.length, List.getElem?_length]
    rfl
  have hstreams : i.streams.length ≤ calls.length := by
    rw [← List.getElem?_eq_none_iff, ← Option.map_eq_none_iff, h.streams calls.length,
      List.getElem?_length]
    rfl
  omega

/-- A stream may lose what counts for no frame. -/
theorem ended
    (h : i.Accounted taken came calls)
    {call : Nat}
    {s s' : CallStream}
    (hs : i.streams[call]? = some s)
    (hrest : s'.rest.accepted = s.rest.accepted)
    {c : Client υ α}
    (hc : i.client.Calm c) :
    (⟨c, i.streams.set call s'⟩ : Intake υ α).Accounted taken came calls := by
  have hlt : call < i.streams.length := (List.getElem?_eq_some_iff.1 hs).1
  have hcalm := h.calm hc
  constructor
  · exact hcalm.receptive
  · exact hcalm.queue
  · exact hcalm.serial
  · exact hcalm.call_lt
  · intro n
    rw [List.getElem?_set]
    by_cases hn : call = n
    · subst hn
      rw [if_pos rfl, if_pos hlt, ← h.streams call, hs, Option.map_some, Option.map_some, hrest]
    · rw [if_neg hn]
      exact h.streams n

/-- The first frame of a stream joins the queue. -/
theorem forwarded
    (h : i.Accounted taken came calls)
    {call : Nat}
    {s s' : CallStream}
    {text : String}
    (hs : i.streams[call]? = some s)
    (hrest : s.rest.accepted = text :: s'.rest.accepted) :
    (⟨{ i.client with frames := i.client.frames ++ [text] },
      i.streams.set call s'⟩ : Intake υ α).Accounted taken
        (came ++ [(.call call, text)]) calls := by
  have hlt : call < i.streams.length := (List.getElem?_eq_some_iff.1 hs).1
  constructor
  · exact h.receptive
  · rw [← List.append_assoc, h.queue, List.map_append]
    rfl
  · exact h.serial.forwarded call text
  · intro n text' hmem
    rcases List.mem_append.1 hmem with hmem | hmem
    · exact h.call_lt n text' hmem
    · obtain ⟨rfl, rfl⟩ : n = call ∧ text' = text := by
        simpa using hmem
      rw [← h.length_eq]
      exact hlt
  · intro n
    rw [List.getElem?_set, SourcedFrames.ofSource_append, SourcedFrames.ofSource_singleton]
    by_cases hn : call = n
    · subst hn
      rw [if_pos rfl, if_pos hlt, if_pos rfl, ← h.streams call, hs, Option.map_some,
        Option.map_some, hrest, List.append_assoc]
      rfl
    · have hother : FrameSource.call call ≠ .call n := by
        simpa using hn
      rw [if_neg hn, if_neg hother, List.append_nil]
      exact h.streams n

/-- The forwarder of a call takes the next item of its stream. -/
theorem forward
    (h : i.Accounted taken came calls)
    (call : Nat) :
    (i.forward call).Accounted taken (came ++ i.arriving (.forward call)) calls := by
  cases hs : i.streams[call]? with
  | none =>
      simpa [Intake.forward, arriving, hs] using h
  | some s =>
      cases hrest : s.rest with
      | nil =>
          simpa [Intake.forward, arriving, hs, CallStream.next?, hrest] using h
      | cons frame rest =>
          cases frame with
          | error e =>
              have harriving : i.arriving (.forward call) = [] := by
                simp [arriving, hs, CallStream.next?, hrest]
              rw [Intake.forward, harriving, List.append_nil]
              simp only [hs, hrest]
              apply h.ended hs
              · rw [hrest]
                rfl
              · exact Client.calm_of_same rfl rfl
          | ok text =>
              have harriving : i.arriving (.forward call) = [(.call call, text)] := by
                simp [arriving, hs, CallStream.next?, hrest]
              rw [Intake.forward, harriving]
              simp only [hs, hrest]
              apply h.forwarded hs
              rw [hrest]
              rfl

/-- A call that is accepted opens a stream from which nothing has come yet. -/
theorem opened
    (h : i.Accounted taken came calls)
    (frames : CallFrames) :
    ({ i with streams := i.streams ++ [⟨frames, 0⟩] } : Intake υ α).Accounted taken came
      (calls ++ [frames]) := by
  have hlength := h.length_eq
  have hnone : came.ofSource (.call calls.length) = [] := by
    apply SourcedFrames.ofSource_eq_nil
    rintro ⟨source, text⟩ hmem rfl
    exact absurd (h.call_lt calls.length text hmem) (Nat.lt_irrefl _)
  constructor
  · exact h.receptive
  · exact h.queue
  · exact h.serial
  · intro n text hmem
    have hlt := h.call_lt n text hmem
    rw [List.length_append, List.length_singleton]
    omega
  · intro n
    rcases Nat.lt_trichotomy n calls.length with hlt | rfl | hgt
    · rw [List.getElem?_append_left (hlength ▸ hlt), List.getElem?_append_left hlt]
      exact h.streams n
    · rw [← hlength, List.getElem?_concat_length, hlength, List.getElem?_concat_length,
        Option.map_some, Option.map_some, hnone]
      rfl
    · have hover : ∀ {β : Type} (xs : List β) (x : β), xs.length = calls.length →
          (xs ++ [x])[n]? = none := by
        intro β xs x hxs
        rw [List.getElem?_eq_none_iff, List.length_append, List.length_singleton]
        omega
      rw [hover i.streams _ hlength, hover calls _ rfl]
      rfl

/-- A request whose call is accepted opens a stream, and any other turn is calm. -/
theorem request
    (h : i.Accounted taken came calls)
    (id : Nat)
    (o : RequestObservation) :
    (i.turnRequest id o).Accounted taken came (calls ++ i.opening (.request id o)) := by
  have hturned := h.calm (i.client.calm_turn id o)
  have hopening : i.opening (.request id o) = (i.accepting id o).toList := rfl
  rw [hopening, i.turnRequest_eq id o]
  rcases i.turnRequest_cases id o with ⟨frames, haccepts, heffects⟩ | ⟨haccepts, heffects⟩
  · rw [haccepts, heffects]
    exact hturned.opened frames
  · rw [haccepts, foldl_takeOver_of_none heffects, Option.toList_none, List.append_nil]
    exact hturned.calm (Client.calm_takeOver heffects _)

/-- Every move keeps the account. -/
theorem move
    (h : i.Accounted taken came calls)
    (p : Participant υ α)
    (m : IntakeMove υ) :
    (i.move p m).Accounted (taken ++ (i.serving p m).map FrameTurn.text)
      (came ++ i.arriving m) (calls ++ i.opening m) := by
  cases m with
  | connection m =>
      simp only [serving, opening, List.map_nil, List.append_nil]
      exact h.connection p m
  | take now =>
      simp only [arriving, opening, List.append_nil]
      exact h.take p now
  | request id o =>
      simp only [arriving, serving, List.map_nil, List.append_nil]
      exact h.request id o
  | forward call =>
      simp only [serving, opening, List.map_nil, List.append_nil]
      exact h.forward call
  | listen listening =>
      exact h.quiet (Client.calm_of_same rfl rfl)
  | reroute router =>
      exact h.quiet (Client.calm_of_same rfl rfl)
  | register now ids =>
      exact h.quiet (Client.calm_of_same rfl rfl)
  | process now text =>
      exact h.quiet (Client.calm_processFrame p _ now text)
  | execute now diagram options =>
      exact h.quiet (Client.calm_execute _ now diagram options)
  | give now command =>
      apply h.quiet
      simp only [Client.act]
      cases hgiven : i.client.give now command with
      | error e =>
          exact Client.calm_of_same rfl rfl
      | ok given =>
          exact Client.calm_give _ now command hgiven
  | prompt now =>
      apply h.quiet
      simp only [Client.act]
      cases hasked : i.client.prompt now with
      | error e =>
          exact Client.calm_of_same rfl rfl
      | ok asked =>
          exact Client.calm_prompt _ now hasked

/-- Every run keeps the account. -/
theorem run
    (h : i.Accounted taken came calls)
    (p : Participant υ α)
    (ms : List (IntakeMove υ)) :
    (i.run p ms).Accounted (taken ++ (i.served p ms).map FrameTurn.text)
      (came ++ i.arrivals p ms) (calls ++ i.calls p ms) := by
  induction ms generalizing i taken came calls with
  | nil =>
      simpa [Intake.run, served, arrivals, Intake.calls, along] using h
  | cons m ms ih =>
      have hrest := ih (h.move p m)
      simpa [Intake.run, served, arrivals, Intake.calls, along] using hrest

end Accounted

/-- The turns of a forwarder are moves. -/
theorem run_forwards
    (i : Intake υ α)
    (p : Participant υ α)
    (call turns : Nat) :
    i.run p (List.replicate turns (.forward call)) = i.forwardAll call turns := by
  induction turns generalizing i with
  | zero =>
      rfl
  | succ turns ih =>
      exact ih (i.forward call)

/-- A client that hands over the stream of a call at once does what some moves do. -/
theorem exists_run_turnRequest
    (i : Intake υ α)
    (p : Participant υ α)
    (id : Nat)
    (o : RequestObservation) :
    ∃ turns,
      (i.run p (.request id o :: List.replicate turns (.forward i.streams.length))).client =
        (i.client.turnRequest id o).1 := by
  refine ⟨((i.accepting id o).map List.length).getD 0, ?_⟩
  rw [Intake.run, run_forwards]
  apply i.forwardAll_turnRequest id o
  intro frames haccepting
  simp [haccepting]

/-- **Once and in order.**  Take any application whose handlers change the connection by
asking for moves only, and any run of a client that has done nothing: lines are opened, lost
and opened again, the client ceases to listen and listens again, and calls stream frames
back.  The frames that the client takes from its queue, followed by those that wait there,
are the arrivals of the run, in order.  Each frame that is taken is processed: one that is no
message is noted, and a message is handed to all routes that take its kind, each once; no
other move calls a handler of the application, except by a frame of its own.  The arrivals
over lines are those of the first line, then those of the second, and so on.  The arrivals
from a call that was accepted, followed by what is left of its stream, are its frames up to
the first error.  Every arrival comes from such a line or call.  When the client listens and
cannot take a frame, it has processed all of them.  A client that hands over a stream at once
does what some of these moves do. -/
theorem frames_once_in_order
    (p : Participant υ α)
    (s : Settings)
    (path : DeliveryPath)
    (load : DiagramLoader)
    (state : α)
    (handlers : List (Matcher × υ))
    (ms : List (IntakeMove υ)) :
    let i : Intake υ α := ⟨(Client.ofSettings s path load state).listenAll handlers, []⟩
    let after := i.run p ms
    let came := i.arrivals p ms
    let served := i.served p ms
    let lines := after.client.connection.lines
    served.map FrameTurn.text ++ after.client.frames = came.map Prod.snd ∧
    (∀ t ∈ served, t.Processed p.application) ∧
    (∀ m, m.processes = false →
      (after.move p m).client.bus.world.application = after.client.bus.world.application) ∧
    came.ofLines = ((List.range lines).flatMap fun n => came.ofSource (.line n)) ∧
    (∀ n : Nat,
      (after.streams[n]?).map (fun s => came.ofSource (.call n) ++ s.rest.accepted) =
        ((i.calls p ms)[n]?).map CallFrames.accepted) ∧
    (∀ f ∈ came,
      (∃ n, f.1 = .line n ∧ n < lines) ∨
        ∃ n, f.1 = .call n ∧ n < (i.calls p ms).length) ∧
    (after.client.listening = true →
      ∀ now, after.client.takeFrame? p.application now = none →
        served.map FrameTurn.text = came.map Prod.snd) ∧
    ∀ id o, ∃ turns,
      (after.run p (.request id o :: List.replicate turns (.forward after.streams.length))).client =
        (after.client.turnRequest id o).1 := by
  intro i after came served lines
  have hfresh : i.Accounted [] [] [] := .fresh ⟨_, _, rfl⟩ rfl
  have h := hfresh.run p ms
  simp only [List.nil_append] at h
  refine ⟨h.queue, ?_, ?_, h.serial.ofLines_eq, h.streams, ?_, ?_, ?_⟩
  · intro t ht
    exact processed_of_mem_served ht
  · intro m hm
    exact after.application_move p hm
  · rintro ⟨source, text⟩ hmem
    cases source with
    | line n =>
        exact Or.inl ⟨n, rfl, h.serial.line_lt n text hmem⟩
    | call n =>
        exact Or.inr ⟨n, rfl, h.call_lt n text hmem⟩
  · intro hlistening now hnone
    have hframes : after.client.frames = [] := by
      cases hframes : after.client.frames with
      | nil =>
          rfl
      | cons text frames =>
          simp [Client.takeFrame?, hlistening, hframes] at hnone
    have hqueue := h.queue
    rw [hframes, List.append_nil] at hqueue
    exact hqueue
  · intro id o
    exact after.exists_run_turnRequest p id o

/-- A client that does not listen.  Its first line brings one text before the wish to
disconnect, and the line of the next connection another; nothing comes in between. -/
example :
    ((⟨Client.ofSettings {} .connection .declared (), []⟩ : Intake Unit Unit).run
      (Observer.participant fun _ _ _ => ((), .done))
      [.connection .connect, .connection (.turn 0 .begun), .connection (.turn 0 .opened),
       .connection (.turn 0 (.received "a")), .connection .disconnect,
       .connection (.turn 0 (.received "late")), .connection .connect,
       .connection (.turn 1 .begun), .connection (.turn 1 .opened),
       .connection (.turn 1 (.received "b"))]).client.frames = ["a", "b"] := by
  rfl

end Intake

end RemoteRun
