import RemoteRun.Proofs.Connection.Usable

/-!
# Disconnecting is final

A wish to disconnect takes the supervisor away, whatever it is at, and returns when that one
has ended.

**Closing.** From the wish on, and as long as nobody wishes to connect, no supervisor is held.
All that are running are awaited, so that nobody is running any more once nobody is awaited.
The last of the wishes to be completed settles the connection (`Closing`).

**Closed.** A connection that has settled and that nobody supervises stays as it is: each move
but the wish to connect adds notices at most (`Closed.move`).

**Results.**
* `finishDisconnect_stopped`: one turn of an awaited supervisor completes the wish.
* `disconnect_final`: once all wishes to disconnect have returned, nothing is done, shown or
  accepted until the next wish to connect, and that one starts anew.
* `overlapping_disconnect_not_final`: it is otherwise while one of them is under way.
-/

namespace RemoteRun

namespace Connection

/-- A property that every move but the wish to connect keeps holds after such moves. -/
theorem run_preserves_unconnected
    {P : Connection → Prop}
    (hmove : ∀ c m, m.isConnect = false → P c → P (c.move m))
    {ms : List Move}
    (hms : ∀ m ∈ ms, m.isConnect = false)
    {c : Connection}
    (hc : P c) :
    P (c.run ms) := by
  induction ms generalizing c with
  | nil =>
      exact hc
  | cons m ms ih =>
      obtain ⟨hm, hrest⟩ := List.forall_mem_cons.1 hms
      exact ih hrest (hmove c m hm hc)

/-- What has settled settles as it is. -/
theorem settle_eq_self
    {c : Connection}
    (houtlet : c.outlet = none)
    (hstate : c.state = .idle) :
    c.settle = c := by
  have hsame : { c with outlet := none } = c := by
    rw [← houtlet]
  rw [settle, hsame, reveal, if_pos hstate]

/-! ### While wishes to disconnect are completed -/

/-- No supervisor is held, and once none is awaited any more the connection has settled. -/
structure Closing (c : Connection) : Prop extends Orderly c where
  unheld : c.held = none
  settled : c.leaving = [] → c.outlet = none ∧ c.state = .idle

namespace Closing

variable {c : Connection}

/-- The wish to disconnect begins it, in whatever state. -/
theorem disconnect
    (h : Orderly c) :
    Closing c.disconnect := by
  refine ⟨h.move .disconnect, ?_, ?_⟩ <;>
    unfold Connection.disconnect <;>
    cases hheld : c.held <;>
    simp [hheld, (kept_settle c).held]

/-- All that are running are awaited. -/
theorem mem_leaving
    (h : Closing c)
    {id : Nat}
    (hrunning : c.isRunning id = true) :
    id ∈ c.leaving := by
  obtain ⟨s, hid, hs⟩ := isRunning_iff.1 hrunning
  refine h.mem_leaving_of_not_held hid hs ?_
  rw [h.unheld]
  exact (Option.some_ne_none id).symm

/-- Every move but the wish to connect keeps it so. -/
theorem move
    (h : Closing c)
    {m : Move}
    (hm : m.isConnect = false) :
    Closing (c.move m) := by
  have horderly := h.toOrderly.move m
  have hchange := c.change_move m
  generalize c.move m = d at hchange horderly ⊢
  cases hchange with
  | quiet m notices =>
      exact ⟨horderly, h.unheld, h.settled⟩
  | connect _ =>
      cases hm
  | settle _ =>
      refine ⟨horderly, (kept_settle c).held.trans h.unheld, ?_⟩
      intro _
      exact ⟨settle_outlet c, settle_state c⟩
  | disconnect hheld =>
      rw [h.unheld] at hheld
      cases hheld
  | finish notices hid hover =>
      refine ⟨horderly, (kept_settle _).held.trans h.unheld, ?_⟩
      intro _
      exact ⟨settle_outlet _, settle_state _⟩
  | @turn id s s' c' o hid hturn =>
      refine ⟨horderly, hturn.kept.held.trans h.unheld, ?_⟩
      intro hleaving
      have hnone : c.leaving = [] := hturn.kept.leaving.symm.trans hleaving
      rcases hturn.isRunning_or_stay with hrunning | ⟨_, rfl⟩
      · -- One that takes a turn is running, and would still be awaited.
        have hmem := h.mem_leaving ((isRunning_of_getElem? hid).trans hrunning)
        rw [hnone] at hmem
        cases hmem
      · exact h.settled hnone
  | accept message hid hs _ _ =>
      refine ⟨horderly, h.unheld, ?_⟩
      intro hleaving
      have hmem := h.mem_leaving ((isRunning_of_getElem? hid).trans (isRunning_of_pumping hs))
      rw [show c.leaving = [] from hleaving] at hmem
      cases hmem

end Closing

/-- A wish to disconnect awaits the supervisor that was held. -/
theorem leaving_disconnect
    {c : Connection}
    (hleaving : c.leaving = []) :
    c.disconnect.leaving = c.held.toList := by
  unfold disconnect
  cases hheld : c.held with
  | none =>
      exact (kept_settle c).leaving.trans hleaving
  | some id =>
      simp [hleaving]

/-- The turn in which a supervisor stops is its last one. -/
theorem isRunning_stop
    {c : Connection}
    {id : Nat}
    {s : Supervisor}
    (hid : c.supervisors[id]? = some s)
    (hstops : s.stopping = true) :
    (c.stop id s).isRunning id = false := by
  have hended : s.activity.isOver = true → c.isRunning id = false := by
    intro hover
    rw [isRunning_of_getElem? hid, Supervisor.isRunning, hover]
    rfl
  unfold stop
  cases hs : s.activity with
  | starting =>
      have hshown : (c.reveal ⟨.connecting, 0⟩).supervisors[id]? = some s := by
        rw [reveal_supervisors, hid]
      simp only [start, hstops, if_true]
      exact isRunning_put hshown _
  | opening =>
      exact isRunning_put hid _
  | pumping line queue =>
      exact isRunning_put (c := { c.emit (.close line) with outlet := none }) hid _
  | delaying =>
      exact isRunning_put hid _
  | returned =>
      exact hended (by rw [hs]; rfl)
  | panicked =>
      exact hended (by rw [hs]; rfl)

/-- A supervisor that is awaited ends in the turn in which it stops, and this completes the
wish that awaits it. -/
theorem finishDisconnect_stopped
    {c : Connection}
    (h : Orderly c)
    {id : Nat}
    (hid : id ∈ c.leaving) :
    ((c.turn id .stopped).finishDisconnect id).leaving = c.leaving.erase id := by
  obtain ⟨s, hs⟩ : ∃ s, c.supervisors[id]? = some s :=
    ⟨_, List.getElem?_eq_getElem (h.leaving_lt id hid)⟩
  obtain ⟨s', c', hturn, hd⟩ := turn_cases hs .stopped
  have hleaving : (c.turn id .stopped).leaving = c.leaving := by
    rw [hd]
    exact hturn.kept.leaving
  have hover : (c.turn id .stopped).isRunning id = false := by
    cases hrunning : s.isRunning with
    | true =>
        have hstops := (h.stopping_iff id s hs hrunning).2 hid
        have hturned : c.turn id .stopped = c.stop id s := by
          simp only [turn, hs, hstops, if_true]
        rw [hturned]
        exact isRunning_stop hs hstops
    | false =>
        rcases hturn.isRunning_or_stay with hturns | ⟨rfl, rfl⟩
        · rw [hrunning] at hturns
          cases hturns
        · rw [hd, isRunning_put hs, hrunning]
  have hcontains : (c.turn id .stopped).leaving.contains id = true := by
    rw [hleaving]
    simpa using hid
  unfold finishDisconnect
  simp only [hcontains, hover, Bool.not_false, Bool.and_self, if_true]
  split
  · exact (kept_settle _).leaving.trans (congrArg (·.erase id) hleaving)
  · exact (kept_settle _).leaving.trans (congrArg (·.erase id) hleaving)

/-! ### Afterwards -/

/-- The connection has settled, and nobody supervises it. -/
structure Closed (c : Connection) : Prop where
  unheld : c.held = none
  unawaited : c.leaving = []
  outlet : c.outlet = none
  state : c.state = .idle
  ended : ∀ id, c.isRunning id = false

/-- Once nobody is awaited any more, the connection is closed. -/
theorem Closing.closed
    {c : Connection}
    (h : Closing c)
    (hleaving : c.leaving = []) :
    Closed c := by
  obtain ⟨houtlet, hstate⟩ := h.settled hleaving
  refine ⟨h.unheld, hleaving, houtlet, hstate, ?_⟩
  intro id
  rw [Bool.eq_false_iff]
  intro hrunning
  have hmem := h.mem_leaving hrunning
  rw [hleaving] at hmem
  cases hmem

namespace Closed

variable {c : Connection}

theorem noted
    (h : Closed c)
    (notices : List Notice) :
    Closed (c.noted notices) :=
  ⟨h.unheld, h.unawaited, h.outlet, h.state, h.ended⟩

/-- A move other than the wish to connect adds notices at most. -/
theorem move
    (h : Closed c)
    {m : Move}
    (hm : m.isConnect = false) :
    ∃ notices, c.move m = c.noted notices := by
  have hover := h.ended
  have hchange := c.change_move m
  generalize c.move m = d at hchange ⊢
  cases hchange with
  | quiet m notices =>
      exact ⟨notices, rfl⟩
  | connect _ =>
      cases hm
  | settle _ =>
      exact ⟨[], by rw [settle_eq_self h.outlet h.state, noted_nil]⟩
  | disconnect hheld =>
      rw [h.unheld] at hheld
      cases hheld
  | finish notices hid _ =>
      rw [h.unawaited] at hid
      cases hid
  | @turn id s s' c' o hid hturn =>
      have hended : s.isRunning = false := (isRunning_of_getElem? hid).symm.trans (hover id)
      rcases hturn.isRunning_or_stay with hrunning | ⟨rfl, rfl⟩
      · rw [hended] at hrunning
        cases hrunning
      · exact ⟨[], by rw [put_self hid, noted_nil]⟩
  | @accept id line s queue message hid hs _ _ =>
      have hended : s.isRunning = false := (isRunning_of_getElem? hid).symm.trans (hover id)
      rw [isRunning_of_pumping hs] at hended
      cases hended

/-- So does any number of them. -/
theorem run
    (h : Closed c)
    {ms : List Move}
    (hms : ∀ m ∈ ms, m.isConnect = false) :
    ∃ notices, c.run ms = c.noted notices := by
  induction ms generalizing c with
  | nil =>
      exact ⟨[], c.noted_nil.symm⟩
  | cons m ms ih =>
      obtain ⟨hm, hrest⟩ := List.forall_mem_cons.1 hms
      obtain ⟨notices, hmoved⟩ := h.move hm
      obtain ⟨more, hrun⟩ := ih (h.noted notices) hrest
      refine ⟨notices ++ more, ?_⟩
      rw [Connection.run, hmoved, hrun]
      simp [Connection.noted]

theorem send_refused
    (h : Closed c)
    (message : Outbound) :
    (send message c).2 = .error (.notConnected message.kind) := by
  simp only [send, h.outlet]
  rfl

/-- A wish to connect starts a new supervisor, which counts its attempts from zero. -/
theorem connect
    (h : Closed c) :
    ∃ id, c.connect.held = some id ∧
      c.connect.supervisors[id]? = some { activity := .starting, attempt := 0, stopping := false } ∧
      (c.connect.turn id .begun).state = ⟨.connecting, 0⟩ ∧
      (c.connect.turn id .begun).effects =
        c.effects ++ [.announce (.changed ⟨.connecting, 0⟩), .openLine id] := by
  have hconnect :
      c.connect =
        { c with supervisors := c.supervisors ++ [{}], held := some c.supervisors.length } := by
    simp [Connection.connect, h.unheld]
  have hnew : c.connect.supervisors[c.supervisors.length]? = some {} := by
    rw [hconnect]
    simp
  have hturn :
      c.connect.turn c.supervisors.length .begun = c.connect.start c.supervisors.length {} := by
    simp [turn, hnew, observe]
  refine ⟨c.supervisors.length, by rw [hconnect], hnew, ?_, ?_⟩
  · rw [hturn]
    simp [start, openLine, emit, put]
  · have hstate : ¬ c.state = ⟨.connecting, 0⟩ := by
      rw [h.state]
      decide
    rw [hturn, hconnect]
    simp [start, openLine, emit, put, reveal, hstate]

end Closed

/-- **Disconnecting is final.**  Take any state and disconnect there.  If no other wish to
disconnect is under way, this one awaits the supervisor that was held, if there was one.  Every
supervisor that is awaited ends in its next turn, which completes the wish that awaits it.

After any moves without a wish to connect that leave no wish to disconnect under way, and after
any further moves without a wish to connect, the connection shows as disconnected, nobody is
running, and nothing was done since but to write notices: no line was opened, nothing was
written, and no event was announced.  Every message is refused, and the next wish to connect
starts with no attempt counted. -/
theorem disconnect_final
    (policy : ReconnectPolicy)
    (heartbeat : Option Duration)
    (before : List Move)
    {during after : List Move}
    (hduring : ∀ m ∈ during, m.isConnect = false)
    (hafter : ∀ m ∈ after, m.isConnect = false) :
    let c := (ofPolicy policy heartbeat).run before
    let called := c.disconnect
    let returned := called.run during
    let later := returned.run after
    (c.leaving = [] → called.leaving = c.held.toList) ∧
    (∀ id ∈ called.leaving,
      ((called.turn id .stopped).finishDisconnect id).leaving = called.leaving.erase id) ∧
    (returned.leaving = [] →
      later.state = .idle ∧
      (∀ id, later.isRunning id = false) ∧
      (∃ notices : List Notice, later.effects = returned.effects ++ notices.map .note) ∧
      (∀ message, (send message later).2 = .error (.notConnected message.kind)) ∧
      ∃ id, later.connect.held = some id ∧
        later.connect.supervisors[id]? =
          some { activity := .starting, attempt := 0, stopping := false } ∧
        (later.connect.turn id .begun).state = ⟨.connecting, 0⟩ ∧
        (later.connect.turn id .begun).effects =
          later.effects ++ [.announce (.changed ⟨.connecting, 0⟩), .openLine id]) := by
  intro c called returned later
  have hcalled : Closing called := .disconnect (orderly_run policy heartbeat before)
  have hreturned : Closing returned :=
    run_preserves_unconnected (fun _ _ hm h => h.move hm) hduring hcalled
  refine ⟨leaving_disconnect, fun id hid => finishDisconnect_stopped hcalled.toOrderly hid, ?_⟩
  intro hleaving
  have hquiet := hreturned.closed hleaving
  obtain ⟨notices, hlater⟩ := hquiet.run hafter
  have hclosed : Closed later := by
    rw [show later = returned.noted notices from hlater]
    exact hquiet.noted notices
  refine ⟨hclosed.state, hclosed.ended, ⟨notices, ?_⟩, hclosed.send_refused, hclosed.connect⟩
  rw [show later = returned.noted notices from hlater]
  rfl

/-- A line is open and has a text to write.  The supervisor writes it, closes the line and
ends; afterwards it is offered another line, and a second wish to disconnect and a message
come. -/
theorem disconnect_final_open :
    let called := ((ofPolicy {} none).run (opening ++ [.send .subscribeMonitor])).disconnect
    let returned := called.run [.turn 0 (.written (.ok ())), .turn 0 .stopped, .finishDisconnect 0]
    let later := returned.run [.turn 0 .opened, .disconnect, .send .heartbeat]
    called.leaving = [0] ∧ returned.leaving = [] ∧ later.state = .idle ∧
      later.isRunning 0 = false ∧
      (∃ notices : List Notice, later.effects = returned.effects ++ notices.map .note) ∧
      (send .heartbeat later).2 = .error (.notConnected "heartbeat") := by
  have hfinal := @disconnect_final {} none (opening ++ [.send .subscribeMonitor])
    [.turn 0 (.written (.ok ())), .turn 0 .stopped, .finishDisconnect 0]
    [.turn 0 .opened, .disconnect, .send .heartbeat] (by decide) (by decide)
  obtain ⟨hstate, hover, heffects, hsend, _⟩ := hfinal.2.2 rfl
  exact ⟨rfl, rfl, hstate, hover 0, heffects, hsend .heartbeat⟩

/-- Two wishes to disconnect that overlap.  The first one awaits the supervisor that was held;
the second one finds nobody to take away, settles the connection and returns.  Nobody wishes to
connect any more, and yet a supervisor that has not begun shows in the turn in which it ends
that a connection is sought, and one that is at a write still writes its text. -/
theorem overlapping_disconnect_not_final :
    let sought := (ofPolicy {} none).run [.connect, .disconnect]
    let writing := (ofPolicy {} none).run (opening ++ [.send .subscribeMonitor, .disconnect])
    (sought.held = none ∧ sought.leaving = [0] ∧ sought.disconnect = sought.settle ∧
      sought.disconnect.state = .idle ∧
      (sought.disconnect.turn 0 .stopped).state = ⟨.connecting, 0⟩ ∧
      (sought.disconnect.turn 0 .stopped).effects =
        sought.disconnect.effects ++ [.announce (.changed ⟨.connecting, 0⟩)]) ∧
    (writing.held = none ∧ writing.leaving = [0] ∧ writing.disconnect = writing.settle ∧
      (writing.disconnect.turn 0 (.written (.ok ()))).effects =
        writing.disconnect.effects ++ [.write 0 Outbound.subscribeMonitor.write]) := by
  exact ⟨⟨rfl, rfl, rfl, rfl, rfl, rfl⟩, rfl, rfl, rfl, rfl⟩

end Connection

end RemoteRun
