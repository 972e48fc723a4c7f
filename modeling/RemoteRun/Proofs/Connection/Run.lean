import RemoteRun.Connection.Basic

/-!
# Runs of the connection

**Moves.** Somebody wishes to connect, to disconnect or to send, a wish to disconnect is
completed, or a supervisor takes a turn.  Nothing is assumed of the order of moves or of
what supervisors observe.

**Turns.** Whatever a supervisor does in a turn is one of a few changes.  `Turn` lists
them with their guards, what becomes of the supervisor and what of the rest of the
connection, and later modules look at nothing else.

**Results.**
* `turn_cases`: every turn of a supervisor is in the list.
* `Turn.kept`: no turn changes the wishes, or another supervisor.
* `run_preserves`: a property that every move keeps holds throughout a run.
-/

namespace RemoteRun

namespace Connection

/-- What happens to a connection. -/
inductive Move where
  | connect
  | disconnect
  | finishDisconnect (id : Nat)
  | turn (id : Nat) (o : Observation)
  | send (message : Outbound)

/-- The connection after a move. -/
def move (c : Connection) : Move → Connection
  | .connect => c.connect
  | .disconnect => c.disconnect
  | .finishDisconnect id => c.finishDisconnect id
  | .turn id o => c.turn id o
  | .send message => (send message c).1

/-- The connection after moves, one after the other. -/
def run (c : Connection) : List Move → Connection
  | [] => c
  | m :: ms => (c.move m).run ms

/-- A property that every move keeps holds after all moves. -/
theorem run_preserves
    {P : Connection → Prop}
    (hmove : ∀ c m, P c → P (c.move m))
    (ms : List Move)
    {c : Connection}
    (hc : P c) :
    P (c.run ms) := by
  induction ms generalizing c with
  | nil =>
      exact hc
  | cons m ms ih =>
      exact ih (hmove c m hc)

/-! ### What is shown -/

section Reveal

variable (c : Connection) (s : ConnectionState)

@[simp] theorem reveal_state :
    (c.reveal s).state = s := by
  unfold reveal
  split <;> simp_all [emit]

@[simp] theorem reveal_outlet :
    (c.reveal s).outlet = c.outlet := by
  unfold reveal
  split <;> rfl

@[simp] theorem reveal_supervisors :
    (c.reveal s).supervisors = c.supervisors := by
  unfold reveal
  split <;> rfl

@[simp] theorem reveal_held :
    (c.reveal s).held = c.held := by
  unfold reveal
  split <;> rfl

@[simp] theorem reveal_leaving :
    (c.reveal s).leaving = c.leaving := by
  unfold reveal
  split <;> rfl

@[simp] theorem reveal_policy :
    (c.reveal s).policy = c.policy := by
  unfold reveal
  split <;> rfl

@[simp] theorem reveal_heartbeat :
    (c.reveal s).heartbeat = c.heartbeat := by
  unfold reveal
  split <;> rfl

end Reveal

/-! ### Turns -/

/-- A supervisor that counts another attempt. -/
def again (s : Supervisor) : Supervisor :=
  { s with attempt := Supervisor.nextAttempt s.attempt }

/-- A supervisor is without a line: it got none, or it lost the one that it had. -/
inductive Lineless (c : Connection) (s : Supervisor) : Connection → Prop
  | refused
      (e : TransportError)
      (hs : s.activity = .opening)
      (hgoes : s.stopping = false) :
      Lineless c s (c.note (.warn "connection attempt failed"
        [("attempt", .ofNat s.attempt), ("error", .str e.message)]))
  | lost
      {line : Nat}
      {queue : List String}
      (reason : String)
      (hs : s.activity = .pumping line queue) :
      Lineless c s
        ({ c with outlet := none }.note (.warn "connection lost" [("reason", .str reason)]))

/-- What becomes of a supervisor without a line, and of the connection around it. -/
inductive Retry (c : Connection) (id : Nat) (s : Supervisor) : Supervisor → Connection → Prop
  | await
      {delay : Duration}
      (hmore : c.policy.exhausted (again s).attempt = false)
      (hdelay : c.policy.delay? (again s).attempt 0.5 = some delay) :
      Retry c id s ((again s).turnTo .delaying)
        ((c.reveal ⟨.reconnecting, (again s).attempt⟩).emit (.rest id delay))
  | stall
      (hmore : c.policy.exhausted (again s).attempt = false)
      (hdelay : c.policy.delay? (again s).attempt 0.5 = none) :
      Retry c id s ((again s).turnTo (.panicked .distantDelay))
        (c.reveal ⟨.reconnecting, (again s).attempt⟩)
  | giveUp
      (hmore : c.policy.exhausted (again s).attempt = true) :
      Retry c id s ((again s).turnTo .returned)
        (((c.note (.error "reconnect attempts exhausted"
            [("attempts", .ofNat ((again s).attempt - 1))])).reveal .idle).emit
          (.announce (.reconnectFailed ((again s).attempt - 1))))

/-- What becomes of a supervisor in its turn, and of the connection around it. -/
inductive Turn (c : Connection) (id : Nat) (s : Supervisor) : Supervisor → Connection → Prop
  | stay :
      Turn c id s s c
  | deliver
      {line : Nat}
      {queue : List String}
      (text : String)
      (hs : s.activity = .pumping line queue)
      (hgoes : s.stopping = false) :
      Turn c id s s (c.emit (.deliver text))
  | beat
      {line : Nat}
      {queue : List String}
      (hs : s.activity = .pumping line queue) :
      Turn c id s s (c.emit (.beat line))
  | write
      {line : Nat}
      {text : String}
      {queue : List String}
      (hs : s.activity = .pumping line (text :: queue)) :
      Turn c id s (s.turnTo (.pumping line queue)) (c.emit (.write line text))
  | seek
      (hs : s.activity = .starting)
      (hgoes : s.stopping = false) :
      Turn c id s (s.turnTo .opening) ((c.reveal ⟨.connecting, 0⟩).emit (.openLine id))
  | cancel
      (hs : s.activity = .starting)
      (hstops : s.stopping = true) :
      Turn c id s (s.turnTo .returned) (c.reveal ⟨.connecting, 0⟩)
  | use
      (hs : s.activity = .opening)
      (hgoes : s.stopping = false)
      (hbeat : c.heartbeat.all canBeat = true) :
      Turn c id s { s with activity := .pumping c.lines [], attempt := 0 }
        ({ c with outlet := some c.lines, lines := c.lines + 1 }.reveal ⟨.connected, 0⟩)
  | spoil
      (hs : s.activity = .opening)
      (hgoes : s.stopping = false)
      (hbeat : c.heartbeat.all canBeat = false) :
      Turn c id s { s with activity := .panicked (beatPanic c.heartbeat), attempt := 0 }
        ({ c with outlet := some c.lines, lines := c.lines + 1 }.reveal ⟨.connected, 0⟩)
  | retry
      {c' d : Connection}
      {s' : Supervisor}
      (hs : Lineless c s c')
      (hretry : Retry c' id s s' d) :
      Turn c id s s' d
  | wake
      (hs : s.activity = .delaying)
      (hgoes : s.stopping = false) :
      Turn c id s (s.turnTo .opening) (c.emit (.openLine id))
  | halt
      (hs : s.activity = .opening ∨ s.activity = .delaying)
      (hstops : s.stopping = true) :
      Turn c id s (s.turnTo .returned) c
  | close
      {line : Nat}
      {queue : List String}
      (hs : s.activity = .pumping line queue)
      (hstops : s.stopping = true) :
      Turn c id s (s.turnTo .returned) { c.emit (.close line) with outlet := none }

/-- A connection is what a turn of a supervisor makes of another one. -/
def TurnsTo (c : Connection) (id : Nat) (s : Supervisor) (d : Connection) : Prop :=
  ∃ s' c', Turn c id s s' c' ∧ d = c'.put id s'

section

variable {c : Connection} {id : Nat} {s : Supervisor}

theorem put_self
    (hs : c.supervisors[id]? = some s) :
    c.put id s = c := by
  obtain ⟨hid, rfl⟩ := List.getElem?_eq_some_iff.1 hs
  simp [put]

theorem turnsTo_stay
    (hs : c.supervisors[id]? = some s) :
    TurnsTo c id s c :=
  ⟨s, c, .stay, (put_self hs).symm⟩

/-- Whatever a supervisor without a line does is in the list. -/
theorem retry_cases
    (c : Connection)
    (id : Nat)
    (s : Supervisor) :
    ∃ s' c', Retry c id s s' c' ∧ c.retry id s = c'.put id s' := by
  unfold retry
  simp only [reveal_policy]
  cases hmore : c.policy.exhausted (Supervisor.nextAttempt s.attempt) with
  | true =>
      exact ⟨_, _, .giveUp hmore, rfl⟩
  | false =>
      cases hdelay : c.policy.delay? (Supervisor.nextAttempt s.attempt) 0.5 with
      | some delay =>
          refine ⟨_, _, .await hmore hdelay, ?_⟩
          simp only [Bool.false_eq_true, if_false]
          rfl
      | none =>
          refine ⟨_, _, .stall hmore hdelay, ?_⟩
          simp only [Bool.false_eq_true, if_false]
          rfl

theorem turnsTo_retry
    {c' : Connection}
    (hs : Lineless c s c') :
    TurnsTo c id s (c'.retry id s) := by
  obtain ⟨s', d, hretry, hd⟩ := c'.retry_cases id s
  exact ⟨s', d, .retry hs hretry, hd⟩

theorem turnsTo_start
    (hs : s.activity = .starting) :
    TurnsTo c id s (c.start id s) := by
  unfold start
  cases hstop : s.stopping with
  | true =>
      exact ⟨_, _, .cancel hs hstop, rfl⟩
  | false =>
      exact ⟨_, _, .seek hs hstop, rfl⟩

theorem turnsTo_useLine
    (hs : s.activity = .opening)
    (hgoes : s.stopping = false) :
    TurnsTo c id s (c.useLine id s) := by
  unfold useLine
  simp only [reveal_heartbeat]
  cases hbeat : c.heartbeat.all canBeat with
  | true =>
      exact ⟨_, _, .use hs hgoes hbeat, rfl⟩
  | false =>
      exact ⟨_, _, .spoil hs hgoes hbeat, rfl⟩

theorem turnsTo_writeNext
    (hid : c.supervisors[id]? = some s)
    {line : Nat}
    {queue : List String}
    (hs : s.activity = .pumping line queue)
    (result : Except TransportError Unit) :
    TurnsTo c id s (c.writeNext id s line result queue) := by
  cases queue with
  | nil =>
      exact turnsTo_stay hid
  | cons text queue =>
      cases result with
      | ok _ =>
          exact ⟨_, _, .write hs, rfl⟩
      | error e =>
          exact turnsTo_retry (.lost e.message hs)

theorem turnsTo_writeBeat
    (hid : c.supervisors[id]? = some s)
    {line : Nat}
    {queue : List String}
    (hs : s.activity = .pumping line queue)
    (result : Except TransportError Unit) :
    TurnsTo c id s (c.writeBeat id s line result) := by
  cases result with
  | ok _ =>
      refine ⟨_, _, .beat hs, ?_⟩
      exact congrArg (fun d : Connection => d.emit (.beat line)) (put_self hid).symm
  | error e =>
      exact turnsTo_retry (.lost e.message hs)

theorem turnsTo_stop
    (hid : c.supervisors[id]? = some s)
    (hstops : s.stopping = true) :
    TurnsTo c id s (c.stop id s) := by
  unfold stop
  cases hs : s.activity with
  | starting =>
      exact turnsTo_start hs
  | opening =>
      exact ⟨_, _, .halt (Or.inl hs) hstops, rfl⟩
  | pumping line queue =>
      exact ⟨_, _, .close hs hstops, rfl⟩
  | delaying =>
      exact ⟨_, _, .halt (Or.inr hs) hstops, rfl⟩
  | returned =>
      exact turnsTo_stay hid
  | panicked =>
      exact turnsTo_stay hid

/-- What is written ends also when the supervisor is to stop. -/
theorem turnsTo_observe_written
    (hid : c.supervisors[id]? = some s)
    (result : Except TransportError Unit) :
    TurnsTo c id s (c.observe id s (.written result)) ∧
      TurnsTo c id s (c.observe id s (.beat result)) := by
  unfold observe
  cases hs : s.activity with
  | pumping line queue =>
      exact ⟨turnsTo_writeNext hid hs result, turnsTo_writeBeat hid hs result⟩
  | _ =>
      exact ⟨turnsTo_stay hid, turnsTo_stay hid⟩

theorem turnsTo_observe
    (hid : c.supervisors[id]? = some s)
    (hgoes : s.stopping = false)
    (o : Observation) :
    TurnsTo c id s (c.observe id s o) := by
  unfold observe
  cases hs : s.activity with
  | starting =>
      cases o with
      | begun =>
          exact turnsTo_start hs
      | _ =>
          exact turnsTo_stay hid
  | opening =>
      cases o with
      | opened =>
          exact turnsTo_useLine hs hgoes
      | refused e =>
          exact turnsTo_retry (.refused e hs hgoes)
      | _ =>
          exact turnsTo_stay hid
  | pumping line queue =>
      cases o with
      | received text =>
          refine ⟨_, _, .deliver text hs hgoes, ?_⟩
          exact congrArg (fun d : Connection => d.emit (.deliver text)) (put_self hid).symm
      | broken e =>
          exact turnsTo_retry (.lost e.message hs)
      | closedByPeer =>
          exact turnsTo_retry (.lost "closed by peer" hs)
      | written result =>
          exact turnsTo_writeNext hid hs result
      | beat result =>
          exact turnsTo_writeBeat hid hs result
      | _ =>
          exact turnsTo_stay hid
  | delaying =>
      cases o with
      | woken =>
          exact ⟨_, _, .wake hs hgoes, rfl⟩
      | _ =>
          exact turnsTo_stay hid
  | returned =>
      exact turnsTo_stay hid
  | panicked =>
      exact turnsTo_stay hid

/-- Every turn of a supervisor is in the list. -/
theorem turn_cases
    (hid : c.supervisors[id]? = some s)
    (o : Observation) :
    TurnsTo c id s (c.turn id o) := by
  unfold turn
  simp only [hid]
  cases hstop : s.stopping with
  | false =>
      exact turnsTo_observe hid hstop o
  | true =>
      simp only [if_true]
      cases o with
      | stopped =>
          exact turnsTo_stop hid hstop
      | written result =>
          exact (turnsTo_observe_written hid result).1
      | beat result =>
          exact (turnsTo_observe_written hid result).2
      | _ =>
          exact turnsTo_stay hid

theorem turn_of_none
    (hid : c.supervisors[id]? = none)
    (o : Observation) :
    c.turn id o = c := by
  simp [turn, hid]

end

/-! ### What a turn leaves alone -/

/-- Two connections that agree on all but what is shown and what is to be done. -/
structure Kept (c c' : Connection) : Prop where
  policy : c'.policy = c.policy
  heartbeat : c'.heartbeat = c.heartbeat
  supervisors : c'.supervisors = c.supervisors
  held : c'.held = c.held
  leaving : c'.leaving = c.leaving

theorem Kept.getElem?_eq
    {c c' : Connection}
    (h : Kept c c')
    (id : Nat) :
    c'.supervisors[id]? = c.supervisors[id]? := by
  rw [h.supervisors]

theorem kept_settle
    (c : Connection) :
    Kept c c.settle := by
  constructor <;> simp [settle]

@[simp] theorem settle_state
    (c : Connection) :
    c.settle.state = .idle := by
  simp [settle]

@[simp] theorem settle_outlet
    (c : Connection) :
    c.settle.outlet = none := by
  simp [settle]

theorem Lineless.kept
    {c c' : Connection}
    {s : Supervisor}
    (h : Lineless c s c') :
    Kept c c' := by
  cases h <;> exact ⟨rfl, rfl, rfl, rfl, rfl⟩

theorem isRunning_of_pumping
    {s : Supervisor}
    {line : Nat}
    {queue : List String}
    (hs : s.activity = .pumping line queue) :
    s.isRunning = true := by
  simp [Supervisor.isRunning, Activity.isOver, hs]

theorem Lineless.isRunning
    {c c' : Connection}
    {s : Supervisor}
    (h : Lineless c s c') :
    s.isRunning = true := by
  cases h with
  | refused _ hs _ =>
      simp [Supervisor.isRunning, Activity.isOver, hs]
  | lost _ hs =>
      exact isRunning_of_pumping hs

theorem Retry.kept
    {c c' : Connection}
    {id : Nat}
    {s s' : Supervisor}
    (h : Retry c id s s' c') :
    Kept c c' := by
  cases h <;> constructor <;> simp [emit, note]

theorem Kept.trans
    {a b c : Connection}
    (h : Kept a b)
    (h' : Kept b c) :
    Kept a c :=
  ⟨h'.policy.trans h.policy, h'.heartbeat.trans h.heartbeat,
    h'.supervisors.trans h.supervisors, h'.held.trans h.held, h'.leaving.trans h.leaving⟩

theorem Turn.kept
    {c c' : Connection}
    {id : Nat}
    {s s' : Supervisor}
    (h : Turn c id s s' c') :
    Kept c c' := by
  cases h with
  | retry hs hretry =>
      exact hs.kept.trans hretry.kept
  | _ =>
      constructor <;> simp [emit]

theorem Turn.stopping_eq
    {c c' : Connection}
    {id : Nat}
    {s s' : Supervisor}
    (h : Turn c id s s' c') :
    s'.stopping = s.stopping := by
  cases h with
  | retry _ hretry =>
      cases hretry <;> rfl
  | _ =>
      rfl

/-- One that has ended takes no turn. -/
theorem Turn.isRunning_or_stay
    {c c' : Connection}
    {id : Nat}
    {s s' : Supervisor}
    (h : Turn c id s s' c') :
    s.isRunning = true ∨ s' = s ∧ c' = c := by
  cases h with
  | stay =>
      exact Or.inr ⟨rfl, rfl⟩
  | retry hs _ =>
      exact Or.inl hs.isRunning
  | halt hs _ =>
      rcases hs with hs | hs <;> simp [Supervisor.isRunning, Activity.isOver, hs]
  | _ =>
      simp [Supervisor.isRunning, Activity.isOver, *]

theorem Turn.isRunning_of_isRunning
    {c c' : Connection}
    {id : Nat}
    {s s' : Supervisor}
    (h : Turn c id s s' c')
    (hrunning : s'.isRunning = true) :
    s.isRunning = true := by
  rcases h.isRunning_or_stay with hs | ⟨rfl, _⟩
  · exact hs
  · exact hrunning

/-! ### Moves -/

/-- A connection of which nothing changes but what is noted. -/
def noted (c : Connection) (notices : List Notice) : Connection :=
  { c with effects := c.effects ++ notices.map .note }

@[simp] theorem noted_nil
    (c : Connection) :
    c.noted [] = c := by
  simp [noted]

/-- What a move makes of a connection. -/
inductive Change (c : Connection) : Move → Connection → Prop
  | quiet
      (m : Move)
      (notices : List Notice) :
      Change c m (c.noted notices)
  | connect
      (hheld : c.held.any c.isRunning = false) :
      Change c .connect
        { c with supervisors := c.supervisors ++ [{}], held := some c.supervisors.length }
  | settle
      (hheld : c.held = none) :
      Change c .disconnect c.settle
  | disconnect
      {id : Nat}
      (hheld : c.held = some id) :
      Change c .disconnect
        { c with
          held := none
          leaving := c.leaving ++ [id]
          supervisors := c.supervisors.modify id fun s => { s with stopping := true } }
  | finish
      {id : Nat}
      (notices : List Notice)
      (hid : id ∈ c.leaving)
      (hover : c.isRunning id = false) :
      Change c (.finishDisconnect id)
        { c.noted notices with leaving := c.leaving.erase id }.settle
  | turn
      {id : Nat}
      {s s' : Supervisor}
      {c' : Connection}
      (o : Observation)
      (hid : c.supervisors[id]? = some s)
      (hturn : Turn c id s s' c') :
      Change c (.turn id o) (c'.put id s')
  | accept
      {id line : Nat}
      {s : Supervisor}
      {queue : List String}
      (message : Outbound)
      (hid : c.supervisors[id]? = some s)
      (hs : s.activity = .pumping line queue)
      (houtlet : c.outlet = some line)
      (hshown : c.isConnected = true) :
      Change c (.send message)
        (c.put id (s.turnTo (.pumping line (queue ++ [message.write]))))

theorem change_stay
    (c : Connection)
    (m : Move) :
    Change c m c := by
  simpa using Change.quiet (c := c) m []

theorem change_connect
    (c : Connection) :
    Change c .connect c.connect := by
  unfold connect
  cases hheld : c.held.any c.isRunning with
  | true =>
      exact c.change_stay .connect
  | false =>
      exact .connect hheld

theorem change_disconnect
    (c : Connection) :
    Change c .disconnect c.disconnect := by
  unfold disconnect
  cases hheld : c.held with
  | none =>
      exact .settle hheld
  | some id =>
      exact .disconnect hheld

theorem change_finishDisconnect
    (c : Connection)
    (id : Nat) :
    Change c (.finishDisconnect id) (c.finishDisconnect id) := by
  unfold finishDisconnect
  split
  next h =>
    obtain ⟨hid, hover⟩ : id ∈ c.leaving ∧ c.isRunning id = false := by
      simpa using h
    dsimp only
    split
    next cause _ =>
      exact .finish [panicNotice cause] hid hover
    next =>
      simpa using Change.finish (c := c) [] hid hover
  next =>
    exact c.change_stay (.finishDisconnect id)

theorem change_turn
    (c : Connection)
    (id : Nat)
    (o : Observation) :
    Change c (.turn id o) (c.turn id o) := by
  cases hid : c.supervisors[id]? with
  | none =>
      rw [turn_of_none hid]
      exact c.change_stay (.turn id o)
  | some s =>
      obtain ⟨s', c', hturn, hd⟩ := turn_cases hid o
      rw [hd]
      exact .turn o hid hturn

/-- The supervisor that is found for a line pumps it. -/
theorem pumping_of_pumpOf?
    {c : Connection}
    {line id : Nat}
    (h : c.pumpOf? line = some id) :
    ∃ s queue, c.supervisors[id]? = some s ∧ s.activity = .pumping line queue := by
  obtain ⟨hlt, hline, _⟩ := List.findIdx?_eq_some_iff_getElem.1 h
  refine ⟨c.supervisors[id], ?_⟩
  cases hs : c.supervisors[id].activity with
  | pumping line' queue =>
      rw [hs] at hline
      obtain rfl : line' = line := by
        simpa [Activity.line?] using hline
      exact ⟨queue, List.getElem?_eq_getElem hlt, rfl⟩
  | _ =>
      rw [hs] at hline
      simp [Activity.line?] at hline

/-- A text is accepted by appending it to the queue of a pump. -/
theorem modify_enqueue
    {c : Connection}
    {id line : Nat}
    {s : Supervisor}
    {queue : List String}
    (hid : c.supervisors[id]? = some s)
    (hs : s.activity = .pumping line queue)
    (text : String) :
    { c with supervisors := c.supervisors.modify id (enqueue text) } =
      c.put id (s.turnTo (.pumping line (queue ++ [text]))) := by
  have : Inhabited Supervisor := ⟨{}⟩
  rw [List.modify_eq_set, hid, Option.getD_some, enqueue, hs]
  rfl

theorem send_of_pump
    {c : Connection}
    {id line : Nat}
    {s : Supervisor}
    {queue : List String}
    (houtlet : c.outlet = some line)
    (hshown : c.isConnected = true)
    (hpump : c.pumpOf? line = some id)
    (hid : c.supervisors[id]? = some s)
    (hs : s.activity = .pumping line queue)
    (message : Outbound) :
    send message c =
      (c.put id (s.turnTo (.pumping line (queue ++ [message.write]))), .ok ()) := by
  rw [← modify_enqueue hid hs]
  unfold send
  simp only [houtlet, hshown, hpump]

/-- A message is accepted for the queue of the pump of the outlet, or refused with a
notice. -/
theorem send_cases
    (c : Connection)
    (message : Outbound) :
    (∃ id line s queue, c.supervisors[id]? = some s ∧ s.activity = .pumping line queue ∧
      c.outlet = some line ∧ c.isConnected = true ∧
      send message c =
        (c.put id (s.turnTo (.pumping line (queue ++ [message.write]))), .ok ())) ∨
    ∃ notice, send message c = (c.noted [notice], .error (.notConnected message.kind)) := by
  cases houtlet : c.outlet with
  | none =>
      simp only [send, houtlet]
      exact Or.inr ⟨_, rfl⟩
  | some line =>
      cases hshown : c.isConnected with
      | false =>
          simp only [send, houtlet, hshown]
          exact Or.inr ⟨_, rfl⟩
      | true =>
          cases hpump : c.pumpOf? line with
          | none =>
              simp only [send, houtlet, hshown, hpump]
              exact Or.inr ⟨_, rfl⟩
          | some id =>
              obtain ⟨s, queue, hid, hs⟩ := pumping_of_pumpOf? hpump
              exact Or.inl ⟨id, line, s, queue, hid, hs, rfl, rfl,
                send_of_pump houtlet hshown hpump hid hs message⟩

theorem change_send
    (c : Connection)
    (message : Outbound) :
    Change c (.send message) (send message c).1 := by
  rcases c.send_cases message with ⟨id, line, s, queue, hid, hs, houtlet, hshown, hsend⟩ |
    ⟨notice, hsend⟩
  · rw [hsend]
    exact .accept message hid hs houtlet hshown
  · rw [hsend]
    exact .quiet (.send message) [notice]

/-- Every move is in the list. -/
theorem change_move
    (c : Connection)
    (m : Move) :
    Change c m (c.move m) := by
  cases m with
  | connect =>
      exact change_connect c
  | disconnect =>
      exact change_disconnect c
  | finishDisconnect id =>
      exact change_finishDisconnect c id
  | turn id o =>
      exact change_turn c id o
  | send message =>
      exact change_send c message

/-- The policy and the heartbeat are fixed. -/
theorem config_move
    (c : Connection)
    (m : Move) :
    (c.move m).policy = c.policy ∧ (c.move m).heartbeat = c.heartbeat := by
  have hchange := c.change_move m
  generalize c.move m = d at hchange ⊢
  cases hchange with
  | settle _ =>
      exact ⟨c.kept_settle.policy, c.kept_settle.heartbeat⟩
  | finish _ _ _ =>
      exact ⟨(kept_settle _).policy, (kept_settle _).heartbeat⟩
  | turn _ _ hturn =>
      exact ⟨hturn.kept.policy, hturn.kept.heartbeat⟩
  | _ =>
      exact ⟨rfl, rfl⟩

end Connection

end RemoteRun
