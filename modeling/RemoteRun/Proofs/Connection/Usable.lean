import RemoteRun.Proofs.Connection.Supervision

/-!
# What is shown can be used

**Settled.** A connection is settled when every task waits for its surroundings: every
supervisor has begun, one that is to stop waits for its line, and every wish to
disconnect waits for a supervisor that is still running.

**Outlet.** The line that messages go to is pumped by a supervisor.  Only while the end
of a supervisor is awaited that has no line any more can a connection show as connected
without an outlet.

**Results.**
* `served_run`, `watched_run`, `unsought_run`, `resting_run`: what holds throughout a run.
* `usable_settled`: a settled connection that shows as connected accepts every message for
  the queue of a pump, if its heartbeat can be kept; where nobody supervises it shows as
  disconnected, and, while wishes come one after the other, only there.
* `spoiled_and_overlapped`: what becomes of a heartbeat without a period, and of wishes
  that overlap.
-/

namespace RemoteRun

/-- A policy has a delay for every attempt that it allows. -/
def ReconnectPolicy.Delays (p : ReconnectPolicy) : Prop :=
  ∀ attempt, 0 < attempt → p.exhausted attempt = false → (p.delay? attempt 0.5).isSome = true

namespace Connection

/-! ### What a turn shows -/

section

variable {c c' : Connection} {id : Nat} {s s' : Supervisor}

theorem Lineless.outlet
    (h : Lineless c s c') :
    c'.outlet = none ∨ c'.outlet = c.outlet ∧ s.activity.line? = none := by
  cases h with
  | refused _ hs _ =>
      exact Or.inr ⟨rfl, by simp [hs, Activity.line?]⟩
  | lost _ hs =>
      exact Or.inl rfl

theorem Retry.outlet
    (h : Retry c id s s' c') :
    c'.outlet = c.outlet ∧ s'.activity.line? = none := by
  cases h <;> simp [emit, note, Supervisor.turnTo, Activity.line?]

/-- The outlet is closed, is the line of the supervisor, or stays with what it was. -/
theorem Turn.outlet
    (h : Turn c id s s' c')
    (hbeat : c.heartbeat.all canBeat = true) :
    c'.outlet = none ∨ c'.outlet = s'.activity.line? ∨
      c'.outlet = c.outlet ∧ s'.activity.line? = s.activity.line? := by
  cases h with
  | use _ _ _ =>
      exact Or.inr (Or.inl (by simp [Activity.line?]))
  | spoil _ _ hspoilt =>
      rw [hbeat] at hspoilt
      cases hspoilt
  | retry hs hretry =>
      rw [hretry.outlet.1, hretry.outlet.2]
      rcases hs.outlet with hnone | ⟨hsame, hline⟩
      · exact Or.inl hnone
      · exact Or.inr (Or.inr ⟨hsame, hline.symm⟩)
  | halt hs _ =>
      rcases hs with hs | hs <;>
        exact Or.inr (Or.inr ⟨rfl, by simp [hs, Supervisor.turnTo, Activity.line?]⟩)
  | close _ _ =>
      exact Or.inl rfl
  | _ =>
      exact Or.inr (Or.inr ⟨by simp [emit], by simp [Supervisor.turnTo, Activity.line?, *]⟩)

/-- Without a heartbeat that a clock can keep, no supervisor comes to pump a line. -/
theorem Turn.line?_eq_none
    (h : Turn c id s s' c')
    (hspoilt : c.heartbeat.all canBeat = false)
    (hline : s.activity.line? = none) :
    s'.activity.line? = none := by
  cases h with
  | write hs =>
      simp [hs, Activity.line?] at hline
  | use _ _ hbeat =>
      rw [hspoilt] at hbeat
      cases hbeat
  | retry _ hretry =>
      exact hretry.outlet.2
  | stay =>
      exact hline
  | deliver _ _ _ =>
      exact hline
  | beat _ =>
      exact hline
  | _ =>
      rfl

theorem Retry.state
    (h : Retry c id s s' c') :
    c'.state.phase = .reconnecting ∨ c'.state = .idle ∧ s'.isRunning = false := by
  cases h with
  | giveUp _ =>
      right
      simp [emit, Supervisor.turnTo, Supervisor.isRunning, Activity.isOver]
  | _ =>
      left
      simp [emit]

/-- After a turn that leaves no outlet, only what showed as connected still does; there was
none before, or the supervisor has closed its line because it was to stop. -/
theorem Turn.connected
    (h : Turn c id s s' c')
    (hconnected : c'.isConnected = true)
    (hnone : c'.outlet = none) :
    c.isConnected = true ∧
      (c.outlet = none ∧ s'.activity.line? = s.activity.line? ∨
        s.isRunning = true ∧ s.stopping = true ∧ s'.activity.line? = none) := by
  cases h with
  | seek _ _ =>
      simp [isConnected, ConnectionState.isConnected, emit] at hconnected
  | cancel _ _ =>
      simp [isConnected, ConnectionState.isConnected] at hconnected
  | use _ _ _ =>
      simp at hnone
  | spoil _ _ _ =>
      simp at hnone
  | retry _ hretry =>
      rcases hretry.state with hphase | ⟨hidle, _⟩
      · simp [isConnected, ConnectionState.isConnected, hphase] at hconnected
      · simp [isConnected, ConnectionState.isConnected, hidle, ConnectionState.idle] at hconnected
  | halt hs _ =>
      refine ⟨hconnected, Or.inl ⟨hnone, ?_⟩⟩
      rcases hs with hs | hs <;> simp [hs, Supervisor.turnTo, Activity.line?]
  | close hs hstops =>
      exact ⟨hconnected, Or.inr ⟨isRunning_of_pumping hs, hstops, rfl⟩⟩
  | _ =>
      exact ⟨hconnected, Or.inl ⟨hnone, by simp [Supervisor.turnTo, Activity.line?, *]⟩⟩

theorem attempt_again_pos
    (s : Supervisor) :
    0 < (again s).attempt := by
  simp only [again, Supervisor.nextAttempt, Supervisor.attemptLimit, Word.bound32]
  omega

/-- A supervisor that ends was to stop, or shows that it does. -/
theorem Turn.ended
    (h : Turn c id s s' c')
    (hbeat : c.heartbeat.all canBeat = true)
    (hdelays : c.policy.Delays)
    (hrunning : s.isRunning = true)
    (hover : s'.isRunning = false) :
    s.stopping = true ∨ c'.state = .idle := by
  cases h with
  | stay =>
      rw [hrunning] at hover
      cases hover
  | cancel _ hstops =>
      exact Or.inl hstops
  | halt _ hstops =>
      exact Or.inl hstops
  | close _ hstops =>
      exact Or.inl hstops
  | spoil _ _ hspoilt =>
      rw [hbeat] at hspoilt
      cases hspoilt
  | retry hs hretry =>
      cases hretry with
      | await _ _ =>
          simp [Supervisor.turnTo, Supervisor.isRunning, Activity.isOver] at hover
      | stall hmore hdelay =>
          rw [hs.kept.policy] at hmore hdelay
          have hsome := hdelays _ (attempt_again_pos s) hmore
          rw [hdelay] at hsome
          cases hsome
      | giveUp _ =>
          exact Or.inr (by simp [emit])
  | _ =>
      simp [Supervisor.turnTo, Supervisor.isRunning, Activity.isOver, *] at hover

/-- What shows as disconnected after a turn did so before, or the supervisor has ended; and
one that has begun goes on having begun. -/
theorem Turn.disconnected
    (h : Turn c id s s' c')
    (hphase : c'.state.phase = .disconnected)
    (hrunning : s'.isRunning = true) :
    c.state.phase = .disconnected ∧ (s.activity = .starting → s'.activity = .starting) := by
  cases h with
  | stay =>
      exact ⟨hphase, fun hs => hs⟩
  | retry _ hretry =>
      rcases hretry.state with hother | ⟨_, hover⟩
      · rw [hother] at hphase
        cases hphase
      · rw [hrunning] at hover
        cases hover
  | halt _ _ =>
      simp [Supervisor.turnTo, Supervisor.isRunning, Activity.isOver] at hrunning
  | close _ _ =>
      simp [Supervisor.turnTo, Supervisor.isRunning, Activity.isOver] at hrunning
  | seek _ _ =>
      simp [emit] at hphase
  | cancel _ _ =>
      simp at hphase
  | use _ _ _ =>
      simp at hphase
  | spoil _ _ _ =>
      simp at hphase
  | _ =>
      exact ⟨hphase, by simp [*]⟩

end

/-! ### Lines of supervisors -/

/-- The line that the supervisor with a number pumps. -/
def lineOf? (c : Connection) (id : Nat) : Option Nat :=
  (c.supervisors[id]?).bind fun s => s.activity.line?

section

variable {c c' : Connection} {id : Nat} {s s' : Supervisor}

theorem lineOf?_of_getElem?
    (hid : c.supervisors[id]? = some s) :
    c.lineOf? id = s.activity.line? := by
  rw [lineOf?, hid, Option.bind_some]

theorem lineOf?_put
    (hid : c.supervisors[id]? = some s)
    (s' : Supervisor)
    (j : Nat) :
    (c.put id s').lineOf? j = if id = j then s'.activity.line? else c.lineOf? j := by
  rw [lineOf?, getElem?_put hid]
  split <;> rfl

/-- What is pumped stays the same when no supervisor changes its line. -/
theorem lineOf?_put_of_eq
    (hid : c.supervisors[id]? = some s)
    (hline : s'.activity.line? = s.activity.line?)
    (j : Nat) :
    (c.put id s').lineOf? j = c.lineOf? j := by
  rw [lineOf?_put hid, hline]
  split
  next h =>
    subst h
    exact (lineOf?_of_getElem? hid).symm
  next =>
    rfl

theorem lineOf?_append_new
    (held : Option Nat)
    (j : Nat) :
    lineOf? { c with supervisors := c.supervisors ++ [({} : Supervisor)], held := held } j =
      c.lineOf? j := by
  unfold lineOf?
  rcases Nat.lt_trichotomy j c.supervisors.length with hlt | rfl | hgt
  · rw [List.getElem?_append_left hlt]
  · simp [Activity.line?]
  · have hlength : (c.supervisors ++ [({} : Supervisor)]).length ≤ j := by
      rw [List.length_append, List.length_singleton]
      omega
    rw [List.getElem?_eq_none hlength, List.getElem?_eq_none (Nat.le_of_lt hgt)]

theorem lineOf?_modify_stop
    (held : Option Nat)
    (leaving : List Nat)
    (j : Nat) :
    lineOf?
        { c with
          held := held
          leaving := leaving
          supervisors := c.supervisors.modify id fun s => { s with stopping := true } } j =
      c.lineOf? j := by
  unfold lineOf?
  rw [List.getElem?_modify]
  cases c.supervisors[j]? with
  | none =>
      rfl
  | some s =>
      by_cases hj : id = j <;> simp [hj]

theorem Kept.lineOf?_eq
    (h : Kept c c')
    (j : Nat) :
    c'.lineOf? j = c.lineOf? j := by
  rw [lineOf?, h.supervisors, lineOf?]

end

/-! ### The outlet -/

/-- The outlet is pumped, and what shows as connected has one, unless the end of a
supervisor is awaited that has no line any more. -/
structure Served (c : Connection) : Prop where
  pumped : ∀ line, c.outlet = some line → ∃ id, c.lineOf? id = some line
  outlet : c.isConnected = true → c.outlet = none → ∃ id ∈ c.leaving, c.lineOf? id = none

namespace Served

variable {c d : Connection}

theorem ofPolicy
    (policy : ReconnectPolicy)
    (heartbeat : Option Duration) :
    Served (ofPolicy policy heartbeat) := by
  constructor <;> simp [Connection.ofPolicy, isConnected, ConnectionState.isConnected,
    ConnectionState.idle]

/-- Nothing is served where nothing shows as connected and nothing goes out. -/
theorem of_idle
    (hstate : d.state = .idle)
    (houtlet : d.outlet = none) :
    Served d := by
  constructor <;> simp [hstate, houtlet, isConnected, ConnectionState.isConnected,
    ConnectionState.idle]

/-- A change of neither state, outlet nor lines in which no wish to disconnect ends. -/
theorem of_same
    (h : Served c)
    (hstate : d.state = c.state)
    (houtlet : d.outlet = c.outlet)
    (hleaving : ∀ id ∈ c.leaving, id ∈ d.leaving)
    (hlines : ∀ id, d.lineOf? id = c.lineOf? id) :
    Served d := by
  constructor
  · intro line hline
    simp only [hlines]
    exact h.pumped line (houtlet ▸ hline)
  · intro hconnected hnone
    rw [isConnected, hstate] at hconnected
    obtain ⟨id, hid, hline⟩ := h.outlet hconnected (houtlet ▸ hnone)
    exact ⟨id, hleaving id hid, (hlines id).trans hline⟩

theorem turn
    (h : Served c)
    (horder : Orderly c)
    (hbeat : c.heartbeat.all canBeat = true)
    {id : Nat}
    {s s' : Supervisor}
    (hid : c.supervisors[id]? = some s)
    (hturn : Turn c id s s' d) :
    Served (d.put id s') := by
  have hkept := hturn.kept
  have hid' := (hkept.getElem?_eq id).trans hid
  constructor
  · intro line hline
    have hline : d.outlet = some line := hline
    rcases hturn.outlet hbeat with hnone | hnew | ⟨hsame, hkeeps⟩
    · rw [hline] at hnone
      cases hnone
    · refine ⟨id, ?_⟩
      rw [lineOf?_put hid', if_pos rfl, ← hnew, hline]
    · obtain ⟨j, hj⟩ := h.pumped line (hsame ▸ hline)
      refine ⟨j, ?_⟩
      rw [lineOf?_put_of_eq hid' hkeeps, hkept.lineOf?_eq, hj]
  · intro hconnected hnone
    have hconnected : d.isConnected = true := hconnected
    have hnone : d.outlet = none := hnone
    obtain ⟨hbefore, ⟨hnone', hkeeps⟩ | ⟨hrunning, hstops, hclosed⟩⟩ := hturn.connected hconnected hnone
    · obtain ⟨j, hj, hline⟩ := h.outlet hbefore hnone'
      refine ⟨j, hkept.leaving.symm ▸ hj, ?_⟩
      rw [lineOf?_put_of_eq hid' hkeeps, hkept.lineOf?_eq, hline]
    · -- The supervisor has closed its line because it is to stop, so its end is awaited.
      refine ⟨id, hkept.leaving.symm ▸ (horder.stopping_iff id s hid hrunning).1 hstops, ?_⟩
      rw [lineOf?_put hid', if_pos rfl, hclosed]

theorem move
    (h : Served c)
    (horder : Orderly c)
    (hbeat : c.heartbeat.all canBeat = true)
    (m : Move) :
    Served (c.move m) := by
  have hchange := c.change_move m
  generalize c.move m = d at hchange ⊢
  cases hchange with
  | quiet m notices =>
      exact h.of_same rfl rfl (fun _ hid => hid) fun _ => rfl
  | connect hheld =>
      exact h.of_same rfl rfl (fun _ hid => hid) fun j => lineOf?_append_new _ j
  | settle hheld =>
      exact of_idle c.settle_state c.settle_outlet
  | disconnect hheld =>
      exact h.of_same rfl rfl (fun _ hid => List.mem_append_left _ hid)
        fun j => lineOf?_modify_stop _ _ j
  | finish notices hid hover =>
      exact of_idle (settle_state _) (settle_outlet _)
  | turn o hid hturn =>
      exact h.turn horder hbeat hid hturn
  | accept message hid hs houtlet hshown =>
      refine h.of_same rfl rfl (fun _ hid => hid) ?_
      exact lineOf?_put_of_eq hid (by simp [Supervisor.turnTo, Activity.line?, hs])

end Served

/-- Nobody pumps a line. -/
def Unpumped (c : Connection) : Prop :=
  ∀ id, c.lineOf? id = none

theorem Unpumped.move
    {c : Connection}
    (h : Unpumped c)
    (hspoilt : c.heartbeat.all canBeat = false)
    (m : Move) :
    Unpumped (c.move m) := by
  have hchange := c.change_move m
  generalize c.move m = d at hchange ⊢
  cases hchange with
  | quiet m notices =>
      exact h
  | connect hheld =>
      exact fun j => (lineOf?_append_new _ j).trans (h j)
  | settle hheld =>
      exact fun j => (c.kept_settle.lineOf?_eq j).trans (h j)
  | disconnect hheld =>
      exact fun j => (lineOf?_modify_stop _ _ j).trans (h j)
  | finish notices hid hover =>
      exact fun j => ((kept_settle _).lineOf?_eq j).trans (h j)
  | @turn id s s' c' o hid hturn =>
      have hkept := hturn.kept
      have hid' := (hkept.getElem?_eq id).trans hid
      have hline : s.activity.line? = none := by
        rw [← lineOf?_of_getElem? hid, h id]
      intro j
      rw [lineOf?_put_of_eq hid' ((hturn.line?_eq_none hspoilt hline).trans hline.symm),
        hkept.lineOf?_eq, h j]
  | @accept id line s queue message hid hs houtlet hshown =>
      have hline := h id
      rw [lineOf?_of_getElem? hid, hs] at hline
      cases hline

/-! ### Supervisors and what is shown -/

/-- Where nobody supervises, and no end is awaited, what is shown is the state before the
first attempt. -/
def Watched (c : Connection) : Prop :=
  c.state = .idle ∨ (∃ id, c.isRunning id = true) ∨ c.leaving ≠ []

theorem Watched.move
    {c : Connection}
    (h : Watched c)
    (horder : Orderly c)
    (hbeat : c.heartbeat.all canBeat = true)
    (hdelays : c.policy.Delays)
    (m : Move) :
    Watched (c.move m) := by
  have hchange := c.change_move m
  generalize c.move m = d at hchange ⊢
  cases hchange with
  | quiet m notices =>
      exact h
  | connect hheld =>
      refine Or.inr (Or.inl ⟨c.supervisors.length, ?_⟩)
      simp [isRunning, Supervisor.isRunning, Activity.isOver]
  | settle hheld =>
      exact Or.inl c.settle_state
  | disconnect hheld =>
      exact Or.inr (Or.inr (by simp))
  | finish notices hid hover =>
      exact Or.inl (settle_state _)
  | @turn id s s' c' o hid hturn =>
      have hkept := hturn.kept
      have hid' := (hkept.getElem?_eq id).trans hid
      rcases hturn.isRunning_or_stay with hrunning | ⟨rfl, rfl⟩
      · cases hover : s'.isRunning with
        | true =>
            exact Or.inr (Or.inl ⟨id, (isRunning_put hid' s').trans hover⟩)
        | false =>
            rcases hturn.ended hbeat hdelays hrunning hover with hstops | hidle
            · have hawaited := (horder.stopping_iff id s hid hrunning).1 hstops
              exact Or.inr (Or.inr (hkept.leaving.symm ▸ List.ne_nil_of_mem hawaited))
            · exact Or.inl hidle
      · rw [put_self hid]
        exact h
  | @accept id line s queue message hid hs houtlet hshown =>
      refine Or.inr (Or.inl ⟨id, ?_⟩)
      rw [isRunning_put hid]
      rfl

/-- What shows as disconnected is not being sought, but for supervisors that have not begun
and those whose end is awaited. -/
def Unsought (c : Connection) : Prop :=
  c.state.phase = .disconnected → ∀ id s, c.supervisors[id]? = some s → s.isRunning = true →
    s.activity = .starting ∨ id ∈ c.leaving

theorem Unsought.turn
    {c c' : Connection}
    {id : Nat}
    {s s' : Supervisor}
    (h : Unsought c)
    (hseparate : Separate c)
    (hid : c.supervisors[id]? = some s)
    (hturn : Turn c id s s' c') :
    Unsought (c'.put id s') := by
  have hkept := hturn.kept
  have hid' := (hkept.getElem?_eq id).trans hid
  rcases hturn.isRunning_or_stay with hrunning | ⟨rfl, rfl⟩
  · intro hphase j t hj ht
    rw [getElem?_put hid'] at hj
    split at hj
    next hij =>
      subst hij
      obtain rfl := Option.some.inj hj
      obtain ⟨hbefore, hstarting⟩ := hturn.disconnected hphase ht
      rcases h hbefore id s hid hrunning with hs | hawaited
      · exact Or.inl (hstarting hs)
      · exact Or.inr (hkept.leaving.symm ▸ hawaited)
    next hij =>
      -- Another one that is running is awaited, whatever this one shows.
      rw [hkept.supervisors] at hj
      have hawaited := hseparate.mem_leaving_of_ne hid hrunning hj ht hij
      exact Or.inr (hkept.leaving.symm ▸ hawaited)
  · rw [put_self hid]
    exact h

theorem Unsought.move
    {c : Connection}
    (h : Unsought c)
    (hseparate : Separate c)
    (m : Move) :
    Unsought (c.move m) := by
  have hchange := c.change_move m
  generalize c.move m = d at hchange ⊢
  cases hchange with
  | quiet m notices =>
      exact h
  | connect hheld =>
      intro hphase j t hj ht
      rcases getElem?_append_new hj with ⟨_, rfl⟩ | hj
      · exact Or.inl rfl
      · exact h hphase j t hj ht
  | settle hheld =>
      intro _ j t hj ht
      rw [c.kept_settle.supervisors] at hj
      rw [c.kept_settle.leaving]
      exact Or.inr (hseparate.mem_leaving_of_not_held hj ht (by simp [hheld]))
  | disconnect hheld =>
      intro hphase j t hj ht
      obtain ⟨s, hs, rfl⟩ := getElem?_modify_stop hj
      have hrunning : s.isRunning = true := by
        split at ht <;> exact ht
      rcases h hphase j s hs hrunning with hstarting | hawaited
      · left
        split <;> exact hstarting
      · exact Or.inr (List.mem_append_left _ hawaited)
  | @finish id notices hid hover =>
      intro _ j t hj ht
      rw [(kept_settle _).supervisors] at hj
      rw [(kept_settle _).leaving]
      have hne : j ≠ id := by
        rintro rfl
        have hj : c.supervisors[j]? = some t := hj
        rw [isRunning_of_getElem? hj, ht] at hover
        cases hover
      have hawaited := hseparate.mem_leaving (List.ne_nil_of_mem hid) hj ht
      exact Or.inr ((List.mem_erase_of_ne hne).2 hawaited)
  | turn o hid hturn =>
      exact h.turn hseparate hid hturn
  | @accept id line s queue message hid hs houtlet hshown =>
      intro hphase
      simp [isConnected, ConnectionState.isConnected, show c.state.phase = _ from hphase] at hshown

/-- What shows as disconnected is not being sought: only supervisors run that have not
begun. -/
def Resting (c : Connection) : Prop :=
  c.state.phase = .disconnected → ∀ (id : Nat) (s : Supervisor),
    c.supervisors[id]? = some s → s.isRunning = true → s.activity = .starting

theorem Resting.turn
    {c c' : Connection}
    {id : Nat}
    {s s' : Supervisor}
    (h : Resting c)
    (hsole : Sole c)
    (hid : c.supervisors[id]? = some s)
    (hturn : Turn c id s s' c') :
    Resting (c'.put id s') := by
  have hkept := hturn.kept
  have hid' := (hkept.getElem?_eq id).trans hid
  rcases hturn.isRunning_or_stay with hrunning | ⟨rfl, rfl⟩
  · intro hphase j t hj ht
    rw [getElem?_put hid'] at hj
    split at hj
    next hij =>
      subst hij
      obtain rfl := Option.some.inj hj
      obtain ⟨hbefore, hstarting⟩ := hturn.disconnected hphase ht
      exact hstarting (h hbefore id s hid hrunning)
    next hij =>
      -- Nobody else is running.
      rw [hkept.supervisors] at hj
      have hsame := hsole.eq_of_isRunning ((isRunning_of_getElem? hid).trans hrunning)
        ((isRunning_of_getElem? hj).trans ht)
      exact absurd hsame hij
  · rw [put_self hid]
    exact h

theorem Resting.move
    {c : Connection}
    (h : Resting c)
    (hsole : Sole c)
    (m : Move)
    (hinTurn : m.isWish = true → c.leaving = []) :
    Resting (c.move m) := by
  have hchange := c.change_move m
  generalize c.move m = d at hchange ⊢
  cases hchange with
  | quiet m notices =>
      exact h
  | connect hheld =>
      intro hphase j t hj ht
      rcases getElem?_append_new hj with ⟨_, rfl⟩ | hj
      · rfl
      · exact h hphase j t hj ht
  | settle hheld =>
      intro _ j t hj ht
      rw [c.kept_settle.supervisors] at hj
      have hawaited := hsole.mem_leaving_of_not_held hj ht (by simp [hheld])
      rw [hinTurn rfl] at hawaited
      cases hawaited
  | disconnect hheld =>
      intro hphase j t hj ht
      obtain ⟨s, hs, rfl⟩ := getElem?_modify_stop hj
      have hrunning : s.isRunning = true := by
        split at ht <;> exact ht
      have hstarting := h hphase j s hs hrunning
      split <;> exact hstarting
  | @finish id notices hid hover =>
      -- Only the one that has ended was awaited, and nobody else runs meanwhile.
      intro _ j t hj ht
      rw [(kept_settle _).supervisors] at hj
      have hj : c.supervisors[j]? = some t := hj
      have hawaited := hsole.mem_leaving (List.ne_nil_of_mem hid) hj ht
      rw [hsole.leaving_eq hid, List.mem_singleton] at hawaited
      rw [← hawaited, isRunning_of_getElem? hj, ht] at hover
      cases hover
  | turn o hid hturn =>
      exact h.turn hsole hid hturn
  | @accept id line s queue message hid hs houtlet hshown =>
      intro hphase
      simp [isConnected, ConnectionState.isConnected, show c.state.phase = _ from hphase] at hshown

/-! ### Settled connections -/

/-- Every task waits for its surroundings: supervisors have begun, those that are to stop
wait for their lines, and wishes to disconnect wait for supervisors that are running. -/
structure Settled (c : Connection) : Prop where
  begun : ∀ s ∈ c.supervisors, s.activity ≠ .starting
  stopping : ∀ s ∈ c.supervisors, s.isRunning = true → s.stopping = true →
    s.activity.line?.isSome = true
  awaited : ∀ id ∈ c.leaving, c.isRunning id = true

section

variable {c : Connection}

/-- A settled connection that shows as connected has an outlet. -/
theorem outlet_of_settled
    (hsettled : Settled c)
    (horder : Orderly c)
    (hserved : Served c)
    (hconnected : c.isConnected = true) :
    ∃ line, c.outlet = some line := by
  cases houtlet : c.outlet with
  | some line =>
      exact ⟨line, rfl⟩
  | none =>
      obtain ⟨id, hid, hline⟩ := hserved.outlet hconnected houtlet
      obtain ⟨s, hs, hrunning⟩ := isRunning_iff.1 (hsettled.awaited id hid)
      have hstops := (horder.stopping_iff id s hs hrunning).2 hid
      have hsome := hsettled.stopping s (List.mem_of_getElem? hs) hrunning hstops
      rw [← lineOf?_of_getElem? hs, hline] at hsome
      cases hsome

/-- Where nobody pumps a line, no message is accepted. -/
theorem send_of_unpumped
    (h : Unpumped c)
    (message : Outbound) :
    (send message c).2 = .error (.notConnected message.kind) := by
  have hnone : ∀ line, c.pumpOf? line = none := by
    intro line
    refine List.findIdx?_eq_none_iff.2 ?_
    intro s hs
    obtain ⟨id, hid⟩ := List.mem_iff_getElem?.1 hs
    have hline := h id
    rw [lineOf?_of_getElem? hid] at hline
    simp [hline]
  unfold send
  cases c.outlet with
  | none =>
      rfl
  | some line =>
      cases c.isConnected with
      | false =>
          rfl
      | true =>
          simp only [hnone line]
          rfl

/-- There is a pump for an outlet. -/
theorem pumpOf?_of_served
    (hserved : Served c)
    {line : Nat}
    (houtlet : c.outlet = some line) :
    ∃ id, c.pumpOf? line = some id := by
  obtain ⟨id, hline⟩ := hserved.pumped line houtlet
  obtain ⟨s, hs, hsline⟩ := Option.bind_eq_some_iff.1 hline
  have hany : c.supervisors.any (fun s => s.activity.line? == some line) = true :=
    List.any_eq_true.2 ⟨s, List.mem_of_getElem? hs, by simp [hsline]⟩
  rw [← List.findIdx?_isSome] at hany
  exact Option.isSome_iff_exists.1 hany

end

theorem served_run
    (policy : ReconnectPolicy)
    {heartbeat : Option Duration}
    (hbeat : heartbeat.all canBeat = true)
    (ms : List Move) :
    Served ((ofPolicy policy heartbeat).run ms) := by
  have hrun := run_preserves (c := ofPolicy policy heartbeat)
    (P := fun c => c.heartbeat = heartbeat ∧ Orderly c ∧ Served c) ?_ ms
    ⟨rfl, .ofPolicy policy heartbeat, .ofPolicy policy heartbeat⟩
  · exact hrun.2.2
  · rintro c m ⟨hheartbeat, horder, hserved⟩
    have hconfig := c.config_move m
    exact ⟨hconfig.2.trans hheartbeat, horder.move m,
      hserved.move horder (hheartbeat ▸ hbeat) m⟩

theorem unpumped_run
    (policy : ReconnectPolicy)
    {heartbeat : Option Duration}
    (hspoilt : heartbeat.all canBeat = false)
    (ms : List Move) :
    Unpumped ((ofPolicy policy heartbeat).run ms) := by
  have hrun := run_preserves (c := ofPolicy policy heartbeat)
    (P := fun c => c.heartbeat = heartbeat ∧ Unpumped c) ?_ ms ⟨rfl, fun _ => rfl⟩
  · exact hrun.2
  · rintro c m ⟨hheartbeat, hunpumped⟩
    exact ⟨(c.config_move m).2.trans hheartbeat, hunpumped.move (hheartbeat ▸ hspoilt) m⟩

theorem watched_run
    {policy : ReconnectPolicy}
    {heartbeat : Option Duration}
    (hbeat : heartbeat.all canBeat = true)
    (hdelays : policy.Delays)
    (ms : List Move) :
    Watched ((ofPolicy policy heartbeat).run ms) := by
  have hrun := run_preserves (c := ofPolicy policy heartbeat)
    (P := fun c => (c.policy = policy ∧ c.heartbeat = heartbeat) ∧ Orderly c ∧ Watched c) ?_ ms
    ⟨⟨rfl, rfl⟩, .ofPolicy policy heartbeat, Or.inl rfl⟩
  · exact hrun.2.2
  · rintro c m ⟨⟨hpolicy, hheartbeat⟩, horder, hwatched⟩
    have hconfig := c.config_move m
    exact ⟨⟨hconfig.1.trans hpolicy, hconfig.2.trans hheartbeat⟩, horder.move m,
      hwatched.move horder (hheartbeat ▸ hbeat) (hpolicy ▸ hdelays) m⟩

theorem unsought_run
    (policy : ReconnectPolicy)
    (heartbeat : Option Duration)
    {ms : List Move}
    (hapart : (ofPolicy policy heartbeat).Apart ms) :
    Unsought ((ofPolicy policy heartbeat).run ms) := by
  have hrun := run_preserves_patient (P := fun c => Separate c ∧ Unsought c)
    ?_ hapart ⟨.ofPolicy policy heartbeat, ?_⟩
  · exact hrun.2
  · rintro c m hm ⟨hseparate, hunsought⟩
    exact ⟨hseparate.move m hm, hunsought.move hseparate m⟩
  · intro _ id s hs
    simp [ofPolicy] at hs

theorem resting_run
    (policy : ReconnectPolicy)
    (heartbeat : Option Duration)
    {ms : List Move}
    (hinTurn : (ofPolicy policy heartbeat).InTurn ms) :
    Resting ((ofPolicy policy heartbeat).run ms) := by
  have hrun := run_preserves_patient (P := fun c => Sole c ∧ Resting c)
    ?_ hinTurn ⟨.ofPolicy policy heartbeat, ?_⟩
  · exact hrun.2
  · rintro c m hm ⟨hsole, hresting⟩
    exact ⟨hsole.move m hm, hresting.move hsole m hm⟩
  · intro _ id s hs
    simp [ofPolicy] at hs

/-- **Usable connections.**  Let every task wait for its surroundings.  If the heartbeat is
one that a clock can keep, a connection that shows as connected accepts every message for
the queue of a pump, which goes on unless its end is awaited; otherwise it refuses every
message.  Where nobody supervises, it shows as disconnected.  If nobody wished to connect
while the end of a supervisor was awaited, then, while it shows as disconnected, only such
supervisors run whose end is awaited.  If nobody wished to disconnect then, either, none
runs. -/
theorem usable_settled
    (policy : ReconnectPolicy)
    (heartbeat : Option Duration)
    (ms : List Move)
    (hsettled : Settled ((ofPolicy policy heartbeat).run ms)) :
    let c := (ofPolicy policy heartbeat).run ms
    (heartbeat.all canBeat = true → c.isConnected = true →
      ∃ id s line queue, c.supervisors[id]? = some s ∧ s.activity = .pumping line queue ∧
        c.outlet = some line ∧ (s.stopping = true ↔ id ∈ c.leaving) ∧
        ∀ message, send message c =
          (c.put id (s.turnTo (.pumping line (queue ++ [message.write]))), .ok ())) ∧
    (heartbeat.all canBeat = false →
      ∀ message, (send message c).2 = .error (.notConnected message.kind)) ∧
    (heartbeat.all canBeat = true → policy.Delays → (∀ id, c.isRunning id = false) →
      c.state.phase = .disconnected) ∧
    ((ofPolicy policy heartbeat).Apart ms → c.state.phase = .disconnected →
      ∀ id, c.isRunning id = true → id ∈ c.leaving) ∧
    ((ofPolicy policy heartbeat).InTurn ms → c.state.phase = .disconnected →
      ∀ id, c.isRunning id = false) := by
  intro c
  have horder : Orderly c := orderly_run policy heartbeat ms
  refine ⟨?_, ?_, ?_, ?_, ?_⟩
  · intro hbeat hconnected
    have hserved : Served c := served_run policy hbeat ms
    obtain ⟨line, houtlet⟩ := outlet_of_settled hsettled horder hserved hconnected
    obtain ⟨id, hpump⟩ := pumpOf?_of_served hserved houtlet
    obtain ⟨s, queue, hid, hs⟩ := pumping_of_pumpOf? hpump
    exact ⟨id, s, line, queue, hid, hs, houtlet,
      horder.stopping_iff id s hid (isRunning_of_pumping hs),
      send_of_pump houtlet hconnected hpump hid hs⟩
  · intro hspoilt
    exact send_of_unpumped (unpumped_run policy hspoilt ms)
  · intro hbeat hdelays hnone
    rcases watched_run hbeat hdelays ms with hidle | ⟨id, hid⟩ | hleaving
    · rw [show c.state = .idle from hidle]
      rfl
    · rw [hnone id] at hid
      cases hid
    · obtain ⟨id, hid⟩ := List.exists_mem_of_ne_nil _ hleaving
      have hrunning := hsettled.awaited id hid
      rw [hnone id] at hrunning
      cases hrunning
  · intro hapart hphase id hrunning
    obtain ⟨s, hs, hsrunning⟩ := isRunning_iff.1 hrunning
    rcases unsought_run policy heartbeat hapart hphase id s hs hsrunning with hstarting | hawaited
    · exact absurd hstarting (hsettled.begun s (List.mem_of_getElem? hs))
    · exact hawaited
  · intro hinTurn hphase id
    rw [Bool.eq_false_iff]
    intro hrunning
    obtain ⟨s, hs, hsrunning⟩ := isRunning_iff.1 hrunning
    have hstarting := resting_run policy heartbeat hinTurn hphase id s hs hsrunning
    exact hsettled.begun s (List.mem_of_getElem? hs) hstarting

/-- A policy without a second attempt. -/
def single : ReconnectPolicy := { maxAttempts := some 0 }

theorem single_delays :
    single.Delays := by
  intro attempt hpositive hmore
  simp [single, ReconnectPolicy.exhausted] at hmore
  omega

/-- A line is asked for and opened. -/
def opening : List Move := [.connect, .turn 0 .begun, .turn 0 .opened]

/-- The line is lost, and that was the last attempt. -/
def losing : List Move := opening ++ [.turn 0 .closedByPeer]

theorem opening_and_losing_usable :
    let opened := (ofPolicy single (some (.ofSecs 30))).run opening
    let lost := (ofPolicy single (some (.ofSecs 30))).run losing
    (∃ id s line queue, opened.supervisors[id]? = some s ∧ s.activity = .pumping line queue ∧
      opened.outlet = some line ∧ (s.stopping = true ↔ id ∈ opened.leaving) ∧
      ∀ message, send message opened =
        (opened.put id (s.turnTo (.pumping line (queue ++ [message.write]))), .ok ())) ∧
    lost.state.phase = .disconnected ∧ (∀ id, lost.isRunning id = true → id ∈ lost.leaving) ∧
    ∀ id, lost.isRunning id = false := by
  have hopened := usable_settled single (some (.ofSecs 30)) opening
    ⟨by decide, by decide, by decide⟩
  have hlost := usable_settled single (some (.ofSecs 30)) losing
    ⟨by decide, by decide, by decide⟩
  have hnone : ∀ id, ((ofPolicy single (some (.ofSecs 30))).run losing).isRunning id = false := by
    rintro (_ | id) <;> rfl
  have hphase := hlost.2.2.1 (by decide) single_delays hnone
  exact ⟨hopened.1 (by decide) rfl, hphase, hlost.2.2.2.1 (by decide) hphase,
    hlost.2.2.2.2 (by decide) hphase⟩

/-- Wishes overlap: while the end of the first supervisor is awaited, a second one opens a
line, and then the first one ends. -/
def overlapping : List Move :=
  opening ++ [.disconnect, .connect, .turn 1 .begun, .turn 1 .opened, .turn 0 .stopped,
    .finishDisconnect 0]

/-- Settled connections that are not what they show: with a heartbeat without a period one
shows as connected and refuses a message; after a wish to connect that overlaps one to
disconnect, one shows as disconnected while a supervisor that nobody awaits pumps a line; and
between two wishes to disconnect that overlap, one does so while the supervisor that the first
of them awaits has not closed its line. -/
theorem spoiled_and_overlapped :
    let spoiled := (ofPolicy {} (some ⟨0⟩)).run opening
    let overlapped := (ofPolicy {} none).run overlapping
    let forestalled := (ofPolicy {} none).run (opening ++ [.disconnect, .disconnect])
    (Settled spoiled ∧ spoiled.isConnected = true ∧
      (send .subscribeMonitor spoiled).2 = .error (.notConnected "subscribe_monitor")) ∧
    (Settled overlapped ∧ overlapped.state.phase = .disconnected ∧
      overlapped.isRunning 1 = true ∧ overlapped.leaving = []) ∧
    (Settled forestalled ∧ forestalled.state.phase = .disconnected ∧
      forestalled.isRunning 0 = true) := by
  exact ⟨⟨⟨by decide, by decide, by decide⟩, rfl, rfl⟩,
    ⟨⟨by decide, by decide, by decide⟩, rfl, rfl, rfl⟩,
    ⟨⟨by decide, by decide, by decide⟩, rfl, rfl⟩⟩

end Connection

end RemoteRun
