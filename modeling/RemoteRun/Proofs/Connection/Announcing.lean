import RemoteRun.Proofs.Connection.Course
import RemoteRun.Proofs.Connection.Supervision

/-!
# What is told of a run

**Told.** What is told of a move: the wish that starts a supervisor, the failure that a
supervisor observes, and then what the connection asks for.

**Serial.** Nobody wishes to connect or to disconnect while a wish to disconnect is not yet
completed.  Then at most one supervisor is running, and what is told is a path of the
reconnect automaton.

**Results.**
* `leads_after`: what is told of a move leads from one stand to another.
* `path_course`: what is told of a serial run is a path.
-/

namespace RemoteRun

/-- What is told of a thing that the world has to do. -/
def Effect.sign? : Effect → Option Sign
  | .openLine _ => some .sought
  | .announce event => some (.heard event)
  | _ => none

/-- The failure that a supervisor observes. -/
def Supervisor.failure? (s : Supervisor) (o : Observation) : Option Sign :=
  match s.activity, o with
  | .opening, .refused _ => if s.stopping then none else some .refused
  | .pumping _ _, .broken _ => if s.stopping then none else some .lost
  | .pumping _ _, .closedByPeer => if s.stopping then none else some .lost
  | .pumping _ (_ :: _), .written (.error _) => some .lost
  | .pumping _ _, .beat (.error _) => some .lost
  | _, _ => none

/-- Where a supervisor stands in a connection that shows a state. -/
def Supervisor.stand? (s : Supervisor) (state : ConnectionState) : Option Course.Stand :=
  match s.activity with
  | .starting => some (.starting state)
  | .opening => some (.opening s.attempt)
  | .pumping _ _ => some .pumping
  | .delaying => some (.delaying s.attempt)
  | .returned | .panicked _ => none

namespace Connection

open ConnectionState (connecting connected reconnecting seeking idle)
open Course (Stand Fails Step Path Leads)

/-! ### What is told -/

/-- The connection after a move, once all is done that it asks for. -/
def after (c : Connection) (m : Move) : Connection :=
  { c.move m with effects := [] }

/-- What is told of a move before the connection asks for anything. -/
def cause (c : Connection) : Move → Course
  | .connect => if c.held.any c.isRunning then [] else [.wished]
  | .turn id o => ((c.supervisors[id]?).bind (·.failure? o)).toList
  | _ => []

/-- What is told of all that is to be done. -/
def signs (c : Connection) : Course :=
  c.effects.filterMap Effect.sign?

/-- What is told of a move. -/
def told (c : Connection) (m : Move) : Course :=
  c.cause m ++ (c.move m).signs

/-- What is told of moves, one after the other. -/
def course (c : Connection) : List Move → Course
  | [] => []
  | m :: ms => c.told m ++ (c.after m).course ms

section

variable (c : Connection)

@[simp] theorem signs_emit
    (e : Effect) :
    (c.emit e).signs = c.signs ++ e.sign?.toList := by
  simp only [signs, emit, List.filterMap_append]
  cases h : e.sign? <;> simp [h]

@[simp] theorem signs_put
    (id : Nat)
    (s : Supervisor) :
    (c.put id s).signs = c.signs :=
  rfl

@[simp] theorem signs_note
    (n : Notice) :
    (c.note n).signs = c.signs := by
  simp [note, Effect.sign?]

@[simp] theorem signs_noted
    (notices : List Notice) :
    (c.noted notices).signs = c.signs := by
  simp [signs, noted, List.filterMap_map, Function.comp_def, Effect.sign?]

@[simp] theorem signs_reveal
    (s : ConnectionState) :
    (c.reveal s).signs = c.signs ++ Course.reveal c.state s := by
  unfold reveal Course.reveal
  split
  · simp
  · simp only [signs_emit]
    rfl

end

/-! ### Failures -/

section

variable {c : Connection} {id : Nat} {s : Supervisor} {o : Observation}

/-- One that observes a failure has no line, and goes on so. -/
theorem turn_of_failure
    {failure : Sign}
    (hid : c.supervisors[id]? = some s)
    (h : s.failure? o = some failure) :
    (s.activity = .opening ∧ failure = .refused ∨
      (∃ line queue, s.activity = .pumping line queue) ∧ failure = .lost) ∧
      ∃ c', Lineless c s c' ∧ c.turn id o = c'.retry id s := by
  unfold Supervisor.failure? at h
  split at h
  next e hs =>
    cases hgoes : s.stopping <;> rw [hgoes] at h <;> cases h
    exact ⟨Or.inl ⟨hs, rfl⟩, _, .refused e hs hgoes, by simp [turn, hid, hgoes, observe, hs, refuse]⟩
  next line queue e hs =>
    cases hgoes : s.stopping <;> rw [hgoes] at h <;> cases h
    exact ⟨Or.inr ⟨⟨_, _, hs⟩, rfl⟩, _, .lost e.message hs,
      by simp [turn, hid, hgoes, observe, hs, lose]⟩
  next line queue hs =>
    cases hgoes : s.stopping <;> rw [hgoes] at h <;> cases h
    exact ⟨Or.inr ⟨⟨_, _, hs⟩, rfl⟩, _, .lost "closed by peer" hs,
      by simp [turn, hid, hgoes, observe, hs, lose]⟩
  next line text queue e hs =>
    cases h
    exact ⟨Or.inr ⟨⟨_, _, hs⟩, rfl⟩, _, .lost e.message hs,
      by simp [turn, hid, observe, hs, writeNext, lose]⟩
  next line queue e hs =>
    cases h
    exact ⟨Or.inr ⟨⟨_, _, hs⟩, rfl⟩, _, .lost e.message hs,
      by simp [turn, hid, observe, hs, writeBeat, lose]⟩
  next =>
    cases h

/-- What is noted of what is to be done. -/
def notices (c : Connection) : List Notice :=
  c.effects.filterMap Effect.notice?

@[simp] theorem notices_emit
    (c : Connection)
    (e : Effect) :
    (c.emit e).notices = c.notices ++ e.notice?.toList := by
  simp only [notices, emit, List.filterMap_append]
  cases h : e.notice? <;> simp [h]

@[simp] theorem notices_reveal
    (c : Connection)
    (s : ConnectionState) :
    (c.reveal s).notices = c.notices := by
  unfold reveal
  split
  · rfl
  · simp only [notices_emit, Effect.notice?, Option.toList_none, List.append_nil]
    rfl

@[simp] theorem notices_put
    (c : Connection)
    (id : Nat)
    (s : Supervisor) :
    (c.put id s).notices = c.notices :=
  rfl

theorem notices_start :
    (c.start id s).notices = c.notices := by
  unfold start
  split <;> simp [openLine, Effect.notice?]

theorem notices_useLine :
    (c.useLine id s).notices = c.notices := by
  unfold useLine
  dsimp only
  split <;> simp <;> rfl

theorem notices_stop :
    (c.stop id s).notices = c.notices := by
  unfold stop
  split
  · exact notices_start
  · rfl
  · rfl
  · exact (c.notices_emit (.close _)).trans (List.append_nil _)
  · rfl
  · rfl

/-- One that observes no failure notes nothing. -/
theorem notices_observe
    (hgoes : s.stopping = false ∨ ∃ result, o = .written result ∨ o = .beat result)
    (h : s.failure? o = none) :
    (c.observe id s o).notices = c.notices := by
  unfold observe
  split
  next =>
    exact notices_start
  next =>
    exact notices_useLine
  next e hs =>
    have hgoes := hgoes.resolve_right (by simp)
    simp [Supervisor.failure?, hs, hgoes] at h
  next =>
    exact (c.notices_emit _).trans (List.append_nil _)
  next e hs =>
    have hgoes := hgoes.resolve_right (by simp)
    simp [Supervisor.failure?, hs, hgoes] at h
  next hs =>
    have hgoes := hgoes.resolve_right (by simp)
    simp [Supervisor.failure?, hs, hgoes] at h
  next line queue result hs =>
    cases queue with
    | nil =>
        rfl
    | cons text queue =>
        cases result with
        | ok _ =>
            exact (c.notices_emit _).trans (List.append_nil _)
        | error e =>
            simp [Supervisor.failure?, hs] at h
  next line queue result hs =>
    cases result with
    | ok _ =>
        exact (c.notices_emit _).trans (List.append_nil _)
    | error e =>
        simp [Supervisor.failure?, hs] at h
  next =>
    exact (notices_emit _ _).trans (List.append_nil _)
  next =>
    rfl

theorem notices_turn
    (hid : c.supervisors[id]? = some s)
    (h : s.failure? o = none) :
    (c.turn id o).notices = c.notices := by
  simp only [turn, hid]
  cases hstop : s.stopping with
  | false =>
      exact notices_observe (Or.inl hstop) h
  | true =>
      cases o with
      | stopped =>
          exact notices_stop
      | written result =>
          exact notices_observe (Or.inr ⟨result, Or.inl rfl⟩) h
      | beat result =>
          exact notices_observe (Or.inr ⟨result, Or.inr rfl⟩) h
      | _ =>
          rfl

theorem Retry.notices_prefix
    {c' : Connection}
    {s' : Supervisor}
    (h : Retry c id s s' c') :
    c.notices <+: c'.notices := by
  cases h <;> simp [note, Effect.notice?]

/-- A turn without a failure is one in which nothing is tried again. -/
theorem not_retry_of_notices
    {c' d : Connection}
    {s' : Supervisor}
    (hs : Lineless c s c')
    (hretry : Retry c' id s s' d) :
    d.notices ≠ c.notices := by
  have hless : c.notices.length < c'.notices.length := by
    cases hs with
    | refused _ _ _ =>
        simp [note, Effect.notice?]
    | lost _ _ =>
        simp only [note, notices_emit, Effect.notice?, Option.toList_some, List.length_append,
          List.length_singleton]
        exact Nat.lt_succ_self _
  intro heq
  have hle := hretry.notices_prefix.length_le
  rw [heq] at hle
  exact absurd hle (Nat.not_le_of_lt hless)

end

/-! ### Where the supervisor stands -/

/-- A supervisor runs, and no other one, and stands somewhere. -/
structure Runs (c : Connection) (id : Nat) (s : Supervisor) (a : Stand) : Prop where
  getElem?_eq : c.supervisors[id]? = some s
  stand : s.stand? c.state = some a
  shown : a.shown = c.state
  attempt : s.attempt = a.attempt
  fresh : s.activity = .starting → c.state ≠ connecting
  alone : ∀ j, c.isRunning j = true → j = id

/-- Where the supervisor of a connection stands, if one runs. -/
inductive Stands (c : Connection) : Stand → Prop
  | ended
      (hnone : ∀ id, c.isRunning id = false)
      (hstate : c.leaving = [] → c.state ≠ connecting) :
      Stands c (.ended c.state)
  | runs
      {id : Nat}
      {s : Supervisor}
      {a : Stand}
      (h : Runs c id s a) :
      Stands c a

theorem isRunning_of_stand
    {s : Supervisor}
    {state : ConnectionState}
    {a : Stand}
    (h : s.stand? state = some a) :
    s.isRunning = true := by
  unfold Supervisor.stand? at h
  cases hs : s.activity <;> simp_all [Supervisor.isRunning, Activity.isOver]

theorem isRunning_put_of_ne
    {c : Connection}
    {id j : Nat}
    {s : Supervisor}
    (hne : j ≠ id) :
    (c.put id s).isRunning j = c.isRunning j := by
  simp [isRunning, put, List.getElem?_set_ne (Ne.symm hne)]

theorem Kept.isRunning_eq
    {c d : Connection}
    (h : Kept c d)
    (j : Nat) :
    d.isRunning j = c.isRunning j := by
  simp [isRunning, h.supervisors]

/-- A change of what is not looked at. -/
theorem Stands.kept
    {c d : Connection}
    {a : Stand}
    (h : Stands c a)
    (hkept : Kept c d)
    (hstate : d.state = c.state) :
    Stands d a := by
  cases h with
  | ended hnone hfresh =>
      rw [← hstate]
      refine .ended (fun id => (hkept.isRunning_eq id).trans (hnone id)) ?_
      rw [hkept.leaving, hstate]
      exact hfresh
  | @runs id s a h =>
      refine .runs (show Runs d id s a from ⟨?_, ?_, ?_, h.attempt, ?_, ?_⟩)
      · rw [hkept.supervisors]
        exact h.getElem?_eq
      · rw [hstate]
        exact h.stand
      · rw [hstate]
        exact h.shown
      · rw [hstate]
        exact h.fresh
      · intro j hj
        exact h.alone j ((hkept.isRunning_eq j).symm.trans hj)

namespace Runs

variable {c d : Connection} {id : Nat} {s s' : Supervisor} {a b : Stand}

theorem alone_put
    (h : Runs c id s a)
    (hkept : Kept c d)
    (j : Nat)
    (hj : (d.put id s').isRunning j = true) :
    j = id := by
  by_contra hne
  rw [isRunning_put_of_ne hne, hkept.isRunning_eq] at hj
  exact hne (h.alone j hj)

/-- The supervisor goes on. -/
theorem put
    (h : Runs c id s a)
    (hkept : Kept c d)
    (hstand : s'.stand? d.state = some b)
    (hshown : b.shown = d.state)
    (hattempt : s'.attempt = b.attempt)
    (hfresh : s'.activity ≠ .starting) :
    Stands (d.put id s') b := by
  refine .runs (show Runs (d.put id s') id s' b from
    ⟨?_, hstand, hshown, hattempt, fun hs => absurd hs hfresh, ?_⟩)
  · rw [getElem?_put ((hkept.getElem?_eq id).trans h.getElem?_eq), if_pos rfl]
  · exact h.alone_put hkept

/-- The supervisor ends. -/
theorem finish
    (h : Runs c id s a)
    (s' : Supervisor)
    (hkept : Kept c d)
    (hover : s'.isRunning = false)
    (hstate : d.leaving = [] → d.state ≠ connecting) :
    Stands (d.put id s') (.ended d.state) := by
  refine .ended (c := d.put id s') ?_ hstate
  intro j
  by_contra hj
  rw [Bool.not_eq_false] at hj
  obtain rfl := h.alone_put hkept j hj
  rw [isRunning_put ((hkept.getElem?_eq j).trans h.getElem?_eq), hover] at hj
  cases hj

/-- The supervisor ends where it stands. -/
theorem leads_halt
    (h : Runs c id s a)
    (hkept : Kept c d)
    (hstate : d.state = c.state)
    (hsigns : d.signs = c.signs)
    (hleaving : c.leaving ≠ [])
    (hbegun : a.isBegun = true)
    (hover : s'.isRunning = false) :
    ∃ b more, Stands (d.put id s') b ∧ d.signs = c.signs ++ more ∧ Leads c.policy a more b := by
  refine ⟨.ended a.shown, [], ?_, by simp [hsigns], (Leads.refl _ a).halt hbegun⟩
  rw [h.shown, ← hstate]
  refine h.finish s' hkept hover ?_
  rw [hkept.leaving]
  exact fun hnone => absurd hnone hleaving

/-- What is told of a turn without a failure leads on. -/
theorem leads_turn
    (h : Runs c id s a)
    (hleaving : s.stopping = true → c.leaving ≠ [])
    (hturn : Turn c id s s' d)
    (hnotices : d.notices = c.notices) :
    ∃ b more, Stands (d.put id s') b ∧ d.signs = c.signs ++ more ∧ Leads c.policy a more b := by
  have hkept := hturn.kept
  have hstand := h.stand
  have hshown := h.shown
  have hattempt := h.attempt
  unfold Supervisor.stand? at hstand
  cases hturn with
  | stay =>
      refine ⟨a, [], ?_, by simp, .refl _ _⟩
      rw [put_self h.getElem?_eq]
      exact .runs h
  | deliver text hs hgoes =>
      refine ⟨a, [], ?_, by simp [Effect.sign?], .refl _ _⟩
      exact h.put hkept h.stand hshown hattempt (by simp [hs])
  | beat hs =>
      refine ⟨a, [], ?_, by simp [Effect.sign?], .refl _ _⟩
      exact h.put hkept h.stand hshown hattempt (by simp [hs])
  | write hs =>
      refine ⟨a, [], ?_, by simp [Effect.sign?], .refl _ _⟩
      refine h.put hkept ?_ hshown hattempt (by simp [Supervisor.turnTo])
      simpa [hs, Supervisor.stand?, Supervisor.turnTo] using hstand
  | seek hs hgoes =>
      have hfresh := h.fresh hs
      rw [hs] at hstand
      obtain rfl := Option.some.inj hstand
      refine ⟨.opening 0, [.shown connecting, .sought], ?_, ?_, (Step.seek hfresh).leads⟩
      · refine h.put hkept ?_ ?_ hattempt (by simp [Supervisor.turnTo])
        · exact congrArg (fun n => some (Stand.opening n)) hattempt
        · simp [emit, Stand.shown, seeking]
      · simp [Course.reveal, hfresh, Effect.sign?]
  | cancel hs hstops =>
      have hfresh := h.fresh hs
      rw [hs] at hstand
      obtain rfl := Option.some.inj hstand
      refine ⟨.ended connecting, [.shown connecting], ?_, ?_, (Step.cancel hfresh).leads⟩
      · have hover := h.finish (s.turnTo .returned) hkept rfl
          (fun hnone => absurd (hkept.leaving.symm.trans hnone) (hleaving hstops))
        rwa [reveal_state] at hover
      · simp [Course.reveal, hfresh]
  | use hs hgoes hbeat =>
      rw [hs] at hstand
      obtain rfl := Option.some.inj hstand
      have hne : c.state ≠ connected := hshown ▸ Course.seeking_ne_connected _
      refine ⟨.pumping, [.shown connected], ?_, ?_, (Step.use _).leads⟩
      · exact h.put hkept rfl (by simp [Stand.shown]) rfl (by simp)
      · rw [signs_reveal, Course.reveal, if_neg hne]
        rfl
  | spoil hs hgoes hbeat =>
      rw [hs] at hstand
      obtain rfl := Option.some.inj hstand
      have hne : c.state ≠ connected := hshown ▸ Course.seeking_ne_connected _
      refine ⟨.ended connected, [.shown connected], ?_, ?_, (Step.use _).leads.halt rfl⟩
      · have hover := h.finish { s with activity := .panicked (beatPanic c.heartbeat), attempt := 0 } hkept rfl (by simp)
        rwa [reveal_state] at hover
      · rw [signs_reveal, Course.reveal, if_neg hne]
        rfl
  | retry hs hretry =>
      exact absurd hnotices (not_retry_of_notices hs hretry)
  | wake hs hgoes =>
      rw [hs] at hstand
      obtain rfl := Option.some.inj hstand
      refine ⟨.opening s.attempt, [.sought], ?_, by simp [Effect.sign?], (Step.wake _).leads⟩
      exact h.put hkept rfl hshown rfl (by simp [Supervisor.turnTo])
  | halt hs hstops =>
      refine h.leads_halt hkept rfl rfl (hleaving hstops) ?_ rfl
      rcases hs with hs | hs <;> rw [hs] at hstand <;> obtain rfl := Option.some.inj hstand <;> rfl
  | close hs hstops =>
      refine h.leads_halt hkept rfl ?_ (hleaving hstops) ?_ rfl
      · exact (c.signs_emit (.close _)).trans (List.append_nil _)
      · rw [hs] at hstand
        obtain rfl := Option.some.inj hstand
        rfl

theorem fails
    (h : Runs c id s a)
    {failure : Sign}
    (hfailure : s.activity = .opening ∧ failure = .refused ∨
      (∃ line queue, s.activity = .pumping line queue) ∧ failure = .lost) :
    Fails a failure s.attempt := by
  have hstand := h.stand
  unfold Supervisor.stand? at hstand
  rcases hfailure with ⟨hs, rfl⟩ | ⟨⟨line, queue, hs⟩, rfl⟩
  · rw [hs] at hstand
    obtain rfl := Option.some.inj hstand
    exact .refused s.attempt
  · rw [hs] at hstand
    obtain rfl := Option.some.inj hstand
    rw [h.attempt]
    exact .lost

/-- What is told of a failure leads on. -/
theorem leads_retry
    (h : Runs c id s a)
    {failure : Sign}
    (hfailure : s.activity = .opening ∧ failure = .refused ∨
      (∃ line queue, s.activity = .pumping line queue) ∧ failure = .lost)
    {c' : Connection}
    (hless : Lineless c s c')
    (hretry : Retry c' id s s' d) :
    ∃ b more, Stands (d.put id s') b ∧ d.signs = c.signs ++ more ∧
      Leads c.policy a (failure :: more) b := by
  have hfails := h.fails hfailure
  have hkept := hless.kept.trans hretry.kept
  have hstate : c'.state = a.shown := by
    rw [h.shown]
    cases hless <;> rfl
  have hsigns : c'.signs = c.signs := by
    cases hless with
    | refused _ _ _ =>
        exact c.signs_note _
    | lost _ _ =>
        exact signs_note _ _
  cases hretry with
  | await hmore hdelay =>
      rw [hless.kept.policy] at hmore
      refine ⟨.delaying (again s).attempt, Course.reveal a.shown _, ?_, ?_,
        (Step.await hfails hmore).leads⟩
      · refine h.put hkept rfl ?_ rfl (by simp [Supervisor.turnTo])
        exact (Course.seeking_of_pos (Course.nextAttempt_pos _)).trans (by simp [emit, again])
      · rw [signs_emit, signs_reveal, hsigns, hstate]
        exact List.append_nil _
  | stall hmore hdelay =>
      rw [hless.kept.policy] at hmore
      have hleads := (Step.await hfails hmore).leads.halt rfl
      rw [Stand.shown, Course.seeking_of_pos (Course.nextAttempt_pos _)] at hleads
      refine ⟨_, _, ?_, ?_, hleads⟩
      · have hover := h.finish ((again s).turnTo (.panicked .distantDelay)) hkept rfl (by simp)
        rwa [reveal_state] at hover
      · rw [signs_reveal, hsigns, hstate]
        rfl
  | giveUp hmore =>
      rw [hless.kept.policy] at hmore
      refine ⟨_, _, ?_, ?_, (Step.giveUp hfails hmore).leads⟩
      · have hover := h.finish ((again s).turnTo .returned) hkept rfl (by simp [emit, idle])
        simpa [emit] using hover
      · rw [signs_emit, signs_reveal, signs_note, hsigns]
        simp only [note, emit, hstate, Course.reveal, if_neg hfails.shown_ne_idle]
        simp [Effect.sign?, again]

end Runs

/-! ### Wishes one after the other -/

/-- Nobody wishes anything while a wish to disconnect is not yet completed, in a connection
whose effects are carried out after each move. -/
def Serial : Connection → List Move → Prop
  | _, [] => True
  | c, m :: ms => (m.isWish = true → c.leaving = []) ∧ (c.after m).Serial ms

instance decidableSerial : (c : Connection) → (ms : List Move) → Decidable (c.Serial ms)
  | _, [] => isTrue trivial
  | c, m :: ms =>
      have := decidableSerial (c.after m) ms
      inferInstanceAs (Decidable (_ ∧ _))

/-- Nothing is left to do, and at most one wish to disconnect is not yet completed. -/
structure Lone (c : Connection) : Prop extends Sole c where
  effects_eq : c.effects = []

namespace Lone

variable {c : Connection}

theorem ofPolicy
    (policy : ReconnectPolicy)
    (heartbeat : Option Duration) :
    Lone (ofPolicy policy heartbeat) :=
  ⟨.ofPolicy policy heartbeat, rfl⟩

theorem after
    (h : Lone c)
    (m : Move)
    (hserial : m.isWish = true → c.leaving = []) :
    Lone (c.after m) := by
  have hmove := h.toSole.move m hserial
  exact ⟨⟨⟨hmove.toOrderly.kept ⟨rfl, rfl, rfl, rfl, rfl⟩, hmove.alone⟩, hmove.leaving_le⟩, rfl⟩

/-- Nobody runs who is neither held nor awaited. -/
theorem isRunning_eq_false
    (h : Lone c)
    (hheld : c.held.any c.isRunning = false)
    (hleaving : ∀ id ∈ c.leaving, c.isRunning id = false)
    (id : Nat) :
    c.isRunning id = false := by
  by_contra hid
  rw [Bool.not_eq_false] at hid
  obtain ⟨s, hs, hrunning⟩ := isRunning_iff.1 hid
  have hne : c.held ≠ some id := by
    intro heq
    rw [heq, Option.any_some, hid] at hheld
    cases hheld
  have hover := hleaving id (h.mem_leaving_of_not_held hs hrunning hne)
  rw [hid] at hover
  cases hover

end Lone

section

variable {c : Connection} {a : Stand}

/-- Where nobody runs, nobody stands. -/
theorem Stands.eq_ended
    (h : Stands c a)
    (hnone : ∀ id, c.isRunning id = false) :
    a = .ended c.state ∧ (c.leaving = [] → c.state ≠ connecting) := by
  cases h with
  | ended _ hfresh =>
      exact ⟨rfl, hfresh⟩
  | @runs id s a h =>
      have hid := hnone id
      rw [isRunning_of_getElem? h.getElem?_eq, isRunning_of_stand h.stand] at hid
      cases hid

theorem signs_of_effects
    (h : c.effects = []) :
    c.signs = [] := by
  simp [signs, h]

theorem leads_connect
    (h : Lone c)
    (hstands : Stands c a)
    (hleaving : c.leaving = []) :
    ∃ b, Stands c.connect b ∧ Leads c.policy a (c.told .connect) b := by
  unfold told cause move connect
  cases hheld : c.held.any c.isRunning with
  | true =>
      refine ⟨a, hstands, ?_⟩
      simpa [signs_of_effects h.effects_eq] using Leads.refl c.policy a
  | false =>
      have hnone := h.isRunning_eq_false hheld (by simp [hleaving])
      obtain ⟨rfl, hfresh⟩ := hstands.eq_ended hnone
      refine ⟨.starting c.state, .runs (show Runs _ c.supervisors.length {} _ from ?_), ?_⟩
      · refine ⟨by simp, rfl, rfl, rfl, fun _ => hfresh hleaving, ?_⟩
        intro j hj
        obtain ⟨s, hs, hrunning⟩ := isRunning_iff.1 hj
        rcases getElem?_append_new hs with ⟨rfl, _⟩ | hs
        · rfl
        · have hj := hnone j
          rw [isRunning_of_getElem? hs, hrunning] at hj
          cases hj
      · simpa [signs, h.effects_eq] using (Step.wish c.state).leads

theorem told_finishDisconnect
    (c : Connection)
    (id : Nat) :
    c.told (.finishDisconnect id) = (c.finishDisconnect id).signs :=
  rfl

theorem told_turn
    (c : Connection)
    (id : Nat)
    (o : Observation) :
    c.told (.turn id o) =
      ((c.supervisors[id]?).bind (·.failure? o)).toList ++ (c.turn id o).signs :=
  rfl

theorem told_send
    (c : Connection)
    (message : Outbound) :
    c.told (.send message) = (send message c).1.signs :=
  rfl

/-- What is told when the connection settles as disconnected. -/
theorem leads_settle
    (p : ReconnectPolicy)
    (hnone : ∀ id, c.isRunning id = false) :
    ∃ b more, Stands c.settle b ∧ c.settle.signs = c.signs ++ more ∧
      Leads p (.ended c.state) more b := by
  refine ⟨.ended idle, Course.reveal c.state idle, ?_, signs_reveal _ _, (Step.settle c.state).leads⟩
  rw [← c.settle_state]
  refine .ended (fun id => (c.kept_settle.isRunning_eq id).trans (hnone id)) ?_
  simp [idle]

/-- A supervisor that runs is the one that stands somewhere. -/
theorem Stands.runs_of_isRunning
    {id : Nat}
    {s : Supervisor}
    (h : Stands c a)
    (hid : c.supervisors[id]? = some s)
    (hrunning : s.isRunning = true) :
    Runs c id s a := by
  have hisRunning := isRunning_of_getElem? hid
  rw [hrunning] at hisRunning
  cases h with
  | ended hnone _ =>
      rw [hnone id] at hisRunning
      cases hisRunning
  | @runs j t a h =>
      obtain rfl := h.alone id hisRunning
      obtain rfl := Option.some.inj (hid.symm.trans h.getElem?_eq)
      exact h

/-- A supervisor that is told to stop stands where it stood. -/
theorem Stands.stop
    {id : Nat}
    (h : Stands c a) :
    Stands
      { c with
        held := none
        leaving := c.leaving ++ [id]
        supervisors := c.supervisors.modify id fun s => { s with stopping := true } } a := by
  have hrunning : ∀ j,
      isRunning
        { c with
          held := none
          leaving := c.leaving ++ [id]
          supervisors := c.supervisors.modify id fun s => { s with stopping := true } } j =
        c.isRunning j := by
    intro j
    simp only [isRunning, List.getElem?_modify]
    cases c.supervisors[j]? with
    | none =>
        rfl
    | some s =>
        by_cases hj : id = j <;> simp [hj, Supervisor.isRunning]
  cases h with
  | ended hnone _ =>
      exact .ended (fun j => (hrunning j).trans (hnone j)) (by simp)
  | @runs j s a h =>
      have halone := fun i hi => h.alone i ((hrunning i).symm.trans hi)
      by_cases hj : id = j
      · refine .runs (show Runs _ j { s with stopping := true } a from
          ⟨?_, h.stand, h.shown, h.attempt, h.fresh, halone⟩)
        simp [h.getElem?_eq, hj]
      · refine .runs (show Runs _ j s a from
          ⟨?_, h.stand, h.shown, h.attempt, h.fresh, halone⟩)
        simp [h.getElem?_eq, hj]

theorem leads_disconnect
    (h : Lone c)
    (hstands : Stands c a)
    (hleaving : c.leaving = []) :
    ∃ b, Stands c.disconnect b ∧ Leads c.policy a (c.told .disconnect) b := by
  unfold told cause move disconnect
  cases hheld : c.held with
  | none =>
      have hnone := h.isRunning_eq_false (by simp [hheld]) (by simp [hleaving])
      obtain ⟨rfl, _⟩ := hstands.eq_ended hnone
      obtain ⟨b, more, hb, hsigns, hleads⟩ := leads_settle c.policy hnone
      refine ⟨b, hb, ?_⟩
      simpa [hsigns, signs_of_effects h.effects_eq] using hleads
  | some id =>
      refine ⟨a, hstands.stop, ?_⟩
      simpa [signs, h.effects_eq] using Leads.refl c.policy a

theorem leads_finishDisconnect
    (h : Lone c)
    (hstands : Stands c a)
    (id : Nat) :
    ∃ b, Stands (c.finishDisconnect id) b ∧
      Leads c.policy a (c.told (.finishDisconnect id)) b := by
  have hsigns := signs_of_effects h.effects_eq
  have hchange := c.change_finishDisconnect id
  rw [told_finishDisconnect]
  generalize c.finishDisconnect id = d at hchange ⊢
  cases hchange with
  | quiet _ notices =>
      refine ⟨a, hstands.kept ⟨rfl, rfl, rfl, rfl, rfl⟩ rfl, ?_⟩
      simpa [hsigns] using Leads.refl c.policy a
  | finish notices hmem hover =>
      have hheld := h.alone (List.ne_nil_of_mem hmem)
      have hnone : ∀ j, c.isRunning j = false := by
        refine h.isRunning_eq_false (by simp [hheld]) ?_
        intro j hj
        -- No more than one end is awaited, and this one has come.
        obtain ⟨i, hi⟩ := List.length_eq_one_iff.1
          (Nat.le_antisymm h.leaving_le (List.length_pos_of_mem hmem))
        rw [hi, List.mem_singleton] at hj hmem
        rwa [hj, ← hmem]
      obtain ⟨rfl, _⟩ := hstands.eq_ended hnone
      obtain ⟨b, more, hb, hmore, hleads⟩ :=
        leads_settle (c := { c.noted notices with leaving := c.leaving.erase id }) c.policy hnone
      refine ⟨b, hb, ?_⟩
      rw [hmore]
      have hsigns : signs { c.noted notices with leaving := c.leaving.erase id } = [] :=
        (c.signs_noted notices).trans hsigns
      rwa [hsigns]

theorem leads_turn
    (h : Lone c)
    (hstands : Stands c a)
    (id : Nat)
    (o : Observation) :
    ∃ b, Stands (c.turn id o) b ∧ Leads c.policy a (c.told (.turn id o)) b := by
  have hsigns := signs_of_effects h.effects_eq
  rw [told_turn]
  cases hid : c.supervisors[id]? with
  | none =>
      rw [turn_of_none hid, hsigns]
      exact ⟨a, hstands, .refl _ _⟩
  | some s =>
      rw [Option.bind_some]
      cases hfailure : s.failure? o with
      | some failure =>
          obtain ⟨hcause, c', hless, hretry⟩ := turn_of_failure hid hfailure
          obtain ⟨s', d, hd, heq⟩ := c'.retry_cases id s
          have hruns := hstands.runs_of_isRunning hid hless.isRunning
          obtain ⟨b, more, hb, hmore, hleads⟩ := hruns.leads_retry hcause hless hd
          rw [hretry, heq]
          refine ⟨b, hb, ?_⟩
          rw [signs_put, hmore, hsigns, List.nil_append]
          exact hleads
      | none =>
          obtain ⟨s', d, hturn, heq⟩ := turn_cases hid o
          have hnotices := notices_turn hid hfailure
          rw [heq] at hnotices ⊢
          rcases hturn.isRunning_or_stay with hrunning | ⟨rfl, rfl⟩
          · have hruns := hstands.runs_of_isRunning hid hrunning
            have hleaving : s.stopping = true → c.leaving ≠ [] := by
              intro hstops
              exact List.ne_nil_of_mem ((h.stopping_iff id s hid hrunning).1 hstops)
            obtain ⟨b, more, hb, hmore, hleads⟩ := hruns.leads_turn hleaving hturn hnotices
            refine ⟨b, hb, ?_⟩
            rw [signs_put, hmore, hsigns, List.nil_append]
            exact hleads
          · rw [put_self hid, hsigns]
            exact ⟨a, hstands, .refl _ _⟩

theorem leads_send
    (h : Lone c)
    (hstands : Stands c a)
    (message : Outbound) :
    ∃ b, Stands (send message c).1 b ∧ Leads c.policy a (c.told (.send message)) b := by
  have hsigns := signs_of_effects h.effects_eq
  rw [told_send]
  refine ⟨a, ?_⟩
  rcases c.send_cases message with ⟨id, line, s, queue, hid, hs, _, _, hsend⟩ | ⟨notice, hsend⟩ <;>
    simp only [hsend]
  · have hruns := hstands.runs_of_isRunning hid (isRunning_of_pumping hs)
    have hstand := hruns.stand
    unfold Supervisor.stand? at hstand
    rw [hs] at hstand
    refine ⟨hruns.put ⟨rfl, rfl, rfl, rfl, rfl⟩ hstand hruns.shown hruns.attempt
      (by simp [Supervisor.turnTo]), ?_⟩
    rw [signs_put, hsigns]
    exact .refl _ _
  · refine ⟨hstands.kept ⟨rfl, rfl, rfl, rfl, rfl⟩ rfl, ?_⟩
    simpa [hsigns] using Leads.refl c.policy a

/-- What is told of a move leads from one stand to another. -/
theorem leads_after
    (h : Lone c)
    (hstands : Stands c a)
    (m : Move)
    (hserial : m.isWish = true → c.leaving = []) :
    ∃ b, Stands (c.after m) b ∧ Leads c.policy a (c.told m) b := by
  have hmove : ∃ b, Stands (c.move m) b ∧ Leads c.policy a (c.told m) b := by
    cases m with
    | connect =>
        exact leads_connect h hstands (hserial rfl)
    | disconnect =>
        exact leads_disconnect h hstands (hserial rfl)
    | finishDisconnect id =>
        exact leads_finishDisconnect h hstands id
    | turn id o =>
        exact leads_turn h hstands id o
    | send message =>
        exact leads_send h hstands message
  obtain ⟨b, hb, hleads⟩ := hmove
  exact ⟨b, hb.kept ⟨rfl, rfl, rfl, rfl, rfl⟩ rfl, hleads⟩

/-- What is told of a serial run leads from one stand to another. -/
theorem leads_course
    {ms : List Move}
    (hserial : c.Serial ms)
    (h : Lone c)
    (hstands : Stands c a) :
    ∃ b, Leads c.policy a (c.course ms) b := by
  induction ms generalizing c a with
  | nil =>
      exact ⟨a, .refl _ _⟩
  | cons m ms ih =>
      obtain ⟨hwish, hrest⟩ := hserial
      obtain ⟨b, hb, hleads⟩ := leads_after h hstands m hwish
      obtain ⟨b', hleads'⟩ := ih hrest (h.after m hwish) hb
      rw [show (c.after m).policy = c.policy from (c.config_move m).1] at hleads'
      exact ⟨b', hleads.trans hleads'⟩

end

/-- What is told of a serial run is a path of the automaton. -/
theorem path_course
    {policy : ReconnectPolicy}
    {heartbeat : Option Duration}
    {ms : List Move}
    (hserial : (ofPolicy policy heartbeat).Serial ms) :
    ∃ a, Path policy ((ofPolicy policy heartbeat).course ms) a := by
  have hstands : Stands (ofPolicy policy heartbeat) (.ended idle) :=
    .ended (fun id => by simp [isRunning, ofPolicy]) (by simp [ofPolicy, idle])
  obtain ⟨a, hleads⟩ := leads_course hserial (.ofPolicy policy heartbeat) hstands
  exact ⟨a, hleads [] .rest⟩

end Connection

end RemoteRun
