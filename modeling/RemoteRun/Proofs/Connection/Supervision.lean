import RemoteRun.Proofs.Connection.Run

/-!
# Who supervises

**Order.** Of the supervisors that are running, those that are to stop are the ones whose
end a wish to disconnect awaits, and one that goes on is the one that such a wish would
take away.  So at most one goes on, whatever the order of the moves.

**Apart.** In a run in which nobody wishes to connect while the end of a supervisor is
awaited, none is held while that is so (`Separate`).  If nobody wishes to disconnect then,
either, at most one supervisor is running at all (`Sole`).

**Results.**
* `orderly_run`: supervisors are in order throughout a run.
* `Orderly.eq_of_goes`: one supervisor at most goes on.
* `Separate.move`: what holds while wishes are kept apart.
* `Sole.eq_of_isRunning`: one supervisor at most runs while wishes come one after the other.
-/

namespace RemoteRun

namespace Connection

/-! ### Looking up supervisors -/

section

variable {c : Connection} {id : Nat} {s : Supervisor}

theorem isRunning_iff :
    c.isRunning id = true ↔ ∃ s, c.supervisors[id]? = some s ∧ s.isRunning = true := by
  unfold isRunning
  cases c.supervisors[id]? <;> simp

theorem isRunning_of_getElem?
    (hid : c.supervisors[id]? = some s) :
    c.isRunning id = s.isRunning := by
  simp [isRunning, hid]

theorem lt_length_of_getElem?
    (hid : c.supervisors[id]? = some s) :
    id < c.supervisors.length :=
  (List.getElem?_eq_some_iff.1 hid).1

theorem getElem?_put
    (hid : c.supervisors[id]? = some s)
    (s' : Supervisor)
    (j : Nat) :
    (c.put id s').supervisors[j]? = if id = j then some s' else c.supervisors[j]? := by
  rw [put, List.getElem?_set]
  split
  next h =>
    subst h
    rw [if_pos (lt_length_of_getElem? hid)]
  next =>
    rfl

theorem isRunning_put
    (hid : c.supervisors[id]? = some s)
    (s' : Supervisor) :
    (c.put id s').isRunning id = s'.isRunning := by
  rw [isRunning, getElem?_put hid, if_pos rfl]

theorem getElem?_append_new
    (hs : (c.supervisors ++ [({} : Supervisor)])[id]? = some s) :
    id = c.supervisors.length ∧ s = {} ∨ c.supervisors[id]? = some s := by
  rcases Nat.lt_trichotomy id c.supervisors.length with hlt | rfl | hgt
  · rw [List.getElem?_append_left hlt] at hs
    exact Or.inr hs
  · left
    simpa [eq_comm] using hs
  · have hlength : (c.supervisors ++ [({} : Supervisor)]).length ≤ id := by
      rw [List.length_append, List.length_singleton]
      omega
    rw [List.getElem?_eq_none hlength] at hs
    cases hs

theorem getElem?_modify_stop
    {j : Nat}
    (hs : (c.supervisors.modify id fun s => { s with stopping := true })[j]? = some s) :
    ∃ t, c.supervisors[j]? = some t ∧ (if id = j then { t with stopping := true } else t) = s := by
  simpa [List.getElem?_modify] using hs

end

/-! ### Order -/

/-- Supervisors and wishes to disconnect are in order. -/
structure Orderly (c : Connection) : Prop where
  held_lt : ∀ id, c.held = some id → id < c.supervisors.length
  leaving_lt : ∀ id ∈ c.leaving, id < c.supervisors.length
  stopping_iff : ∀ id s, c.supervisors[id]? = some s → s.isRunning = true →
    (s.stopping = true ↔ id ∈ c.leaving)
  held_of_goes : ∀ id s, c.supervisors[id]? = some s → s.isRunning = true →
    s.stopping = false → c.held = some id

namespace Orderly

variable {c d : Connection}

theorem ofPolicy
    (policy : ReconnectPolicy)
    (heartbeat : Option Duration) :
    Orderly (ofPolicy policy heartbeat) := by
  constructor <;> simp [Connection.ofPolicy]

/-- At most one supervisor goes on. -/
theorem eq_of_goes
    (h : Orderly c)
    {i j : Nat}
    {s t : Supervisor}
    (hi : c.supervisors[i]? = some s)
    (hs : s.isRunning = true)
    (hsgoes : s.stopping = false)
    (hj : c.supervisors[j]? = some t)
    (ht : t.isRunning = true)
    (htgoes : t.stopping = false) :
    i = j := by
  have hheld := (h.held_of_goes i s hi hs hsgoes).symm.trans (h.held_of_goes j t hj ht htgoes)
  simpa using hheld

/-- What is not held is awaited. -/
theorem mem_leaving_of_not_held
    (h : Orderly c)
    {id : Nat}
    {s : Supervisor}
    (hid : c.supervisors[id]? = some s)
    (hs : s.isRunning = true)
    (hheld : c.held ≠ some id) :
    id ∈ c.leaving := by
  cases hstop : s.stopping with
  | true =>
      exact (h.stopping_iff id s hid hs).1 hstop
  | false =>
      exact absurd (h.held_of_goes id s hid hs hstop) hheld

theorem kept
    (h : Orderly c)
    (hkept : Kept c d) :
    Orderly d := by
  obtain ⟨_, _, hsupervisors, hheld, hleaving⟩ := hkept
  constructor <;> rw [hsupervisors] <;> try rw [hheld]
  · exact h.held_lt
  · rw [hleaving]
    exact h.leaving_lt
  · rw [hleaving]
    exact h.stopping_iff
  · exact h.held_of_goes

/-- A supervisor may change as long as it neither begins to run nor changes its mind. -/
theorem put
    (h : Orderly c)
    {id : Nat}
    {s s' : Supervisor}
    (hid : c.supervisors[id]? = some s)
    (hstop : s'.stopping = s.stopping)
    (hrunning : s'.isRunning = true → s.isRunning = true) :
    Orderly (c.put id s') := by
  have hlength : (c.put id s').supervisors.length = c.supervisors.length := by
    simp [Connection.put]
  constructor
  · rw [hlength]
    exact h.held_lt
  · rw [hlength]
    exact h.leaving_lt
  · intro j t hj ht
    rw [getElem?_put hid] at hj
    split at hj
    next hij =>
      subst hij
      obtain rfl := Option.some.inj hj
      rw [hstop]
      exact h.stopping_iff id s hid (hrunning ht)
    next =>
      exact h.stopping_iff j t hj ht
  · intro j t hj ht htgoes
    rw [getElem?_put hid] at hj
    split at hj
    next hij =>
      subst hij
      obtain rfl := Option.some.inj hj
      rw [hstop] at htgoes
      exact h.held_of_goes id s hid (hrunning ht) htgoes
    next =>
      exact h.held_of_goes j t hj ht htgoes

theorem connect
    (h : Orderly c)
    (hheld : c.held.any c.isRunning = false) :
    Orderly
      { c with supervisors := c.supervisors ++ [{}], held := some c.supervisors.length } := by
  constructor
  · rintro id hid
    obtain rfl := Option.some.inj hid
    simp
  · intro id hid
    have := h.leaving_lt id hid
    simp only [List.length_append, List.length_singleton]
    omega
  · intro id s hs hrunning
    rcases getElem?_append_new hs with ⟨rfl, rfl⟩ | hs
    · have hnew : c.supervisors.length ∉ c.leaving := by
        intro hmem
        exact absurd (h.leaving_lt _ hmem) (Nat.lt_irrefl _)
      simpa using hnew
    · exact h.stopping_iff id s hs hrunning
  · intro id s hs hrunning hgoes
    rcases getElem?_append_new hs with ⟨rfl, rfl⟩ | hs
    · rfl
    · -- The one that goes on would be held, and then there would be no new one.
      rw [h.held_of_goes id s hs hrunning hgoes, Option.any_some,
        isRunning_of_getElem? hs, hrunning] at hheld
      cases hheld

theorem disconnect
    (h : Orderly c)
    {id : Nat}
    (hheld : c.held = some id) :
    Orderly
      { c with
        held := none
        leaving := c.leaving ++ [id]
        supervisors := c.supervisors.modify id fun s => { s with stopping := true } } := by
  constructor
  · simp
  · intro j hj
    rw [List.length_modify]
    rcases List.mem_append.1 hj with hj | hj
    · exact h.leaving_lt j hj
    · obtain rfl := List.mem_singleton.1 hj
      exact h.held_lt j hheld
  · intro j s hs hrunning
    obtain ⟨t, ht, rfl⟩ := getElem?_modify_stop hs
    rw [List.mem_append, List.mem_singleton]
    by_cases hj : id = j
    · simp [hj]
    · rw [if_neg hj] at hrunning ⊢
      rw [h.stopping_iff j t ht hrunning]
      simp [Ne.symm hj]
  · intro j s hs hrunning hgoes
    obtain ⟨t, ht, rfl⟩ := getElem?_modify_stop hs
    by_cases hj : id = j
    · simp [hj] at hgoes
    · rw [if_neg hj] at hrunning hgoes
      have := h.held_of_goes j t ht hrunning hgoes
      rw [hheld] at this
      exact absurd (Option.some.inj this) hj

/-- The wish that is completed awaited one that is not running any more. -/
theorem erase
    (h : Orderly c)
    {id : Nat}
    (hover : c.isRunning id = false)
    (effects : List Effect) :
    Orderly { c with leaving := c.leaving.erase id, effects := effects } := by
  refine ⟨h.held_lt, fun j hj => h.leaving_lt j (List.mem_of_mem_erase hj), ?_, h.held_of_goes⟩
  intro j s hs hrunning
  have hne : j ≠ id := by
    rintro rfl
    have hs : c.supervisors[j]? = some s := hs
    rw [isRunning_of_getElem? hs, hrunning] at hover
    cases hover
  rw [List.mem_erase_of_ne hne]
  exact h.stopping_iff j s hs hrunning

theorem move
    (h : Orderly c)
    (m : Move) :
    Orderly (c.move m) := by
  have hchange := c.change_move m
  generalize c.move m = d at hchange ⊢
  cases hchange with
  | quiet m notices =>
      exact h.kept ⟨rfl, rfl, rfl, rfl, rfl⟩
  | connect hheld =>
      exact h.connect hheld
  | settle hheld =>
      exact h.kept c.kept_settle
  | disconnect hheld =>
      exact h.disconnect hheld
  | finish notices hid hover =>
      exact (h.erase hover _).kept (kept_settle _)
  | turn o hid hturn =>
      have hkept := hturn.kept
      exact (h.kept hkept).put ((hkept.getElem?_eq _).trans hid) hturn.stopping_eq
        hturn.isRunning_of_isRunning
  | accept message hid hs houtlet hshown =>
      exact h.put hid rfl fun _ => isRunning_of_pumping hs

end Orderly

theorem orderly_run
    (policy : ReconnectPolicy)
    (heartbeat : Option Duration)
    (ms : List Move) :
    Orderly ((ofPolicy policy heartbeat).run ms) :=
  run_preserves (fun _ m h => h.move m) ms (.ofPolicy policy heartbeat)

/-! ### Wishes apart -/

/-- Whether a move is the wish to connect. -/
def Move.isConnect : Move → Bool
  | .connect => true
  | _ => false

/-- Whether a move is the wish to connect or to disconnect. -/
def Move.isWish : Move → Bool
  | .connect | .disconnect => true
  | _ => false

theorem Move.isWish_of_isConnect
    {m : Move}
    (hm : m.isConnect = true) :
    m.isWish = true := by
  cases m <;> first | rfl | cases hm

/-- Moves of a kind are made only while the end of no supervisor is awaited. -/
def Patient (kind : Move → Bool) : Connection → List Move → Prop
  | _, [] => True
  | c, m :: ms => (kind m = true → c.leaving = []) ∧ (c.move m).Patient kind ms

instance decidablePatient (kind : Move → Bool) :
    (c : Connection) → (ms : List Move) → Decidable (c.Patient kind ms)
  | _, [] => isTrue trivial
  | c, m :: ms =>
      have := decidablePatient kind (c.move m) ms
      inferInstanceAs (Decidable (_ ∧ _))

/-- Nobody wishes to connect while the end of a supervisor is awaited. -/
abbrev Apart : Connection → List Move → Prop := Patient Move.isConnect

/-- Nobody wishes to connect or to disconnect while the end of a supervisor is awaited. -/
abbrev InTurn : Connection → List Move → Prop := Patient Move.isWish

/-- A property that every move keeps if it is patient, in case it is of the kind, holds after
such moves. -/
theorem run_preserves_patient
    {kind : Move → Bool}
    {P : Connection → Prop}
    (hmove : ∀ c m, (kind m = true → c.leaving = []) → P c → P (c.move m))
    {ms : List Move}
    {c : Connection}
    (hpatient : c.Patient kind ms)
    (hc : P c) :
    P (c.run ms) := by
  induction ms generalizing c with
  | nil =>
      exact hc
  | cons m ms ih =>
      exact ih hpatient.2 (hmove c m hpatient.1 hc)

/-- Supervisors are in order, and none is held while the end of one is awaited. -/
structure Separate (c : Connection) : Prop extends Orderly c where
  alone : c.leaving ≠ [] → c.held = none

namespace Separate

variable {c : Connection}

theorem ofPolicy
    (policy : ReconnectPolicy)
    (heartbeat : Option Duration) :
    Separate (ofPolicy policy heartbeat) :=
  ⟨.ofPolicy policy heartbeat, by simp [Connection.ofPolicy]⟩

/-- While the end of a supervisor is awaited, it is so of all that are running. -/
theorem mem_leaving
    (h : Separate c)
    (hleaving : c.leaving ≠ [])
    {id : Nat}
    {s : Supervisor}
    (hid : c.supervisors[id]? = some s)
    (hs : s.isRunning = true) :
    id ∈ c.leaving := by
  refine h.mem_leaving_of_not_held hid hs ?_
  rw [h.alone hleaving]
  exact (Option.some_ne_none id).symm

/-- Beside a supervisor that is running, all that are running are awaited. -/
theorem mem_leaving_of_ne
    (h : Separate c)
    {i j : Nat}
    {s t : Supervisor}
    (hi : c.supervisors[i]? = some s)
    (hs : s.isRunning = true)
    (hj : c.supervisors[j]? = some t)
    (ht : t.isRunning = true)
    (hne : i ≠ j) :
    j ∈ c.leaving := by
  cases htstop : t.stopping with
  | true =>
      exact (h.stopping_iff j t hj ht).1 htstop
  | false =>
      cases hsstop : s.stopping with
      | true =>
          have hawaited := (h.stopping_iff i s hi hs).1 hsstop
          exact h.mem_leaving (List.ne_nil_of_mem hawaited) hj ht
      | false =>
          exact absurd (h.eq_of_goes hi hs hsstop hj ht htstop) hne

theorem move
    (h : Separate c)
    (m : Move)
    (hapart : m.isConnect = true → c.leaving = []) :
    Separate (c.move m) := by
  refine ⟨h.toOrderly.move m, ?_⟩
  have halone := h.alone
  have hchange := c.change_move m
  generalize c.move m = d at hchange ⊢
  cases hchange with
  | quiet m notices =>
      exact halone
  | connect hheld =>
      intro hleaving
      exact absurd (hapart rfl) hleaving
  | settle hheld =>
      rw [c.kept_settle.leaving, c.kept_settle.held]
      exact halone
  | disconnect hheld =>
      intro _
      rfl
  | finish notices hid hover =>
      intro _
      rw [(kept_settle _).held]
      exact halone (List.ne_nil_of_mem hid)
  | turn o hid hturn =>
      have hkept := hturn.kept
      intro hleaving
      exact hkept.held.trans (halone (hkept.leaving ▸ hleaving))
  | accept message hid hs houtlet hshown =>
      exact halone

end Separate

/-- Supervisors are in order, none is held while the end of one is awaited, and only one at
most is awaited. -/
structure Sole (c : Connection) : Prop extends Separate c where
  leaving_le : c.leaving.length ≤ 1

namespace Sole

variable {c : Connection}

theorem ofPolicy
    (policy : ReconnectPolicy)
    (heartbeat : Option Duration) :
    Sole (ofPolicy policy heartbeat) :=
  ⟨.ofPolicy policy heartbeat, Nat.zero_le _⟩

theorem leaving_eq
    (h : Sole c)
    {id : Nat}
    (hid : id ∈ c.leaving) :
    c.leaving = [id] := by
  obtain ⟨other, hone⟩ : ∃ other, c.leaving = [other] := by
    refine List.length_eq_one_iff.1 (Nat.le_antisymm h.leaving_le ?_)
    exact List.length_pos_of_mem hid
  rw [hone, List.mem_singleton] at hid
  rw [hone, hid]

/-- At most one supervisor is running. -/
theorem eq_of_isRunning
    (h : Sole c)
    {i j : Nat}
    (hi : c.isRunning i = true)
    (hj : c.isRunning j = true) :
    i = j := by
  obtain ⟨s, hs, hsrunning⟩ := isRunning_iff.1 hi
  obtain ⟨t, ht, htrunning⟩ := isRunning_iff.1 hj
  refine Decidable.byContradiction fun hne => hne ?_
  -- Of two that run, both are awaited.
  have hileaving := h.mem_leaving_of_ne ht htrunning hs hsrunning (Ne.symm hne)
  have hjleaving := h.mem_leaving_of_ne hs hsrunning ht htrunning hne
  rw [h.leaving_eq hjleaving] at hileaving
  exact List.mem_singleton.1 hileaving

theorem move
    (h : Sole c)
    (m : Move)
    (hinTurn : m.isWish = true → c.leaving = []) :
    Sole (c.move m) := by
  refine ⟨h.toSeparate.move m fun hm => hinTurn (Move.isWish_of_isConnect hm), ?_⟩
  have hle := h.leaving_le
  have hchange := c.change_move m
  generalize c.move m = d at hchange ⊢
  cases hchange with
  | settle _ =>
      rwa [c.kept_settle.leaving]
  | disconnect _ =>
      simp [hinTurn rfl]
  | finish notices _ _ =>
      rw [(kept_settle _).leaving]
      exact Nat.le_trans List.length_erase_le hle
  | turn _ _ hturn =>
      exact hturn.kept.leaving ▸ hle
  | _ =>
      exact hle

end Sole

end Connection

end RemoteRun
