import RemoteRun.Proofs.Connection.Conveyance

/-!
# What comes over lines

**Received.** A text comes over a line when the pump of that line takes it, which it does
unless it is to stop.  Nothing of a line is taken after its end, its failure or the stop.

**Invariant.** The pump that is not to stop pumps the line that was opened last
(`Newest`): two pumps may exist side by side, but the older one is to stop.

**Results.**
* `delivered_move`: a move delivers exactly the text that it receives.
* `Receptive.of_received`: what is received comes over the newest line, and then no line is
  opened.
-/

namespace RemoteRun

namespace Connection

/-- The texts that have come over lines and wait to be taken over. -/
def delivered (c : Connection) : List String :=
  c.effects.filterMap Effect.frame?

/-- The text that a move brings over a line, with the line: its pump is not to stop. -/
def received (c : Connection) : Move → List (Nat × String)
  | .turn id (.received text) =>
      match c.supervisors[id]? with
      | some s => if s.stopping then [] else (s.activity.line?.map (·, text)).toList
      | none => []
  | _ => []

theorem run_append
    (c : Connection)
    (ms more : List Move) :
    c.run (ms ++ more) = (c.run ms).run more := by
  induction ms generalizing c with
  | nil =>
      rfl
  | cons m ms ih =>
      exact ih (c.move m)

/-! ### What is delivered -/

section Delivered

variable (c : Connection)

@[simp] theorem delivered_emit
    (e : Effect) :
    (c.emit e).delivered = c.delivered ++ e.frame?.toList := by
  simp only [delivered, emit, List.filterMap_append]
  cases h : e.frame? <;> simp [h]

@[simp] theorem delivered_reveal
    (s : ConnectionState) :
    (c.reveal s).delivered = c.delivered := by
  unfold reveal
  split
  · rfl
  · exact (delivered_emit _ _).trans (List.append_nil _)

@[simp] theorem delivered_noted
    (notices : List Notice) :
    (c.noted notices).delivered = c.delivered := by
  simp [delivered, noted, List.filterMap_map, Function.comp_def, Effect.frame?]

@[simp] theorem delivered_put
    (id : Nat)
    (s : Supervisor) :
    (c.put id s).delivered = c.delivered :=
  rfl

@[simp] theorem delivered_settle :
    c.settle.delivered = c.delivered :=
  delivered_reveal _ _

variable (id : Nat) (s : Supervisor)

theorem delivered_start :
    (c.start id s).delivered = c.delivered := by
  unfold start openLine
  split <;> simp [Effect.frame?]

theorem delivered_useLine :
    (c.useLine id s).delivered = c.delivered := by
  unfold useLine
  dsimp only
  split <;> rw [delivered_put, delivered_reveal] <;> rfl

theorem delivered_retry :
    (c.retry id s).delivered = c.delivered := by
  obtain ⟨s', d, hretry, hd⟩ := c.retry_cases id s
  rw [hd, delivered_put]
  cases hretry <;> simp [note, Effect.frame?]

theorem delivered_lose
    (reason : String) :
    (c.lose id s reason).delivered = c.delivered := by
  rw [lose, delivered_retry, note, delivered_emit]
  exact List.append_nil _

theorem delivered_writeNext
    (line : Nat)
    (result : Except TransportError Unit)
    (queue : List String) :
    (c.writeNext id s line result queue).delivered = c.delivered := by
  unfold writeNext
  split
  · rfl
  · split
    · simp [Effect.frame?]
    · exact c.delivered_lose id s _

theorem delivered_writeBeat
    (line : Nat)
    (result : Except TransportError Unit) :
    (c.writeBeat id s line result).delivered = c.delivered := by
  unfold writeBeat
  split
  · simp [Effect.frame?]
  · exact c.delivered_lose id s _

/-- A supervisor that stops delivers nothing. -/
theorem delivered_stop :
    (c.stop id s).delivered = c.delivered := by
  unfold stop
  split
  · exact c.delivered_start id s
  · rfl
  · rfl
  · exact (c.delivered_emit _).trans (List.append_nil _)
  · rfl
  · rfl

/-- A supervisor delivers the text that it takes while it pumps a line. -/
theorem delivered_observe
    (o : Observation) :
    (c.observe id s o).delivered =
      c.delivered ++
        match o with
        | .received text => (s.activity.line?.map fun _ => text).toList
        | _ => [] := by
  unfold observe
  cases hs : s.activity with
  | starting =>
      cases o <;> simp [Activity.line?, delivered_start]
  | opening =>
      cases o <;> simp [Activity.line?, delivered_useLine, refuse, delivered_retry, note,
        Effect.frame?]
  | pumping line queue =>
      cases o <;> simp [Activity.line?, delivered_lose, delivered_writeNext,
        delivered_writeBeat, Effect.frame?]
  | delaying =>
      cases o <;> simp [Activity.line?, openLine, Effect.frame?]
  | returned =>
      cases o <;> simp [Activity.line?]
  | panicked =>
      cases o <;> simp [Activity.line?]

theorem delivered_turn
    (o : Observation) :
    (c.turn id o).delivered = c.delivered ++ (c.received (.turn id o)).map Prod.snd := by
  unfold turn
  cases hid : c.supervisors[id]? with
  | none =>
      cases o <;> simp [received, hid]
  | some s =>
      cases hstops : s.stopping with
      | true =>
          cases o <;> simp [received, hid, hstops, delivered_stop, delivered_observe]
      | false =>
          cases o <;> simp [received, hid, hstops, delivered_observe]
          cases s.activity.line? <;> simp

end Delivered

/-- A move delivers exactly the text that it receives. -/
theorem delivered_move
    (c : Connection)
    (m : Move) :
    (c.move m).delivered = c.delivered ++ (c.received m).map Prod.snd := by
  have hquiet :
      (∀ id o, m ≠ .turn id o) → (c.move m).delivered = c.delivered := by
    intro hm
    have hchange := c.change_move m
    generalize c.move m = d at hchange ⊢
    cases hchange with
    | quiet m notices =>
        exact c.delivered_noted notices
    | settle _ =>
        exact c.delivered_settle
    | finish notices _ _ =>
        rw [delivered_settle]
        exact c.delivered_noted notices
    | turn o _ _ =>
        exact absurd rfl (hm _ o)
    | _ =>
        rfl
  cases m with
  | turn id o =>
      exact c.delivered_turn id o
  | _ =>
      rw [hquiet (by simp)]
      simp [received]

/-! ### The newest line -/

/-- A pump that is not to stop pumps the line that was opened last. -/
def Newest (c : Connection) : Prop :=
  ∀ (id : Nat) (s : Supervisor) (line : Nat),
    c.supervisors[id]? = some s → s.activity.line? = some line → s.stopping = false →
      line + 1 = c.lines

/-- Whether any part of a program may ask for a move: a wish to connect or to disconnect, or
a message. -/
def Move.isAsked : Move → Bool
  | .connect | .disconnect | .send _ => true
  | .finishDisconnect _ | .turn _ _ => false

theorem isRunning_of_line?
    {s : Supervisor}
    {line : Nat}
    (hs : s.activity.line? = some line) :
    s.isRunning = true := by
  cases hactivity : s.activity <;> rw [hactivity] at hs <;>
    simp_all [Activity.line?, Supervisor.isRunning, Activity.isOver]

theorem lines_settle
    (c : Connection) :
    c.settle.lines = c.lines :=
  lines_reveal _ _

/-- A turn opens the line that its supervisor pumps then, or opens one that nobody pumps, or
opens none and its supervisor pumps no other line than before. -/
theorem Turn.lines_cases
    {c d : Connection}
    {id : Nat}
    {s s' : Supervisor}
    (h : Turn c id s s' d) :
    (s.activity = .opening ∧ s.stopping = false ∧ d.lines = c.lines + 1 ∧
        (s'.activity.line? = some c.lines ∨ s'.activity.line? = none)) ∨
      d.lines = c.lines ∧ ∀ line, s'.activity.line? = some line → s.activity.line? = some line := by
  cases h with
  | use hs hgoes hbeat =>
      exact Or.inl ⟨hs, hgoes, lines_reveal _ _, Or.inl rfl⟩
  | spoil hs hgoes hbeat =>
      exact Or.inl ⟨hs, hgoes, lines_reveal _ _, Or.inr rfl⟩
  | retry hs hretry =>
      right
      obtain ⟨_, hlines⟩ := hs.written_eq
      cases hretry <;> simp [note, emit_lines, hlines, Supervisor.turnTo, Activity.line?]
  | write hs =>
      exact Or.inr ⟨rfl, by simp [Supervisor.turnTo, Activity.line?, hs]⟩
  | stay =>
      exact Or.inr ⟨rfl, fun _ hline => hline⟩
  | deliver text hs hgoes =>
      exact Or.inr ⟨rfl, fun _ hline => hline⟩
  | beat hs =>
      exact Or.inr ⟨rfl, fun _ hline => hline⟩
  | _ =>
      exact Or.inr ⟨by simp [emit_lines], by simp [Supervisor.turnTo, Activity.line?]⟩

namespace Newest

variable {c d : Connection}

theorem of_same
    (h : c.Newest)
    (hsupervisors : d.supervisors = c.supervisors)
    (hlines : d.lines = c.lines) :
    d.Newest := by
  intro id s line hid hline hgoes
  rw [hsupervisors] at hid
  rw [hlines]
  exact h id s line hid hline hgoes

theorem turn
    (h : c.Newest)
    (horderly : c.Orderly)
    {id : Nat}
    {s s' : Supervisor}
    (hid : c.supervisors[id]? = some s)
    (hturn : Turn c id s s' d) :
    (d.put id s').Newest := by
  intro j t line hj hline hgoes
  have hid' : d.supervisors[id]? = some s := by
    rw [hturn.kept.supervisors]
    exact hid
  rw [getElem?_put hid'] at hj
  rcases hturn.lines_cases with ⟨hopening, hsgoes, hlines, hs'⟩ | ⟨hlines, hs'⟩
  · split at hj
    next heq =>
      obtain rfl := Option.some.inj hj
      rcases hs' with hs' | hs'
      · obtain rfl := Option.some.inj (hs'.symm.trans hline)
        exact hlines.symm
      · rw [hs'] at hline
        cases hline
    next hne =>
      -- Two supervisors would go on: the one that opens the line and the one that pumps.
      rw [hturn.kept.supervisors] at hj
      have hopens : s.isRunning = true := by
        simp [Supervisor.isRunning, Activity.isOver, hopening]
      exact absurd
        (horderly.eq_of_goes hid hopens hsgoes hj (isRunning_of_line? hline) hgoes) hne
  · have hsame : (d.put id s').lines = c.lines :=
      hlines
    rw [hsame]
    split at hj
    next heq =>
      obtain rfl := Option.some.inj hj
      rw [hturn.stopping_eq] at hgoes
      exact h id s line hid (hs' line hline) hgoes
    next hne =>
      rw [hturn.kept.supervisors] at hj
      exact h j t line hj hline hgoes

/-- Every move keeps the pump that is not to stop at the newest line. -/
theorem move
    (h : c.Newest)
    (horderly : c.Orderly)
    (m : Move) :
    (c.move m).Newest := by
  have hchange := c.change_move m
  generalize c.move m = d at hchange ⊢
  cases hchange with
  | quiet m notices =>
      exact h.of_same rfl rfl
  | connect hheld =>
      intro id s line hid hline hgoes
      rcases getElem?_append_new hid with ⟨_, rfl⟩ | hid
      · cases hline
      · exact h id s line hid hline hgoes
  | settle hheld =>
      exact h.of_same c.kept_settle.supervisors c.lines_settle
  | disconnect hheld =>
      intro id s line hid hline hgoes
      obtain ⟨t, ht, rfl⟩ := getElem?_modify_stop hid
      split at hgoes
      · cases hgoes
      · next hne =>
          rw [if_neg hne] at hline
          exact h id t line ht hline hgoes
  | finish notices hid hover =>
      exact h.of_same (kept_settle _).supervisors (lines_settle _)
  | turn o hid hturn =>
      exact h.turn horderly hid hturn
  | accept message hid hs houtlet hshown =>
      intro j t line hj hline hgoes
      rw [getElem?_put hid] at hj
      split at hj
      next heq =>
        obtain rfl := Option.some.inj hj
        refine h _ _ line hid ?_ hgoes
        rw [hs]
        exact hline
      next hne =>
        exact h j t line hj hline hgoes

end Newest

/-! ### Moves -/

/-- What comes over lines is taken over at once, and supervisors are in order. -/
structure Receptive (c : Connection) : Prop where
  orderly : c.Orderly
  newest : c.Newest
  taken : c.delivered = []

namespace Receptive

variable {c : Connection}

theorem ofPolicy
    (policy : ReconnectPolicy)
    (heartbeat : Option Duration) :
    (ofPolicy policy heartbeat).Receptive := by
  refine ⟨.ofPolicy policy heartbeat, ?_, rfl⟩
  intro id s line hid
  simp [Connection.ofPolicy] at hid

/-- What a move receives comes over the newest line, and then no line is opened. -/
theorem of_received
    (h : c.Receptive)
    {m : Move}
    {line : Nat}
    {text : String}
    (hreceived : (line, text) ∈ c.received m) :
    c.received m = [(line, text)] ∧ line + 1 = c.lines ∧ (c.move m).lines = c.lines := by
  unfold received at hreceived ⊢
  split at hreceived
  next id text' =>
    cases hid : c.supervisors[id]? with
    | none =>
        simp [hid] at hreceived
    | some s =>
        cases hstops : s.stopping with
        | true =>
            simp [hid, hstops] at hreceived
        | false =>
            simp only [hid, hstops, Bool.false_eq_true, if_false, Option.mem_toList,
              Option.map_eq_some_iff, Prod.mk.injEq] at hreceived
            obtain ⟨line', hline, rfl, rfl⟩ := hreceived
            refine ⟨by simp [hstops, hline], h.newest id s line' hid hline hstops, ?_⟩
            have hpumps : ∃ queue, s.activity = .pumping line' queue := by
              cases hs : s.activity <;> rw [hs] at hline <;> cases hline
              exact ⟨_, rfl⟩
            obtain ⟨queue, hs⟩ := hpumps
            simp [move, turn, hid, hstops, observe, hs, emit]
  next =>
    cases hreceived

/-- A move opens at most one line. -/
theorem lines_le
    (c : Connection)
    (m : Move) :
    (c.move m).lines = c.lines ∨ (c.move m).lines = c.lines + 1 := by
  have hchange := c.change_move m
  generalize c.move m = d at hchange ⊢
  cases hchange with
  | settle _ =>
      exact Or.inl c.lines_settle
  | finish _ _ _ =>
      exact Or.inl (lines_settle _)
  | turn o hid hturn =>
      rcases hturn.lines_cases with ⟨_, _, hlines, _⟩ | ⟨hlines, _⟩
      · exact Or.inr hlines
      · exact Or.inl hlines
  | _ =>
      exact Or.inl rfl

/-- What is asked for receives nothing and opens no line. -/
theorem asked
    (h : c.Receptive)
    {m : Move}
    (hm : m.isAsked = true) :
    (c.move m).Receptive ∧ (c.move m).lines = c.lines := by
  have hreceived : c.received m = [] := by
    cases m <;> first | rfl | cases hm
  have hlines : (c.move m).lines = c.lines := by
    have hchange := c.change_move m
    generalize c.move m = d at hchange ⊢
    cases hchange with
    | settle _ =>
        exact c.lines_settle
    | finish _ _ _ =>
        cases hm
    | turn _ _ _ =>
        cases hm
    | _ =>
        rfl
  refine ⟨⟨h.orderly.move m, h.newest.move h.orderly m, ?_⟩, hlines⟩
  rw [delivered_move, h.taken, hreceived]
  rfl

theorem asked_run
    (h : c.Receptive)
    {ms : List Move}
    (hms : ∀ m ∈ ms, m.isAsked = true) :
    (c.run ms).Receptive ∧ (c.run ms).lines = c.lines := by
  induction ms generalizing c with
  | nil =>
      exact ⟨h, rfl⟩
  | cons m ms ih =>
      obtain ⟨hnext, hlines⟩ := h.asked (hms m List.mem_cons_self)
      obtain ⟨hrest, hlines'⟩ := ih hnext fun m' hm' => hms m' (List.mem_cons_of_mem m hm')
      exact ⟨hrest, hlines'.trans hlines⟩

end Receptive

end Connection

end RemoteRun
