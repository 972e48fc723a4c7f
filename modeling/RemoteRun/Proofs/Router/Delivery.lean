import RemoteRun.Proofs.Router.History

/-!
# Which handlers a dispatch calls

**Dispatches.**  The events of a dispatch are its calls, each with its end, and its report.
Between them stand the events of the dispatches that handlers make.

**Invariant.**  What an action writes down is `Orderly`: every dispatch that begins takes
the next number, and all that belongs to it follows.  The dispatch that is underway is the
only older one that still writes.

**Results.**
* `Hub.callAll_grows`: the calls of a dispatch, one after the other.
* `Hub.act_grows`, `Hub.run_grows`: what an action and a run write down is orderly.
* `Hub.run_lawful`: every dispatch calls the handlers that were registered when it began,
  the failures are those that were reported, and subscriptions end once.
-/

namespace RemoteRun

namespace RouterEvent

variable {η : Type}

/-- The failures that are reported. -/
def failed : RouterEvent η → Nat
  | .reported _ report => report.failed
  | _ => 0

end RouterEvent

namespace History

variable {η : Type}

/-- The events of one dispatch. -/
def ofDispatch (past : History η) (k : Nat) : History η :=
  past.filter fun e => e.dispatch? == some k

/-- The failures in all reports. -/
def failed : History η → Nat
  | [] => 0
  | e :: past => e.failed + failed past

/-- Calls of handlers, one after the other, each with its end. -/
def exchange (k : Nat) (calls : List (η × HandlerOutcome)) : History η :=
  calls.flatMap fun call => [.called k call.1, .returned k call.2]

/-- The calls that did not end well. -/
def faults (calls : List (η × HandlerOutcome)) : Nat :=
  calls.countP fun call => call.2.fault?.isSome

/-- The handlers of the routes that take a message. -/
def recipients (routes : List (Nat × Route η)) (m : Message) : List η :=
  ((routes.map Prod.snd).filter fun route => route.matcher.accepts m.kind).map Route.handler

/-- All of a dispatch comes after it has begun: it calls the recipients among routes in
order, each once, and reports how many were called and how many failed. -/
def Delivered (k : Nat) (m : Message) (routes : List (Nat × Route η)) (after : History η) :
    Prop :=
  ∃ calls : List (η × HandlerOutcome),
    calls.map Prod.fst = recipients routes m ∧
      after.ofDispatch k = exchange k calls ++ [.reported k ⟨calls.length, faults calls⟩]

section Counting

variable (past more : History η)

@[simp] theorem ofDispatch_append (k : Nat) :
    ofDispatch (past ++ more) k = past.ofDispatch k ++ more.ofDispatch k :=
  List.filter_append past more

@[simp] theorem failed_append :
    failed (past ++ more) = failed past + failed more := by
  induction past with
  | nil =>
      simp [failed]
  | cons e past ih =>
      rw [List.cons_append, failed, failed, ih, Nat.add_assoc]

theorem faults_cons
    (call : η × HandlerOutcome)
    (calls : List (η × HandlerOutcome)) :
    faults (call :: calls) = faults calls + call.2.fault?.isSome.toNat := by
  unfold faults
  rw [List.countP_cons]
  cases call.2.fault? <;> rfl

theorem dispatches_le_append :
    past.dispatches ≤ dispatches (past ++ more) := by
  simp

theorem ofDispatch_reported
    (k : Nat)
    (report : DispatchReport) :
    ofDispatch [(.reported k report : RouterEvent η)] k = [.reported k report] := by
  simp [ofDispatch, RouterEvent.dispatch?]

theorem ofDispatch_eq_nil
    {past : History η}
    {k : Nat}
    (h : ∀ e ∈ past, e.dispatch? ≠ some k) :
    past.ofDispatch k = [] := by
  rw [ofDispatch, List.filter_eq_nil_iff]
  intro e he
  simpa using h e he

end Counting

theorem Delivered.append
    {k : Nat}
    {m : Message}
    {routes : List (Nat × Route η)}
    {after : History η}
    (h : Delivered k m routes after)
    {more : History η}
    (hmore : more.ofDispatch k = []) :
    Delivered k m routes (after ++ more) := by
  obtain ⟨calls, hcalls, hafter⟩ := h
  exact ⟨calls, hcalls, by rw [ofDispatch_append, hmore, hafter, List.append_nil]⟩

/-- What is written down after a history, while a dispatch may be underway. -/
structure Orderly (underway : Option Nat) (past more : History η) : Prop where
  recent : ∀ e ∈ more, ∀ k, e.dispatch? = some k → past.dispatches ≤ k ∨ underway = some k
  begun : ∀ e ∈ more, ∀ k, e.dispatch? = some k → k < dispatches (past ++ more)
  delivered : ∀ (before : History η) k m (after : History η),
    more = before ++ .began k m :: after →
      k = dispatches (past ++ before) ∧ before.ofDispatch k = [] ∧
        Delivered k m (live (past ++ before)) after

namespace Orderly

variable {underway : Option Nat} {past more others : History η}

/-- Events that belong to no dispatch. -/
theorem apart
    (h : ∀ e ∈ more, e.dispatch? = none) :
    Orderly underway past more where
  recent := by
    intro e he k hk
    cases (h e he).symm.trans hk
  begun := by
    intro e he k hk
    cases (h e he).symm.trans hk
  delivered := by
    intro before k m after hsplit
    cases h (.began k m) (by simp [hsplit])

/-- An event of the dispatch that is underway, other than its beginning. -/
theorem single
    {e : RouterEvent η}
    (he : ∀ k, e.dispatch? = some k → underway = some k ∧ k < past.dispatches)
    (hbegins : e.begins = false) :
    Orderly underway past [e] where
  recent := by
    intro x hx k hk
    obtain rfl := List.mem_singleton.1 hx
    exact Or.inr (he k hk).1
  begun := by
    intro x hx k hk
    obtain rfl := List.mem_singleton.1 hx
    exact (he k hk).2.trans_le (past.dispatches_le_append _)
  delivered := by
    intro before k m after h
    have hmem : RouterEvent.began k m ∈ [e] := by
      simp [h]
    obtain rfl := List.mem_singleton.1 hmem
    simp [RouterEvent.begins] at hbegins

/-- Nothing of a dispatch that has begun and is not underway is written down. -/
theorem silent
    (h : Orderly underway past more)
    {k : Nat}
    (hk : k < past.dispatches)
    (hother : underway ≠ some k) :
    more.ofDispatch k = [] := by
  apply ofDispatch_eq_nil
  intro e he hdispatch
  rcases h.recent e he k hdispatch with hle | hunderway
  · omega
  · exact hother hunderway

/-- Nothing of a dispatch that has not begun is written down. -/
theorem unheard
    (h : Orderly underway past more)
    {k : Nat}
    (hk : dispatches (past ++ more) ≤ k) :
    more.ofDispatch k = [] := by
  apply ofDispatch_eq_nil
  intro e he hdispatch
  have hlt := h.begun e he k hdispatch
  omega

theorem within
    (h : Orderly none past more)
    (underway : Option Nat) :
    Orderly underway past more where
  recent := by
    intro e he k hk
    rcases h.recent e he k hk with hle | hnone
    · exact Or.inl hle
    · cases hnone
  begun := h.begun
  delivered := h.delivered

/-- Actions follow one another. -/
theorem append
    (hmore : Orderly underway past more)
    (hothers : Orderly underway (past ++ more) others)
    (hunderway : ∀ k, underway = some k → k < past.dispatches) :
    Orderly underway past (more ++ others) where
  recent := by
    intro e he k hk
    rcases List.mem_append.1 he with he | he
    · exact hmore.recent e he k hk
    · exact (hothers.recent e he k hk).imp_left (past.dispatches_le_append more).trans
  begun := by
    intro e he k hk
    rw [← List.append_assoc]
    rcases List.mem_append.1 he with he | he
    · exact (hmore.begun e he k hk).trans_le (dispatches_le_append _ others)
    · exact hothers.begun e he k hk
  delivered := by
    intro before k m after hsplit
    rcases split_of_append hsplit with ⟨rest, hhere, rfl⟩ | ⟨rest, rfl, hhere⟩
    · obtain ⟨hk, hbefore, hafter⟩ := hmore.delivered before k m rest hhere
      have hbegan : past.dispatches ≤ k ∧ k < dispatches (past ++ more) := by
        constructor
        · exact hk ▸ past.dispatches_le_append before
        · exact hmore.begun (.began k m) (by simp [hhere]) k rfl
      have hlater : others.ofDispatch k = [] := by
        apply hothers.silent hbegan.2
        intro hsome
        have hlt := hunderway k hsome
        omega
      exact ⟨hk, hbefore, hafter.append hlater⟩
    · obtain ⟨hk, hbefore, hafter⟩ := hothers.delivered rest k m after hhere
      have hearlier : more.ofDispatch k = [] := by
        apply hmore.unheard
        exact hk ▸ dispatches_le_append (past ++ more) rest
      rw [ofDispatch_append, hearlier, hbefore, ← List.append_assoc]
      exact ⟨hk, rfl, hafter⟩

/-- A dispatch as a whole is orderly if what comes between its beginning and its report
is. -/
theorem block
    {m : Message}
    {report : DispatchReport}
    (h : Orderly (some past.dispatches) (past ++ [.began past.dispatches m]) more)
    (hdelivered : Delivered past.dispatches m past.live
      (more ++ [.reported past.dispatches report])) :
    Orderly underway past
      (.began past.dispatches m :: (more ++ [.reported past.dispatches report])) := by
  have hcount : dispatches (past ++ [.began past.dispatches m]) = past.dispatches + 1 := by
    simp [dispatches, RouterEvent.begins]
  have hlast : Orderly (some past.dispatches) ((past ++ [.began past.dispatches m]) ++ more)
      [.reported past.dispatches report] := by
    refine single ?_ rfl
    rintro k ⟨⟩
    have hle := dispatches_le_append (past ++ [.began past.dispatches m]) more
    exact ⟨rfl, by omega⟩
  have hbody := h.append hlast (by rintro k ⟨⟩; omega)
  refine ⟨?_, ?_, ?_⟩
  · intro e he k hk
    rcases List.mem_cons.1 he with rfl | he
    · cases hk
      exact Or.inl le_rfl
    · rcases hbody.recent e he k hk with hle | hsome
      · exact Or.inl (by omega)
      · cases hsome
        exact Or.inl le_rfl
  · intro e he k hk
    rw [← List.singleton_append, ← List.append_assoc]
    rcases List.mem_cons.1 he with rfl | he
    · cases hk
      have hle := dispatches_le_append (past ++ [.began past.dispatches m])
        (more ++ [.reported past.dispatches report])
      omega
    · exact hbody.begun e he k hk
  · intro before k m' after hsplit
    cases before with
    | nil =>
        obtain ⟨⟨rfl, rfl⟩, rfl⟩ := List.cons.inj hsplit
        rw [List.append_nil]
        exact ⟨rfl, rfl, hdelivered⟩
    | cons x before =>
        obtain ⟨rfl, hrest⟩ := List.cons.inj hsplit
        obtain ⟨hk, hbefore, hafter⟩ := hbody.delivered before k m' after hrest
        have hne : past.dispatches ≠ k := by
          have hle := dispatches_le_append (past ++ [.began past.dispatches m]) before
          omega
        rw [List.append_assoc, List.singleton_append] at hk hafter
        refine ⟨hk, ?_, hafter⟩
        simpa [ofDispatch, RouterEvent.dispatch?, hne] using hbefore

end Orderly

end History

namespace Hub

open History

variable {η : Type} (conduct : Conduct η)

/-- A change of what is registered is written down, if it is one. -/
theorem edit_writes
    (b : Hub η)
    (e : RouterEdit η) :
    ∃ more : History η, (b.edit e).world.past = b.world.past ++ more ∧
      (∀ x ∈ more, x.dispatch? = none) ∧ more.failed = 0 ∧
        (b.edit e).router.failures = b.router.failures := by
  have hone : ∀ x : RouterEvent η, x.dispatch? = none → ∀ y ∈ [x], y.dispatch? = none := by
    intro x hdispatch y hy
    obtain rfl := List.mem_singleton.1 hy
    exact hdispatch
  cases e with
  | on kind handler =>
      exact ⟨_, rfl, hone _ rfl, rfl, rfl⟩
  | onPattern text handler =>
      simp only [edit, Router.onPattern?]
      cases Pattern.read? text with
      | none =>
          exact ⟨[], by simp, by simp, rfl, rfl⟩
      | some p =>
          exact ⟨_, rfl, hone _ rfl, rfl, rfl⟩
  | onRegex p text handler =>
      exact ⟨_, rfl, hone _ rfl, rfl, rfl⟩
  | unsubscribe number =>
      simp only [edit]
      cases b.world.tokens[number]? with
      | none =>
          exact ⟨[], by simp, by simp, rfl, rfl⟩
      | some token =>
          exact ⟨_, rfl, hone _ rfl, rfl, rfl⟩

/-- What happened between two states of a router, while a dispatch may be underway; its
failures so far have not been reported. -/
structure Grows (underway : Option Nat) (b b' : Hub η) (more : History η) (owed : Nat) :
    Prop where
  kept : b'.Kept
  past_eq : b'.world.past = b.world.past ++ more
  orderly : Orderly underway b.world.past more
  failures : b'.router.failures = b.router.failures + more.failed + owed

namespace Grows

variable {underway : Option Nat} {b b' b'' : Hub η} {more others : History η}

theorem refl (h : b.Kept) : Grows underway b b [] 0 where
  kept := h
  past_eq := (List.append_nil _).symm
  orderly := .apart nofun
  failures := rfl

theorem trans
    {owed due : Nat}
    (h : Grows underway b b' more owed)
    (h' : Grows underway b' b'' others due)
    (hunderway : ∀ k, underway = some k → k < b.world.past.dispatches) :
    Grows underway b b'' (more ++ others) (owed + due) where
  kept := h'.kept
  past_eq := by
    rw [h'.past_eq, h.past_eq, List.append_assoc]
  orderly := h.orderly.append (h.past_eq ▸ h'.orderly) hunderway
  failures := by
    rw [h'.failures, h.failures, failed_append]
    omega

theorem within
    {owed : Nat}
    (h : Grows none b b' more owed)
    (underway : Option Nat) :
    Grows underway b b' more owed :=
  ⟨h.kept, h.past_eq, h.orderly.within underway, h.failures⟩

theorem dispatches_le
    {owed : Nat}
    (h : Grows underway b b' more owed) :
    b.world.past.dispatches ≤ b'.world.past.dispatches :=
  h.past_eq ▸ b.world.past.dispatches_le_append more

/-- The dispatch that is underway writes down that it calls a handler, or that a call
ended. -/
theorem write
    {k : Nat}
    (h : b.Kept)
    (hk : k < b.world.past.dispatches)
    {e : RouterEvent η}
    (he : e.dispatch? = some k)
    (hbegins : e.begins = false)
    (hfailed : e.failed = 0) :
    Grows (some k) b (b.write e) [e] 0 where
  kept := h.write_dispatch (by simp [he])
  past_eq := rfl
  orderly := by
    refine .single ?_ hbegins
    intro k' hk'
    cases he.symm.trans hk'
    exact ⟨rfl, hk⟩
  failures := by
    simp [History.failed, hfailed]

theorem settle
    (h : b.Kept)
    (m : Message)
    (route : Route η)
    (outcome : HandlerOutcome) :
    Grows underway b (b.settle m route outcome) [] outcome.fault?.isSome.toNat where
  kept := h.settle m route outcome
  past_eq := by
    rw [Bus.settle_world, List.append_nil]
  orderly := .apart nofun
  failures := by
    unfold Bus.settle
    cases outcome.fault? <;> rfl

/-- A change of what is registered is no part of a dispatch. -/
theorem edit
    (h : b.Kept)
    (e : RouterEdit η) :
    ∃ more, Grows none b (b.edit e) more 0 := by
  obtain ⟨more, hpast, hapart, hfailed, hfailures⟩ := edit_writes b e
  refine ⟨more, h.edit e, hpast, .apart hapart, ?_⟩
  rw [hfailures, hfailed, Nat.add_zero]

end Grows

theorem recipients_live
    {b : Hub η}
    (h : b.Kept)
    (m : Message) :
    (b.router.matching m.kind).map Route.handler = recipients b.world.past.live m := by
  simp [Router.matching, Registry.listeners, recipients, h.entries, Function.comp_def]

/-- What actions write down is orderly, and their failures are reported. -/
def ActsOrderly (act : Hub η → RouterAction η → Hub η) : Prop :=
  ∀ b : Hub η, b.Kept → ∀ a, ∃ more, Grows none b (act b a) more 0

section Calls

variable {act : Hub η → RouterAction η → Hub η} (hact : ActsOrderly act)
include hact

theorem foldl_grows
    (actions : List (RouterAction η))
    {b : Hub η}
    (h : b.Kept) :
    ∃ more, Grows none b (actions.foldl act b) more 0 := by
  induction actions generalizing b with
  | nil =>
      exact ⟨[], .refl h⟩
  | cons a actions ih =>
      obtain ⟨more, hmore⟩ := hact b h a
      obtain ⟨others, hothers⟩ := ih hmore.kept
      exact ⟨more ++ others, hmore.trans hothers (by simp)⟩

/-- One call of a dispatch, with all that its handler does. -/
theorem call_grows
    {b : Hub η}
    (h : b.Kept)
    {k : Nat}
    (hk : k < b.world.past.dispatches)
    (handler : η)
    (m : Message) :
    ∃ more, Grows (some k) b (call act conduct k handler m b).1 more 0 ∧
      more.ofDispatch k = exchange k [(handler, (call act conduct k handler m b).2)] := by
  have hcalled : Grows (some k) b (b.write (.called k handler)) [.called k handler] 0 :=
    .write h hk rfl rfl rfl
  obtain ⟨more, hmore⟩ :=
    foldl_grows hact (conduct handler m (b.write (.called k handler)).world.past).1 hcalled.kept
  have hlt := hk.trans_le hcalled.dispatches_le
  have hreturned := Grows.write hmore.kept (hlt.trans_le hmore.dispatches_le)
    (e := .returned k (conduct handler m (b.write (.called k handler)).world.past).2) rfl rfl rfl
  have hsilent : more.ofDispatch k = [] :=
    hmore.orderly.silent hlt (by simp)
  have hacted := hcalled.trans (hmore.within (some k)) (by rintro k ⟨⟩; exact hk)
  refine ⟨_, hacted.trans hreturned (by rintro k ⟨⟩; exact hk), ?_⟩
  rw [ofDispatch_append, ofDispatch_append, hsilent]
  simp [ofDispatch, RouterEvent.dispatch?, exchange, call]

/-- **Calls.**  The handlers of routes are called one after the other, each once, and the
calls that do not end well are counted. -/
theorem callAll_grows
    (m : Message)
    {k : Nat}
    (routes : List (Route η))
    {b : Hub η}
    (h : b.Kept)
    (hk : k < b.world.past.dispatches) :
    ∃ calls more,
      Grows (some k) b (Bus.callAll (call act conduct k) m b routes).1 more (faults calls) ∧
        (Bus.callAll (call act conduct k) m b routes).2 = faults calls ∧
        calls.map Prod.fst = routes.map Route.handler ∧
        more.ofDispatch k = exchange k calls := by
  induction routes generalizing b with
  | nil =>
      exact ⟨[], [], .refl h, rfl, rfl, rfl⟩
  | cons route routes ih =>
      obtain ⟨more, hmore, hown⟩ := call_grows conduct hact h hk route.handler m
      have hsettled := hmore.trans (.settle hmore.kept m route
        (call act conduct k route.handler m b).2) (by rintro k ⟨⟩; exact hk)
      obtain ⟨calls, others, hothers, hfailed, hcalls, hrest⟩ :=
        ih hsettled.kept (hk.trans_le hsettled.dispatches_le)
      refine ⟨(route.handler, (call act conduct k route.handler m b).2) :: calls,
        more ++ others, ?_, ?_, ?_, ?_⟩
      · have hall := hsettled.trans hothers (by rintro k ⟨⟩; exact hk)
        rw [faults_cons, Nat.add_comm]
        simp only [List.append_nil, Nat.zero_add] at hall
        exact hall
      · rw [faults_cons, ← hfailed]
        rfl
      · rw [List.map_cons, List.map_cons, hcalls]
      · rw [ofDispatch_append, hown, hrest]
        rfl

/-- **Dispatches.**  All that a dispatch does lies between its beginning and its report. -/
theorem offer_grows
    {b : Hub η}
    (h : b.Kept)
    (m : Message) :
    ∃ more, Grows none b (b.offer act conduct m) more 0 := by
  let k := b.world.past.dispatches
  let b' := b.write (.began k m)
  have hb' : b'.Kept := h.write_dispatch rfl
  have hk : k < b'.world.past.dispatches := by
    simp [b', k, History.dispatches, RouterEvent.begins]
  obtain ⟨calls, more, hmore, hfailed, hcalls, hown⟩ :=
    callAll_grows conduct hact m (b.router.matching m.kind) hb' hk
  refine ⟨.began k m :: (more ++ [.reported k ⟨calls.length, faults calls⟩]), ?_⟩
  have hoffer : b.offer act conduct m =
      write (Bus.callAll (call act conduct k) m b' (b.router.matching m.kind)).1
        (.reported k ⟨calls.length, faults calls⟩) := by
    have hlength := congrArg List.length hcalls
    rw [List.length_map, List.length_map] at hlength
    rw [hlength, ← hfailed]
    rfl
  rw [hoffer]
  refine ⟨hmore.kept.write_dispatch rfl, ?_, ?_, ?_⟩
  · rw [past_write, hmore.past_eq]
    simp [b']
  · apply Orderly.block hmore.orderly
    refine ⟨calls, ?_, ?_⟩
    · rw [hcalls, recipients_live h]
    · rw [ofDispatch_append, hown, ofDispatch_reported]
  · rw [router_write, hmore.failures]
    simp [b', History.failed, RouterEvent.failed]
    omega

end Calls

/-- **Actions.**  What an action writes down is orderly, however deep dispatches nest. -/
theorem act_grows
    (depth : Nat) :
    ActsOrderly (act conduct depth) := by
  induction depth with
  | zero =>
      intro b h a
      cases a with
      | edit e =>
          exact Grows.edit h e
      | dispatch m =>
          exact ⟨[], .refl h⟩
  | succ depth ih =>
      intro b h a
      cases a with
      | edit e =>
          exact Grows.edit h e
      | dispatch m =>
          exact offer_grows conduct ih h m

/-- **Runs.**  What actions write down is orderly. -/
theorem run_grows
    (depth : Nat)
    (actions : List (RouterAction η)) :
    ∃ more, Grows none fresh (run conduct depth fresh actions) more 0 :=
  foldl_grows (act_grows conduct depth) actions kept_fresh

/-- What holds of a router that was used. -/
structure Lawful (b : Hub η) : Prop where
  /-- Every subscription has a number of its own. -/
  numbered : b.world.past.registrations.map Prod.fst =
    List.range b.world.past.registrations.length
  /-- The routes are those that were registered and not ended, in order. -/
  routes : b.router.routes.entries = b.world.past.live.map fun e => (e.1 + 1, e.2)
  /-- Ending a subscription answers yes the first time. -/
  answers : ∀ (before : History η) number removed (after : History η),
    b.world.past = before ++ .ended number removed :: after →
      removed = !before.isEnded number
  /-- A dispatch calls the handlers that were registered when it began. -/
  delivered : ∀ (before : History η) k m (after : History η),
    b.world.past = before ++ .began k m :: after →
      before.ofDispatch k = [] ∧ Delivered k m before.live after
  /-- The failures are those in the reports. -/
  failures : b.router.failures = b.world.past.failed
  /-- Ending a subscription takes away its own route and no other. -/
  unsubscribed : ∀ number < b.world.past.registrations.length,
    (b.edit (.unsubscribe number)).router.routes.entries =
      b.router.routes.entries.filter fun e => e.1 != number + 1

/-- **Deliveries.**  Whatever is done with a router, and whatever its handlers do, every
dispatch calls the handlers that were registered and not ended when it began and take the
kind of its message, each once and in order, and reports how many were called and how many
failed.  Every subscription is ended once, and only its own route goes. -/
theorem run_lawful
    (conduct : Conduct η)
    (depth : Nat)
    (actions : List (RouterAction η)) :
    (run conduct depth fresh actions).Lawful := by
  obtain ⟨more, hmore⟩ := run_grows conduct depth actions
  have hpast : (run conduct depth fresh actions).world.past = more :=
    hmore.past_eq
  refine ⟨hmore.kept.numbered, hmore.kept.entries, hmore.kept.answers, ?_, ?_, ?_⟩
  · intro before k m after hsplit
    exact (hmore.orderly.delivered before k m after (hpast ▸ hsplit)).2
  · rw [hmore.failures, hpast]
    simp [fresh]
  · intro number hnumber
    rw [hmore.kept.routes_unsubscribe hnumber]
    rfl

/-- The first handler registers a third one and ends the second; the others fail. -/
def restless : Conduct Nat := fun handler _ _ =>
  match handler with
  | 0 => ([.edit (.on "tick" 2), .edit (.unsubscribe 1)], .done)
  | _ => ([], .panicked none)

/-- The second handler is still called, and the third one from the next dispatch on. -/
example :
    let tick : Message := ⟨"tick", []⟩
    let b := run restless 1 fresh
      [.edit (.on "tick" 0), .edit (.on "tick" 1), .dispatch tick, .dispatch tick]
    b.world.past.ofDispatch 0 =
        .began 0 tick :: (exchange 0 [(0, .done), (1, .panicked none)] ++ [.reported 0 ⟨2, 1⟩]) ∧
      b.world.past.ofDispatch 1 =
        .began 1 tick :: (exchange 1 [(0, .done), (2, .panicked none)] ++ [.reported 1 ⟨2, 1⟩]) ∧
      b.router.failures = 2 :=
  ⟨rfl, rfl, rfl⟩

end Hub

end RemoteRun
