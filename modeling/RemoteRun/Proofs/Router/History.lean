import RemoteRun.Proofs.Lists
import RemoteRun.Proofs.Router.Calls

/-!
# Routers in use

A router is edited and offered messages, and its handlers may do both while they are
called.

**Actions.** Handlers are registered for a kind or a pattern, subscriptions are ended, and
messages are dispatched.  What a handler does when it is called, and how its call ends, may
depend on all that has happened so far.

**History.** Everything that happens is written down.  Subscriptions are numbered in the
order in which they are made, dispatches in the order in which they begin.  `live` says
what is registered after a history: what was registered and not ended, in order.

**Results.** `Hub.Kept.edit`: the router and all subscriptions are what the history says,
and ending a subscription answers whether it was ended for the first time.
-/

namespace RemoteRun

/-- A change of what is registered at a router. -/
inductive RouterEdit (η : Type) where
  | on (kind : String) (handler : η)
  | onPattern (text : String) (handler : η)
  | onRegex (p : Pattern) (text : String) (handler : η)
  | unsubscribe (number : Nat)

/-- What is done with a router. -/
inductive RouterAction (η : Type) where
  | edit (e : RouterEdit η)
  | dispatch (m : Message)

/-- What happens at a router. -/
inductive RouterEvent (η : Type) where
  | registered (number : Nat) (route : Route η)
  | ended (number : Nat) (removed : Bool)
  | began (dispatch : Nat) (m : Message)
  | called (dispatch : Nat) (handler : η)
  | returned (dispatch : Nat) (outcome : HandlerOutcome)
  | reported (dispatch : Nat) (report : DispatchReport)

namespace RouterEvent

variable {η : Type}

/-- The dispatch that an event belongs to. -/
def dispatch? : RouterEvent η → Option Nat
  | .began k _ | .called k _ | .returned k _ | .reported k _ => some k
  | .registered _ _ | .ended _ _ => none

/-- The subscription that is made, with its route. -/
def registration? : RouterEvent η → Option (Nat × Route η)
  | .registered number route => some (number, route)
  | _ => none

/-- Whether a subscription is ended. -/
def ends (number : Nat) : RouterEvent η → Bool
  | .ended other _ => other == number
  | _ => false

/-- Whether a dispatch begins. -/
def begins : RouterEvent η → Bool
  | .began _ _ => true
  | _ => false

end RouterEvent

/-- What has happened at a router, oldest first. -/
abbrev History (η : Type) := List (RouterEvent η)

namespace History

variable {η : Type}

/-- The subscriptions that were made, with their routes. -/
def registrations (past : History η) : List (Nat × Route η) :=
  past.filterMap RouterEvent.registration?

/-- Whether a subscription was ended. -/
def isEnded (past : History η) (number : Nat) : Bool :=
  past.any (RouterEvent.ends number)

/-- The subscriptions that were made and not ended, in order. -/
def live (past : History η) : List (Nat × Route η) :=
  past.registrations.filter fun e => !past.isEnded e.1

/-- The number of dispatches that have begun. -/
def dispatches (past : History η) : Nat :=
  past.countP RouterEvent.begins

/-- A subscription after a history. -/
def token (past : History η) (number : Nat) : Subscription :=
  ⟨number + 1, !past.isEnded number⟩

variable (past more : History η)

@[simp] theorem registrations_append :
    registrations (past ++ more) = registrations past ++ registrations more :=
  List.filterMap_append

@[simp] theorem isEnded_append
    (number : Nat) :
    isEnded (past ++ more) number = (isEnded past number || isEnded more number) :=
  List.any_append

@[simp] theorem dispatches_append :
    dispatches (past ++ more) = dispatches past + dispatches more :=
  List.countP_append

/-- Subscriptions stay as they are while none is ended. -/
theorem token_append
    (h : ∀ number, more.isEnded number = false) :
    token (past ++ more) = past.token := by
  funext number
  simp [token, h]

theorem isEnded_of_mem_live
    {past : History η}
    {e : Nat × Route η}
    (h : e ∈ past.live) :
    past.isEnded e.1 = false := by
  simpa [live] using (List.mem_filter.1 h).2

/-- A new subscription comes last. -/
theorem live_registered
    {number : Nat}
    (hnew : past.isEnded number = false)
    (route : Route η) :
    live (past ++ [.registered number route]) = past.live ++ [(number, route)] := by
  have hsame : ∀ n, isEnded (past ++ [.registered number route]) n = past.isEnded n := by
    intro n
    simp [isEnded, RouterEvent.ends]
  have hmade : registrations (past ++ [.registered number route]) =
      past.registrations ++ [(number, route)] := by
    simp [registrations, RouterEvent.registration?]
  unfold live
  rw [hmade, List.filter_append]
  simp [hsame, hnew]

/-- Ending a subscription removes it and keeps the order of the others. -/
theorem live_ended
    (number : Nat)
    (removed : Bool) :
    live (past ++ [.ended number removed]) = past.live.filter fun e => e.1 != number := by
  have hmade : registrations (past ++ [.ended number removed]) = past.registrations := by
    simp [registrations, RouterEvent.registration?]
  unfold live
  rw [hmade, List.filter_filter]
  apply List.filter_congr
  intro e _
  by_cases he : e.1 = number
  · simp [isEnded, RouterEvent.ends, he]
  · have hother : (number == e.1) = false := by
      simpa using fun h : number = e.1 => he h.symm
    simp [isEnded, RouterEvent.ends, he, hother]

/-- The events of dispatches change nothing that is registered. -/
theorem live_of_dispatch
    {e : RouterEvent η}
    (he : e.dispatch?.isSome = true) :
    registrations [e] = [] ∧ (∀ number, isEnded [e] number = false) ∧
      live (past ++ [e]) = past.live := by
  have hnone : registrations [e] = [] := by
    cases e <;> simp_all [registrations, RouterEvent.dispatch?, RouterEvent.registration?]
  have hnever : ∀ number, isEnded [e] number = false := by
    intro number
    cases e <;> simp_all [isEnded, RouterEvent.dispatch?, RouterEvent.ends]
  refine ⟨hnone, hnever, ?_⟩
  simp [live, hnone, hnever]

end History

/-- The subscriptions that were handed out, and the history. -/
structure Chronicle (η : Type) where
  tokens : List Subscription := []
  past : History η := []

/-- A router in use. -/
abbrev Hub (η : Type) := Bus η (Chronicle η)

/-- What handlers do when they are called, and how their calls end. -/
abbrev Conduct (η : Type) :=
  η → Message → History η → List (RouterAction η) × HandlerOutcome

namespace Hub

variable {η : Type}

/-- Nothing registered. -/
def fresh : Hub η := { router := {}, world := {} }

/-- Write down what happens. -/
def write (b : Hub η) (e : RouterEvent η) : Hub η :=
  { b with world := { b.world with past := b.world.past ++ [e] } }

/-- Take over a router with a new route, and keep the subscription. -/
def keep (b : Hub η) (route : Route η) (registered : Router η × Subscription) : Hub η :=
  let number := b.world.tokens.length
  let world := { b.world with tokens := b.world.tokens ++ [registered.2] }
  write { b with router := registered.1, world := world } (.registered number route)

/-- Change what is registered; nothing if a text is no pattern or no subscription has a
number. -/
def edit (b : Hub η) : RouterEdit η → Hub η
  | .on kind handler => b.keep ⟨.exact kind, handler⟩ (b.router.on kind handler)
  | .onPattern text handler =>
      match Pattern.read? text, b.router.onPattern? text handler with
      | some p, some registered => b.keep ⟨.pattern p text, handler⟩ registered
      | _, _ => b
  | .onRegex p text handler =>
      b.keep ⟨.pattern p text, handler⟩ (b.router.register (.pattern p text) handler)
  | .unsubscribe number =>
      match b.world.tokens[number]? with
      | none => b
      | some token =>
          let (router, token, removed) := b.router.unsubscribe token
          let world := { b.world with tokens := b.world.tokens.set number token }
          write { b with router := router, world := world } (.ended number removed)

/-- Call a handler in a dispatch: it acts, one action after the other, and its call ends. -/
def call (act : Hub η → RouterAction η → Hub η) (conduct : Conduct η) (k : Nat) (handler : η)
    (m : Message) (b : Hub η) : Hub η × HandlerOutcome :=
  let b := b.write (.called k handler)
  let (actions, outcome) := conduct handler m b.world.past
  ((actions.foldl act b).write (.returned k outcome), outcome)

/-- Dispatch a message. -/
def offer (act : Hub η → RouterAction η → Hub η) (conduct : Conduct η) (b : Hub η)
    (m : Message) : Hub η :=
  let k := b.world.past.dispatches
  let (b, report) := Bus.dispatch (call act conduct k) (b.write (.began k m)) m
  write b (.reported k report)

/-- The router after an action.  Dispatches nest at most `depth` deep; a deeper one is not
made. -/
def act (conduct : Conduct η) : Nat → Hub η → RouterAction η → Hub η
  | _, b, .edit e => b.edit e
  | 0, b, .dispatch _ => b
  | depth + 1, b, .dispatch m => b.offer (act conduct depth) conduct m

/-- The router after actions, one after the other. -/
def run (conduct : Conduct η) (depth : Nat) (b : Hub η) (actions : List (RouterAction η)) :
    Hub η :=
  actions.foldl (act conduct depth) b

@[simp] theorem past_write (b : Hub η) (e : RouterEvent η) :
    (b.write e).world.past = b.world.past ++ [e] := rfl

@[simp] theorem tokens_write (b : Hub η) (e : RouterEvent η) :
    (b.write e).world.tokens = b.world.tokens := rfl

@[simp] theorem router_write (b : Hub η) (e : RouterEvent η) :
    (b.write e).router = b.router := rfl

/-! ### What the history says -/

/-- The routes and the subscriptions are what the history says. -/
structure Kept (b : Hub η) : Prop where
  numbered : b.world.past.registrations.map Prod.fst =
    List.range b.world.past.registrations.length
  tokens_eq : b.world.tokens =
    (List.range b.world.past.registrations.length).map b.world.past.token
  nextId : b.router.routes.nextId = b.world.past.registrations.length + 1
  entries : b.router.routes.entries = b.world.past.live.map fun e => (e.1 + 1, e.2)
  ended_lt : ∀ number, b.world.past.isEnded number = true →
    number < b.world.past.registrations.length
  answers : ∀ (before : History η) number removed (after : History η),
    b.world.past = before ++ .ended number removed :: after →
      removed = !before.isEnded number

theorem kept_fresh : Kept (fresh : Hub η) where
  numbered := rfl
  tokens_eq := rfl
  nextId := rfl
  entries := rfl
  ended_lt := nofun
  answers := by
    intro before number removed after h
    simp [fresh] at h

namespace Kept

variable {b : Hub η}

/-- An answer to a new end of a subscription goes with those that were given before. -/
theorem answers_append
    (h : b.Kept)
    {e : RouterEvent η}
    (he : ∀ number removed, e = .ended number removed →
      removed = !b.world.past.isEnded number)
    {before after : History η}
    {number : Nat}
    {removed : Bool}
    (hsplit : b.world.past ++ [e] = before ++ .ended number removed :: after) :
    removed = !before.isEnded number := by
  rcases split_of_concat hsplit with ⟨rest, hpast, _⟩ | ⟨rfl, rfl, _⟩
  · exact h.answers before number removed rest hpast
  · exact he number removed rfl

/-- What happens in a dispatch changes nothing of this. -/
theorem write_dispatch
    (h : b.Kept)
    {e : RouterEvent η}
    (he : e.dispatch?.isSome = true) :
    (b.write e).Kept := by
  obtain ⟨hnone, hnever, hlive⟩ := b.world.past.live_of_dispatch he
  have htoken := b.world.past.token_append [e] hnever
  refine ⟨?_, ?_, ?_, ?_, ?_, ?_⟩
  · simpa [hnone] using h.numbered
  · simpa [hnone, htoken] using h.tokens_eq
  · simpa [hnone] using h.nextId
  · simpa [hlive] using h.entries
  · simpa [hnone, hnever] using h.ended_lt
  · intro before number removed after hsplit
    apply h.answers_append _ hsplit
    rintro number removed rfl
    simp [RouterEvent.dispatch?] at he

/-- A call that did not end well is counted and noted, and that is all. -/
theorem settle
    (h : b.Kept)
    (m : Message)
    (route : Route η)
    (outcome : HandlerOutcome) :
    Kept (b.settle m route outcome) := by
  refine ⟨?_, ?_, ?_, ?_, ?_, ?_⟩ <;> simp only [Bus.settle_world, Bus.settle_routes]
  · exact h.numbered
  · exact h.tokens_eq
  · exact h.nextId
  · exact h.entries
  · exact h.ended_lt
  · exact h.answers

/-- A new route and its subscription come last. -/
theorem register
    (h : b.Kept)
    (matcher : Matcher)
    (handler : η) :
    (b.keep ⟨matcher, handler⟩ (b.router.register matcher handler)).Kept := by
  have hcount : b.world.tokens.length = b.world.past.registrations.length := by
    rw [h.tokens_eq, List.length_map, List.length_range]
  have hnew : b.world.past.isEnded b.world.past.registrations.length = false := by
    rw [Bool.eq_false_iff]
    intro hended
    exact Nat.lt_irrefl _ (h.ended_lt _ hended)
  have hmade : History.registrations
      [RouterEvent.registered b.world.past.registrations.length ⟨matcher, handler⟩] =
        [(b.world.past.registrations.length, ⟨matcher, handler⟩)] :=
    rfl
  have hnever : ∀ number, History.isEnded
      [RouterEvent.registered b.world.past.registrations.length ⟨matcher, handler⟩] number =
        false :=
    fun _ => rfl
  have htoken := b.world.past.token_append _ hnever
  unfold keep
  rw [hcount]
  refine ⟨?_, ?_, ?_, ?_, ?_, ?_⟩
  · simp [hmade, h.numbered, List.range_succ]
  · simp [hmade, htoken, h.tokens_eq, List.range_succ, Router.register, Registry.insert,
      h.nextId, History.token, hnew]
  · simp [hmade, Router.register, Registry.insert, h.nextId]
  · simp [History.live_registered _ hnew, Router.register, Registry.insert, h.nextId, h.entries]
  · intro number hended
    have hbefore : b.world.past.isEnded number = true := by
      simpa [hnever] using hended
    have hlt := h.ended_lt number hbefore
    simp [hmade]
    omega
  · intro before number removed after hsplit
    apply h.answers_append _ hsplit
    rintro number removed ⟨⟩

theorem getElem?_tokens
    (h : b.Kept)
    {number : Nat}
    (hnumber : number < b.world.past.registrations.length) :
    b.world.tokens[number]? = some (b.world.past.token number) := by
  simp [h.tokens_eq, hnumber]

/-- Ending a subscription takes its own route away, and answers whether it was there. -/
theorem unsubscribe_eq
    (h : b.Kept)
    {number : Nat}
    (hnumber : number < b.world.past.registrations.length) :
    b.router.unsubscribe (b.world.past.token number) =
      ({ b.router with routes := b.router.routes.detach (number + 1) },
        ⟨number + 1, false⟩, !b.world.past.isEnded number) := by
  cases hended : b.world.past.isEnded number with
  | true =>
      have hgone : b.router.routes.detach (number + 1) = b.router.routes := by
        have hkeep : ∀ e ∈ b.router.routes.entries, (e.1 != number + 1) = true := by
          intro e he
          rw [h.entries] at he
          obtain ⟨e, hlive, rfl⟩ := List.mem_map.1 he
          have hother : e.1 ≠ number := by
            rintro rfl
            exact absurd (History.isEnded_of_mem_live hlive) (by simp [hended])
          simpa using hother
        rw [Registry.detach, List.filter_eq_self.2 hkeep]
      simp [Router.unsubscribe, Registry.unsubscribe, History.token, hended, hgone]
  | false =>
      have hthere : b.router.routes.contains (number + 1) = true := by
        have hmade : number ∈ b.world.past.registrations.map Prod.fst := by
          rw [h.numbered]
          exact List.mem_range.2 hnumber
        obtain ⟨e, he, rfl⟩ := List.mem_map.1 hmade
        rw [Registry.contains, h.entries, List.any_map, List.any_eq_true]
        exact ⟨e, List.mem_filter.2 ⟨he, by simp [hended]⟩, by simp⟩
      simp [Router.unsubscribe, Registry.unsubscribe, History.token, hended, hthere]

/-- Ending a subscription changes no other subscription. -/
theorem tokens_set
    (past : History η)
    (count number : Nat)
    (removed : Bool) :
    ((List.range count).map past.token).set number ⟨number + 1, false⟩ =
      (List.range count).map (History.token (past ++ [.ended number removed])) := by
  apply List.ext_getElem
  · simp
  · intro i hi _
    rw [List.getElem_set]
    by_cases hsame : number = i
    · simp [hsame, History.token, History.isEnded, RouterEvent.ends]
    · simp [hsame, History.token, History.isEnded, RouterEvent.ends]

/-- No other route goes with a subscription. -/
theorem routes_unsubscribe
    (h : b.Kept)
    {number : Nat}
    (hnumber : number < b.world.past.registrations.length) :
    (b.edit (.unsubscribe number)).router.routes = b.router.routes.detach (number + 1) := by
  simp only [Hub.edit, h.getElem?_tokens hnumber, h.unsubscribe_eq hnumber, router_write]

/-- A subscription that was not made cannot be ended, and any other can, again and again. -/
theorem unsubscribe
    (h : b.Kept)
    (number : Nat) :
    (b.edit (.unsubscribe number)).Kept := by
  by_cases hnumber : number < b.world.past.registrations.length
  · have hmade : ∀ removed, History.registrations
        [(RouterEvent.ended number removed : RouterEvent η)] = [] :=
      fun _ => rfl
    simp only [Hub.edit, h.getElem?_tokens hnumber, h.unsubscribe_eq hnumber]
    refine ⟨?_, ?_, ?_, ?_, ?_, ?_⟩
    · simpa [hmade] using h.numbered
    · simpa [hmade, h.tokens_eq] using tokens_set b.world.past _ number _
    · simpa [hmade, Registry.detach] using h.nextId
    · simp only [past_write, router_write, Registry.detach, h.entries, History.live_ended,
        List.filter_map]
      congr 1
      apply List.filter_congr
      intro e _
      simp
    · intro other hended
      simp only [past_write, History.registrations_append, hmade, List.append_nil]
      by_cases hsame : number = other
      · exact hsame ▸ hnumber
      · refine h.ended_lt other ?_
        simpa [History.isEnded, RouterEvent.ends, hsame] using hended
    · intro before other removed after hsplit
      apply h.answers_append _ hsplit
      rintro other removed ⟨⟩
      rfl
  · have htoken : b.world.tokens[number]? = none := by
      simp [h.tokens_eq, hnumber]
    simp only [Hub.edit, htoken]
    exact h

/-- **Edits.**  The router and the subscriptions stay what the history says. -/
theorem edit
    (h : b.Kept)
    (e : RouterEdit η) :
    (b.edit e).Kept := by
  cases e with
  | on kind handler =>
      exact h.register (.exact kind) handler
  | onPattern text handler =>
      simp only [Hub.edit, Router.onPattern?]
      cases Pattern.read? text with
      | none =>
          exact h
      | some p =>
          exact h.register (.pattern p text) handler
  | onRegex p text handler =>
      exact h.register (.pattern p text) handler
  | unsubscribe number =>
      exact h.unsubscribe number

end Kept

end Hub

end RemoteRun
