import Mathlib.Data.List.Permutation
import RemoteRun.Proofs.Client.Following
import RemoteRun.Proofs.Execution.Active
import RemoteRun.Proofs.Prompt.Asking

/-!
# Prompts belong to the execution that runs

A request for a prompt may leave out the execution it belongs to.  The prompt then
belongs to the one that runs when the request arrives, and must not outlive it.

**Requests.** `Client.requests` lists the requests of a run, each with the prompt that it
makes.  The active prompt is always that of the newest one.

**Scope.** The execution that runs changes with four kinds of messages and with an abort.
Each of them looks at the prompt again *after* the machine has changed, also when the
message was malformed or ignored; everything else leaves the execution that runs.
`Session.Becomes` says this of one action, and `Session.Scoped` is what it keeps.

**Results.**
* `Session.receive_becomes`, `Desk.give_narrows`: messages and commands keep the scope.
* `Client.active_prompt_in_scope`: after every run, an active prompt whose request named
  no execution belongs to the execution that runs, and a cancellation answers for no other.
-/

namespace RemoteRun

/-! ### Requests -/

namespace Message

/-- The request for a prompt that a message brings. -/
def request? (m : Message) : Option PromptRequest :=
  match m.decode with
  | .ok (some (.prompt r)) => some r
  | _ => none

/-- The message names no execution: under both spellings there is nothing or `null`. -/
def OmitsExecution (m : Message) : Prop :=
  ∀ e ∈ m.members, e.1 = "execution_id" ∨ e.1 = "executionId" → e.2 = .null

theorem request?_eq_some
    {m : Message}
    {r : PromptRequest} :
    m.request? = some r ↔ m.decode = .ok (some (.prompt r)) := by
  unfold request?
  split <;> simp_all

/-- A request is assembled from the members of its message. -/
theorem gathered_of_request?
    {m : Message}
    {r : PromptRequest}
    (h : m.request? = some r) :
    ∃ gathered : Gathered, EventKind.ofWireName? m.kind = some .interactivePrompt ∧
      Field.gather EventKind.interactivePrompt.fields m.members = .ok gathered ∧
      EventKind.interactivePrompt.assemble gathered = .prompt r := by
  rw [request?_eq_some, decode] at h
  cases hkind : EventKind.ofWireName? m.kind with
  | none =>
      simp [hkind] at h
  | some kind =>
      cases hg : Field.gather kind.fields m.members with
      | error fault =>
          simp [hkind, hg] at h
      | ok gathered =>
          simp only [hkind, hg, Except.ok.injEq, Option.some.injEq] at h
          cases kind <;> first | exact ⟨gathered, rfl, hg, h⟩ | cases h

theorem executionId_of_omits
    {m : Message}
    {r : PromptRequest}
    (h : m.request? = some r)
    (homits : m.OmitsExecution) :
    r.executionId = none := by
  obtain ⟨gathered, _, hg, hr⟩ := gathered_of_request? h
  have hid : r.executionId = gathered.optionalText "execution_id" := by
    cases hr
    rfl
  rw [hid, Gathered.optionalText]
  cases hvalue : gathered.get? "execution_id" with
  | none =>
      rfl
  | some value =>
      obtain ⟨e, he, f, hf, hname, hspells, rfl⟩ := Field.mem_of_get?_gather hg hvalue
      obtain rfl : f = .optionalTextOf "execution_id" ["executionId"] :=
        EventKind.field_eq_of_name_eq hf (by simp [EventKind.fields]) hname
      have hkey : e.1 = "execution_id" ∨ e.1 = "executionId" := by
        simpa [Field.optionalTextOf, Field.accepts_iff_mem_spellings, Field.spellings] using hspells
      rw [homits e he hkey]

end Message

/-! ### The active prompt -/

namespace PromptSlot

/-- Asking for the active prompt keeps it or drops it. -/
theorem current_cases
    {s s' : PromptSlot}
    {now : Nat}
    {p : Option Prompt}
    (h : s.current now = .ok (s', p)) :
    (s' = s ∧ p = s.active) ∨ (s' = s.clear ∧ p = none) := by
  unfold current at h
  split at h
  next hs =>
    cases h
    exact Or.inl ⟨rfl, hs.symm⟩
  next q hs =>
    split at h
    next => cases h
    next =>
      cases h
      exact Or.inr ⟨rfl, rfl⟩
    next =>
      cases h
      exact Or.inl ⟨rfl, hs.symm⟩

section Answers

variable {σ : Type} {send : Sink σ} {state : σ} {s : PromptSlot} {tracked : Option String}

/-- An answer keeps the active prompt or drops it. -/
theorem respond_cases
    (nodeId response : String) :
    (respond send state s nodeId response tracked).2.1 = s ∨
      (respond send state s nodeId response tracked).2.1 = s.clear := by
  cases tracked with
  | none =>
      exact Or.inl rfl
  | some execution =>
      exact Or.inr rfl

/-- A cancellation answers the active prompt, or there is none and nothing is sent. -/
theorem cancel_eq_ok
    {now : Nat}
    {answered : σ × PromptSlot × CommandOutcome}
    (h : s.cancel send state now tracked = .ok answered) :
    (∃ p, s.active = some p ∧ answered = respond send state s p.nodeId "" tracked) ∨
      (answered.1 = state ∧ (answered.2.1 = s ∨ answered.2.1 = s.clear)) := by
  unfold cancel at h
  cases hc : s.current now with
  | error e =>
      simp [hc] at h
  | ok asked =>
      obtain ⟨s', p⟩ := asked
      simp only [hc] at h
      rcases current_cases hc with ⟨rfl, rfl⟩ | ⟨rfl, rfl⟩
      · cases hs : s'.active with
        | none =>
            simp only [hs, Except.ok.injEq] at h
            exact Or.inr (h ▸ ⟨rfl, Or.inl rfl⟩)
        | some p =>
            simp only [hs, Except.ok.injEq] at h
            exact Or.inl ⟨p, rfl, h.symm⟩
      · simp only [Except.ok.injEq] at h
        exact Or.inr (h ▸ ⟨rfl, Or.inr rfl⟩)

/-- A cancellation keeps the active prompt or drops it. -/
theorem cancel_cases
    {now : Nat}
    {answered : σ × PromptSlot × CommandOutcome}
    (h : s.cancel send state now tracked = .ok answered) :
    answered.2.1 = s ∨ answered.2.1 = s.clear := by
  rcases cancel_eq_ok h with ⟨p, _, rfl⟩ | ⟨_, hslot⟩
  · exact respond_cases p.nodeId ""
  · exact hslot

/-- A cancellation sends nothing, or an empty answer for the tracked execution to the node
of the active prompt. -/
theorem sink_cancel
    {now : Nat}
    {answered : σ × PromptSlot × CommandOutcome}
    (h : s.cancel send state now tracked = .ok answered) :
    answered.1 = state ∨
      ∃ p e, s.active = some p ∧ tracked = some e ∧
        answered.1 = (send (.interactiveResponse p.nodeId e "") state).1 := by
  rcases cancel_eq_ok h with ⟨p, hp, rfl⟩ | ⟨hstate, _⟩
  · cases tracked with
    | none =>
        exact Or.inl rfl
    | some e =>
        exact Or.inr ⟨p, e, hp, rfl, rfl⟩
  · exact Or.inl hstate

end Answers

end PromptSlot

/-! ### Sessions -/

namespace Reaction

/-- Whether a reaction leaves the active prompt alone. -/
def keepsPrompts : Reaction → Bool
  | .scopePrompt | .openPrompt => false
  | .track | .loadDiagram | .greet | .recordError | .acknowledge => true

/-- After the other reactions to the end or the start of an execution, the last one looks at
the active prompt. -/
theorem toKind_of_scoping
    {kind : EventKind}
    (hscoping : kind ∈ scoping) :
    ∃ others, toKind kind.wireName = others ++ [.scopePrompt] ∧
      ∀ r ∈ others, r.keepsPrompts = true := by
  cases kind <;> simp [scoping] at hscoping <;>
    first
    | exact ⟨[.track, .loadDiagram], by decide, by decide⟩
    | exact ⟨[.track], by decide, by decide⟩

theorem toKind_interactivePrompt :
    toKind EventKind.interactivePrompt.wireName = [.openPrompt] := by
  decide

theorem toKind_of_not_scoping
    {kind : EventKind}
    (hscoping : kind ∉ scoping)
    (hprompt : kind ≠ .interactivePrompt) :
    ∀ r ∈ toKind kind.wireName, r.keepsPrompts = true := by
  cases kind <;> first | decide | simp [scoping] at hscoping hprompt

end Reaction

namespace Session

variable {load : DiagramLoader} {now : Moment} {m : Message}

/-- The active prompt afterwards was the active one before, and it belongs to the execution
that runs afterwards unless the same one ran before. -/
def Narrows (s s' : Session) : Prop :=
  ∀ p, s'.prompts.active = some p → s.prompts.active = some p ∧
    (s'.machine.activeId? = s.machine.activeId? ∨ p.executionId = s'.machine.activeId?)

/-- A message with the prompt that it makes, if it is a request. -/
def asked? (s : Session) (now : Moment) (m : Message) : Option (Message × Prompt) :=
  m.request?.map fun r => (m, .ofRequest r s.machine.activeId? now.elapsed)

/-- What an action makes of a session: a request opens its prompt for the execution that
runs, and any other action narrows. -/
def Becomes (s : Session) (asked : Option (Message × Prompt)) (s' : Session) : Prop :=
  match asked with
  | some (m, p) =>
      s'.prompts.active = some p ∧ (m.OmitsExecution → p.executionId = s'.machine.activeId?)
  | none => s.Narrows s'

/-- The active prompt is that of the newest request, and it belongs to the execution that
runs if the request named none. -/
def Scoped (s : Session) (newest : Option (Message × Prompt)) : Prop :=
  ∀ p, s.prompts.active = some p → ∃ m, newest = some (m, p) ∧
    (m.OmitsExecution → p.executionId = s.machine.activeId?)

theorem Narrows.of_same
    {s s' : Session}
    (hid : s'.machine.activeId? = s.machine.activeId?)
    (hprompts : s'.prompts = s.prompts ∨ s'.prompts = s.prompts.clear) :
    s.Narrows s' := by
  intro p hp
  rcases hprompts with hkept | hdropped
  · exact ⟨hkept ▸ hp, Or.inl hid⟩
  · rw [hdropped] at hp
    cases hp

theorem Narrows.of_retainFor
    {s s' : Session}
    (hprompts : s'.prompts = s.prompts.retainFor s'.machine.activeId?) :
    s.Narrows s' := by
  intro p hp
  rw [hprompts, PromptSlot.active_retainFor] at hp
  exact ⟨hp.1, Or.inr hp.2⟩

/-- What an action makes of a session keeps the scope. -/
theorem Scoped.becomes
    {s s' : Session}
    {newest asked : Option (Message × Prompt)}
    (hs : s.Scoped newest)
    (h : s.Becomes asked s') :
    s'.Scoped (asked.or newest) := by
  intro p hp
  cases asked with
  | some made =>
      obtain ⟨m, q⟩ := made
      obtain ⟨hactive, hid⟩ := h
      obtain rfl : q = p := Option.some.inj (hactive.symm.trans hp)
      exact ⟨m, rfl, hid⟩
  | none =>
      obtain ⟨hbefore, hscope⟩ := h p hp
      obtain ⟨m, hm, hid⟩ := hs p hbefore
      refine ⟨m, hm, ?_⟩
      intro homits
      rcases hscope with hsame | hscope
      · rw [hsame]
        exact hid homits
      · exact hscope

theorem react_prompts
    {r : Reaction}
    (hr : r.keepsPrompts = true)
    (s : Session) :
    (s.react load now m r).1.prompts = s.prompts := by
  cases r with
  | track =>
      simp only [react, track]
      split <;> rfl
  | loadDiagram =>
      simp only [react, loadDiagram]
      split <;> rfl
  | scopePrompt =>
      simp [Reaction.keepsPrompts] at hr
  | openPrompt =>
      simp [Reaction.keepsPrompts] at hr
  | greet =>
      simp only [react, greet]
      split <;> rfl
  | recordError =>
      simp only [react, recordError]
      split <;> rfl
  | acknowledge =>
      rfl

theorem reactAll_prompts
    {rs : List Reaction}
    (hrs : ∀ r ∈ rs, r.keepsPrompts = true)
    (s : Session) :
    (s.reactAll load now m rs).prompts = s.prompts := by
  induction rs generalizing s with
  | nil =>
      rfl
  | cons r rs ih =>
      rw [reactAll, ih (fun r' h => hrs r' (List.mem_cons_of_mem r h)),
        react_prompts (hrs r List.mem_cons_self)]

theorem reactAll_append
    (rs others : List Reaction)
    (s : Session) :
    s.reactAll load now m (rs ++ others) =
      (s.reactAll load now m rs).reactAll load now m others := by
  induction rs generalizing s with
  | nil =>
      rfl
  | cons r rs ih =>
      exact ih _

/-- A request opens its prompt and changes nothing else. -/
theorem receive_of_request?
    {r : PromptRequest}
    (h : m.request? = some r)
    (s : Session) :
    s.receive load now m =
      { s with prompts := ⟨some (.ofRequest r s.machine.activeId? now.elapsed)⟩ } := by
  obtain ⟨_, hkind, _⟩ := Message.gathered_of_request? h
  have hrequested : PromptSlot.requested m s.machine.activeId? now.elapsed =
      .ok (.ofRequest r s.machine.activeId? now.elapsed) := by
    rw [PromptSlot.requested, Message.request?_eq_some.1 h]
  rw [receive, ← EventKind.wireName_of_ofWireName? hkind, Reaction.toKind_interactivePrompt]
  simp only [reactAll, react, openPrompt, hrequested, PromptSlot.activate]

/-- Any other message of that kind opens nothing. -/
theorem openPrompt_of_no_request
    (h : m.request? = none)
    (s : Session) :
    (s.openPrompt now m).1 = s := by
  unfold openPrompt
  cases hrequested : PromptSlot.requested m s.machine.activeId? now.elapsed with
  | error e =>
      rfl
  | ok p =>
      unfold PromptSlot.requested at hrequested
      unfold Message.request? at h
      split at hrequested <;> simp_all

/-- A message whose kind is neither tracked as the start or end of an execution nor a prompt
leaves the execution that runs. -/
theorem activeId?_receive
    {kind : EventKind}
    (hkind : EventKind.ofWireName? m.kind = some kind)
    (hscoping : kind ∉ Reaction.scoping)
    (s : Session) :
    (s.receive load now m).machine.activeId? = s.machine.activeId? := by
  have hstarted : EventKind.ofWireName? m.kind ≠ some .executionStarted := by
    rw [hkind]
    rintro ⟨⟩
    exact hscoping (by decide)
  rw [receive_machine, Machine.follow_of_not_started load _ _ hstarted]
  apply Machine.activeId?_apply
  intro report hd
  rcases m.decode_cases with ⟨hunknown, _⟩ | ⟨e, he⟩ | ⟨kind', gathered, hkind', hdecode⟩
  · rw [hunknown] at hkind
    cases hkind
  · rw [he] at hd
    cases hd
  · obtain rfl : kind' = kind := Option.some.inj (hkind'.symm.trans hkind)
    rw [hdecode, Except.ok.injEq, Option.some.injEq] at hd
    cases kind' <;> first | exact hscoping (by decide) | cases hd

/-- A message that is no request narrows. -/
theorem receive_narrows
    (h : m.request? = none)
    (s : Session) :
    s.Narrows (s.receive load now m) := by
  cases hkind : EventKind.ofWireName? m.kind with
  | none =>
      have hsame : s.receive load now m = s := by
        rw [receive, Reaction.toKind_of_unknown hkind, reactAll]
      exact .of_same (by rw [hsame]) (Or.inl (by rw [hsame]))
  | some kind =>
      have hname := EventKind.wireName_of_ofWireName? hkind
      by_cases hscoping : kind ∈ Reaction.scoping
      · obtain ⟨others, hothers, hkeep⟩ := Reaction.toKind_of_scoping hscoping
        apply Narrows.of_retainFor
        rw [receive, ← hname, hothers, reactAll_append]
        have hprompts : (s.reactAll load now m others).prompts = s.prompts :=
          reactAll_prompts hkeep s
        simp only [reactAll, react, scopePrompt, hprompts]
      by_cases hprompt : kind = .interactivePrompt
      · have hsame : s.receive load now m = s := by
          rw [receive, ← hname, hprompt, Reaction.toKind_interactivePrompt]
          exact openPrompt_of_no_request h s
        exact .of_same (by rw [hsame]) (Or.inl (by rw [hsame]))
      · refine .of_same (activeId?_receive hkind hscoping s) (Or.inl ?_)
        rw [receive, ← hname]
        exact reactAll_prompts (Reaction.toKind_of_not_scoping hscoping hprompt) s

/-- **Messages.**  A request opens its prompt, for the execution that runs if it names none;
every other message narrows. -/
theorem receive_becomes
    (s : Session)
    (load : DiagramLoader)
    (now : Moment)
    (m : Message) :
    s.Becomes (s.asked? now m) (s.receive load now m) := by
  unfold Becomes asked?
  cases h : m.request? with
  | none =>
      exact receive_narrows h s
  | some r =>
      rw [receive_of_request? h]
      refine ⟨rfl, ?_⟩
      intro homits
      simp only [Prompt.ofRequest, Message.executionId_of_omits h homits, Option.none_or]

end Session

/-! ### Commands -/

namespace Desk

variable {σ : Type} {send : Sink σ}

/-- A command for a node leaves the session. -/
theorem sendFor_session
    (d : Desk σ)
    (message : String → Outbound) :
    (d.sendFor send message).1.session = d.session := by
  unfold sendFor
  cases d.target? <;> rfl

/-- An abort drops the prompts of the execution that it ends. -/
theorem abort_narrows
    (d : Desk σ)
    (now : Moment) :
    d.session.Narrows (d.abort send now).1.session := by
  have hnone := d.session.machine.activeId?_abort now.date
  unfold abort
  rcases habort : d.session.machine.abort now.date with ⟨machine, _ | execution⟩
  · simp only [cancelRequests, habort]
    exact .of_same rfl (Or.inl rfl)
  · rw [habort] at hnone
    simp only [cancelRequests, habort]
    apply Session.Narrows.of_retainFor
    rw [hnone]

/-- **Commands.**  Every command narrows. -/
theorem give_narrows
    (d : Desk σ)
    (now : Moment)
    (command : Command)
    {given : Desk σ × CommandOutcome}
    (h : d.give send now command = .ok given) :
    d.session.Narrows given.1.session := by
  cases command with
  | pause node | resume node | skip node =>
      simp only [give, Except.ok.injEq] at h
      rw [← h, sendFor_session]
      exact .of_same rfl (Or.inl rfl)
  | abort =>
      simp only [give, Except.ok.injEq] at h
      rw [← h]
      exact d.abort_narrows now
  | respond node response =>
      simp only [give, Except.ok.injEq] at h
      rw [← h]
      exact .of_same rfl (PromptSlot.respond_cases node response)
  | cancelPrompt =>
      simp only [give, cancelPrompt] at h
      split at h
      next => cases h
      next sink prompts outcome hcancel =>
        cases h
        exact .of_same rfl (PromptSlot.cancel_cases hcancel)

theorem prompt_narrows
    (d : Desk σ)
    (now : Moment)
    {asked : Desk σ × Option Prompt}
    (h : d.prompt now = .ok asked) :
    d.session.Narrows asked.1.session := by
  unfold prompt at h
  split at h
  next => cases h
  next prompts p hcurrent =>
    cases h
    exact .of_same rfl ((PromptSlot.current_cases hcurrent).imp And.left And.left)

theorem register_narrows
    (d : Desk σ)
    (now : Moment)
    (ids : List String) :
    d.session.Narrows (d.register now ids).1.session :=
  .of_same (d.session.machine.activeId?_register now.date ids) (Or.inl rfl)

/-- Starting a request makes the nodes of its diagram known and nothing else. -/
theorem execute_narrows
    (d : Desk σ)
    (now : Moment)
    (delivery : Delivery)
    (diagram : Except DiagramError Json)
    (options : ExecuteOptions) :
    d.session.Narrows (d.execute now delivery diagram options).1.session := by
  cases diagram with
  | error e =>
      exact .of_same rfl (Or.inl rfl)
  | ok diagram =>
      exact .of_same (d.session.machine.activeId?_setKnown now.date _) (Or.inl rfl)

theorem turn_session
    (d : Desk σ)
    (delivery : Delivery)
    (id : Nat)
    (o : RequestObservation) :
    (d.turn send delivery id o).1.session = d.session := by
  unfold turn
  cases d.requests[id]? <;> rfl

/-- A cancellation of a prompt of the running execution answers, if anything, for the
execution of the prompt. -/
theorem cancelPrompt_answers
    {d : Desk σ}
    {p : Prompt}
    (hp : d.session.prompts.active = some p)
    (hscope : p.executionId = d.session.machine.activeId?)
    {now : Moment}
    {given : Desk σ × CommandOutcome}
    (h : d.give send now .cancelPrompt = .ok given) :
    given.1.sink = d.sink ∨
      ∃ e, p.executionId = some e ∧
        given.1.sink = (send (.interactiveResponse p.nodeId e "") d.sink).1 := by
  simp only [give, cancelPrompt] at h
  split at h
  next => cases h
  next sink prompts outcome hcancel =>
    cases h
    rcases PromptSlot.sink_cancel hcancel with hkept | ⟨q, e, hq, he, hsent⟩
    · exact Or.inl hkept
    · obtain rfl : q = p := Option.some.inj (hq.symm.trans hp)
      exact Or.inr ⟨e, hscope.trans he, hsent⟩

end Desk

/-! ### Clients -/

/-- What may happen to a client: a frame is processed or taken from the queue, a command is
given, nodes are registered, a request to execute starts or moves, the connection changes,
the client begins or ceases to listen, or the active prompt is asked for. -/
inductive ClientAction where
  | frame (now : Moment) (text : String)
  | takeFrame (now : Moment)
  | give (now : Moment) (command : Command)
  | register (now : Moment) (ids : List String)
  | execute (now : Moment) (diagram : Except DiagramError Json) (options : ExecuteOptions)
  | turnRequest (id : Nat) (o : RequestObservation)
  | onConnection (f : Connection → Connection)
  | listen (listening : Bool)
  | prompt (now : Moment)

namespace Client

variable {υ α : Type}

/-- The client after an action.  One that ends in an overflow changes nothing. -/
def act (application : Application υ α) (c : Client υ α) : ClientAction → Client υ α
  | .frame now text => (c.processFrame application now text).1
  | .takeFrame now => (c.takeFrame? application now).getD c
  | .give now command =>
      match c.give now command with
      | .ok (next, _) => next
      | .error _ => c
  | .register now ids => (c.register now ids).1
  | .execute now diagram options => (c.execute now diagram options).1
  | .turnRequest id o => (c.turnRequest id o).1
  | .onConnection f => c.onConnection f
  | .listen listening => { c with listening := listening }
  | .prompt now =>
      match c.prompt now with
      | .ok (next, _) => next
      | .error _ => c

/-- The client after actions, one after the other. -/
def run (application : Application υ α) : Client υ α → List ClientAction → Client υ α
  | c, [] => c
  | c, a :: as => (c.act application a).run application as

/-- The frame that an action processes, and when. -/
def frame? (c : Client υ α) : ClientAction → Option (Moment × String)
  | .frame now text => some (now, text)
  | .takeFrame now => if c.listening then c.frames.head?.map (now, ·) else none
  | _ => none

/-- The request that an action brings, with the prompt that it makes. -/
def asked? (c : Client υ α) (a : ClientAction) : Option (Message × Prompt) :=
  (c.frame? a).bind fun (now, text) =>
    match Message.parse text with
    | .ok m => c.session.asked? now m
    | .error _ => none

/-- The requests of a run, each with the prompt that it makes. -/
def requests (application : Application υ α) :
    Client υ α → List ClientAction → List (Message × Prompt)
  | _, [] => []
  | c, a :: as => (c.asked? a).toList ++ (c.act application a).requests application as

theorem takeFrame?_cases
    (application : Application υ α)
    (c : Client υ α)
    (now : Moment) :
    (c.takeFrame? application now = none ∧ c.frame? (.takeFrame now) = none) ∨
      ∃ text frames,
        c.takeFrame? application now =
          some (processFrame application { c with frames := frames } now text).1 ∧
        c.frame? (.takeFrame now) = some (now, text) := by
  unfold takeFrame? frame?
  cases hlistening : c.listening with
  | false =>
      exact Or.inl ⟨rfl, rfl⟩
  | true =>
      cases hframes : c.frames with
      | nil =>
          exact Or.inl ⟨rfl, rfl⟩
      | cons text frames =>
          exact Or.inr ⟨text, frames, rfl, rfl⟩

/-- Taking over the effects of a request leaves all but the journal and the frames. -/
theorem takeOver_keeps
    (effects : List RequestEffect)
    (c : Client υ α) :
    (effects.foldl takeOver c).session = c.session ∧
      (effects.foldl takeOver c).bus.router = c.bus.router ∧
      (effects.foldl takeOver c).load = c.load := by
  induction effects generalizing c with
  | nil =>
      exact ⟨rfl, rfl, rfl⟩
  | cons e effects ih =>
      rw [List.foldl_cons]
      cases e <;> exact ih _

namespace Follows

variable {load : DiagramLoader} {handlers : List (Matcher × υ)} {c c' : Client υ α}
variable {machine : Machine}

/-- A client whose routes and loader stay has its own machine to follow. -/
theorem of_same
    (h : Follows load handlers c machine)
    (hroutes : c'.bus.router.routes = c.bus.router.routes)
    (hload : c'.load = c.load) :
    Follows load handlers c' c'.session.machine :=
  ⟨hroutes ▸ h.listeners, hload ▸ h.load_eq, rfl⟩

/-- A frame is processed in scope. -/
theorem processFrame_becomes
    (h : Follows load handlers c machine)
    (o : Observer υ α)
    (now : Moment)
    (text : String) :
    c.session.Becomes (c.asked? (.frame now text))
      (c.processFrame o.application now text).1.session := by
  unfold Client.processFrame asked? frame?
  simp only [Option.bind_some]
  cases Message.parse text with
  | error e =>
      exact .of_same rfl (Or.inl rfl)
  | ok m =>
      have hreceived := (h.dispatch_receives o now m).1
      simp only [hreceived]
      exact Session.receive_becomes c.session load now m

/-- **Actions.**  Every action keeps the handlers and the scope. -/
theorem act
    (h : Follows load handlers c c.session.machine)
    (o : Observer υ α)
    (a : ClientAction) :
    Follows load handlers (c.act o.application a) (c.act o.application a).session.machine ∧
      c.session.Becomes (c.asked? a) (c.act o.application a).session := by
  cases a with
  | frame now text =>
      have hnext := (h.processFrame o now text).1
      exact ⟨hnext.of_same rfl rfl, h.processFrame_becomes o now text⟩
  | takeFrame now =>
      rcases c.takeFrame?_cases o.application now with ⟨htake, hframe⟩ | ⟨text, frames, htake, hframe⟩
      · rw [Client.act, htake, asked?, hframe]
        exact ⟨h, .of_same rfl (Or.inl rfl)⟩
      · have htaken : Follows load handlers { c with frames := frames } c.session.machine :=
          h.of_same rfl rfl
        rw [Client.act, htake, asked?, hframe]
        exact ⟨(htaken.processFrame o now text).1.of_same rfl rfl,
          htaken.processFrame_becomes o now text⟩
  | give now command =>
      simp only [Client.act, Client.give]
      cases hgiven : c.desk.give Connection.send now command with
      | error e =>
          exact ⟨h, .of_same rfl (Or.inl rfl)⟩
      | ok given =>
          exact ⟨h.of_same rfl rfl, c.desk.give_narrows now command hgiven⟩
  | register now ids =>
      exact ⟨h.of_same rfl rfl, c.desk.register_narrows now ids⟩
  | execute now diagram options =>
      exact ⟨h.of_same rfl rfl, c.desk.execute_narrows now c.delivery diagram options⟩
  | turnRequest id o' =>
      obtain ⟨hsession, hrouter, hload⟩ :=
        takeOver_keeps (c.desk.turn Connection.send c.delivery id o').2
          (c.setDesk (c.desk.turn Connection.send c.delivery id o').1).collect
      have hturn : (c.turnRequest id o').1.session = c.session :=
        hsession.trans (c.desk.turn_session c.delivery id o')
      refine ⟨h.of_same (congrArg Router.routes hrouter) hload, ?_⟩
      rw [Client.act, hturn]
      exact .of_same rfl (Or.inl rfl)
  | onConnection f =>
      exact ⟨h.of_same rfl rfl, .of_same rfl (Or.inl rfl)⟩
  | listen listening =>
      exact ⟨h.of_same rfl rfl, .of_same rfl (Or.inl rfl)⟩
  | prompt now =>
      simp only [Client.act, Client.prompt]
      cases hasked : c.desk.prompt now with
      | error e =>
          exact ⟨h, .of_same rfl (Or.inl rfl)⟩
      | ok asked =>
          exact ⟨h.of_same rfl rfl, c.desk.prompt_narrows now hasked⟩

/-- **Runs.**  After a run the active prompt is that of the newest request, in scope. -/
theorem run_scoped
    (h : Follows load handlers c c.session.machine)
    {newest : Option (Message × Prompt)}
    (hscoped : c.session.Scoped newest)
    (o : Observer υ α)
    (actions : List ClientAction) :
    (c.run o.application actions).session.Scoped
      ((c.requests o.application actions).getLast?.or newest) := by
  induction actions generalizing c newest with
  | nil =>
      exact hscoped
  | cons a actions ih =>
      obtain ⟨hnext, hbecomes⟩ := h.act o a
      have hrest := ih hnext (hscoped.becomes hbecomes)
      have hnewest : (c.requests o.application (a :: actions)).getLast?.or newest =
          ((c.act o.application a).requests o.application actions).getLast?.or
            ((c.asked? a).or newest) := by
        rw [requests, List.getLast?_append, Option.or_assoc]
        cases c.asked? a <;> rfl
      rw [hnewest]
      exact hrest

end Follows

/-- **No stale prompt.**  Whatever handlers the application registers that only observe,
fail and panic, and whatever is done with a client that has heard nothing: an active prompt
is that of the newest request.  If that request named no execution, or gave `null`, the
prompt belongs to the execution that runs, or to none while none runs; and a cancellation,
whoever takes its message, sends nothing or answers for the execution of the prompt. -/
theorem active_prompt_in_scope
    (o : Observer υ α)
    (s : Settings)
    (path : DeliveryPath)
    (load : DiagramLoader)
    (state : α)
    (handlers : List (Matcher × υ))
    (actions : List ClientAction)
    {p : Prompt}
    (hp : (((ofSettings s path load state).listenAll handlers).run
      o.application actions).session.prompts.active = some p) :
    let c := (ofSettings s path load state).listenAll handlers
    let session := (c.run o.application actions).session
    ∃ m, (c.requests o.application actions).getLast? = some (m, p) ∧
      (m.OmitsExecution →
        p.executionId = session.machine.activeId? ∧
        ∀ {σ : Type} (send : Sink σ) (d : Desk σ) (now : Moment)
          (given : Desk σ × CommandOutcome),
          d.session = session → d.give send now .cancelPrompt = .ok given →
            given.1.sink = d.sink ∨
              ∃ e, p.executionId = some e ∧
                given.1.sink = (send (.interactiveResponse p.nodeId e "") d.sink).1) := by
  intro c session
  have hfollows : Follows load handlers c c.session.machine :=
    Follows.fresh s path load state handlers
  have hnothing : c.session.Scoped none :=
    nofun
  have hscoped := hfollows.run_scoped hnothing o actions
  rw [Option.or_none] at hscoped
  obtain ⟨m, hm, hscope⟩ := hscoped p hp
  refine ⟨m, hm, ?_⟩
  intro homits
  refine ⟨hscope homits, ?_⟩
  rintro σ send d now given hd hgiven
  exact Desk.cancelPrompt_answers (hd ▸ hp) (hd ▸ hscope homits) hgiven

/-- The start of an execution. -/
def startedText : String :=
  "\x7b\"type\":\"execution_started\",\"execution_id\":\"e1\"\x7d"

/-- A request for a prompt that names no execution. -/
def promptText : String :=
  "\x7b\"type\":\"interactive_prompt\",\"node_id\":\"n\",\"prompt\":\"Continue?\"\x7d"

/-- The message of the start. -/
def startedMessage : Message :=
  ⟨"execution_started", [("execution_id", .str "e1"), ("type", .str "execution_started")]⟩

/-- The message of the request. -/
def promptMessage : Message :=
  ⟨"interactive_prompt",
    [("node_id", .str "n"), ("prompt", .str "Continue?"), ("type", .str "interactive_prompt")]⟩

theorem parse_startedText : Message.parse startedText = .ok startedMessage := by
  have hread : Json.read startedText = .ok startedMessage.payload := by
    cbv
  rw [Message.parse, hread]
  rfl

theorem parse_promptText : Message.parse promptText = .ok promptMessage := by
  have hread : Json.read promptText = .ok promptMessage.payload := by
    cbv
  rw [Message.parse, hread]
  rfl

/-- A client without handlers of an application. -/
def quietClient : Client Unit Unit :=
  (ofSettings {} .connection .declared ()).listenAll []

/-- Handlers that do nothing. -/
def quiet : Observer Unit Unit := fun _ _ _ => ((), .done)

/-- The frames of the start and of the request. -/
def promptFrames : List ClientAction :=
  [.frame ⟨0, default⟩ startedText, .frame ⟨1, default⟩ promptText]

/-- The prompt that they leave. -/
def openedPrompt : Prompt :=
  ⟨"n", some "e1", "Continue?", none, none, 1⟩

theorem openedPrompt_in_scope :
    (quietClient.run quiet.application promptFrames).session.prompts.active =
        some openedPrompt ∧
      promptMessage.OmitsExecution ∧
      (quietClient.requests quiet.application promptFrames).getLast? =
        some (promptMessage, openedPrompt) ∧
      openedPrompt.executionId =
        (quietClient.run quiet.application promptFrames).session.machine.activeId? := by
  have hactive : (quietClient.run quiet.application promptFrames).session.prompts.active =
      some openedPrompt := by
    simp only [promptFrames, run, act, processFrame, parse_startedText, parse_promptText]
    rfl
  have hrunning :
      (quietClient.dispatch quiet.application ⟨0, default⟩
        startedMessage).1.session.machine.activeId? = some "e1" :=
    rfl
  have hstarts : startedMessage.request? = none :=
    rfl
  have hasks : promptMessage.request? = some ⟨"n", none, "Continue?", none, none⟩ :=
    rfl
  have hlast : (quietClient.requests quiet.application promptFrames).getLast? =
      some (promptMessage, openedPrompt) := by
    simp only [promptFrames, requests, asked?, frame?, act, processFrame, Option.bind_some,
      parse_startedText, parse_promptText, Session.asked?, hrunning, hstarts, hasks,
      Option.map_none, Option.map_some]
    rfl
  have homits : promptMessage.OmitsExecution := by
    intro e he
    simp only [promptMessage, List.mem_cons, List.not_mem_nil, or_false] at he
    rcases he with rfl | rfl | rfl <;> simp
  -- The client is spelled out here: comparing the two forms would evaluate the run.
  have hspelled := hactive
  rw [quietClient] at hspelled
  obtain ⟨m, hm, hscope⟩ :=
    active_prompt_in_scope quiet {} .connection .declared () [] promptFrames hspelled
  obtain rfl : promptMessage = m :=
    congrArg Prod.fst (Option.some.inj (hlast.symm.trans hm))
  exact ⟨hactive, homits, hlast, (hscope homits).1⟩

end Client

end RemoteRun
