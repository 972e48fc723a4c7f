import RemoteRun.Proofs.Client.Isolation
import RemoteRun.Proofs.Client.Targeting

/-!
# Looking at a prompt whose deadline cannot be shown

The timeout of a prompt is whatever word the engine sends.  Everyone who looks at the active
prompt computes its deadline, at every look anew, and that overflows when the deadline lies
beyond what a clock can show.

**Looks.** There are four: asking the slot and cancelling at the slot, and the same two at
the client.  `Client.Answers` says that all of them return at a moment, `Client.Overflows`
that none does.

**Results.**
* `Client.prompt_access`: after any run all four return at every moment, unless the newest
  request of the run is active and has such a deadline.  Then all four overflow at every
  moment, and leave the client as it was, so that they do so again.  A request brings that
  about exactly when its timeout is too long for the clock as it stands.
* `Client.distant_request_overflows`: such a request can be read.
-/

namespace RemoteRun
namespace Client

variable {υ α : Type}

/-- All who look at the active prompt at a moment get an answer. -/
structure Answers (c : Client υ α) (now : Moment) : Prop where
  asked : ∃ asked, c.session.prompts.current now.elapsed = .ok asked
  cancelled : ∀ {σ : Type} (send : Sink σ) (state : σ) (tracked : Option String),
    ∃ given, c.session.prompts.cancel send state now.elapsed tracked = .ok given
  prompted : ∃ asked, c.prompt now = .ok asked
  commanded : ∃ given, c.give now .cancelPrompt = .ok given

/-- Nobody who looks at the active prompt at a moment gets an answer. -/
structure Overflows (c : Client υ α) (now : Moment) : Prop where
  asked : c.session.prompts.current now.elapsed = .error .beyondClock
  cancelled : ∀ {σ : Type} (send : Sink σ) (state : σ) (tracked : Option String),
    c.session.prompts.cancel send state now.elapsed tracked = .error .beyondClock
  prompted : c.prompt now = .error .beyondClock
  commanded : c.give now .cancelPrompt = .error .beyondClock

theorem overflows_of_distant
    {c : Client υ α}
    (h : c.session.prompts.overflows = true)
    (now : Moment) :
    c.Overflows now := by
  have hasked : c.session.prompts.current now.elapsed = .error .beyondClock := by
    rw [PromptSlot.current_eq, h]
    rfl
  have hdesk : c.desk.session.prompts.overflows = true := h
  have hdeskAsked : c.desk.session.prompts.current now.elapsed = .error .beyondClock := hasked
  refine ⟨hasked, ?_, ?_, ?_⟩
  · intro σ send state tracked
    rw [PromptSlot.cancel_eq, h]
    rfl
  · simp only [prompt, Desk.prompt, hdeskAsked]
  · simp only [give, Desk.give_distant hdesk]

theorem answers_of_near
    {c : Client υ α}
    (h : c.session.prompts.overflows = false)
    (now : Moment) :
    c.Answers now := by
  have hasked : c.session.prompts.current now.elapsed =
      .ok (⟨c.session.prompts.waiting? now.elapsed⟩, c.session.prompts.waiting? now.elapsed) := by
    rw [PromptSlot.current_eq, h]
    rfl
  have hcancelled : ∀ {σ : Type} (send : Sink σ) (state : σ) (tracked : Option String),
      ∃ given, c.session.prompts.cancel send state now.elapsed tracked = .ok given := by
    intro σ send state tracked
    rw [PromptSlot.cancel_eq, h]
    cases c.session.prompts.waiting? now.elapsed <;> exact ⟨_, rfl⟩
  refine ⟨⟨_, hasked⟩, hcancelled, ?_, ?_⟩
  · have hdesk : c.desk.session.prompts.current now.elapsed = _ := hasked
    simp only [prompt, Desk.prompt, hdesk]
    exact ⟨_, rfl⟩
  · obtain ⟨given, hgiven⟩ := hcancelled Connection.send c.connection c.desk.target?
    have hdesk : c.desk.session.prompts.cancel Connection.send c.desk.sink now.elapsed
        c.desk.target? = .ok given := hgiven
    simp only [give, Desk.give, Desk.cancelPrompt, hdesk]
    exact ⟨_, rfl⟩

/-- All who look get an answer exactly when the deadline of the active prompt can be shown. -/
theorem answers_iff
    (c : Client υ α)
    (now : Moment) :
    c.Answers now ↔ c.session.prompts.overflows = false := by
  constructor
  · intro h
    cases hover : c.session.prompts.overflows with
    | false =>
        rfl
    | true =>
        obtain ⟨asked, hasked⟩ := h.asked
        rw [(overflows_of_distant hover now).asked] at hasked
        cases hasked
  · intro h
    exact answers_of_near h now

/-- A request leaves its own prompt as the active one. -/
theorem Follows.active_of_request
    {load : DiagramLoader}
    {handlers : List (Matcher × υ)}
    {c : Client υ α}
    (h : Follows load handlers c c.session.machine)
    (o : Observer υ α)
    (now : Moment)
    {text : String}
    {m : Message}
    {r : PromptRequest}
    (hparse : Message.parse text = .ok m)
    (hrequest : m.request? = some r) :
    (c.act o.application (.frame now text)).session.prompts.active =
      some (.ofRequest r c.session.machine.activeId? now.elapsed) := by
  have hreceived := h.session_processFrame o now hparse
  rw [Client.act, hreceived, Session.receive_of_request? hrequest]

/-- **Looks at a prompt.**  Take any client after any run, whatever handlers the application
registers that only observe, fail and panic.  All looks at the active prompt return, at every
moment, unless its deadline lies beyond what a clock can show.  In that case the prompt is
that of the newest request, no look returns at any moment, and a look changes nothing.  And
after a request all looks return exactly when its timeout, if it has one, and the seconds that
the clock shows when the request is processed add up to what a clock can show. -/
theorem prompt_access
    (o : Observer υ α)
    (s : Settings)
    (path : DeliveryPath)
    (load : DiagramLoader)
    (state : α)
    (handlers : List (Matcher × υ))
    (actions : List ClientAction) :
    let start := (ofSettings s path load state).listenAll handlers
    let c := start.run o.application actions
    (∀ later, c.Answers later ↔ c.session.prompts.overflows = false) ∧
      (c.session.prompts.overflows = true →
        (∃ m p, (start.requests o.application actions).getLast? = some (m, p) ∧
          c.session.prompts.active = some p) ∧
        ∀ later, c.Overflows later ∧
          c.act o.application (.prompt later) = c ∧
          c.act o.application (.give later .cancelPrompt) = c) ∧
      ∀ now text m r, Message.parse text = .ok m → m.request? = some r → ∀ later,
        (c.act o.application (.frame now text)).Answers later ↔
          ∀ seconds, r.timeout = some seconds →
            now.elapsed / 1000 + seconds.toNat < Duration.clockBound := by
  intro start c
  have hstart : Follows load handlers start start.session.machine :=
    Follows.fresh s path load state handlers
  have hfollows : Follows load handlers c c.session.machine :=
    hstart.run o actions
  refine ⟨c.answers_iff, ?_, ?_⟩
  · intro hover
    obtain ⟨p, hactive, _⟩ := (Option.any_eq_true _ _).1 hover
    have hnothing : start.session.Scoped none := by
      intro p hp
      cases hp
    have hscoped := hstart.run_scoped hnothing o actions
    rw [Option.or_none] at hscoped
    obtain ⟨m, hnewest, _⟩ := hscoped p hactive
    refine ⟨⟨m, p, hnewest, hactive⟩, ?_⟩
    intro later
    have hover := overflows_of_distant hover later
    refine ⟨hover, ?_, ?_⟩
    · simp only [Client.act, hover.prompted]
    · simp only [Client.act, hover.commanded]
  · intro now text m r hparse hrequest later
    rw [answers_iff, PromptSlot.overflows, hfollows.active_of_request o now hparse hrequest,
      Option.any_some, Prompt.overflows, Prompt.ofRequest]
    cases r.timeout <;> simp

/-- A request for a prompt whose deadline cannot be shown can be read, and once a client has
read it no look at the prompt returns any more. -/
theorem distant_request_overflows :
    (∃ m r, Message.parse distantPromptText = .ok m ∧ m.request? = some r) ∧
      ∀ later, distantClient.Overflows later ∧ ¬ distantClient.Answers later := by
  have hread : ((Message.parse distantPromptText).toOption.bind Message.request?).isSome := by
    decide +kernel
  have hdistant : distantClient.session.prompts.overflows = true := by
    decide +kernel
  refine ⟨?_, ?_⟩
  · cases hparse : Message.parse distantPromptText with
    | error e =>
        rw [hparse] at hread
        cases hread
    | ok m =>
        rw [hparse] at hread
        obtain ⟨r, hrequest⟩ := Option.isSome_iff_exists.1 hread
        exact ⟨m, r, rfl, hrequest⟩
  · intro later
    refine ⟨overflows_of_distant hdistant later, ?_⟩
    rw [answers_iff, hdistant]
    nofun

end Client
end RemoteRun
