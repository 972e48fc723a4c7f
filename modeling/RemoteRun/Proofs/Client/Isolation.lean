import Mathlib.Data.List.Permutation
import RemoteRun.Proofs.Client.PromptScope

/-!
# Frames that should change nothing

A frame that cannot be decoded changes no part of what a client shows, and neither does
the end of an execution that is not the running one, with one exception: after every
frame that by its kind starts or ends an execution the active prompt is compared with
the execution that runs, whatever came of the frame.  A prompt of another execution is
dropped then.

**Views.** `Session.view` is what is seen of a session at a time.

**Malformed frames.** Every reaction to a message that cannot be decoded leaves the
session, but for the one that looks at the prompt: `Session.react_of_undecoded`.

**Foreign ends.** The end of an execution that the message names leaves the id of the
running execution when that is another one, and never brings a new one:
`Machine.activeId?_of_foreign`, `Machine.activeId?_of_ending`.

**Results.**
* `Client.malformed_frame_isolated`: what a malformed frame changes, and exactly when it
  shows.
* `Client.prompt_survives_foreign_end`: a prompt survives the end of another execution
  exactly when its own execution is the one that runs.
-/

namespace RemoteRun

/-! ### Views -/

/-- What is seen of a session at a time. -/
structure SessionView where
  snapshot : Snapshot
  known : IdSet
  pending : PendingQueue
  prompt : Except DeadlineOverflow (Option Prompt)
  clientId : Option String
  lastError : Option String

namespace Session

/-- The active prompt at a time; an expired one is not seen. -/
def promptAt (s : Session) (time : Nat) : Except DeadlineOverflow (Option Prompt) :=
  (s.prompts.current time).map Prod.snd

/-- What is seen of a session at a time. -/
def view (s : Session) (time : Nat) : SessionView where
  snapshot := s.machine.snapshot
  known := s.machine.known
  pending := s.machine.pending
  prompt := s.promptAt time
  clientId := s.clientId
  lastError := s.lastError

/-- An active prompt is seen until it expires. -/
theorem promptAt_of_active
    {s : Session}
    {p : Prompt}
    (hp : s.prompts.active = some p)
    (time : Nat) :
    s.promptAt time =
      (p.isExpired time).map fun expired => if expired then none else some p := by
  unfold promptAt PromptSlot.current
  rw [hp]
  cases h : p.isExpired time with
  | error e =>
      simp [h, Except.map]
  | ok expired =>
      cases expired <;> simp [h, Except.map]

theorem promptAt_of_cleared
    {s : Session}
    (hp : s.prompts.active = none)
    (time : Nat) :
    s.promptAt time = .ok none := by
  unfold promptAt PromptSlot.current
  rw [hp]
  rfl

/-- What is seen of a prompt is the active one. -/
theorem active_of_promptAt
    {s : Session}
    {p : Prompt}
    {time : Nat}
    (h : s.promptAt time = .ok (some p)) :
    s.prompts.active = some p := by
  cases hactive : s.prompts.active with
  | none =>
      rw [promptAt_of_cleared hactive] at h
      cases h
  | some q =>
      rw [promptAt_of_active hactive] at h
      cases hexpired : q.isExpired time with
      | error e =>
          rw [hexpired] at h
          cases h
      | ok expired =>
          rw [hexpired] at h
          cases expired with
          | true =>
              cases h
          | false =>
              simpa [Except.map] using h

/-- Dropping an active prompt is not seen exactly when it has expired. -/
theorem view_clear_eq_iff
    {s : Session}
    {p : Prompt}
    (hp : s.prompts.active = some p)
    (time : Nat) :
    ({ s with prompts := s.prompts.clear }).view time = s.view time ↔
      p.isExpired time = .ok true := by
  have hcleared : ({ s with prompts := s.prompts.clear }).promptAt time = .ok none :=
    promptAt_of_cleared rfl time
  have hkept := promptAt_of_active hp time
  unfold view
  simp only [hcleared, SessionView.mk.injEq, true_and, and_true]
  rw [hkept]
  cases h : p.isExpired time with
  | error e =>
      simp [Except.map]
  | ok expired =>
      cases expired <;> simp [Except.map]

end Session

/-! ### Malformed frames -/

/-- A frame that is no message, or a message that cannot be decoded. -/
def Malformed (text : String) : Prop :=
  (∃ e, Message.parse text = .error e) ∨
    ∃ m e, Message.parse text = .ok m ∧ m.decode = .error e

/-- Whether a message is of a kind that starts or ends an execution. -/
def Message.scopes (m : Message) : Bool :=
  Reaction.scoping.any fun kind => kind.wireName == m.kind

namespace Reaction

/-- Only a message that starts or ends an execution has the prompt looked at. -/
theorem toKind_of_not_scopes
    {kind : EventKind}
    (hscoping : kind ∉ scoping) :
    ∀ r ∈ toKind kind.wireName, r ≠ .scopePrompt := by
  cases kind <;> first | decide | simp [scoping] at hscoping

end Reaction

namespace Session

variable {load : DiagramLoader} {now : Moment} {m : Message}

/-- A reaction to a message that cannot be decoded changes nothing, or looks at the
prompt. -/
theorem react_of_undecoded
    {e : ProtocolError}
    (hm : m.decode = .error e)
    {r : Reaction}
    (hr : r ≠ .scopePrompt)
    (s : Session) :
    (s.react load now m r).1 = s := by
  cases r with
  | track =>
      simp only [react, track, Machine.apply, hm]
  | loadDiagram =>
      simp only [react, loadDiagram, pushedIds?, pushedDiagram?, hm]
  | scopePrompt =>
      exact absurd rfl hr
  | openPrompt =>
      simp only [react, openPrompt, PromptSlot.requested, hm]
  | greet =>
      simp only [react, greet, hm]
  | recordError =>
      simp only [react, recordError, hm]
  | acknowledge =>
      rfl

theorem reactAll_of_undecoded
    {e : ProtocolError}
    (hm : m.decode = .error e)
    {rs : List Reaction}
    (hrs : ∀ r ∈ rs, r ≠ .scopePrompt)
    (s : Session) :
    s.reactAll load now m rs = s := by
  induction rs generalizing s with
  | nil =>
      rfl
  | cons r rs ih =>
      rw [reactAll, react_of_undecoded hm (hrs r List.mem_cons_self)]
      exact ih (fun r' h => hrs r' (List.mem_cons_of_mem r h)) s

/-- A message that cannot be decoded has the prompt looked at if its kind starts or ends an
execution, and changes nothing else. -/
theorem receive_of_undecoded
    {e : ProtocolError}
    (hm : m.decode = .error e)
    (s : Session) :
    s.receive load now m = if m.scopes then s.scopePrompt else s := by
  rcases m.decode_cases with ⟨_, hd⟩ | ⟨_, _⟩ | ⟨_, _, _, hd⟩
  · rw [hd] at hm
    cases hm
  · unfold receive
    cases hkind : EventKind.ofWireName? m.kind with
    | none =>
        simp [Message.decode, hkind] at hm
    | some kind =>
        have hname := EventKind.wireName_of_ofWireName? hkind
        by_cases hscoping : kind ∈ Reaction.scoping
        · have hscopes : m.scopes = true :=
            List.any_eq_true.2 ⟨kind, hscoping, beq_iff_eq.2 hname⟩
          obtain ⟨others, hothers, hkeep⟩ := Reaction.toKind_of_scoping hscoping
          have hnone : ∀ r ∈ others, r ≠ .scopePrompt := by
            rintro r hr rfl
            cases hkeep _ hr
          rw [← hname, hothers, reactAll_append, reactAll_of_undecoded hm hnone, hscopes]
          rfl
        · have hscopes : m.scopes = false := by
            rw [Message.scopes, List.any_eq_false]
            intro other hother hsame
            obtain rfl : other = kind := by
              have hsame' := EventKind.ofWireName?_wireName other
              rw [beq_iff_eq.1 hsame, hkind] at hsame'
              exact (Option.some.inj hsame').symm
            exact hscoping hother
          rw [← hname, reactAll_of_undecoded hm (Reaction.toKind_of_not_scopes hscoping),
            hscopes]
          rfl
  · rw [hd] at hm
    cases hm

/-- The prompt that a frame takes although it cannot be decoded: the active one, if it
belongs to another execution than the running one and the frame is of a kind that starts
or ends an execution. -/
def lost? (s : Session) (text : String) : Option Prompt :=
  match Message.parse text with
  | .error _ => none
  | .ok m => if m.scopes then s.prompts.droppedFor? s.machine.activeId? else none

/-- The session without the prompt that it loses, if it loses one. -/
def without (s : Session) : Option Prompt → Session
  | none => s
  | some _ => { s with prompts := s.prompts.clear }

theorem active_of_lost?
    {s : Session}
    {text : String}
    {p : Prompt}
    (h : s.lost? text = some p) :
    s.prompts.active = some p := by
  unfold lost? PromptSlot.droppedFor? at h
  split at h
  next => cases h
  next m _ =>
    cases hscopes : m.scopes <;> simp only [hscopes, Bool.false_eq_true, if_false, if_true] at h
    · cases h
    · split at h
      next => exact h
      next => cases h

/-- Looking at the prompt drops the one that belongs to another execution. -/
theorem scopePrompt_eq_without
    (s : Session) :
    s.scopePrompt = s.without (s.prompts.droppedFor? s.machine.activeId?) := by
  unfold scopePrompt PromptSlot.retainFor PromptSlot.droppedFor?
  cases hstale : s.prompts.isStale s.machine.activeId? with
  | false =>
      rfl
  | true =>
      cases hactive : s.prompts.active with
      | none =>
          simp [PromptSlot.isStale, hactive] at hstale
      | some p =>
          rfl

end Session

/-! ### Ends of executions -/

/-- The kinds that end an execution. -/
def EventKind.ending : List EventKind :=
  [.executionComplete, .executionError, .executionAborted]

/-- The message is of a kind that ends an execution. -/
def Message.Ends (m : Message) : Prop :=
  ∃ kind ∈ EventKind.ending, m.kind = kind.wireName

/-- The message names an execution, under any of the spellings. -/
def Message.Names (m : Message) (id : String) : Prop :=
  ∃ e ∈ m.members, Field.execution.accepts e.1 = true ∧ e.2 = .str id

namespace Message

/-- The kind of a message that ends an execution. -/
theorem Ends.kind
    {m : Message}
    (h : m.Ends) :
    ∃ kind ∈ EventKind.ending, m.kind = kind.wireName ∧
      EventKind.ofWireName? m.kind = some kind := by
  obtain ⟨kind, hkind, hname⟩ := h
  refine ⟨kind, hkind, hname, ?_⟩
  rw [hname]
  exact EventKind.ofWireName?_wireName kind

/-- The end of an execution that can be decoded is a report on the execution that the
message names. -/
theorem decode_of_ends
    {m : Message}
    (hends : m.Ends)
    {id : String}
    (hnames : m.Names id) :
    (∃ e, m.decode = .error e) ∨
      (∃ total, m.decode = .ok (some (.execution (.complete (some id) total)))) ∨
      (∃ error, m.decode = .ok (some (.execution (.failed (some id) error)))) ∨
      m.decode = .ok (some (.execution (.aborted (some id)))) := by
  obtain ⟨kind, hkind, _, hof⟩ := hends.kind
  obtain ⟨e, he, hspells, hvalue⟩ := hnames
  unfold decode
  simp only [hof]
  cases hg : Field.gather kind.fields m.members with
  | error fault =>
      exact Or.inl ⟨_, rfl⟩
  | ok gathered =>
      right
      have hfield : Field.execution ∈ kind.fields := by
        cases kind <;> simp [EventKind.ending] at hkind <;> simp [EventKind.fields]
      have hfound := (Field.get?_takeAll (Field.takeAll_of_gather hg)).2 e he Field.execution
        (EventKind.spelled?_of_accepts hfield hspells)
      have hget : gathered.get? "execution_id" = some (.str id) := by
        rw [← hvalue]
        exact hfound.2
      have hid : Gathered.optionalText gathered "execution_id" = some id := by
        rw [Gathered.optionalText, hget]
      cases kind <;> simp [EventKind.ending] at hkind <;> simp [EventKind.assemble, hid]

/-- The end of an execution starts none. -/
theorem not_starts_of_ends
    {m : Message}
    (hends : m.Ends) :
    (Operation.apply m).starts = false := by
  obtain ⟨kind, hkind, _, hof⟩ := hends.kind
  unfold Operation.starts
  rcases m.decode_cases with ⟨_, hd⟩ | ⟨e, hd⟩ | ⟨kind', gathered, hkind', hd⟩
  · simp only [hd]
  · simp only [hd]
  · obtain rfl : kind' = kind := Option.some.inj (hkind'.symm.trans hof)
    simp only [hd]
    cases kind' <;> simp [EventKind.ending] at hkind <;> rfl

/-- The end of an execution has the prompt looked at. -/
theorem scopes_of_ends
    {m : Message}
    (hends : m.Ends) :
    ∃ kind ∈ Reaction.scoping, m.kind = kind.wireName ∧
      EventKind.ofWireName? m.kind = some kind ∧ kind ≠ .executionStarted := by
  obtain ⟨kind, hkind, hname, hof⟩ := hends.kind
  refine ⟨kind, ?_, hname, hof, ?_⟩
  · cases kind <;> simp [EventKind.ending] at hkind <;> decide
  · rintro rfl
    simp [EventKind.ending] at hkind

end Message

namespace Machine

variable (now : Timestamp)

/-- Without a start the execution that runs goes on or ends. -/
theorem activeId?_of_advance
    {m m' : Machine}
    (h : Advance m m') :
    m'.activeId? = m.activeId? ∨ m'.activeId? = none := by
  cases h with
  | report now id report =>
      exact Or.inl (m.activeId?_applyNode now id report)
  | complete h now tokens hm hlive =>
      exact Or.inr (activeId?_of_terminal rfl rfl)
  | fail h now error hm hlive =>
      exact Or.inr (activeId?_of_terminal rfl rfl)
  | abort h now hm hlive =>
      exact Or.inr (activeId?_of_terminal rfl rfl)
  | requeue known pending =>
      exact Or.inl rfl

/-- After the end of an execution the one that ran before goes on, or none does. -/
theorem activeId?_of_ending
    {message : Message}
    (hends : message.Ends)
    (m : Machine) :
    (m.apply now message).1.activeId? = m.activeId? ∨
      (m.apply now message).1.activeId? = none := by
  have hadvances := advances_apply m now (Message.not_starts_of_ends hends)
  refine advances_preserve (P := fun k => k.activeId? = m.activeId? ∨ k.activeId? = none)
    ?_ hadvances (Or.inl rfl)
  intro k k' hadvance hk
  rcases activeId?_of_advance hadvance with hsame | hnone
  · rw [hsame]
    exact hk
  · exact Or.inr hnone

/-- The end of another execution leaves the one that runs. -/
theorem activeId?_of_foreign
    {message : Message}
    (hends : message.Ends)
    {named : String}
    (hnames : message.Names named)
    {m : Machine}
    {id : String}
    (hrunning : m.activeId? = some id)
    (hne : named ≠ id) :
    (m.apply now message).1 = m := by
  obtain ⟨h, hlive, rfl⟩ := Option.map_eq_some_iff.1 hrunning
  obtain ⟨hm, _⟩ := Option.filter_eq_some_iff.1 hlive
  have hignored :
      ∀ change, m.onTarget (some named) change =
        (m, .ignored (.foreignExecution h.executionId named)) := by
    intro change
    simp [onTarget, target, hm, hne]
  rcases Message.decode_of_ends hends hnames with
    ⟨e, hd⟩ | ⟨total, hd⟩ | ⟨error, hd⟩ | hd
  · simp only [apply, hd]
  · simp only [apply, hd, applyExecution, hignored]
  · simp only [apply, hd, applyExecution, hignored]
  · simp only [apply, hd, applyExecution, hignored]

end Machine

namespace Session

variable {load : DiagramLoader} {now : Moment} {m : Message}

/-- The end of an execution has the prompt compared with the execution that runs then. -/
theorem prompts_receive_of_ends
    (hends : m.Ends)
    (s : Session) :
    (s.receive load now m).prompts =
      s.prompts.retainFor (s.machine.apply now.date m).1.activeId? := by
  obtain ⟨kind, hscoping, hname, hof, hstarted⟩ := Message.scopes_of_ends hends
  obtain ⟨others, hothers, hkeep⟩ := Reaction.toKind_of_scoping hscoping
  have hfollow : (s.receive load now m).machine = (s.machine.apply now.date m).1 := by
    rw [receive_machine]
    apply Machine.follow_of_not_started
    rw [hof]
    simpa using hstarted
  rw [receive, hname, hothers, reactAll_append] at hfollow ⊢
  simp only [reactAll, react, scopePrompt] at hfollow ⊢
  rw [hfollow, reactAll_prompts hkeep]

/-- A prompt survives the end of another execution than its own exactly when its own is
the one that runs. -/
theorem promptAt_of_foreign_end
    {s : Session}
    {p : Prompt}
    {time : Nat}
    (hp : s.promptAt time = .ok (some p))
    {id named : String}
    (hid : p.executionId = some id)
    (hends : m.Ends)
    (hnames : m.Names named)
    (hne : named ≠ id) :
    (s.receive load now m).promptAt time =
      if s.machine.activeId? = some id then .ok (some p) else .ok none := by
  have hactive := active_of_promptAt hp
  have hprompts :
      (s.receive load now m).prompts =
        s.prompts.retainFor (s.machine.apply now.date m).1.activeId? :=
    prompts_receive_of_ends hends s
  by_cases hrunning : s.machine.activeId? = some id
  · have hkept : (s.receive load now m).prompts = s.prompts := by
      rw [hprompts, Machine.activeId?_of_foreign now.date hends hnames hrunning hne]
      simp [PromptSlot.retainFor, PromptSlot.isStale, hactive, hid, hrunning]
    rw [if_pos hrunning, ← hp, promptAt, hkept, promptAt]
  · have hother : (s.machine.apply now.date m).1.activeId? ≠ some id := by
      rcases Machine.activeId?_of_ending now.date hends s.machine with hsame | hnone
      · rw [hsame]
        exact hrunning
      · rw [hnone]
        simp
    rw [if_neg hrunning]
    apply promptAt_of_cleared
    rw [hprompts]
    have hstale : s.prompts.isStale (s.machine.apply now.date m).1.activeId? = true := by
      simp only [PromptSlot.isStale, hactive, hid, bne_iff_ne]
      exact hother.symm
    simp [PromptSlot.retainFor, hstale, PromptSlot.clear]

end Session

namespace Client

variable {υ α : Type}

namespace Follows

variable {load : DiagramLoader} {handlers : List (Matcher × υ)} {c : Client υ α}

/-- A run keeps the handlers. -/
theorem run
    (h : Follows load handlers c c.session.machine)
    (o : Observer υ α)
    (actions : List ClientAction) :
    Follows load handlers (c.run o.application actions)
      (c.run o.application actions).session.machine := by
  induction actions generalizing c with
  | nil =>
      exact h
  | cons a actions ih =>
      exact ih (h.act o a).1

/-- A frame that is a message is received. -/
theorem session_processFrame
    {machine : Machine}
    (h : Follows load handlers c machine)
    (o : Observer υ α)
    (now : Moment)
    {text : String}
    {m : Message}
    (hparse : Message.parse text = .ok m) :
    (c.processFrame o.application now text).1.session = c.session.receive load now m := by
  simp only [Client.processFrame, hparse]
  exact (h.dispatch_receives o now m).1

/-- A malformed frame takes the prompt of another execution at most. -/
theorem processFrame_of_malformed
    {machine : Machine}
    (h : Follows load handlers c machine)
    (o : Observer υ α)
    (now : Moment)
    {text : String}
    (hmalformed : Malformed text) :
    (c.processFrame o.application now text).1.session =
      c.session.without (c.session.lost? text) := by
  rcases hmalformed with ⟨e, hparse⟩ | ⟨m, e, hparse, hdecode⟩
  · simp only [Client.processFrame, Session.lost?, hparse]
    rfl
  · rw [h.session_processFrame o now hparse, Session.receive_of_undecoded hdecode]
    simp only [Session.lost?, hparse]
    cases m.scopes with
    | false =>
        rfl
    | true =>
        exact Session.scopePrompt_eq_without c.session

end Follows

/-- **Malformed frames are isolated but for prompts of other executions.**  Whatever
handlers the application registers that only observe, fail and panic, and whatever has
been done with the client: a frame that is no message, or that cannot be decoded, leaves
the session, unless it is of a kind that starts or ends an execution and the active prompt
belongs to another execution than the running one.  That prompt is dropped, and nothing
else.  At a given time this is seen exactly when the prompt has not expired by then. -/
theorem malformed_frame_isolated
    (o : Observer υ α)
    (s : Settings)
    (path : DeliveryPath)
    (load : DiagramLoader)
    (state : α)
    (handlers : List (Matcher × υ))
    (actions : List ClientAction)
    (now : Moment)
    {text : String}
    (hmalformed : Malformed text) :
    let c := ((ofSettings s path load state).listenAll handlers).run o.application actions
    let after := (c.processFrame o.application now text).1.session
    after = c.session.without (c.session.lost? text) ∧
      ∀ time,
        after.view time = c.session.view time ↔
          ∀ p, c.session.lost? text = some p → p.isExpired time = .ok true := by
  intro c after
  have hfollows : Follows load handlers c c.session.machine :=
    (Follows.fresh s path load state handlers).run o actions
  have hafter : after = c.session.without (c.session.lost? text) :=
    hfollows.processFrame_of_malformed o now hmalformed
  refine ⟨hafter, ?_⟩
  intro time
  rw [hafter]
  cases hlost : c.session.lost? text with
  | none =>
      simp [Session.without]
  | some p =>
      have hseen := Session.view_clear_eq_iff (Session.active_of_lost? hlost) time
      simpa [Session.without] using hseen

/-- The end of an execution with a truth value instead of its id. -/
def spoiledText : String :=
  "\x7b\"type\":\"execution_complete\",\"execution_id\":true\x7d"

/-- The message of the spoiled end. -/
def spoiledMessage : Message :=
  ⟨"execution_complete",
    [("execution_id", .bool true), ("type", .str "execution_complete")]⟩

theorem parse_spoiledText : Message.parse spoiledText = .ok spoiledMessage := by
  have hread : Json.read spoiledText = .ok spoiledMessage.payload := by
    cbv
  rw [Message.parse, hread]
  rfl

theorem malformed_spoiledText : Malformed spoiledText :=
  Or.inr ⟨spoiledMessage, _, parse_spoiledText, rfl⟩

/-- A request for a prompt of an execution that is not the running one. -/
def watchedText : String :=
  "\x7b\"type\":\"interactive_prompt\",\"node_id\":\"n\",\"prompt\":\"Continue?\"," ++
    "\"execution_id\":\"e9\"\x7d"

/-- The message of the request. -/
def watchedMessage : Message :=
  ⟨"interactive_prompt",
    [("execution_id", .str "e9"), ("node_id", .str "n"), ("prompt", .str "Continue?"),
     ("type", .str "interactive_prompt")]⟩

theorem parse_watchedText : Message.parse watchedText = .ok watchedMessage := by
  have hread : Json.read watchedText = .ok watchedMessage.payload := by
    cbv
  rw [Message.parse, hread]
  rfl

/-- The prompt that it makes. -/
def watchedPrompt : Prompt :=
  ⟨"n", some "e9", "Continue?", none, none, 0⟩

/-- The client after the request alone. -/
def watchingClient : Client Unit Unit :=
  quietClient.run quiet.application [.frame ⟨0, default⟩ watchedText]

/-- A client whose own execution runs and asks. -/
def askedClient : Client Unit Unit :=
  quietClient.run quiet.application promptFrames

theorem askedClient_session :
    askedClient.session.prompts.active = some openedPrompt ∧
      askedClient.session.machine.activeId? = some "e1" := by
  constructor <;>
    simp only [askedClient, promptFrames, run, act, processFrame, parse_startedText,
      parse_promptText] <;>
    rfl

theorem watchingClient_follows :
    Follows .declared [] watchingClient watchingClient.session.machine :=
  (Follows.fresh {} .connection .declared () []).run quiet _

theorem watchingClient_session :
    watchingClient.session.prompts.active = some watchedPrompt ∧
      watchingClient.session.machine.activeId? = none := by
  constructor <;>
    simp only [watchingClient, run, act, processFrame, parse_watchedText] <;>
    rfl

/-- A prompt of the running execution stays when the end of an execution is malformed. -/
theorem spoiled_end_leaves_asked :
    Malformed spoiledText ∧
      (askedClient.processFrame quiet.application ⟨2, default⟩ spoiledText).1.session =
        askedClient.session := by
  have hlost : askedClient.session.lost? spoiledText = none := by
    obtain ⟨hactive, hrunning⟩ := askedClient_session
    simp only [Session.lost?, parse_spoiledText, PromptSlot.droppedFor?, PromptSlot.isStale,
      hactive, hrunning]
    rfl
  have hisolated :=
    malformed_frame_isolated quiet {} .connection .declared () [] promptFrames ⟨2, default⟩
      malformed_spoiledText
  refine ⟨malformed_spoiledText, ?_⟩
  have hafter := hisolated.1
  change (askedClient.processFrame quiet.application ⟨2, default⟩ spoiledText).1.session =
    askedClient.session.without (askedClient.session.lost? spoiledText) at hafter
  rw [hafter, hlost]
  rfl

/-- A prompt of another execution is dropped. -/
theorem spoiled_end_drops_watched :
    Malformed spoiledText ∧
      watchingClient.session.promptAt 0 = .ok (some watchedPrompt) ∧
      (watchingClient.processFrame quiet.application ⟨0, default⟩
        spoiledText).1.session.promptAt 0 = .ok none := by
  obtain ⟨hactive, hrunning⟩ := watchingClient_session
  have hlost : watchingClient.session.lost? spoiledText = some watchedPrompt := by
    simp only [Session.lost?, parse_spoiledText, PromptSlot.droppedFor?, PromptSlot.isStale,
      hactive, hrunning]
    rfl
  refine ⟨malformed_spoiledText, ?_, ?_⟩
  · rw [Session.promptAt_of_active hactive]
    rfl
  · rw [watchingClient_follows.processFrame_of_malformed quiet _ malformed_spoiledText, hlost]
    exact Session.promptAt_of_cleared rfl 0

/-- **Prompts and the ends of other executions.**  Let the active prompt belong to an
execution and not have expired, and let a message of a kind that ends an execution name
another one, decodable or not.  The prompt stays active exactly when its own execution is
the one that runs; otherwise it is dropped. -/
theorem prompt_survives_foreign_end
    (o : Observer υ α)
    (s : Settings)
    (path : DeliveryPath)
    (load : DiagramLoader)
    (state : α)
    (handlers : List (Matcher × υ))
    (actions : List ClientAction)
    (now : Moment)
    {p : Prompt}
    (hp : (((ofSettings s path load state).listenAll handlers).run
      o.application actions).session.promptAt now.elapsed = .ok (some p))
    {id : String}
    (hid : p.executionId = some id)
    {text : String}
    {m : Message}
    (hparse : Message.parse text = .ok m)
    (hends : m.Ends)
    {named : String}
    (hnames : m.Names named)
    (hne : named ≠ id) :
    let c := ((ofSettings s path load state).listenAll handlers).run o.application actions
    let after := (c.processFrame o.application now text).1.session
    (after.promptAt now.elapsed = .ok (some p) ↔ c.session.machine.activeId? = some id) ∧
      (c.session.machine.activeId? ≠ some id → after.promptAt now.elapsed = .ok none) := by
  intro c after
  have hfollows : Follows load handlers c c.session.machine :=
    (Follows.fresh s path load state handlers).run o actions
  have hafter : after = c.session.receive load now m :=
    hfollows.session_processFrame o now hparse
  have hseen : after.promptAt now.elapsed =
      if c.session.machine.activeId? = some id then .ok (some p) else .ok none := by
    rw [hafter]
    exact Session.promptAt_of_foreign_end hp hid hends hnames hne
  rw [hseen]
  by_cases hrunning : c.session.machine.activeId? = some id <;> simp [hrunning]

/-- The end of another execution. -/
def foreignText : String :=
  "\x7b\"type\":\"execution_complete\",\"execution_id\":\"e5\"\x7d"

/-- The message of the foreign end. -/
def foreignMessage : Message :=
  ⟨"execution_complete", [("execution_id", .str "e5"), ("type", .str "execution_complete")]⟩

theorem parse_foreignText : Message.parse foreignText = .ok foreignMessage := by
  have hread : Json.read foreignText = .ok foreignMessage.payload := by
    cbv
  rw [Message.parse, hread]
  rfl

theorem ends_foreignMessage : foreignMessage.Ends :=
  ⟨.executionComplete, by decide, rfl⟩

theorem names_foreignMessage : foreignMessage.Names "e5" :=
  ⟨("execution_id", .str "e5"), List.mem_cons_self, by decide, rfl⟩

/-- A prompt of the running execution stays when another execution ends. -/
theorem foreign_end_leaves_asked :
    askedClient.session.promptAt 2 = .ok (some openedPrompt) ∧
      (askedClient.processFrame quiet.application ⟨2, default⟩
        foreignText).1.session.promptAt 2 = .ok (some openedPrompt) := by
  have hactive : askedClient.session.promptAt 2 = .ok (some openedPrompt) := by
    rw [Session.promptAt_of_active askedClient_session.1]
    rfl
  have hsurvives :=
    prompt_survives_foreign_end quiet {} .connection .declared () [] promptFrames ⟨2, default⟩
      hactive rfl parse_foreignText ends_foreignMessage names_foreignMessage (by decide)
  exact ⟨hactive, hsurvives.1.2 askedClient_session.2⟩

/-- A prompt of an execution that does not run is dropped when a third one ends. -/
theorem foreign_end_drops_watched :
    foreignMessage.Ends ∧ foreignMessage.Names "e5" ∧ watchedPrompt.executionId = some "e9" ∧
      Message.parse foreignText = .ok foreignMessage ∧
      watchingClient.session.promptAt 0 = .ok (some watchedPrompt) ∧
      (watchingClient.processFrame quiet.application ⟨0, default⟩
        foreignText).1.session.promptAt 0 = .ok none := by
  obtain ⟨hactive, hrunning⟩ := watchingClient_session
  have hseen : watchingClient.session.promptAt 0 = .ok (some watchedPrompt) := by
    rw [Session.promptAt_of_active hactive]
    rfl
  have hdropped :
      (watchingClient.session.receive .declared ⟨0, default⟩ foreignMessage).promptAt 0 =
        if watchingClient.session.machine.activeId? = some "e9" then .ok (some watchedPrompt)
        else .ok none :=
    Session.promptAt_of_foreign_end hseen rfl ends_foreignMessage names_foreignMessage
      (by decide)
  refine ⟨ends_foreignMessage, names_foreignMessage, rfl, parse_foreignText, hseen, ?_⟩
  rw [watchingClient_follows.session_processFrame quiet _ parse_foreignText, hdropped, hrunning]
  rfl

end Client

end RemoteRun
