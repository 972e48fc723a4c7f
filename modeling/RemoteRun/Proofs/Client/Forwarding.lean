import RemoteRun.Client.Intake
import RemoteRun.Proofs.Client.PromptScope
import RemoteRun.Proofs.Command.Cancelling

/-!
# Forwarders

**Requests.** A turn of a request opens a stream exactly when it is told that its call was
accepted; then it does nothing else (`Request.turn_of_accepted`).

**Sinks.** Whatever is done at a desk changes its sink by one message at most
(`Desk.give_sends`, `Request.turn_sends`).

**Results.** `Intake.forwardAll_turnRequest`: a request, followed by its forwarder until
the stream is over, does to the client what `Client.turnRequest` does at once.
-/

namespace RemoteRun

/-! ### Streams that a request opens -/

/-- The frames that are left to a forwarder. -/
def RequestEffect.forwarded? : RequestEffect → Option CallFrames
  | .forward frames => some frames
  | .call _ | .rest _ | .note _ => none

namespace Request

/-- The frames of the call that is accepted in a turn. -/
def accepted? (r : Request) (o : RequestObservation) : Option CallFrames :=
  match r.cancelled, r.stage, o with
  | false, .calling _, .answered (.ok frames) => some frames
  | _, _, _ => none

/-- What is noted of a return is left to no forwarder. -/
theorem forwarded?_finish
    (r : Request)
    (result : Except Failure Receipt) :
    ∀ e ∈ (r.finish result).2, e.forwarded? = none := by
  intro e he
  cases result with
  | ok receipt =>
      cases he
  | error failure =>
      obtain rfl := List.mem_singleton.1 he
      rfl

theorem forwarded?_answer
    (r : Request)
    (policy : RetryPolicy)
    (retries : Nat)
    (error : CallError) :
    ∀ e ∈ (r.answer policy retries (.error error)).2, e.forwarded? = none := by
  have hnotes :
      ∀ e ∈ (Retry.notices policy retries error).map RequestEffect.note,
        e.forwarded? = none := by
    intro e he
    obtain ⟨notice, _, rfl⟩ := List.mem_map.1 he
    rfl
  intro e he
  unfold answer at he
  cases hdecide : Retry.decide policy retries (.error error : Except CallError CallFrames) with
  | finish result =>
      cases result with
      | ok v =>
          simp only [Retry.decide] at hdecide
          split at hdecide <;> cases hdecide
      | error failure =>
          simp only [hdecide, List.mem_append] at he
          rcases he with he | he
          · exact hnotes e he
          · exact r.forwarded?_finish _ e he
  | wait delay =>
      simp only [hdecide, List.mem_append, List.mem_singleton] at he
      rcases he with he | rfl
      · exact hnotes e he
      · rfl

section Turn

variable {σ : Type} (send : Sink σ) (sink : σ) (delivery : Delivery)
variable {r : Request} {o : RequestObservation}

/-- A request whose call is accepted leaves the frames to a forwarder and does nothing
else. -/
theorem turn_of_accepted
    {frames : CallFrames}
    (h : r.accepted? o = some frames) :
    (r.turn send sink delivery o).2.2 = [.forward frames] := by
  unfold accepted? at h
  split at h
  next retries frames' hcancelled hstage =>
    obtain rfl := Option.some.inj h
    unfold turn
    rw [hcancelled, hstage]
    simp [observe, hstage, answer, Retry.decide, finish]
  next => cases h

theorem forwarded?_observe
    (h : r.accepted? o = none)
    (hcancelled : r.cancelled = false) :
    ∀ e ∈ (r.observe delivery o).2, e.forwarded? = none := by
  unfold observe
  split
  next hstage =>
    intro e he
    rcases List.mem_cons.1 he with rfl | he
    · rfl
    · exact r.forwarded?_finish (.error (.connection (.waitTimeout delivery.waitLimit))) e he
  next cause hstage =>
    exact r.forwarded?_finish _
  next retries outcome hstage =>
    cases outcome with
    | ok frames =>
        simp [accepted?, hcancelled, hstage] at h
    | error e =>
        exact r.forwarded?_answer delivery.retry retries e
  next retries hstage =>
    intro e he
    obtain rfl := List.mem_singleton.1 he
    rfl
  next =>
    intro e he
    cases he

/-- Any other turn leaves nothing to a forwarder. -/
theorem forwarded?_turn
    (h : r.accepted? o = none) :
    ∀ e ∈ (r.turn send sink delivery o).2.2, e.forwarded? = none := by
  cases hcancelled : r.cancelled with
  | true =>
      rcases turn_of_cancelled send sink delivery hcancelled o with hturn | hturn
      · rw [hturn]
        intro e he
        cases he
      · rw [hturn]
        exact r.forwarded?_finish _
  | false =>
      unfold turn
      rw [hcancelled]
      simp only [Bool.false_eq_true, if_false]
      split
      next hstage =>
        intro e he
        cases hsent : (send r.message sink).2 with
        | ok _ =>
            simp only [hsent, handedOn] at he
            exact r.forwarded?_finish _ e he
        | error cause =>
            simp only [hsent, handedOn] at he
            exact r.forwarded?_finish _ e he
      next =>
        exact forwarded?_observe delivery h hcancelled

end Turn

end Request

/-! ### Sinks -/

/-- A place that takes messages is left alone, or it takes one. -/
def Sends {σ : Type} (send : Sink σ) (sink sink' : σ) : Prop :=
  sink' = sink ∨ ∃ message, sink' = (send message sink).1

namespace Desk

variable {σ : Type} {send : Sink σ}

theorem sendFor_sends
    (d : Desk σ)
    (message : String → Outbound) :
    Sends send d.sink (d.sendFor send message).1.sink := by
  unfold sendFor
  cases d.target? with
  | none =>
      exact Or.inl rfl
  | some execution =>
      exact Or.inr ⟨message execution, rfl⟩

theorem abort_sends
    (d : Desk σ)
    (now : Moment) :
    Sends send d.sink (d.abort send now).1.sink := by
  unfold abort
  rcases habort : d.session.machine.abort now.date with ⟨machine, _ | execution⟩
  · simp only [cancelRequests, habort]
    exact Or.inl rfl
  · simp only [cancelRequests, habort]
    exact Or.inr ⟨.abortExecution execution, rfl⟩

/-- **Commands.**  A command sends one message at most. -/
theorem give_sends
    (d : Desk σ)
    (now : Moment)
    (command : Command)
    {given : Desk σ × CommandOutcome}
    (h : d.give send now command = .ok given) :
    Sends send d.sink given.1.sink := by
  cases command with
  | pause node | resume node | skip node =>
      simp only [give, Except.ok.injEq] at h
      rw [← h]
      exact d.sendFor_sends _
  | abort =>
      simp only [give, Except.ok.injEq] at h
      rw [← h]
      exact d.abort_sends now
  | respond node response =>
      simp only [give, Except.ok.injEq] at h
      rw [← h]
      cases htarget : d.target? with
      | none =>
          simp only [respond, htarget, PromptSlot.respond]
          exact Or.inl rfl
      | some execution =>
          simp only [respond, htarget, PromptSlot.respond]
          exact Or.inr ⟨.interactiveResponse node execution response, rfl⟩
  | cancelPrompt =>
      simp only [give, cancelPrompt] at h
      split at h
      next => cases h
      next sink prompts outcome hcancel =>
        cases h
        rcases PromptSlot.sink_cancel hcancel with hkept | ⟨p, e, _, _, hsent⟩
        · exact Or.inl hkept
        · exact Or.inr ⟨_, hsent⟩

theorem prompt_sink
    (d : Desk σ)
    (now : Moment)
    {asked : Desk σ × Option Prompt}
    (h : d.prompt now = .ok asked) :
    asked.1.sink = d.sink := by
  unfold prompt at h
  split at h
  next => cases h
  next => cases h; rfl

theorem execute_sink
    (d : Desk σ)
    (now : Moment)
    (delivery : Delivery)
    (diagram : Except DiagramError Json)
    (options : ExecuteOptions) :
    (d.execute now delivery diagram options).1.sink = d.sink := by
  cases diagram <;> rfl

end Desk

/-- **Requests.**  A turn of a request sends one message at most. -/
theorem Request.turn_sends
    {σ : Type}
    (send : Sink σ)
    (sink : σ)
    (r : Request)
    (delivery : Delivery)
    (o : RequestObservation) :
    Sends send sink (r.turn send sink delivery o).1 := by
  unfold turn
  split
  · split <;> exact Or.inl rfl
  · split
    · exact Or.inr ⟨r.message, rfl⟩
    · exact Or.inl rfl

/-! ### A request and its forwarder -/

namespace CallFrames

/-- What is noted of a stream of which some frames were forwarded before. -/
def noticesAfter (forwarded : Nat) (frames : CallFrames) : List Notice :=
  (frames.fault?.map fun e =>
    CallStream.failureNotice e (forwarded + frames.accepted.length)).toList

theorem notices_eq
    (frames : CallFrames) :
    frames.notices = frames.noticesAfter 0 := by
  unfold notices noticesAfter
  cases frames.fault? with
  | none =>
      rfl
  | some e =>
      simp [CallStream.failureNotice]

end CallFrames

namespace Client

variable {υ α : Type}

theorem noteAll_nil
    (c : Client υ α) :
    c.noteAll [] = c := by
  simp [noteAll, Bus.noteAll]

end Client

namespace Intake

variable {υ α : Type}

theorem forwardAll_of_over
    {i : Intake υ α}
    {call : Nat}
    {s : CallStream}
    (hs : i.streams[call]? = some s)
    (hover : s.rest = [])
    (turns : Nat) :
    i.forwardAll call turns = i := by
  induction turns with
  | zero =>
      rfl
  | succ turns ih =>
      have hturn : i.forward call = i := by
        simp [forward, hs, hover]
      rw [forwardAll, hturn, ih]

theorem forwardAll_of_none
    {i : Intake υ α}
    {call : Nat}
    (hnone : i.streams[call]? = none)
    (turns : Nat) :
    i.forwardAll call turns = i := by
  induction turns with
  | zero =>
      rfl
  | succ turns ih =>
      have hturn : i.forward call = i := by
        simp [forward, hnone]
      rw [forwardAll, hturn, ih]

/-- A forwarder that takes its turns until the stream is over appends the frames up to the
first error, which it notes. -/
theorem forwardAll_client
    {i : Intake υ α}
    {call forwarded : Nat}
    {frames : CallFrames}
    (hs : i.streams[call]? = some ⟨frames, forwarded⟩)
    {turns : Nat}
    (hturns : frames.length ≤ turns) :
    (i.forwardAll call turns).client =
      { i.client.noteAll (frames.noticesAfter forwarded) with
        frames := i.client.frames ++ frames.accepted } := by
  have hlt : call < i.streams.length := (List.getElem?_eq_some_iff.1 hs).1
  induction frames generalizing i forwarded turns with
  | nil =>
      rw [forwardAll_of_over hs rfl]
      simp [CallFrames.noticesAfter, CallFrames.fault?, CallFrames.accepted,
        Client.noteAll_nil]
  | cons frame frames ih =>
      cases turns with
      | zero =>
          simp at hturns
      | succ turns =>
          have hrest : frames.length ≤ turns := by
            simpa using hturns
          cases frame with
          | ok text =>
              have hstep : i.forward call =
                  { client := { i.client with frames := i.client.frames ++ [text] }
                    streams := i.streams.set call ⟨frames, forwarded + 1⟩ } := by
                simp [forward, hs]
              have hnext : (i.forward call).streams[call]? =
                  some ⟨frames, forwarded + 1⟩ := by
                rw [hstep]
                exact List.getElem?_set_self hlt
              have hlt' : call < (i.forward call).streams.length := by
                rw [hstep]
                simpa using hlt
              have hcount : CallFrames.noticesAfter (forwarded + 1) frames =
                  CallFrames.noticesAfter forwarded (.ok text :: frames) := by
                simp only [CallFrames.noticesAfter, CallFrames.fault?, CallFrames.accepted,
                  List.length_cons]
                rw [Nat.add_right_comm, Nat.add_assoc]
              rw [forwardAll, ih hnext hrest hlt', hstep, hcount]
              simp [CallFrames.accepted, Client.noteAll]
          | error e =>
              have hstep : i.forward call =
                  { client := i.client.noteAll [CallStream.failureNotice e forwarded]
                    streams := i.streams.set call ⟨[], forwarded⟩ } := by
                simp [forward, hs]
              have hnext : (i.forward call).streams[call]? = some ⟨[], forwarded⟩ := by
                rw [hstep]
                exact List.getElem?_set_self hlt
              rw [forwardAll, forwardAll_of_over hnext rfl, hstep]
              simp [CallFrames.noticesAfter, CallFrames.fault?, CallFrames.accepted,
                Client.noteAll]

/-- Effects that are left to no forwarder are taken over alike. -/
theorem foldl_takeOver_of_none
    {effects : List RequestEffect}
    (heffects : ∀ e ∈ effects, e.forwarded? = none)
    (i : Intake υ α) :
    effects.foldl takeOver i =
      { i with client := effects.foldl Client.takeOver i.client } := by
  induction effects generalizing i with
  | nil =>
      rfl
  | cons e effects ih =>
      have hrest := ih (fun e' he' => heffects e' (List.mem_cons_of_mem e he'))
      have he := heffects e List.mem_cons_self
      rw [List.foldl_cons, List.foldl_cons, hrest]
      cases e with
      | forward frames =>
          cases he
      | _ =>
          rfl

/-- The frames of the call that is accepted in a turn of a request. -/
def accepting (i : Intake υ α) (id : Nat) (o : RequestObservation) : Option CallFrames :=
  (i.client.desk.requests[id]?).bind (·.accepted? o)

/-- A turn is taken at the desk; then its effects are taken over. -/
theorem turnRequest_eq
    (i : Intake υ α)
    (id : Nat)
    (o : RequestObservation) :
    i.turnRequest id o =
      (i.client.desk.turn Connection.send i.client.delivery id o).2.foldl takeOver
        { i with
          client := (i.client.setDesk
            (i.client.desk.turn Connection.send i.client.delivery id o).1).collect } :=
  rfl

/-- The effects of a turn are one stream for the call that is accepted, or none of them is
left to a forwarder. -/
theorem turnRequest_cases
    (i : Intake υ α)
    (id : Nat)
    (o : RequestObservation) :
    (∃ frames, i.accepting id o = some frames ∧
      (i.client.desk.turn Connection.send i.client.delivery id o).2 = [.forward frames]) ∨
    (i.accepting id o = none ∧
      ∀ e ∈ (i.client.desk.turn Connection.send i.client.delivery id o).2,
        e.forwarded? = none) := by
  unfold accepting Desk.turn
  cases hid : i.client.desk.requests[id]? with
  | none =>
      right
      refine ⟨rfl, ?_⟩
      intro e he
      cases he
  | some r =>
      cases haccepted : r.accepted? o with
      | some frames =>
          left
          refine ⟨frames, haccepted, ?_⟩
          exact Request.turn_of_accepted _ _ _ haccepted
      | none =>
          right
          refine ⟨haccepted, ?_⟩
          exact Request.forwarded?_turn _ _ _ haccepted

/-- **At once.**  A turn of a request, followed by turns of the forwarder of its call until
the stream is over, does to the client what `Client.turnRequest` does. -/
theorem forwardAll_turnRequest
    (i : Intake υ α)
    (id : Nat)
    (o : RequestObservation)
    {turns : Nat}
    (hturns : ∀ frames, i.accepting id o = some frames → frames.length ≤ turns) :
    ((i.turnRequest id o).forwardAll i.streams.length turns).client =
      (i.client.turnRequest id o).1 := by
  rcases i.turnRequest_cases id o with ⟨frames, haccepts, heffects⟩ | ⟨_, heffects⟩
  · have hopened : (i.turnRequest id o).streams[i.streams.length]? = some ⟨frames, 0⟩ := by
      simp [turnRequest, heffects, takeOver]
    rw [forwardAll_client hopened (hturns frames haccepts), ← CallFrames.notices_eq]
    simp [turnRequest, Client.turnRequest, heffects, takeOver, Client.takeOver]
  · have hopened : (i.turnRequest id o).streams[i.streams.length]? = none := by
      simp [turnRequest, foldl_takeOver_of_none heffects]
    rw [forwardAll_of_none hopened]
    simp [turnRequest, Client.turnRequest, foldl_takeOver_of_none heffects]

end Intake

end RemoteRun
