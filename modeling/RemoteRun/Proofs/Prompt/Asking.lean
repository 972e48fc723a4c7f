import RemoteRun.Prompt

/-!
# Asking for the active prompt

A prompt with a timeout expires when it has passed, and whoever asks for the active prompt
finds this out.  Asking computes the deadline, which a clock may be unable to show.

**Results.** `PromptSlot.current_eq`: asking ends in an overflow exactly when the deadline of
the active prompt lies beyond what a clock can show, at any time.  Otherwise it gives the
active prompt unless its timeout has passed, and leaves nothing else active.
-/

namespace RemoteRun

namespace Prompt

/-- Whether the timeout of a prompt, if it has one, has not passed. -/
def lasts (p : Prompt) (time : Nat) : Bool :=
  p.timeoutSeconds.all fun seconds => time < p.receivedAt + seconds.toNat * 1000

/-- Whether the deadline of a prompt lies beyond what a clock can show. -/
def overflows (p : Prompt) : Bool :=
  p.timeoutSeconds.any fun seconds =>
    Duration.clockBound ≤ p.receivedAt / 1000 + seconds.toNat

theorem isExpired_eq
    (p : Prompt)
    (time : Nat) :
    p.isExpired time = if p.overflows then .error .beyondClock else .ok (!p.lasts time) := by
  unfold isExpired deadline? overflows lasts
  cases p.timeoutSeconds with
  | none =>
      rfl
  | some seconds =>
      by_cases hshown : p.receivedAt / 1000 + seconds.toNat < Duration.clockBound
      · have hnear : ¬ Duration.clockBound ≤ p.receivedAt / 1000 + seconds.toNat :=
          Nat.not_le.2 hshown
        simp [hshown, hnear, ← decide_not]
      · simp [hshown, Nat.not_lt.1 hshown]

/-- A timeout that has not passed had not passed before. -/
theorem lasts_of_le
    {p : Prompt}
    {time later : Nat}
    (hle : time ≤ later)
    (h : p.lasts later = true) :
    p.lasts time = true := by
  unfold lasts at h ⊢
  cases hseconds : p.timeoutSeconds with
  | none =>
      rfl
  | some seconds =>
      simp only [hseconds, Option.all_some, decide_eq_true_eq] at h ⊢
      omega

end Prompt

namespace PromptSlot

/-- The prompt that waits for an answer at a time. -/
def waiting? (s : PromptSlot) (time : Nat) : Option Prompt :=
  s.active.filter fun p => p.lasts time

/-- Whether the deadline of the active prompt lies beyond what a clock can show. -/
def overflows (s : PromptSlot) : Bool :=
  s.active.any Prompt.overflows

theorem waiting?_eq_some
    {s : PromptSlot}
    {time : Nat}
    {p : Prompt} :
    s.waiting? time = some p ↔ s.active = some p ∧ p.lasts time = true :=
  Option.filter_eq_some_iff

/-- A slot with the prompt that waits has no other deadline. -/
theorem overflows_waiting?
    {s : PromptSlot}
    (h : s.overflows = false)
    (time : Nat) :
    overflows ⟨s.waiting? time⟩ = false := by
  cases hwaiting : s.waiting? time with
  | none =>
      rfl
  | some p =>
      exact (waiting?_eq_some.1 hwaiting).1 ▸ h

theorem current_eq
    (s : PromptSlot)
    (time : Nat) :
    s.current time =
      if s.overflows then .error .beyondClock else .ok (⟨s.waiting? time⟩, s.waiting? time) := by
  obtain ⟨active⟩ := s
  cases active with
  | none =>
      rfl
  | some p =>
      by_cases hfar : p.overflows = true
      · simp [current, overflows, Prompt.isExpired_eq, hfar]
      · cases hlasts : p.lasts time <;>
          simp [current, overflows, waiting?, Prompt.isExpired_eq, hfar, hlasts, clear, Option.filter]

theorem active_retainFor
    {s : PromptSlot}
    {tracked : Option String}
    {p : Prompt} :
    (s.retainFor tracked).active = some p ↔ s.active = some p ∧ p.executionId = tracked := by
  unfold retainFor isStale
  cases hs : s.active with
  | none =>
      simp [hs]
  | some q =>
      by_cases hq : q.executionId = tracked
      · simp only [hq, bne_self_eq_false, Bool.false_eq_true, if_false, hs, Option.some.injEq]
        exact ⟨fun h => ⟨h, h ▸ hq⟩, And.left⟩
      · simp only [bne_iff_ne, ne_eq, hq, not_false_iff, if_true, clear]
        refine ⟨nofun, ?_⟩
        rintro ⟨hp, hid⟩
        exact absurd (Option.some.inj hp ▸ hid) hq

/-- What is kept for an execution was there before. -/
theorem overflows_retainFor
    {s : PromptSlot}
    (h : s.overflows = false)
    (tracked : Option String) :
    (s.retainFor tracked).overflows = false := by
  unfold retainFor
  split
  · rfl
  · exact h

section Cancelling

variable {σ : Type} (send : Sink σ) (state : σ) (s : PromptSlot) (time : Nat)
variable (tracked : Option String)

/-- A cancellation answers the prompt that waits, unless the deadline overflows. -/
theorem cancel_eq :
    s.cancel send state time tracked =
      if s.overflows then .error .beyondClock
      else
        match s.waiting? time with
        | none => .ok (state, ⟨none⟩, .noActivePrompt)
        | some p => .ok (respond send state ⟨some p⟩ p.nodeId "" tracked) := by
  unfold cancel
  rw [current_eq]
  cases s.overflows with
  | true =>
      rfl
  | false =>
      cases hwaiting : s.waiting? time <;> simp

end Cancelling

end PromptSlot

end RemoteRun
