import RemoteRun.Connection.Basic
import RemoteRun.Proofs.Lists

/-!
# The reconnect automaton

What can be told of a connection that is kept up, by one who watches the transport and
listens.

**Signs.** A wish that starts a supervisor, a line that is asked for, refused or lost, and
the events that listeners hear.

**Automaton.** A `Stand` says where the supervisor stands, if one runs.  `Step` lists the
moves between stands, each with its signs, and a `Path` leads from rest along such moves.

**Results.**
* `Path.bound`: what the signs of a path say about the stand at its end.
* `Path.lawful`: the signs of every path are in the order that `Lawful` describes: states
  change, attempts are counted from one, and whoever gives up does so after exactly as
  many failed attempts as the policy allows, and stays quiet until the next wish.
-/

namespace RemoteRun

namespace ConnectionState

/-- A first line is sought. -/
abbrev connecting : ConnectionState := ⟨.connecting, 0⟩

/-- A line is open. -/
abbrev connected : ConnectionState := ⟨.connected, 0⟩

/-- Another line is sought, in an attempt with a number. -/
abbrev reconnecting (attempt : Nat) : ConnectionState := ⟨.reconnecting, attempt⟩

/-- A line is sought, in an attempt with a number; the first one has the number zero. -/
def seeking : Nat → ConnectionState
  | 0 => connecting
  | attempt + 1 => reconnecting (attempt + 1)

end ConnectionState

/-- What is told of a connection. -/
inductive Sign where
  | wished
  | sought
  | refused
  | lost
  | heard (event : ConnectionEvent)
deriving DecidableEq

namespace Sign

/-- Listeners hear of a state. -/
abbrev shown (s : ConnectionState) : Sign := .heard (.changed s)

/-- Listeners hear that no further attempt is made. -/
abbrev gaveUp (attempts : Nat) : Sign := .heard (.reconnectFailed attempts)

/-- The event that listeners hear of. -/
def event? : Sign → Option ConnectionEvent
  | .heard e => some e
  | _ => none

/-- The state that listeners hear of. -/
def state? : Sign → Option ConnectionState
  | .heard (.changed s) => some s
  | _ => none

/-- Whether an attempt or a line has failed. -/
def isFailure : Sign → Bool
  | .refused | .lost => true
  | _ => false

end Sign

/-- What is told of a connection, in order. -/
abbrev Course := List Sign

namespace Course

open ConnectionState (connecting connected reconnecting seeking idle)
open Sign (shown gaveUp)
open Supervisor (nextAttempt attemptLimit)

/-- The events that listeners hear of, in order. -/
def events (signs : Course) : List ConnectionEvent :=
  signs.filterMap Sign.event?

/-- The states that listeners hear of, in order. -/
def states (signs : Course) : List ConnectionState :=
  signs.filterMap Sign.state?

/-- The signs of attempts to reconnect, from the first one on, that were all refused. -/
def ladder : Nat → Course
  | 0 => []
  | n + 1 => ladder n ++ [shown (reconnecting (n + 1)), .sought, .refused]

/-- Which event may come directly in front of another one. -/
def Precedes (e : ConnectionEvent) : ConnectionEvent → Prop
  | .changed ⟨.reconnecting, 1⟩ => e = .changed connecting ∨ e = .changed connected
  | .changed ⟨.reconnecting, n + 2⟩ => e = .changed (reconnecting (n + 1))
  | .changed ⟨.connected, _⟩ => e = .changed connecting ∨ ∃ n, e = .changed (reconnecting n)
  | .reconnectFailed _ => e = .changed idle
  | _ => True

/-- The order of signs under a policy. -/
structure Lawful (p : ReconnectPolicy) (signs : Course) : Prop where
  /-- No state is told twice in a row. -/
  distinct : (idle :: states signs).IsChain (· ≠ ·)
  /-- Attempts are counted while reconnecting, and only then. -/
  counted : ∀ s ∈ states signs, 0 < s.attempt ↔ s.phase = .reconnecting
  /-- Directly after a wish, and only there, it is told that a supervisor connects. -/
  begun : (shown idle :: signs).IsChain fun x y => x = .wished ↔ y = shown connecting
  /-- Events follow each other as the automaton has it. -/
  ordered : (.changed idle :: events signs).IsChain Precedes
  /-- Whoever gives up has shown it, after as many failed attempts as are allowed. -/
  spent : ∀ before n after, signs = before ++ gaveUp n :: after →
    p.maxAttempts = some n ∧ ∃ start cause, cause.isFailure = true ∧
      before = start ++ cause :: (ladder n ++ [shown idle])
  /-- After as many failed attempts as are allowed comes the end. -/
  ends : ∀ n, p.maxAttempts = some n → ∀ before cause after, cause.isFailure = true →
    signs = before ++ cause :: (ladder n ++ after) →
    ∃ rest, after = shown idle :: gaveUp n :: rest
  /-- After the end nobody asks for a line before the next wish. -/
  rests : ∀ before n between after,
    signs = before ++ gaveUp n :: (between ++ .sought :: after) → .wished ∈ between

/-! ### The automaton -/

/-- Where a supervisor stands, if one runs; for one that has begun, with the number of its
attempt. -/
inductive Stand where
  | ended (shown : ConnectionState)
  | starting (shown : ConnectionState)
  | opening (attempt : Nat)
  | pumping
  | delaying (attempt : Nat)

namespace Stand

/-- The state that is shown. -/
def shown : Stand → ConnectionState
  | .ended s | .starting s => s
  | .opening n | .delaying n => seeking n
  | .pumping => connected

/-- The number of the attempt. -/
def attempt : Stand → Nat
  | .opening n | .delaying n => n
  | .ended _ | .starting _ | .pumping => 0

/-- Whether no supervisor runs. -/
def isEnded : Stand → Bool
  | .ended _ => true
  | _ => false

/-- Whether a supervisor runs that has begun. -/
def isBegun : Stand → Bool
  | .ended _ | .starting _ => false
  | .opening _ | .pumping | .delaying _ => true

end Stand

/-- How a supervisor comes to be without a line, with the number of the attempt that has
come to nothing. -/
inductive Fails : Stand → Sign → Nat → Prop
  | refused
      (n : Nat) :
      Fails (.opening n) .refused n
  | lost :
      Fails .pumping .lost 0

/-- What is told when a state is shown. -/
def reveal (s t : ConnectionState) : Course :=
  if s = t then [] else [shown t]

/-- The moves of the automaton, with their signs. -/
inductive Step (p : ReconnectPolicy) : Stand → Course → Stand → Prop
  | wish
      (s : ConnectionState) :
      Step p (.ended s) [.wished] (.starting s)
  | settle
      (s : ConnectionState) :
      Step p (.ended s) (reveal s idle) (.ended idle)
  | seek
      {s : ConnectionState}
      (hs : s ≠ connecting) :
      Step p (.starting s) [shown connecting, .sought] (.opening 0)
  | cancel
      {s : ConnectionState}
      (hs : s ≠ connecting) :
      Step p (.starting s) [shown connecting] (.ended connecting)
  | use
      (n : Nat) :
      Step p (.opening n) [shown connected] .pumping
  | await
      {a : Stand}
      {cause : Sign}
      {n : Nat}
      (hfails : Fails a cause n)
      (hmore : p.exhausted (nextAttempt n) = false) :
      Step p a (cause :: reveal a.shown (reconnecting (nextAttempt n)))
        (.delaying (nextAttempt n))
  | giveUp
      {a : Stand}
      {cause : Sign}
      {n : Nat}
      (hfails : Fails a cause n)
      (hmore : p.exhausted (nextAttempt n) = true) :
      Step p a [cause, shown idle, gaveUp (nextAttempt n - 1)] (.ended idle)
  | wake
      (n : Nat) :
      Step p (.delaying n) [.sought] (.opening n)
  | halt
      {a : Stand}
      (ha : a.isBegun = true) :
      Step p a [] (.ended a.shown)

/-- Signs that lead from rest to a stand. -/
inductive Path (p : ReconnectPolicy) : Course → Stand → Prop
  | rest :
      Path p [] (.ended idle)
  | step
      {signs more : Course}
      {a b : Stand}
      (hpath : Path p signs a)
      (hstep : Step p a more b) :
      Path p (signs ++ more) b


/-- Signs that lead from one stand to another. -/
def Leads (p : ReconnectPolicy) (a : Stand) (more : Course) (b : Stand) : Prop :=
  ∀ signs, Path p signs a → Path p (signs ++ more) b

theorem Leads.refl
    (p : ReconnectPolicy)
    (a : Stand) :
    Leads p a [] a := by
  intro signs h
  simpa using h

theorem Step.leads
    {p : ReconnectPolicy}
    {a b : Stand}
    {more : Course}
    (h : Step p a more b) :
    Leads p a more b :=
  fun _ hpath => hpath.step h

theorem Leads.trans
    {p : ReconnectPolicy}
    {a b c : Stand}
    {more rest : Course}
    (h : Leads p a more b)
    (h' : Leads p b rest c) :
    Leads p a (more ++ rest) c := by
  intro signs hpath
  rw [← List.append_assoc]
  exact h' _ (h signs hpath)

/-- Whoever comes to a stand where a supervisor has begun may end there. -/
theorem Leads.halt
    {p : ReconnectPolicy}
    {a b : Stand}
    {more : Course}
    (h : Leads p a more b)
    (hb : b.isBegun = true) :
    Leads p a more (.ended b.shown) := by
  simpa using h.trans (Step.halt hb).leads

/-! ### Signs in front and behind -/

section

variable (signs more : Course)

@[simp] theorem states_append :
    states (signs ++ more) = states signs ++ states more :=
  List.filterMap_append

@[simp] theorem events_append :
    events (signs ++ more) = events signs ++ events more :=
  List.filterMap_append

end

/-- The last one of the failures of which there are as many as attempts are allowed. -/
theorem ladder_ends
    (n : Nat)
    {cause : Sign}
    (hcause : cause.isFailure = true) :
    ∃ signs last, last.isFailure = true ∧ cause :: ladder n = signs ++ [last] := by
  cases n with
  | zero =>
      exact ⟨[], cause, hcause, rfl⟩
  | succ n =>
      exact ⟨cause :: (ladder n ++ [shown (reconnecting (n + 1)), .sought]), .refused, rfl,
        by simp [ladder]⟩

/-! ### What a step shows -/

theorem nextAttempt_pos
    (n : Nat) :
    0 < nextAttempt n := by
  simp only [nextAttempt, attemptLimit, Word.bound32]
  omega

theorem nextAttempt_le
    (n : Nat) :
    nextAttempt n ≤ attemptLimit ∧ nextAttempt n ≤ n + 1 := by
  simp only [nextAttempt]
  omega

theorem nextAttempt_of_lt
    {n : Nat}
    (hn : n < attemptLimit) :
    nextAttempt n = n + 1 := by
  simp only [nextAttempt]
  omega

theorem seeking_of_pos
    {n : Nat}
    (hn : 0 < n) :
    seeking n = reconnecting n := by
  cases n with
  | zero =>
      exact absurd hn (Nat.lt_irrefl 0)
  | succ n =>
      rfl

theorem eq_of_seeking
    {m k : Nat}
    (h : seeking m = reconnecting (k + 1)) :
    m = k + 1 := by
  cases m with
  | zero =>
      simp [seeking] at h
  | succ m =>
      simpa [seeking] using h

theorem seeking_ne_idle
    (n : Nat) :
    seeking n ≠ idle := by
  cases n <;> simp [seeking, idle]

theorem seeking_ne_connected
    (n : Nat) :
    seeking n ≠ connected := by
  cases n <;> simp [seeking]

theorem reveal_cases
    (s t : ConnectionState) :
    reveal s t = [] ∧ t = s ∨ reveal s t = [shown t] ∧ t ≠ s := by
  unfold reveal
  by_cases h : s = t
  · exact Or.inl ⟨if_pos h, h.symm⟩
  · exact Or.inr ⟨if_neg h, Ne.symm h⟩

section

variable {p : ReconnectPolicy} {a b : Stand} {cause : Sign} {n : Nat} {more : Course}

theorem Fails.isFailure
    (h : Fails a cause n) :
    cause.isFailure = true := by
  cases h <;> rfl

theorem Fails.attempt
    (h : Fails a cause n) :
    a.attempt = n := by
  cases h <;> rfl

theorem Fails.isEnded
    (h : Fails a cause n) :
    a.isEnded = false := by
  cases h <;> rfl

theorem Fails.shown_eq
    (h : Fails a cause n) :
    a.shown = seeking n ∨ a.shown = connected ∧ n = 0 := by
  cases h with
  | refused n =>
      exact Or.inl rfl
  | lost =>
      exact Or.inr ⟨rfl, rfl⟩

theorem Fails.shown_ne_idle
    (h : Fails a cause n) :
    a.shown ≠ idle := by
  rcases h.shown_eq with hshown | ⟨hshown, _⟩ <;> rw [hshown]
  · exact seeking_ne_idle n
  · simp [idle]

theorem states_of_failure
    (hcause : cause.isFailure = true)
    (more : Course) :
    states (cause :: more) = states more := by
  cases cause <;> first | rfl | cases hcause

theorem events_of_failure
    (hcause : cause.isFailure = true)
    (more : Course) :
    events (cause :: more) = events more := by
  cases cause <;> first | rfl | cases hcause

/-- A step shows the state of the stand that it leads to, if that is another one. -/
theorem Step.states
    (h : Step p a more b) :
    states more = [] ∧ b.shown = a.shown ∨ states more = [b.shown] ∧ b.shown ≠ a.shown := by
  cases h with
  | wish s =>
      exact Or.inl ⟨rfl, rfl⟩
  | settle s =>
      rcases reveal_cases s idle with ⟨hmore, hs⟩ | ⟨hmore, hs⟩ <;> rw [hmore]
      · exact Or.inl ⟨rfl, hs⟩
      · exact Or.inr ⟨rfl, hs⟩
  | seek hs =>
      exact Or.inr ⟨rfl, Ne.symm hs⟩
  | cancel hs =>
      exact Or.inr ⟨rfl, Ne.symm hs⟩
  | use n =>
      exact Or.inr ⟨rfl, Ne.symm (seeking_ne_connected n)⟩
  | @await a cause n hfails _ =>
      rw [states_of_failure hfails.isFailure, Stand.shown, seeking_of_pos (nextAttempt_pos n)]
      rcases reveal_cases a.shown (reconnecting (nextAttempt n)) with ⟨hmore, hs⟩ | ⟨hmore, hs⟩ <;>
        rw [hmore]
      · exact Or.inl ⟨rfl, hs⟩
      · exact Or.inr ⟨rfl, hs⟩
  | giveUp hfails _ =>
      rw [states_of_failure hfails.isFailure]
      exact Or.inr ⟨rfl, Ne.symm hfails.shown_ne_idle⟩
  | wake n =>
      exact Or.inl ⟨rfl, rfl⟩
  | halt _ =>
      exact Or.inl ⟨rfl, rfl⟩

/-- Another attempt is told after the one in front of it, or after the first attempt or a
line. -/
theorem Fails.precedes
    (h : Fails a cause n)
    (hlimit : n ≤ attemptLimit)
    (hnew : reconnecting (nextAttempt n) ≠ a.shown) :
    Precedes (.changed a.shown) (.changed (reconnecting (nextAttempt n))) := by
  have hlt : n < attemptLimit := by
    refine lt_of_le_of_ne hlimit ?_
    -- At the limit the count stays, and nothing new would be shown.
    rintro rfl
    rcases h.shown_eq with hshown | ⟨_, hn⟩
    · exact hnew hshown.symm
    · cases hn
  rw [nextAttempt_of_lt hlt]
  cases n with
  | zero =>
      rcases h.shown_eq with hshown | ⟨hshown, _⟩ <;> rw [hshown]
      · exact Or.inl rfl
      · exact Or.inr rfl
  | succ n =>
      rcases h.shown_eq with hshown | ⟨_, hn⟩
      · rw [hshown]
        rfl
      · cases hn

/-- The events of a step follow the one that was told last. -/
theorem Step.events
    {x : ConnectionEvent}
    (h : Step p a more b)
    (hx : x = .changed a.shown ∨ a.shown = idle)
    (hlimit : a.attempt ≤ attemptLimit) :
    (x :: events more).IsChain Precedes ∧
      ∃ y ∈ (x :: events more).getLast?, y = .changed b.shown ∨ b.shown = idle := by
  cases h with
  | wish s =>
      exact ⟨List.isChain_singleton _, x, rfl, hx⟩
  | settle s =>
      refine ⟨?_, _, List.getLast?_eq_some_getLast (List.cons_ne_nil _ _), Or.inr rfl⟩
      rcases reveal_cases s idle with ⟨hmore, _⟩ | ⟨hmore, _⟩ <;> rw [hmore]
      · exact List.isChain_singleton _
      · exact List.isChain_pair.2 trivial
  | seek _ =>
      exact ⟨List.isChain_pair.2 trivial, _, rfl, Or.inl rfl⟩
  | cancel _ =>
      exact ⟨List.isChain_pair.2 trivial, _, rfl, Or.inl rfl⟩
  | use n =>
      obtain rfl := hx.resolve_right (seeking_ne_idle n)
      refine ⟨List.isChain_pair.2 ?_, _, rfl, Or.inl rfl⟩
      cases n with
      | zero =>
          exact Or.inl rfl
      | succ n =>
          exact Or.inr ⟨n + 1, rfl⟩
  | @await a cause n hfails _ =>
      obtain rfl := hx.resolve_right hfails.shown_ne_idle
      rw [events_of_failure hfails.isFailure, Stand.shown, seeking_of_pos (nextAttempt_pos n)]
      rw [hfails.attempt] at hlimit
      rcases reveal_cases a.shown (reconnecting (nextAttempt n)) with ⟨hmore, hs⟩ | ⟨hmore, hs⟩ <;>
        rw [hmore]
      · exact ⟨List.isChain_singleton _, _, rfl, Or.inl (congrArg _ hs.symm)⟩
      · exact ⟨List.isChain_pair.2 (hfails.precedes hlimit hs), _, rfl, Or.inl rfl⟩
  | giveUp hfails _ =>
      rw [events_of_failure hfails.isFailure]
      exact ⟨List.isChain_cons_cons.2 ⟨trivial, List.isChain_pair.2 rfl⟩, _, rfl, Or.inr rfl⟩
  | wake n =>
      exact ⟨List.isChain_singleton _, x, rfl, hx⟩
  | halt _ =>
      exact ⟨List.isChain_singleton _, x, rfl, hx⟩

/-- A sign, and what directly follows it: after a wish, and only there, it is told that a
supervisor connects. -/
theorem Step.begun
    {x : Sign}
    (h : Step p a more b)
    (hx : x = .wished ↔ ∃ s, a = .starting s) :
    (x :: more).IsChain (fun x y => x = .wished ↔ y = shown connecting) ∧
      ∃ y ∈ (x :: more).getLast?, y = .wished ↔ ∃ s, b = .starting s := by
  cases h with
  | wish s =>
      refine ⟨List.isChain_pair.2 ?_, _, rfl, by simp⟩
      simp [hx]
  | settle s =>
      rcases reveal_cases s idle with ⟨hmore, _⟩ | ⟨hmore, _⟩ <;> rw [hmore]
      · exact ⟨List.isChain_singleton _, x, rfl, by simp [hx]⟩
      · exact ⟨List.isChain_pair.2 (by simp [hx, idle]), _, rfl, by simp⟩
  | seek _ =>
      exact ⟨by simp [hx], _, rfl, by simp⟩
  | cancel _ =>
      exact ⟨by simp [hx], _, rfl, by simp⟩
  | use n =>
      exact ⟨by simp [hx], _, rfl, by simp⟩
  | @await a cause n hfails _ =>
      rcases reveal_cases a.shown (reconnecting (nextAttempt n)) with ⟨hmore, _⟩ | ⟨hmore, _⟩ <;>
        rw [hmore]
      · cases hfails <;> exact ⟨by simp [hx], _, rfl, by simp⟩
      · cases hfails <;> exact ⟨by simp [hx], _, rfl, by simp⟩
  | giveUp hfails _ =>
      cases hfails <;> exact ⟨by simp [hx, idle], _, rfl, by simp⟩
  | wake n =>
      exact ⟨by simp [hx], _, rfl, by simp⟩
  | halt ha =>
      refine ⟨List.isChain_singleton _, x, rfl, ?_⟩
      cases a with
      | ended s =>
          cases ha
      | starting s =>
          cases ha
      | _ =>
          simp [hx]

theorem counted_reveal
    {s t : ConnectionState}
    (ht : 0 < t.attempt ↔ t.phase = .reconnecting)
    (u : ConnectionState)
    (hu : u ∈ Course.states (reveal s t)) :
    0 < u.attempt ↔ u.phase = .reconnecting := by
  rcases reveal_cases s t with ⟨hmore, _⟩ | ⟨hmore, _⟩ <;> rw [hmore] at hu
  · cases hu
  · obtain rfl := List.mem_singleton.1 hu
    exact ht

/-- Attempts are counted while reconnecting, and only then. -/
theorem Step.counted
    (h : Step p a more b)
    (s : ConnectionState)
    (hs : s ∈ Course.states more) :
    0 < s.attempt ↔ s.phase = .reconnecting := by
  cases h with
  | settle t =>
      exact counted_reveal (by simp [idle]) s hs
  | await hfails _ =>
      rw [states_of_failure hfails.isFailure] at hs
      exact counted_reveal (by simp [nextAttempt_pos]) s hs
  | giveUp hfails _ =>
      rw [states_of_failure hfails.isFailure] at hs
      obtain rfl := List.mem_singleton.1 hs
      simp [idle]
  | wish _ =>
      cases hs
  | wake _ =>
      cases hs
  | halt _ =>
      cases hs
  | _ =>
      obtain rfl := List.mem_singleton.1 hs
      simp

/-- The number of an attempt is within its limit. -/
theorem Step.attempt_le
    (h : Step p a more b)
    (ha : a.attempt ≤ attemptLimit) :
    b.attempt ≤ attemptLimit := by
  cases h with
  | await _ _ =>
      exact (nextAttempt_le _).1
  | wake n =>
      exact ha
  | _ =>
      exact Nat.zero_le _

/-- No more attempts are made than are allowed. -/
theorem Step.attempt_le_most
    {most : Nat}
    (hmost : p.maxAttempts = some most)
    (h : Step p a more b)
    (ha : a.attempt ≤ most) :
    b.attempt ≤ most := by
  cases h with
  | await _ hmore =>
      simp only [ReconnectPolicy.exhausted, hmost, decide_eq_false_iff_not] at hmore
      exact Nat.le_of_not_lt hmore
  | wake n =>
      exact ha
  | _ =>
      exact Nat.zero_le _

/-- Who asks for a line was wished for. -/
theorem Step.wished_of_isEnded
    (h : Step p a more b)
    (hb : b.isEnded = false) :
    a.isEnded = false ∨ .wished ∈ more := by
  cases h with
  | wish s =>
      exact Or.inr List.mem_cons_self
  | await hfails _ =>
      exact Or.inl hfails.isEnded
  | settle _ =>
      cases hb
  | halt _ =>
      cases hb
  | giveUp _ _ =>
      cases hb
  | _ =>
      exact Or.inl rfl

/-- Who asks for a line is a supervisor. -/
theorem Step.isOver_of_sought
    (h : Step p a more b)
    (hmore : .sought ∈ more) :
    a.isEnded = false := by
  cases h with
  | wish s =>
      simp at hmore
  | settle s =>
      rcases reveal_cases s idle with ⟨hnone, _⟩ | ⟨hone, _⟩
      · simp [hnone] at hmore
      · simp [hone] at hmore
  | await hfails _ =>
      exact hfails.isEnded
  | giveUp hfails _ =>
      exact hfails.isEnded
  | halt ha =>
      cases hmore
  | _ =>
      rfl

/-- What is told by whoever gives up. -/
theorem Step.spent
    {rest after : Course}
    {n : Nat}
    (h : Step p a (rest ++ gaveUp n :: after) b) :
    ∃ cause m, Fails a cause m ∧ p.exhausted (nextAttempt m) = true ∧ n = nextAttempt m - 1 ∧
      rest = [cause, shown idle] ∧ after = [] ∧ b = .ended idle := by
  generalize hmore : rest ++ gaveUp n :: after = more at h
  have hmem : gaveUp n ∈ more := by
    simp [← hmore]
  cases h with
  | settle s =>
      rcases reveal_cases s idle with ⟨hnone, _⟩ | ⟨hone, _⟩
      · simp [hnone] at hmem
      · simp [hone] at hmem
  | @await a cause m hfails _ =>
      rcases reveal_cases a.shown (reconnecting (nextAttempt m)) with ⟨hnone, _⟩ | ⟨hone, _⟩
      · cases hfails <;> simp [hnone] at hmem
      · cases hfails <;> simp [hone] at hmem
  | @giveUp a cause m hfails hmost =>
      refine ⟨cause, m, hfails, hmost, ?_⟩
      have hcause := hfails.isFailure
      rcases rest with _ | ⟨x, _ | ⟨y, _ | ⟨z, rest⟩⟩⟩
      · obtain ⟨rfl, _⟩ := List.cons.inj hmore
        cases hcause
      · simp at hmore
      · simpa [and_assoc, and_comm, and_left_comm] using hmore
      · simp at hmore
  | _ =>
      simp at hmem

theorem isFailure_reveal
    {s t : ConnectionState}
    (x : Sign)
    (hx : x ∈ reveal s t) :
    x.isFailure = false := by
  rcases reveal_cases s t with ⟨hnone, _⟩ | ⟨hone, _⟩
  · simp [hnone] at hx
  · rw [hone, List.mem_singleton] at hx
    rw [hx]
    rfl

/-- A failure that stands in front of signs of no failure is the first sign. -/
theorem eq_of_failure
    {rest after tail : Course}
    {x : Sign}
    (hcause : cause.isFailure = true)
    (htail : ∀ y ∈ tail, y.isFailure = false)
    (h : rest ++ cause :: after = x :: tail) :
    rest = [] ∧ cause = x ∧ after = tail := by
  cases rest with
  | nil =>
      obtain ⟨hx, hafter⟩ := List.cons.inj h
      exact ⟨rfl, hx, hafter⟩
  | cons y rest =>
      obtain ⟨_, rfl⟩ := List.cons.inj h
      have hnot := htail cause (List.mem_append_right _ List.mem_cons_self)
      rw [hcause] at hnot
      cases hnot

/-- What is told directly after a failure. -/
theorem Step.failing
    {rest after : Course}
    (hcause : cause.isFailure = true)
    (h : Step p a (rest ++ cause :: after) b) :
    rest = [] ∧ ∃ m, Fails a cause m ∧
      (p.exhausted (nextAttempt m) = false ∨
        p.exhausted (nextAttempt m) = true ∧ after = [shown idle, gaveUp (nextAttempt m - 1)]) := by
  generalize hmore : rest ++ cause :: after = more at h
  have hfailure : ∃ x ∈ more, x.isFailure = true :=
    ⟨cause, by simp [← hmore], hcause⟩
  cases h with
  | settle s =>
      obtain ⟨x, hx, hfailure⟩ := hfailure
      rw [isFailure_reveal x hx] at hfailure
      cases hfailure
  | await hfails hmost =>
      obtain ⟨rfl, rfl, _⟩ := eq_of_failure hcause isFailure_reveal hmore
      exact ⟨rfl, _, hfails, Or.inl hmost⟩
  | giveUp hfails hmost =>
      obtain ⟨rfl, rfl, rfl⟩ := eq_of_failure hcause (by simp [Sign.isFailure]) hmore
      exact ⟨rfl, _, hfails, Or.inr ⟨hmost, rfl⟩⟩
  | _ =>
      simp [Sign.isFailure] at hfailure

end

/-! ### Along a path -/

section

variable {p : ReconnectPolicy} {signs : Course} {a : Stand}

/-- What each step keeps of the last of the signs that are looked at, and in what order it
appends to them, holds along a path. -/
theorem Path.isChain
    {β : Type}
    (look : Sign → Option β)
    {R : β → β → Prop}
    (Last : β → Stand → Prop)
    {x : β}
    (hx : Last x (.ended idle))
    (hstep : ∀ a more b x, Step p a more b → Last x a →
      (x :: more.filterMap look).IsChain R ∧
        ∃ y ∈ (x :: more.filterMap look).getLast?, Last y b)
    (h : Path p signs a) :
    (x :: signs.filterMap look).IsChain R ∧
      ∃ y ∈ (x :: signs.filterMap look).getLast?, Last y a := by
  induction h with
  | rest =>
      exact ⟨List.isChain_singleton _, x, rfl, hx⟩
  | @step signs more a b _ hmore ih =>
      obtain ⟨hchain, y, hy, hlast⟩ := ih
      obtain ⟨hchain', z, hz, hlast'⟩ := hstep a more b y hmore hlast
      rw [List.filterMap_append, ← List.cons_append, getLast?_append_of_last hy]
      exact ⟨isChain_append_of_last hy hchain hchain', z, hz, hlast'⟩

theorem Path.attempt_le_most
    {most : Nat}
    (hmost : p.maxAttempts = some most)
    (h : Path p signs a) :
    a.attempt ≤ most := by
  induction h with
  | rest =>
      exact Nat.zero_le _
  | step _ hstep ih =>
      exact hstep.attempt_le_most hmost ih

theorem Path.counted
    (h : Path p signs a) :
    ∀ s ∈ Course.states signs, 0 < s.attempt ↔ s.phase = .reconnecting := by
  induction h with
  | rest =>
      simp [Course.states]
  | step _ hstep ih =>
      intro s hs
      rw [states_append, List.mem_append] at hs
      exact hs.elim (ih s) (hstep.counted s)

/-- No state is told twice in a row, and the last one is that of the stand. -/
theorem Path.states
    (h : Path p signs a) :
    (idle :: Course.states signs).IsChain (· ≠ ·) ∧
      a.shown ∈ (idle :: Course.states signs).getLast? := by
  have hstep : ∀ a more b x, Step p a more b → x = a.shown →
      (x :: Course.states more).IsChain (· ≠ ·) ∧
        ∃ y ∈ (x :: Course.states more).getLast?, y = b.shown := by
    rintro a more b _ hmore rfl
    rcases hmore.states with ⟨hstates, hshown⟩ | ⟨hstates, hshown⟩ <;> rw [hstates]
    · exact ⟨List.isChain_singleton _, _, rfl, hshown.symm⟩
    · exact ⟨List.isChain_pair.2 hshown.symm, _, rfl, rfl⟩
  obtain ⟨hchain, _, hlast, rfl⟩ := h.isChain Sign.state? (fun x a => x = a.shown) rfl hstep
  exact ⟨hchain, hlast⟩

/-- Events follow each other in order. -/
theorem Path.events
    (h : Path p signs a) :
    (.changed idle :: Course.events signs).IsChain Precedes := by
  have hstep : ∀ a more b x, Step p a more b →
      ((x = .changed a.shown ∨ a.shown = idle) ∧ a.attempt ≤ attemptLimit) →
      (x :: Course.events more).IsChain Precedes ∧
        ∃ y ∈ (x :: Course.events more).getLast?,
          (y = .changed b.shown ∨ b.shown = idle) ∧ b.attempt ≤ attemptLimit := by
    rintro a more b x hmore ⟨hx, hlimit⟩
    obtain ⟨hchain, y, hy, hlast⟩ := hmore.events hx hlimit
    exact ⟨hchain, y, hy, hlast, hmore.attempt_le hlimit⟩
  exact (h.isChain Sign.event? _ ⟨Or.inl rfl, Nat.zero_le _⟩ hstep).1

/-- Directly after a wish, and only there, it is told that a supervisor connects. -/
theorem Path.begun
    (h : Path p signs a) :
    (shown idle :: signs).IsChain fun x y => x = .wished ↔ y = shown connecting := by
  have hchain := (h.isChain some (fun x a => x = .wished ↔ ∃ s, a = .starting s)
    (x := shown idle) (by simp) (by simpa using fun a more b x hmore => hmore.begun)).1
  simpa using hchain

/-! ### Failed attempts -/

/-- Since a failure every attempt was refused, up to the one with a number. -/
def Climbed (signs : Course) (n : Nat) : Prop :=
  ∃ start cause, cause.isFailure = true ∧ signs = start ++ cause :: ladder n

/-- Another failure is one more of those in a row. -/
theorem Fails.climbed
    {cause : Sign}
    {n : Nat}
    (h : Fails a cause n)
    (ha : ∀ k, n = k + 1 → a = .opening (k + 1) →
      ∃ base, Climbed base k ∧ signs = base ++ [shown (reconnecting (k + 1)), .sought]) :
    Climbed (signs ++ [cause]) n := by
  cases h with
  | lost =>
      exact ⟨signs, .lost, rfl, rfl⟩
  | refused n =>
      cases n with
      | zero =>
          exact ⟨signs, .refused, rfl, rfl⟩
      | succ k =>
          obtain ⟨_, ⟨start, cause, hcause, rfl⟩, rfl⟩ := ha k rfl rfl
          exact ⟨start, cause, hcause, by simp [ladder]⟩

/-- As long as attempts are counted, those in front of the one that is awaited or made were
refused. -/
theorem Path.climbed
    (h : Path p signs a)
    {k : Nat}
    (hk : k + 1 < attemptLimit) :
    (a = .delaying (k + 1) →
      ∃ base, Climbed base k ∧ signs = base ++ [shown (reconnecting (k + 1))]) ∧
    (a = .opening (k + 1) →
      ∃ base, Climbed base k ∧ signs = base ++ [shown (reconnecting (k + 1)), .sought]) := by
  induction h generalizing k with
  | rest =>
      simp
  | @step signs more a b _ hstep ih =>
      cases hstep with
      | @await a cause n hfails _ =>
          refine ⟨?_, by simp⟩
          intro hb
          have hnext : nextAttempt n = k + 1 := Stand.delaying.inj hb
          obtain rfl : n = k := by
            simp only [nextAttempt] at hnext
            omega
          have hnew : a.shown ≠ reconnecting (nextAttempt n) := by
            rw [hnext]
            rcases hfails.shown_eq with hshown | ⟨hshown, _⟩ <;> rw [hshown]
            · cases n <;> simp [seeking]
            · simp
          refine ⟨signs ++ [cause], hfails.climbed ?_, ?_⟩
          · rintro m rfl ha
            exact (ih (Nat.lt_of_succ_lt hk)).2 ha
          · rw [reveal, if_neg hnew, hnext]
            simp
      | wake n =>
          refine ⟨by simp, ?_⟩
          intro hb
          obtain rfl : n = k + 1 := Stand.opening.inj hb
          obtain ⟨base, hbase, rfl⟩ := (ih hk).1 rfl
          exact ⟨base, hbase, by simp⟩
      | _ =>
          simp

/-- Who gives up has made as many attempts as are allowed. -/
theorem Path.eq_most_of_exhausted
    (h : Path p signs a)
    {last : Sign}
    {m : Nat}
    (hfails : Fails a last m)
    (hexhausted : p.exhausted (nextAttempt m) = true) :
    p.maxAttempts = some m ∧ nextAttempt m - 1 = m := by
  cases hmost : p.maxAttempts with
  | none =>
      simp [ReconnectPolicy.exhausted, hmost] at hexhausted
  | some most =>
      simp only [ReconnectPolicy.exhausted, hmost, decide_eq_true_eq] at hexhausted
      have hattempt : m ≤ most := hfails.attempt ▸ h.attempt_le_most hmost
      have := (nextAttempt_le m).2
      exact ⟨congrArg some (by omega), by omega⟩

variable (hbound : ∀ n, p.maxAttempts = some n → n < attemptLimit)

include hbound

theorem Path.spent
    (h : Path p signs a)
    {before after : Course}
    {n : Nat}
    (hsigns : signs = before ++ gaveUp n :: after) :
    p.maxAttempts = some n ∧ ∃ base, Climbed base n ∧ before = base ++ [shown idle] := by
  induction h generalizing after with
  | rest =>
      simp at hsigns
  | @step signs more a b hpath hstep ih =>
      rcases split_of_append hsigns with ⟨rest, hsigns, _⟩ | ⟨rest, rfl, rfl⟩
      · exact ih hsigns
      · obtain ⟨cause, m, hfails, hmore, rfl, rfl, _⟩ := hstep.spent
        obtain ⟨hmost, heq⟩ := hpath.eq_most_of_exhausted hfails hmore
        rw [heq]
        refine ⟨hmost, signs ++ [cause], hfails.climbed ?_, by simp⟩
        rintro k rfl ha
        exact (hpath.climbed (hbound _ hmost)).2 ha

/-- After as many failed attempts as are allowed, none is left. -/
theorem Path.exhausted_of_climbed
    (h : Path p signs a)
    {last : Sign}
    {m n : Nat}
    (hfails : Fails a last m)
    (hmost : p.maxAttempts = some n)
    (hclimbed : Climbed (signs ++ [last]) n) :
    p.exhausted (nextAttempt m) = true := by
  simp only [ReconnectPolicy.exhausted, hmost, decide_eq_true_eq]
  cases n with
  | zero =>
      exact nextAttempt_pos m
  | succ k =>
      obtain ⟨start, cause, _, heq⟩ := hclimbed
      have heq : signs ++ [last] =
          ((start ++ cause :: ladder k) ++ [shown (reconnecting (k + 1)), .sought]) ++
            [.refused] := by
        simpa [ladder] using heq
      obtain ⟨rfl, _⟩ := List.append_inj' heq rfl
      -- The last attempt that was told of is the one that has failed.
      have hshown : reconnecting (k + 1) = a.shown := by
        have hlast := h.states.2
        rw [states_append, ← List.cons_append] at hlast
        exact Option.mem_unique (List.getLast?_concat ..) hlast
      have hm : m = k + 1 := by
        rcases hfails.shown_eq with heq | ⟨heq, _⟩ <;> rw [← hshown] at heq
        · exact eq_of_seeking heq.symm
        · simp at heq
      rw [hm, nextAttempt_of_lt (hbound _ hmost)]
      exact Nat.lt_succ_self _

theorem Path.ends
    (h : Path p signs a)
    {n : Nat}
    (hmost : p.maxAttempts = some n)
    {before after : Course}
    {cause : Sign}
    (hcause : cause.isFailure = true)
    (hsigns : signs = before ++ cause :: (ladder n ++ after)) :
    ∃ rest, after = shown idle :: gaveUp n :: rest := by
  obtain ⟨init, last, hlast, hinit⟩ := ladder_ends n hcause
  have hjoined : ∀ rest, before ++ cause :: (ladder n ++ rest) = (before ++ init) ++ last :: rest := by
    intro rest
    rw [← List.cons_append, hinit]
    simp
  induction h generalizing after with
  | rest =>
      simp at hsigns
  | @step signs more a b hpath hstep ih =>
      rw [hjoined] at hsigns
      rcases split_of_append hsigns with ⟨rest, hrest, rfl⟩ | ⟨rest, hbefore, rfl⟩
      · obtain ⟨rest', rfl⟩ := ih (hrest.trans (hjoined rest).symm)
        exact ⟨rest' ++ more, rfl⟩
      · obtain ⟨rfl, m, hfails, hmore⟩ := hstep.failing hlast
        have hclimbed : Climbed (signs ++ [last]) n := by
          refine ⟨before, cause, hcause, ?_⟩
          rw [hinit, ← List.append_assoc, hbefore, List.append_nil]
        have hexhausted := hpath.exhausted_of_climbed hbound hfails hmost hclimbed
        rcases hmore with hmore | ⟨_, rfl⟩
        · rw [hexhausted] at hmore
          cases hmore
        · obtain ⟨hmost', heq⟩ := hpath.eq_most_of_exhausted hfails hexhausted
          obtain rfl := Option.some.inj (hmost.symm.trans hmost')
          exact ⟨[], by rw [heq]⟩

omit hbound

/-- Who asks for a line was wished for since somebody gave up. -/
theorem Path.rested
    (h : Path p signs a)
    (ha : a.isEnded = false)
    {before after : Course}
    {n : Nat}
    (hsigns : signs = before ++ gaveUp n :: after) :
    .wished ∈ after := by
  induction h generalizing after with
  | rest =>
      simp at hsigns
  | @step signs more a b _ hstep ih =>
      rcases split_of_append hsigns with ⟨rest, hrest, rfl⟩ | ⟨rest, _, rfl⟩
      · rcases hstep.wished_of_isEnded ha with ha | hwished
        · exact List.mem_append_left _ (ih ha hrest)
        · exact List.mem_append_right _ hwished
      · obtain ⟨_, _, _, _, _, _, _, rfl⟩ := hstep.spent
        cases ha

theorem Path.rests
    (h : Path p signs a)
    {before between after : Course}
    {n : Nat}
    (hsigns : signs = before ++ gaveUp n :: (between ++ .sought :: after)) :
    .wished ∈ between := by
  induction h generalizing after with
  | rest =>
      simp at hsigns
  | @step signs more a b hpath hstep ih =>
      rcases split_of_append hsigns with ⟨rest, hrest, hsought⟩ | ⟨rest, _, rfl⟩
      · rcases split_of_append hsought.symm with ⟨rest', rfl, _⟩ | ⟨rest', rfl, rfl⟩
        · exact ih hrest
        · have ha := hstep.isOver_of_sought (List.mem_append_right _ List.mem_cons_self)
          exact List.mem_append_left _ (hpath.rested ha hrest)
      · obtain ⟨_, _, _, _, _, _, hnone, _⟩ := hstep.spent
        simp at hnone

/-- The signs of every path are in order. -/
theorem Path.lawful
    (hbound : ∀ n, p.maxAttempts = some n → n < attemptLimit)
    (h : Path p signs a) :
    Lawful p signs where
  distinct := h.states.1
  counted := h.counted
  begun := h.begun
  ordered := h.events
  spent before n after hsigns := by
    obtain ⟨hmost, _, ⟨start, cause, hcause, rfl⟩, rfl⟩ := h.spent hbound hsigns
    exact ⟨hmost, start, cause, hcause, by simp⟩
  ends n hmost before cause after hcause hsigns := h.ends hbound hmost hcause hsigns
  rests before n between after hsigns := h.rests hsigns

end

end Course

end RemoteRun
