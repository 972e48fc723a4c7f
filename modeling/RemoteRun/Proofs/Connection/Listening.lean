import RemoteRun.Proofs.Connection.Announcing
import RemoteRun.Proofs.Connection.Usable
import RemoteRun.Simulation.Connecting

/-!
# What listeners hear

Listeners with a label each, some of which panic, beside a connection that is moved
about.

**Results.**
* `heard_follow`: every listener hears all events of a run, whether others panic or not.
* `announcements_lawful`: what is told of a run in which wishes do not overlap is in the
  order of the reconnect automaton, and every listener hears the events of it.
-/

namespace RemoteRun

namespace Connection

theorem event?_failure
    {s : Supervisor}
    {o : Observation}
    {failure : Sign}
    (h : s.failure? o = some failure) :
    failure.event? = none := by
  unfold Supervisor.failure? at h
  split at h <;> try split at h
  all_goals cases h <;> rfl

/-- The events that are told are those that listeners are told of. -/
theorem events_told
    (c : Connection)
    (m : Move) :
    (c.told m).events = (c.move m).effects.filterMap Effect.event? := by
  have hcause : (c.cause m).events = [] := by
    cases m with
    | connect =>
        dsimp only [cause]
        split <;> rfl
    | turn id o =>
        dsimp only [cause]
        cases hfailure : (c.supervisors[id]?).bind (·.failure? o) with
        | none =>
            rfl
        | some failure =>
            obtain ⟨s, _, hs⟩ := Option.bind_eq_some_iff.1 hfailure
            exact List.filterMap_cons_none (event?_failure hs)
    | _ =>
        rfl
  rw [told, Course.events_append, hcause, List.nil_append, Course.events, signs,
    List.filterMap_filterMap]
  congr 1
  funext e
  cases e <;> rfl

end Connection

namespace Simulation
namespace Connecting

/-- All moves, each with what the connection asks for. -/
def follow (r : Connecting) (ms : List Connection.Move) : Connecting :=
  ms.foldl (fun r m => r.change (·.move m)) r

/-- What the listener with a label has heard. -/
def heard (r : Connecting) (label : String) : List ConnectionEvent :=
  (r.events.filter (·.1 == label)).map (·.2)

section

variable {r : Connecting} {l : Listener}

theorem filter_label
    {ls : List Listener}
    (hlabels : (ls.map (·.label)).Nodup)
    (hl : l ∈ ls) :
    ls.filter (·.label == l.label) = [l] := by
  induction ls with
  | nil =>
      cases hl
  | cons k ls ih =>
      obtain ⟨hk, hls⟩ := List.nodup_cons.1 hlabels
      rcases List.mem_cons.1 hl with rfl | hl
      · have hrest : ls.filter (·.label == l.label) = [] := by
          simp only [List.filter_eq_nil_iff, beq_iff_eq]
          intro k hk' heq
          exact hk (List.mem_map.2 ⟨k, hk', heq⟩)
        simp [hrest]
      · have hne : k.label ≠ l.label := by
          intro heq
          exact hk (List.mem_map.2 ⟨l, hl, heq.symm⟩)
        simp [hne, ih hls hl]

/-- One listener of all hears an event once, whether it panics or not. -/
theorem heard_announce
    (hlabels : (r.listeners.listeners.map (·.label)).Nodup)
    (hl : l ∈ r.listeners.listeners)
    (e : ConnectionEvent) :
    (r.announce e).heard l.label = r.heard l.label ++ [e] := by
  have hheard := congrArg (List.map fun _ => e) (filter_label hlabels hl)
  simpa [heard, announce, List.filter_map, Function.comp_def] using hheard

theorem listeners_perform
    (r : Connecting)
    (e : Effect) :
    (r.perform e).listeners = r.listeners ∧ (r.perform e).connection = r.connection := by
  cases e <;> exact ⟨rfl, rfl⟩

theorem heard_perform
    (hlabels : (r.listeners.listeners.map (·.label)).Nodup)
    (hl : l ∈ r.listeners.listeners)
    (e : Effect) :
    (r.perform e).heard l.label = r.heard l.label ++ e.event?.toList := by
  cases e with
  | announce e =>
      exact heard_announce hlabels hl e
  | _ =>
      exact (List.append_nil _).symm

theorem heard_foldl
    (hlabels : (r.listeners.listeners.map (·.label)).Nodup)
    (hl : l ∈ r.listeners.listeners)
    (es : List Effect) :
    (es.foldl perform r).heard l.label = r.heard l.label ++ es.filterMap Effect.event? ∧
      (es.foldl perform r).listeners = r.listeners ∧
      (es.foldl perform r).connection = r.connection := by
  induction es generalizing r with
  | nil =>
      simp
  | cons e es ih =>
      obtain ⟨hlisteners, hconnection⟩ := r.listeners_perform e
      rw [List.foldl_cons]
      obtain ⟨hheard, hlisteners', hconnection'⟩ :=
        ih (r := r.perform e) (hlisteners ▸ hlabels) (hlisteners ▸ hl)
      refine ⟨?_, hlisteners'.trans hlisteners, hconnection'.trans hconnection⟩
      rw [hheard, heard_perform hlabels hl, List.append_assoc]
      cases h : e.event? <;> simp [h]

/-- Every listener hears all events of a run. -/
theorem heard_follow
    (hlabels : (r.listeners.listeners.map (·.label)).Nodup)
    (hl : l ∈ r.listeners.listeners)
    (ms : List Connection.Move) :
    (r.follow ms).heard l.label = r.heard l.label ++ (r.connection.course ms).events := by
  induction ms generalizing r with
  | nil =>
      exact (List.append_nil _).symm
  | cons m ms ih =>
      obtain ⟨hheard, hlisteners, hconnection⟩ :=
        heard_foldl (r := { r with connection := r.connection.after m }) hlabels hl
          (r.connection.move m).effects
      have hfollow : r.follow (m :: ms) = (r.change (·.move m)).follow ms := rfl
      have hchange : (r.change (·.move m)).connection = r.connection.after m := hconnection
      rw [hfollow, ih (hlisteners ▸ hlabels) (hlisteners ▸ hl), hchange]
      have hone : (r.change (·.move m)).heard l.label =
          r.heard l.label ++ (r.connection.told m).events := by
        rw [Connection.events_told]
        exact hheard
      rw [hone, List.append_assoc, ← Course.events_append]
      rfl

end

/-- **Announcements.**  Let wishes to connect and to disconnect come one after the other,
and let all attempts that a policy allows be countable.  Whatever the transport does, what
is told is in the order of the reconnect automaton, and every listener that was there from
the start hears all events of it, whether other listeners panic or not. -/
theorem announcements_lawful
    (policy : ReconnectPolicy)
    (heartbeat : Option Duration)
    (wire : Wire)
    (listeners : Registry Listener)
    (ms : List Connection.Move)
    (hbound : ∀ n, policy.maxAttempts = some n → n < Supervisor.attemptLimit)
    (hlabels : (listeners.listeners.map (·.label)).Nodup)
    (hserial : (Connection.ofPolicy policy heartbeat).Serial ms) :
    let c := Connection.ofPolicy policy heartbeat
    let r : Connecting := { connection := c, wire := wire, listeners := listeners }
    Course.Lawful policy (c.course ms) ∧
      ∀ l ∈ listeners.listeners, (r.follow ms).heard l.label = (c.course ms).events := by
  intro c r
  obtain ⟨a, hpath⟩ := Connection.path_course hserial
  refine ⟨hpath.lawful hbound, ?_⟩
  intro l hl
  exact heard_follow (r := r) hlabels hl ms

/-- Two listeners, the first of which panics. -/
def pair : Registry Listener :=
  ((({} : Registry Listener).insert ⟨"a", true⟩).1.insert ⟨"b", false⟩).1

/-- A line is refused, and that was the only attempt.  Another one is opened, and then
nobody wants it any more. -/
def refusedThenUsed : List Connection.Move :=
  [.connect, .turn 0 .begun, .turn 0 (.refused (.other "no")), .connect, .turn 1 .begun,
    .turn 1 .opened, .disconnect, .turn 1 .stopped, .finishDisconnect 1]

theorem refusedThenUsed_lawful :
    let c := Connection.ofPolicy Connection.single none
    let r : Connecting := { connection := c, wire := {}, listeners := pair }
    Course.Lawful Connection.single (c.course refusedThenUsed) ∧
      (r.follow refusedThenUsed).heard "b" =
        [.changed .connecting, .changed .idle, .reconnectFailed 0, .changed .connecting,
          .changed .connected, .changed .idle] := by
  have hall := announcements_lawful Connection.single none {} pair refusedThenUsed
    (by simp [Connection.single, Supervisor.attemptLimit, Word.bound32]) (by decide) (by decide)
  exact ⟨hall.1, (hall.2 _ (List.mem_cons_of_mem _ List.mem_cons_self)).trans (by decide)⟩

end Connecting
end Simulation

end RemoteRun
