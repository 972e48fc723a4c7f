import Mathlib.Data.List.Perm.Subperm
import RemoteRun.Proofs.Connection.Usable

/-!
# What is written on a line

**Accepted.** A message is accepted for the line that is the outlet at that time, and its
text joins the queue of the pump of that line.

**Results.**
* `Turn.conveys`: a turn writes the first text of a queue, begins a new line with an empty
  queue, or leaves all queues and all that is written alone.
* `conveyed_run`: throughout a run what was accepted for a line that is pumped is what has
  been written on it, followed by its queue.
* `written_in_order`: on each line a part of what was accepted for that line is written, from
  the first text on and in order, and nothing twice.
-/

namespace RemoteRun

/-- The line and the text that are written, other than heartbeats. -/
def Effect.written? : Effect → Option (Nat × String)
  | .write line text => some (line, text)
  | _ => none

namespace Connection

/-- What has been written, with the lines, in order. -/
def written (c : Connection) : List (Nat × String) :=
  c.effects.filterMap Effect.written?

/-- The text that is accepted in a move, with the line that it is accepted for. -/
def accepted (c : Connection) : Move → List (Nat × String)
  | .send message =>
      match (send message c).2, c.outlet with
      | .ok _, some line => [(line, message.write)]
      | _, _ => []
  | _ => []

/-- All texts that are accepted in a run, with their lines, in order. -/
def posted (c : Connection) : List Move → List (Nat × String)
  | [] => []
  | m :: ms => c.accepted m ++ (c.move m).posted ms

/-- The texts of one line. -/
def textsOn (line : Nat) (texts : List (Nat × String)) : List String :=
  (texts.filter (·.1 == line)).map (·.2)

section

variable (line : Nat)

@[simp] theorem textsOn_append
    (xs ys : List (Nat × String)) :
    textsOn line (xs ++ ys) = textsOn line xs ++ textsOn line ys := by
  simp [textsOn]

theorem textsOn_eq_nil
    {texts : List (Nat × String)}
    (h : ∀ x ∈ texts, x.1 ≠ line) :
    textsOn line texts = [] := by
  simpa [textsOn] using h

/-- How often a text is on a line. -/
theorem count_textsOn
    (text : String)
    (texts : List (Nat × String)) :
    (textsOn line texts).count text = texts.count (line, text) := by
  rw [textsOn, List.count_eq_countP, List.countP_map, List.countP_filter, List.count_eq_countP]
  refine List.countP_congr ?_
  rintro ⟨other, text'⟩ _
  simp [Prod.ext_iff, and_comm]

end

/-! ### What a turn writes -/

section

variable (c : Connection)

@[simp] theorem written_emit
    (e : Effect) :
    (c.emit e).written = c.written ++ e.written?.toList := by
  simp only [written, emit, List.filterMap_append]
  cases h : e.written? <;> simp [h]

@[simp] theorem written_reveal
    (s : ConnectionState) :
    (c.reveal s).written = c.written := by
  unfold reveal
  split
  · rfl
  · exact (written_emit _ _).trans (List.append_nil _)

@[simp] theorem written_noted
    (notices : List Notice) :
    (c.noted notices).written = c.written := by
  simp [written, noted, List.filterMap_map, Function.comp_def, Effect.written?]

@[simp] theorem lines_reveal
    (s : ConnectionState) :
    (c.reveal s).lines = c.lines := by
  unfold reveal
  split <;> rfl

end

theorem emit_lines
    (c : Connection)
    (e : Effect) :
    (c.emit e).lines = c.lines :=
  rfl

section

variable {c d : Connection} {id : Nat} {s s' : Supervisor}

/-- What a turn has to do with what is written. -/
inductive Conveys (c : Connection) (s s' : Supervisor) (d : Connection) : Prop
  | write
      {line : Nat}
      {text : String}
      {queue : List String}
      (hs : s.activity = .pumping line (text :: queue))
      (hs' : s'.activity = .pumping line queue)
      (hwritten : d.written = c.written ++ [(line, text)])
      (hlines : d.lines = c.lines)
  | begins
      (hs' : s'.activity = .pumping c.lines [])
      (hwritten : d.written = c.written)
      (hlines : d.lines = c.lines + 1)
  | stays
      (hs' : ∀ line queue, s'.activity = .pumping line queue → s.activity = .pumping line queue)
      (hwritten : d.written = c.written)
      (hlines : c.lines ≤ d.lines)

theorem Lineless.written_eq
    {c' : Connection}
    (h : Lineless c s c') :
    c'.written = c.written ∧ c'.lines = c.lines := by
  cases h with
  | refused _ _ _ =>
      exact ⟨(c.written_emit _).trans (List.append_nil _), rfl⟩
  | lost _ _ =>
      exact ⟨(written_emit _ _).trans (List.append_nil _), rfl⟩

theorem Retry.written_eq
    (h : Retry c id s s' d) :
    d.written = c.written ∧ c.lines ≤ d.lines := by
  cases h <;> simp [note, Effect.written?, emit_lines]

theorem Turn.conveys
    (h : Turn c id s s' d) :
    Conveys c s s' d := by
  cases h with
  | write hs =>
      exact .write hs rfl (c.written_emit _) rfl
  | use hs hgoes hbeat =>
      exact .begins rfl (written_reveal _ _) (lines_reveal _ _)
  | spoil hs hgoes hbeat =>
      refine .stays (by simp) (written_reveal _ _) ?_
      rw [lines_reveal]
      exact Nat.le_succ _
  | retry hs hretry =>
      obtain ⟨hwritten, hlines⟩ := hs.written_eq
      obtain ⟨hwritten', hlines'⟩ := hretry.written_eq
      refine .stays ?_ (hwritten'.trans hwritten) (hlines ▸ hlines')
      cases hretry <;> simp [Supervisor.turnTo]
  | close hs hstops =>
      refine .stays (by simp [Supervisor.turnTo]) ?_ (Nat.le_refl _)
      exact (c.written_emit (.close _)).trans (List.append_nil _)
  | stay =>
      exact .stays (fun _ _ hs => hs) rfl (Nat.le_refl _)
  | deliver text hs hgoes =>
      exact .stays (fun _ _ hs => hs) (by simp [Effect.written?]) (Nat.le_refl _)
  | beat hs =>
      exact .stays (fun _ _ hs => hs) (by simp [Effect.written?]) (Nat.le_refl _)
  | _ =>
      exact .stays (by simp [Supervisor.turnTo]) (by simp [Effect.written?]) (by simp [emit_lines])

end

/-! ### Throughout a run -/

/-- The supervisor with a number pumps a line, with a queue of texts. -/
def Pumps (c : Connection) (id line : Nat) (queue : List String) : Prop :=
  ∃ s, c.supervisors[id]? = some s ∧ s.activity = .pumping line queue

theorem pumps_put
    {c : Connection}
    {id j line : Nat}
    {s s' : Supervisor}
    {queue : List String}
    (hid : c.supervisors[id]? = some s)
    (h : (c.put id s').Pumps j line queue) :
    j = id ∧ s'.activity = .pumping line queue ∨ j ≠ id ∧ c.Pumps j line queue := by
  obtain ⟨t, ht, hpumps⟩ := h
  rw [getElem?_put hid] at ht
  split at ht
  next heq =>
    obtain rfl := Option.some.inj ht
    exact Or.inl ⟨heq.symm, hpumps⟩
  next hne =>
    exact Or.inr ⟨Ne.symm hne, t, ht, hpumps⟩

/-- Lines are numbered in the order in which they were opened, and each has one pump at
most. -/
structure Numbered (c : Connection) : Prop where
  pumped_lt : ∀ id line queue, c.Pumps id line queue → line < c.lines
  one_pump : ∀ i j line queue queue', c.Pumps i line queue → c.Pumps j line queue' → i = j

namespace Numbered

variable {c d : Connection}

theorem of_pumps
    (h : Numbered c)
    (hpumps : ∀ id line queue, d.Pumps id line queue → ∃ queue', c.Pumps id line queue')
    (hlines : c.lines ≤ d.lines) :
    Numbered d := by
  constructor
  · intro id line queue hid
    obtain ⟨queue', hid⟩ := hpumps id line queue hid
    exact Nat.lt_of_lt_of_le (h.pumped_lt id line queue' hid) hlines
  · intro i j line queue queue' hi hj
    obtain ⟨_, hi⟩ := hpumps i line queue hi
    obtain ⟨_, hj⟩ := hpumps j line queue' hj
    exact h.one_pump i j line _ _ hi hj

/-- A line is opened. -/
theorem begins
    (h : Numbered c)
    {id : Nat}
    (hpumps : ∀ j line queue, d.Pumps j line queue →
      j = id ∧ line = c.lines ∨ c.Pumps j line queue)
    (hlines : d.lines = c.lines + 1) :
    Numbered d := by
  constructor
  · intro j line queue hj
    rw [hlines]
    rcases hpumps j line queue hj with ⟨_, rfl⟩ | hj
    · exact Nat.lt_succ_self _
    · exact Nat.lt_succ_of_lt (h.pumped_lt j line queue hj)
  · intro i j line queue queue' hi hj
    rcases hpumps i line queue hi with ⟨hid, hline⟩ | hi <;>
      rcases hpumps j line queue' hj with ⟨hid', hline'⟩ | hj
    · rw [hid, hid']
    · exact absurd (h.pumped_lt j line queue' hj) (hline ▸ Nat.lt_irrefl _)
    · exact absurd (h.pumped_lt i line queue hi) (hline' ▸ Nat.lt_irrefl _)
    · exact h.one_pump i j line queue queue' hi hj

end Numbered

/-- What was accepted is what has been written, followed by what waits in the queues of
open lines. -/
structure Conveyed (c : Connection) (sent : List (Nat × String)) : Prop extends Numbered c where
  sent_lt : ∀ x ∈ sent, x.1 < c.lines
  waiting : ∀ id line queue, c.Pumps id line queue →
    textsOn line sent = textsOn line c.written ++ queue
  ordered : ∀ line, textsOn line c.written <+: textsOn line sent

namespace Conveyed

variable {c d : Connection} {sent : List (Nat × String)}

theorem ofPolicy
    (policy : ReconnectPolicy)
    (heartbeat : Option Duration) :
    Conveyed (ofPolicy policy heartbeat) [] := by
  refine ⟨⟨?_, ?_⟩, ?_, ?_, ?_⟩ <;> simp [Pumps, Connection.ofPolicy, written]

/-- Nothing is written, and no line is pumped that was not. -/
theorem of_same
    (h : Conveyed c sent)
    (hpumps : ∀ id line queue, d.Pumps id line queue → c.Pumps id line queue)
    (hwritten : d.written = c.written)
    (hlines : c.lines ≤ d.lines) :
    Conveyed d sent where
  toNumbered := h.toNumbered.of_pumps (fun _ _ queue hid => ⟨queue, hpumps _ _ _ hid⟩) hlines
  sent_lt x hx := Nat.lt_of_lt_of_le (h.sent_lt x hx) hlines
  waiting id line queue hid := hwritten ▸ h.waiting id line queue (hpumps _ _ _ hid)
  ordered line := hwritten ▸ h.ordered line

/-- Nothing was accepted for a line before it is open. -/
theorem textsOn_lines
    (h : Conveyed c sent) :
    textsOn c.lines sent = [] :=
  textsOn_eq_nil c.lines fun x hx => Nat.ne_of_lt (h.sent_lt x hx)

/-- A line is opened, with an empty queue. -/
theorem begins
    (h : Conveyed c sent)
    (id : Nat)
    (hpumps : ∀ j line queue, d.Pumps j line queue →
      (j = id ∧ line = c.lines) ∧ queue = [] ∨ c.Pumps j line queue)
    (hwritten : d.written = c.written)
    (hlines : d.lines = c.lines + 1) :
    Conveyed d sent where
  toNumbered := h.toNumbered.begins
    (fun j line queue hj => (hpumps j line queue hj).imp_left And.left) hlines
  sent_lt x hx := hlines ▸ Nat.lt_succ_of_lt (h.sent_lt x hx)
  waiting j line queue hj := by
    rw [hwritten]
    rcases hpumps j line queue hj with ⟨⟨_, rfl⟩, rfl⟩ | hj
    · have hnone := h.ordered c.lines
      rw [h.textsOn_lines, List.prefix_nil] at hnone
      rw [h.textsOn_lines, hnone, List.append_nil]
    · exact h.waiting j line queue hj
  ordered line := hwritten ▸ h.ordered line

/-- The queue of one line changes as more is accepted for it or written on it. -/
theorem exchange
    (h : Conveyed c sent)
    {id line : Nat}
    {queue : List String}
    {more new : List (Nat × String)}
    (queue' : List String)
    (hid : c.Pumps id line queue)
    (hpumps : ∀ j line' q, d.Pumps j line' q →
      (j = id ∧ line' = line) ∧ q = queue' ∨ j ≠ id ∧ c.Pumps j line' q)
    (hwritten : d.written = c.written ++ more)
    (hlines : d.lines = c.lines)
    (hmore : ∀ x ∈ more, x.1 = line)
    (hnew : ∀ x ∈ new, x.1 = line)
    (hqueue : queue ++ textsOn line new = textsOn line more ++ queue') :
    Conveyed d (sent ++ new) := by
  have hline : textsOn line (sent ++ new) = textsOn line d.written ++ queue' := by
    rw [hwritten, textsOn_append, textsOn_append, h.waiting id line queue hid, List.append_assoc,
      hqueue, List.append_assoc]
  -- Other lines are left alone.
  have hother : ∀ line', line' ≠ line →
      textsOn line' (sent ++ new) = textsOn line' sent ∧
        textsOn line' d.written = textsOn line' c.written := by
    intro line' hne
    have hnone : ∀ xs : List (Nat × String), (∀ x ∈ xs, x.1 = line) → textsOn line' xs = [] :=
      fun xs hxs => textsOn_eq_nil line' fun x hx => hxs x hx ▸ hne.symm
    constructor
    · rw [textsOn_append, hnone new hnew, List.append_nil]
    · rw [hwritten, textsOn_append, hnone more hmore, List.append_nil]
  refine ⟨h.toNumbered.of_pumps ?_ (Nat.le_of_eq hlines.symm), ?_, ?_, ?_⟩
  · intro j line' q hj
    rcases hpumps j line' q hj with ⟨⟨rfl, rfl⟩, _⟩ | ⟨_, hj⟩
    · exact ⟨queue, hid⟩
    · exact ⟨q, hj⟩
  · intro x hx
    rw [hlines]
    rcases List.mem_append.1 hx with hx | hx
    · exact h.sent_lt x hx
    · exact hnew x hx ▸ h.pumped_lt id line queue hid
  · intro j line' q hj
    rcases hpumps j line' q hj with ⟨⟨_, rfl⟩, rfl⟩ | ⟨hne, hj⟩
    · exact hline
    · have hne' : line' ≠ line := by
        rintro rfl
        exact hne (h.one_pump j id line' q queue hj hid)
      rw [(hother line' hne').1, (hother line' hne').2]
      exact h.waiting j line' q hj
  · intro line'
    by_cases hne : line' = line
    · subst hne
      exact ⟨queue', hline.symm⟩
    · rw [(hother line' hne).1, (hother line' hne).2]
      exact h.ordered line'

theorem settle
    (h : Conveyed c sent) :
    Conveyed c.settle sent := by
  refine h.of_same ?_ (written_reveal _ _) ?_
  · rintro j line queue ⟨s, hs, hpumps⟩
    exact ⟨s, (c.kept_settle.getElem?_eq j).symm.trans hs, hpumps⟩
  · exact Nat.le_of_eq (lines_reveal { c with outlet := none } .idle).symm

theorem turn
    (h : Conveyed c sent)
    {id : Nat}
    {s s' : Supervisor}
    (hid : c.supervisors[id]? = some s)
    (hturn : Turn c id s s' d) :
    Conveyed (d.put id s') sent := by
  have hid' := (hturn.kept.getElem?_eq id).trans hid
  have hput : ∀ j line queue, (d.put id s').Pumps j line queue →
      j = id ∧ s'.activity = .pumping line queue ∨ j ≠ id ∧ c.Pumps j line queue := by
    intro j line queue hj
    rcases pumps_put hid' hj with hj | ⟨hne, t, ht, hpumps⟩
    · exact Or.inl hj
    · exact Or.inr ⟨hne, t, (hturn.kept.getElem?_eq j).symm.trans ht, hpumps⟩
  cases hturn.conveys with
  | @write line text queue hs hs' hwritten hlines =>
      rw [← List.append_nil sent]
      refine h.exchange queue ⟨s, hid, hs⟩ ?_ hwritten hlines (by simp) (by simp)
        (by simp [textsOn])
      intro j line' q hj
      rcases hput j line' q hj with ⟨rfl, hactivity⟩ | hj
      · rw [hs'] at hactivity
        cases hactivity
        exact Or.inl ⟨⟨rfl, rfl⟩, rfl⟩
      · exact Or.inr hj
  | begins hs' hwritten hlines =>
      refine h.begins id ?_ hwritten hlines
      intro j line queue hj
      rcases hput j line queue hj with ⟨rfl, hactivity⟩ | ⟨_, hj⟩
      · rw [hs'] at hactivity
        cases hactivity
        exact Or.inl ⟨⟨rfl, rfl⟩, rfl⟩
      · exact Or.inr hj
  | stays hs' hwritten hlines =>
      refine h.of_same ?_ hwritten hlines
      intro j line queue hj
      rcases hput j line queue hj with ⟨rfl, hactivity⟩ | ⟨_, hj⟩
      · exact ⟨s, hid, hs' line queue hactivity⟩
      · exact hj

theorem accept
    (h : Conveyed c sent)
    {id line : Nat}
    {s : Supervisor}
    {queue : List String}
    (hid : c.supervisors[id]? = some s)
    (hs : s.activity = .pumping line queue)
    (text : String) :
    Conveyed (c.put id (s.turnTo (.pumping line (queue ++ [text])))) (sent ++ [(line, text)]) := by
  refine h.exchange (queue ++ [text]) ⟨s, hid, hs⟩ ?_
    (List.append_nil c.written).symm rfl (by simp) (by simp) (by simp [textsOn])
  intro j line' q hj
  rcases pumps_put hid hj with ⟨rfl, hactivity⟩ | hj
  · cases hactivity
    exact Or.inl ⟨⟨rfl, rfl⟩, rfl⟩
  · exact Or.inr hj

/-- What else happens than that something is sent. -/
theorem change
    (h : Conveyed c sent)
    {m : Move}
    (hchange : Change c m d)
    (hm : ∀ message, m ≠ .send message) :
    Conveyed d sent := by
  cases hchange with
  | quiet _ notices =>
      exact h.of_same (fun _ _ _ hj => hj) (c.written_noted notices) (Nat.le_refl _)
  | connect hheld =>
      refine h.of_same ?_ rfl (Nat.le_refl _)
      rintro j line queue ⟨s, hs, hpumps⟩
      rcases getElem?_append_new hs with ⟨_, rfl⟩ | hs
      · cases hpumps
      · exact ⟨s, hs, hpumps⟩
  | settle hheld =>
      exact h.settle
  | disconnect hheld =>
      refine h.of_same ?_ rfl (Nat.le_refl _)
      rintro j line queue ⟨s, hs, hpumps⟩
      obtain ⟨t, ht, rfl⟩ := getElem?_modify_stop hs
      refine ⟨t, ht, ?_⟩
      split at hpumps <;> exact hpumps
  | finish notices hid hover =>
      refine settle (c := { c.noted notices with leaving := _ }) ?_
      exact h.of_same (fun _ _ _ hj => hj) (c.written_noted notices) (Nat.le_refl _)
  | turn o hid hturn =>
      exact h.turn hid hturn
  | accept message _ _ _ _ =>
      exact absurd rfl (hm message)

theorem move
    (h : Conveyed c sent)
    (m : Move) :
    Conveyed (c.move m) (sent ++ c.accepted m) := by
  cases m with
  | send message =>
      rcases c.send_cases message with ⟨id, line, s, queue, hid, hs, houtlet, _, hsend⟩ |
        ⟨notice, hsend⟩
      · simp only [accepted, Connection.move, hsend, houtlet]
        exact h.accept hid hs message.write
      · simp only [accepted, Connection.move, hsend, List.append_nil]
        exact h.of_same (fun _ _ _ hj => hj) (c.written_noted _) (Nat.le_refl _)
  | _ =>
      simp only [accepted, List.append_nil]
      exact h.change (c.change_move _) (by simp)

end Conveyed

/-- What was accepted is written or waits, throughout a run. -/
theorem conveyed_run
    {c : Connection}
    {sent : List (Nat × String)}
    (h : Conveyed c sent)
    (ms : List Move) :
    Conveyed (c.run ms) (sent ++ c.posted ms) := by
  induction ms generalizing c sent with
  | nil =>
      rw [posted, List.append_nil]
      exact h
  | cons m ms ih =>
      rw [posted, ← List.append_assoc]
      exact ih (h.move m)

/-- **Conveyance.**  Whatever is sent, lost, opened again, kept alive and closed: on each
line, heartbeats apart, the texts of the messages that were accepted while it was the outlet
are written in order and from the first one on, and nothing else; the rest of them waits in
the queue of the line as long as it is pumped.  Nothing is written more often than it was
accepted for its line. -/
theorem written_in_order
    (policy : ReconnectPolicy)
    (heartbeat : Option Duration)
    (ms : List Move) :
    let c := (ofPolicy policy heartbeat).run ms
    let sent := (ofPolicy policy heartbeat).posted ms
    (∀ line, textsOn line c.written <+: textsOn line sent) ∧
      c.written.Subperm sent ∧
      ∀ (id : Nat) s line queue, c.supervisors[id]? = some s → s.activity = .pumping line queue →
        textsOn line sent = textsOn line c.written ++ queue := by
  intro c sent
  have h : Conveyed c sent := conveyed_run (.ofPolicy policy heartbeat) ms
  refine ⟨h.ordered, ?_, fun id s line queue hid hs => h.waiting id line queue ⟨s, hid, hs⟩⟩
  rw [List.subperm_ext_iff]
  rintro ⟨line, text⟩ _
  rw [← count_textsOn, ← count_textsOn]
  exact (h.ordered line).sublist.count_le text

end Connection

end RemoteRun
