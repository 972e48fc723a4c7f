import RemoteRun.Http.Body
import RemoteRun.Proofs.Framing.Chunks

/-!
# Bodies that are read chunk by chunk

A reader hands out the frames of a body one at a time, and reads the next chunk only when no
frame is ready.

**Turns.** Whoever asks a reader for an item has it go round a loop.  `BodyReader.turn` is one
round: it hands out an item, ends, or goes on with another reader.  `BodyReader.Runs` are any
number of rounds, whoever asks for them.

**Frames.** A chunk may complete any number of frames, so what is ready and what the decoder
keeps depend on all chunks read so far.  They are those of a decoder that takes the chunks one
after the other, and with that those of their bytes: `BodyReader.runs_chunks`.

**Results.** `BodyReader.body_streamed`: a body gives all its frames, or those that are
complete before the first error and then the error.  Nothing behind the error is read, every
round that hands out nothing reads something, and the end is final.
-/

namespace RemoteRun

namespace Framing

/-- The frames of the lines that a line feed ends. -/
def completed (bytes : List UInt8) : List String :=
  (bytes.splitOn lineFeed).dropLast.filterMap frameOfBytes

/-- The lines that are cut off are those that a line feed ends. -/
theorem filterMap_cut
    (bytes : List UInt8) :
    (cut bytes).1.filterMap frameOfBytes = completed bytes := by
  unfold completed
  induction hn : bytes.length using Nat.strongRecOn generalizing bytes with
  | ind n ih =>
      by_cases h : lineFeed ∈ bytes
      · obtain ⟨line, rest, rfl, hline⟩ := List.eq_append_cons_of_mem h
        have hshorter : rest.length < n := by
          simp only [List.length_append, List.length_cons] at hn
          omega
        rw [cut_line hline, List.splitOn_append_cons_self_of_not_mem hline,
          List.dropLast_cons_of_ne_nil (List.splitOn_ne_nil _ _)]
        simp only [List.filterMap_cons, frameOfBytes_lineFeed, ih _ hshorter rest rfl]
      · rw [cut_of_notMem h, List.splitOn_eq_singleton h]
        rfl

end Framing

/-- What a round of the loop of a reader comes to. -/
inductive BodyTurn where
  | yields (item : Except CallError String) (next : BodyReader)
  | ends
  | goesOn (next : BodyReader)

/-- What whoever asked gets after a round, unless the loop goes on. -/
def BodyTurn.returned? : BodyTurn → Option (Option (Except CallError String × BodyReader))
  | .yields item next => some (some (item, next))
  | .ends => some none
  | .goesOn _ => none

namespace BodyReader

/-! ### Turns -/

/-- A round of the loop: a frame that is ready is handed out, and otherwise a chunk is read. -/
def turn (r : BodyReader) : BodyTurn :=
  match r.ready, r.done, r.chunks with
  | frame :: ready, _, _ => .yields (.ok frame) { r with ready := ready }
  | [], true, _ => .ends
  | [], false, .ok bytes :: chunks =>
      let (decoder, ready) := r.decoder.push bytes
      .goesOn { r with chunks := chunks, decoder := decoder, ready := ready }
  | [], false, .error e :: chunks => .yields (.error e) { r with chunks := chunks, done := true }
  | [], false, [] =>
      let (decoder, last) := r.decoder.finish
      .goesOn { r with decoder := decoder, ready := last.toList, done := true }

/-- To ask for an item is to go round the loop. -/
theorem next?_eq_turn
    (r : BodyReader) :
    r.next? =
      match r.turn with
      | .yields item s => some (item, s)
      | .ends => none
      | .goesOn s => s.next? := by
  obtain ⟨chunks, decoder, ready, done⟩ := r
  cases ready with
  | cons frame ready =>
      rfl
  | nil =>
      cases done with
      | true =>
          rfl
      | false =>
          cases chunks with
          | nil =>
              simp only [next?, turn, pull]
              obtain ⟨d, last⟩ := decoder.finish
              cases last <;> rfl
          | cons chunk chunks =>
              cases chunk with
              | error e =>
                  rfl
              | ok bytes =>
                  simp only [next?, turn, pull]
                  obtain ⟨d, ready⟩ := decoder.push bytes
                  cases ready <;> rfl

theorem next?_of_goesOn
    {r s : BodyReader}
    (h : r.turn = .goesOn s) :
    r.next? = s.next? := by
  rw [next?_eq_turn, h]

/-- A round that hands out nothing reads a chunk, or the end of the body. -/
theorem left_of_goesOn
    {r s : BodyReader}
    (h : r.turn = .goesOn s) :
    s.left + 1 = r.left := by
  unfold turn at h
  split at h
  next => cases h
  next => cases h
  next hdone hchunks =>
    cases h
    simp [left, hdone, hchunks]
  next => cases h
  next hdone hchunks =>
    cases h
    simp [left, hdone, hchunks]

/-! ### Runs -/

/-- Rounds one after the other: what they hand out, and the reader after them. -/
inductive Runs : BodyReader → CallFrames → BodyReader → Prop
  | here (r : BodyReader) : Runs r [] r
  | yields {r s t : BodyReader} {item : Except CallError String} {items : CallFrames} :
      r.turn = .yields item s → Runs s items t → Runs r (item :: items) t
  | goesOn {r s t : BodyReader} {items : CallFrames} :
      r.turn = .goesOn s → Runs s items t → Runs r items t

theorem Runs.trans
    {r s t : BodyReader}
    {items later : CallFrames}
    (h : Runs r items s)
    (hlater : Runs s later t) :
    Runs r (items ++ later) t := by
  induction h with
  | here =>
      exact hlater
  | yields hturn _ ih =>
      exact .yields hturn (ih hlater)
  | goesOn hturn _ ih =>
      exact .goesOn hturn (ih hlater)

/-- The end is final. -/
theorem Runs.of_ends
    {r s : BodyReader}
    {items : CallFrames}
    (h : Runs r items s)
    (hends : r.turn = .ends) :
    items = [] ∧ s = r := by
  cases h with
  | here =>
      exact ⟨rfl, rfl⟩
  | yields hturn =>
      cases hends.symm.trans hturn
  | goesOn hturn =>
      cases hends.symm.trans hturn

theorem items_eq_next?
    (r : BodyReader) :
    r.items =
      match r.next? with
      | none => []
      | some (item, s) => item :: s.items := by
  rw [items]
  split
  next hnext => rw [hnext]
  next item s hnext => rw [hnext]

/-- What rounds hand out comes first among all items. -/
theorem Runs.items_eq
    {r s : BodyReader}
    {items : CallFrames}
    (h : Runs r items s) :
    r.items = items ++ s.items := by
  induction h with
  | here =>
      rfl
  | yields hturn _ ih =>
      rw [items_eq_next?, next?_eq_turn, hturn, List.cons_append, ← ih]
  | goesOn hturn _ ih =>
      rw [items_eq_next?, next?_of_goesOn hturn, ← items_eq_next?, ih]

theorem items_of_ends
    {r : BodyReader}
    (h : r.turn = .ends) :
    r.items = [] := by
  rw [items_eq_next?, next?_eq_turn, h]

/-- Whoever asks gets an answer, after rounds that hand out nothing. -/
theorem exists_returned
    (r : BodyReader) :
    ∃ s, Runs r [] s ∧ s.turn.returned? = some r.next? := by
  induction hn : r.left using Nat.strongRecOn generalizing r with
  | ind n ih =>
      cases hturn : r.turn with
      | yields item s =>
          refine ⟨r, .here r, ?_⟩
          rw [next?_eq_turn, hturn]
          rfl
      | ends =>
          refine ⟨r, .here r, ?_⟩
          rw [next?_eq_turn, hturn]
          rfl
      | goesOn s =>
          have hread := left_of_goesOn hturn
          obtain ⟨t, hruns, hreturned⟩ := ih s.left (by omega) s rfl
          refine ⟨t, .goesOn hturn hruns, ?_⟩
          rw [hreturned, next?_of_goesOn hturn]

/-! ### Frames -/

/-- All frames that are ready are handed out before anything is read. -/
theorem runs_ready
    (chunks : List BodyChunk)
    (decoder : LineDecoder)
    (ready : List String)
    (done : Bool) :
    Runs ⟨chunks, decoder, ready, done⟩ (ready.map .ok) ⟨chunks, decoder, [], done⟩ := by
  induction ready with
  | nil =>
      exact .here _
  | cons frame ready ih =>
      exact .yields rfl ih

/-- Chunks are read as a decoder takes them. -/
theorem runs_chunks
    (decoder : LineDecoder)
    (before : List (List UInt8))
    (rest : List BodyChunk) :
    Runs ⟨before.map .ok ++ rest, decoder, [], false⟩ ((decoder.pushAll before).2.map .ok)
      ⟨rest, (decoder.pushAll before).1, [], false⟩ := by
  induction before generalizing decoder with
  | nil =>
      exact .here _
  | cons bytes before ih =>
      have hready := runs_ready (before.map .ok ++ rest) (decoder.push bytes).1
        (decoder.push bytes).2 false
      rw [LineDecoder.pushAll, List.map_append]
      exact .goesOn rfl (hready.trans (ih _))

/-- Until anything else comes, a body gives the frames that are complete. -/
theorem runs_completed
    (before : List (List UInt8))
    (rest : List BodyChunk) :
    ∃ decoder, Runs { chunks := before.map .ok ++ rest }
      ((Framing.completed before.flatten).map .ok) ⟨rest, decoder, [], false⟩ := by
  have hframes : (({} : LineDecoder).pushAll before).2 = Framing.completed before.flatten := by
    rw [LineDecoder.pushAll_eq_push, ← Framing.filterMap_cut]
    rfl
  exact ⟨_, hframes ▸ runs_chunks {} before rest⟩

/-- What a body gives until it ends, and what is left unread then. -/
structure Streams (chunks : List BodyChunk) (items : CallFrames) (unread : List BodyChunk) :
    Prop where
  decoded : decodeBody chunks = items
  ended : ∃ s, Runs { chunks := chunks } items s ∧ s.turn = .ends ∧ s.chunks = unread

theorem Streams.of_runs
    {chunks : List BodyChunk}
    {items : CallFrames}
    {s : BodyReader}
    (h : Runs { chunks := chunks } items s)
    (hends : s.turn = .ends) :
    Streams chunks items s.chunks where
  decoded := by
    rw [decodeBody, h.items_eq, items_of_ends hends, List.append_nil]
  ended := ⟨s, h, hends, rfl⟩

/-- At the end of a body what is left of it counts as a line. -/
theorem streams_whole
    (bodies : List (List UInt8)) :
    Streams (bodies.map .ok)
      (((bodies.flatten.splitOn Framing.lineFeed).filterMap Framing.frameOfBytes).map .ok) [] := by
  have hchunks := runs_chunks {} bodies []
  rw [← LineDecoder.frames_eq_lines, LineDecoder.frames]
  generalize ({} : LineDecoder).pushAll bodies = pushed at hchunks ⊢
  have hlast := runs_ready [] pushed.1.finish.1 pushed.1.finish.2.toList true
  have hruns := hchunks.trans (.goesOn rfl hlast)
  rw [List.append_nil, ← List.map_append] at hruns
  exact .of_runs hruns rfl

/-- An error ends a body, and what is left of it is dropped. -/
theorem streams_failed
    (before : List (List UInt8))
    (e : CallError)
    (after : List BodyChunk) :
    Streams (before.map .ok ++ .error e :: after)
      ((Framing.completed before.flatten).map .ok ++ [.error e]) after := by
  obtain ⟨decoder, hruns⟩ := runs_completed before (.error e :: after)
  have herror : Runs ⟨.error e :: after, decoder, [], false⟩ [.error e]
      ⟨after, decoder, [], true⟩ :=
    .yields rfl (.here _)
  exact .of_runs (hruns.trans herror) rfl

/-- A body comes whole, or an error comes first. -/
theorem chunks_cases
    (chunks : List BodyChunk) :
    (∃ bodies : List (List UInt8), chunks = bodies.map .ok) ∨
      ∃ (before : List (List UInt8)) (e : CallError) (after : List BodyChunk),
        chunks = before.map .ok ++ .error e :: after := by
  induction chunks with
  | nil =>
      exact Or.inl ⟨[], rfl⟩
  | cons chunk chunks ih =>
      cases chunk with
      | error e =>
          exact Or.inr ⟨[], e, chunks, rfl⟩
      | ok bytes =>
          rcases ih with ⟨bodies, rfl⟩ | ⟨before, e, after, rfl⟩
          · exact Or.inl ⟨bytes :: bodies, rfl⟩
          · exact Or.inr ⟨bytes :: before, e, after, rfl⟩

/-- **Streamed bodies.**  Every body comes whole or with a first error.  A whole one gives the
frames of all its bytes, a last line without a line feed included, and ends.  One with an
error gives the frames that are complete in front of it, then the error, and ends with
everything behind the error unread.  Whatever comes behind a beginning without an error, its
frames are handed out first.  Whoever asks gets an answer, since a round of the loop that
hands out nothing leaves one thing less to read; and after the end nothing comes. -/
theorem body_streamed :
    (∀ chunks : List BodyChunk,
      (∃ bodies : List (List UInt8), chunks = bodies.map .ok ∧
        Streams chunks
          (((bodies.flatten.splitOn Framing.lineFeed).filterMap Framing.frameOfBytes).map .ok)
          []) ∨
      ∃ (before : List (List UInt8)) (e : CallError) (after : List BodyChunk),
        chunks = before.map .ok ++ .error e :: after ∧
        Streams chunks ((Framing.completed before.flatten).map .ok ++ [.error e]) after) ∧
      (∀ (before : List (List UInt8)) (rest : List BodyChunk),
        ∃ decoder, Runs { chunks := before.map .ok ++ rest }
          ((Framing.completed before.flatten).map .ok) ⟨rest, decoder, [], false⟩) ∧
      (∀ r : BodyReader, ∃ s, Runs r [] s ∧ s.turn.returned? = some r.next?) ∧
      (∀ r s : BodyReader, r.turn = .goesOn s → s.left + 1 = r.left) ∧
      ∀ (r s : BodyReader) (items : CallFrames), r.turn = .ends → Runs r items s →
        items = [] ∧ s = r := by
  refine ⟨?_, runs_completed, exists_returned, fun _ _ => left_of_goesOn, ?_⟩
  · intro chunks
    rcases chunks_cases chunks with ⟨bodies, rfl⟩ | ⟨before, e, after, rfl⟩
    · exact Or.inl ⟨bodies, rfl, streams_whole bodies⟩
    · exact Or.inr ⟨before, e, after, rfl, streams_failed before e after⟩
  · intro r s items hends hruns
    exact hruns.of_ends hends

end BodyReader

end RemoteRun
