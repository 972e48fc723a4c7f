import RemoteRun.Command.Execute
import RemoteRun.Framing

/-!
# Streamed bodies

The frames of a body that arrives in chunks.

**Input.** Chunks of bytes; an error in their place ends the body.

**Algorithm.** A reader hands out the frames that are ready, one at a time, and reads
chunks until a frame is ready again.  At the end of the body the last line counts as
complete; after an error what is left of it is dropped.

**Results.** `BodyReader.next?` is one item with the reader after it, and nothing after
the end.  `BodyReader.items` are all of them: every step makes the reader smaller.
-/

namespace RemoteRun

/-- A chunk of a body, or the error in its place. -/
abbrev BodyChunk := Except CallError (List UInt8)

/-- A body that is being read. -/
structure BodyReader where
  chunks : List BodyChunk
  decoder : LineDecoder := {}
  ready : List String := []
  done : Bool := false

namespace BodyReader

/-- Read chunks until there is an item. -/
def pull (decoder : LineDecoder) :
    List BodyChunk → Option (Except CallError String × BodyReader)
  | [] =>
      match decoder.finish with
      | (decoder, some frame) => some (.ok frame, ⟨[], decoder, [], true⟩)
      | (_, none) => none
  | .error e :: chunks => some (.error e, ⟨chunks, decoder, [], true⟩)
  | .ok bytes :: chunks =>
      match decoder.push bytes with
      | (decoder, frame :: ready) => some (.ok frame, ⟨chunks, decoder, ready, false⟩)
      | (decoder, []) => pull decoder chunks

/-- The next item, and the reader after it. -/
def next? (r : BodyReader) : Option (Except CallError String × BodyReader) :=
  match r.ready with
  | frame :: ready => some (.ok frame, { r with ready := ready })
  | [] => if r.done then none else pull r.decoder r.chunks

/-- How much of a body is left to read. -/
def left (r : BodyReader) : Nat :=
  if r.done then 0 else r.chunks.length + 1

theorem left_of_pull {decoder : LineDecoder} {chunks : List BodyChunk}
    {item : Except CallError String} {r : BodyReader}
    (h : pull decoder chunks = some (item, r)) : r.left < chunks.length + 1 := by
  induction chunks generalizing decoder with
  | nil =>
      unfold pull at h
      split at h
      · cases h
        simp [left]
      · cases h
  | cons chunk chunks ih =>
      cases chunk with
      | error e =>
          cases h
          simp [left]
      | ok bytes =>
          unfold pull at h
          split at h
          · cases h
            simp [left]
          · have := ih h
            simp only [List.length_cons]
            omega

theorem smaller_of_next? {r s : BodyReader} {item : Except CallError String}
    (h : r.next? = some (item, s)) :
    s.left < r.left ∨ s.left = r.left ∧ s.ready.length < r.ready.length := by
  unfold next? at h
  split at h
  · rename_i frame ready hr
    cases h
    exact .inr ⟨rfl, by simp [hr]⟩
  · split at h
    · cases h
    · rename_i hd
      have := left_of_pull h
      exact .inl (by simpa [left, hd] using this)

/-- All items. -/
def items (r : BodyReader) : CallFrames :=
  match _ : r.next? with
  | none => []
  | some (item, s) => item :: items s
termination_by (r.left, r.ready.length)
decreasing_by
  rename_i h
  rcases smaller_of_next? h with hl | ⟨he, hl⟩
  · exact Prod.Lex.left _ _ hl
  · rw [he]
    exact Prod.Lex.right _ hl

end BodyReader

/-- The frames of a body. -/
def decodeBody (chunks : List BodyChunk) : CallFrames :=
  BodyReader.items { chunks := chunks }

end RemoteRun
