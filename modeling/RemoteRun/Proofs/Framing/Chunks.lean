import Mathlib.Data.List.TakeWhile
import RemoteRun.Framing
import RemoteRun.Proofs.Text.Utf8

/-!
# Framing and the boundaries of chunks

**Lines.** `cut` takes its input apart at the line feeds.  Cutting goes on where it left
off (`cut_append`), so that only the bytes of all chunks together count.

**Line feeds.** A line is decoded together with the line feed that ends it, the last one
without.  That makes no difference: the line feed ends whatever sequence was begun in front
of it, and is trimmed off (`frameOfBytes_lineFeed`).

**Results.**
* `LineDecoder.pushAll_eq_push`: chunks one after the other are one chunk.
* `LineDecoder.frames_eq_lines`: the frames of a body are those of its lines.
* `LineDecoder.frames_of_chunks`: both in one, and what the end of a body does.
-/

namespace RemoteRun

namespace Text

/-! ### Blanks at the end -/

theorem trimEnd_append_of_blank
    (cs : List Char)
    {ws : List Char}
    (hws : ∀ w ∈ ws, isBlank w = true) :
    trimEnd (cs ++ ws) = trimEnd cs := by
  have hreverse : ∀ w ∈ ws.reverse, isBlank w = true := fun w hw =>
    hws w (List.mem_reverse.1 hw)
  rw [trimEnd, trimEnd, List.reverse_append, List.dropWhile_append_of_pos hreverse]

/-- Blanks at the end are trimmed off. -/
theorem trim_append_of_blank
    (cs : List Char)
    {ws : List Char}
    (hws : ∀ w ∈ ws, isBlank w = true) :
    trim (cs ++ ws) = trim cs := by
  have hdrop : ws.dropWhile isBlank = [] :=
    List.dropWhile_eq_nil_iff.2 hws
  unfold trim trimStart
  rw [List.dropWhile_append, hdrop]
  split
  next hempty =>
    rw [List.isEmpty_iff.1 hempty]
  next =>
    exact trimEnd_append_of_blank _ hws

end Text

namespace Framing

/-! ### Cutting -/

theorem cut_of_notMem
    {bytes : List UInt8}
    (h : lineFeed ∉ bytes) :
    cut bytes = ([], bytes) := by
  induction bytes with
  | nil =>
      rfl
  | cons b bs ih =>
      obtain ⟨hb, hbs⟩ := List.ne_and_not_mem_of_not_mem_cons h
      simp only [cut, ih hbs, Ne.symm hb, if_false]

/-- The first line ends with the first line feed. -/
theorem cut_line
    {line : List UInt8}
    (h : lineFeed ∉ line)
    (bytes : List UInt8) :
    cut (line ++ lineFeed :: bytes) =
      ((line ++ [lineFeed]) :: (cut bytes).1, (cut bytes).2) := by
  induction line with
  | nil =>
      rfl
  | cons b bs ih =>
      obtain ⟨hb, hbs⟩ := List.ne_and_not_mem_of_not_mem_cons h
      simp only [List.cons_append, cut, ih hbs, Ne.symm hb, if_false]

/-- Cutting goes on where it left off. -/
theorem cut_append
    (xs ys : List UInt8) :
    cut (xs ++ ys) =
      ((cut xs).1 ++ (cut ((cut xs).2 ++ ys)).1, (cut ((cut xs).2 ++ ys)).2) := by
  induction hn : xs.length using Nat.strongRecOn generalizing xs with
  | ind n ih =>
      by_cases h : lineFeed ∈ xs
      · obtain ⟨line, rest, rfl, hline⟩ := List.eq_append_cons_of_mem h
        have hshorter : rest.length < n := by
          simp only [List.length_append, List.length_cons] at hn
          omega
        rw [List.append_assoc, List.cons_append, cut_line hline, cut_line hline,
          ih _ hshorter rest rfl]
        rfl
      · rw [cut_of_notMem h]
        rfl

/-! ### Frames of lines -/

/-- The line feed at the end of a line does not matter. -/
theorem frameOfBytes_lineFeed
    (line : List UInt8) :
    frameOfBytes (line ++ [lineFeed]) = frameOfBytes line := by
  have hdecode : Text.decodeLossy (line ++ [lineFeed]) = Text.decodeLossy line ++ ['\n'] :=
    Text.decodeLossy_append line (Text.breaks_lineFeed [])
  have htrim : Text.trim (Text.decodeLossy line ++ ['\n']) = Text.trim (Text.decodeLossy line) :=
    Text.trim_append_of_blank _ (List.forall_mem_singleton.2 rfl)
  rw [frameOfBytes, frameOfBytes, frameOfLine, frameOfLine, hdecode, htrim]

/-- Nothing is no frame. -/
theorem frameOfBytes_nil :
    frameOfBytes [] = none :=
  rfl

/-- The frames of the lines that are cut off and of what is left. -/
theorem frames_cut
    (bytes : List UInt8) :
    (cut bytes).1.filterMap frameOfBytes ++ (frameOfBytes (cut bytes).2).toList =
      (bytes.splitOn lineFeed).filterMap frameOfBytes := by
  induction hn : bytes.length using Nat.strongRecOn generalizing bytes with
  | ind n ih =>
      by_cases h : lineFeed ∈ bytes
      · obtain ⟨line, rest, rfl, hline⟩ := List.eq_append_cons_of_mem h
        have hshorter : rest.length < n := by
          simp only [List.length_append, List.length_cons] at hn
          omega
        rw [cut_line hline, List.splitOn_append_cons_self_of_not_mem hline]
        simp only [List.filterMap_cons, frameOfBytes_lineFeed, ← ih _ hshorter rest rfl]
        cases frameOfBytes line <;> rfl
      · rw [cut_of_notMem h, List.splitOn_eq_singleton h]
        cases hf : frameOfBytes bytes <;> simp [hf]

end Framing

namespace LineDecoder

/-! ### Chunks -/

/-- Take chunks one after the other; the frames they complete. -/
def pushAll (d : LineDecoder) : List (List UInt8) → LineDecoder × List String
  | [] => (d, [])
  | chunk :: chunks =>
      let (d, frames) := d.push chunk
      let (d, later) := d.pushAll chunks
      (d, frames ++ later)

/-- The frames of a body that arrives in chunks. -/
def frames (chunks : List (List UInt8)) : List String :=
  let (d, frames) := ({} : LineDecoder).pushAll chunks
  frames ++ d.finish.2.toList

theorem finish_snd
    (d : LineDecoder) :
    d.finish.2 = Framing.frameOfBytes d.buffer := by
  unfold finish
  split
  next hempty =>
    rw [List.isEmpty_iff.1 hempty, Framing.frameOfBytes_nil]
  next =>
    rfl

theorem push_nil
    (d : LineDecoder) :
    d.push [] = (d, []) := by
  apply Prod.ext
  · apply LineDecoder.ext
    simp only [push, List.append_nil, Framing.cut_of_notMem d.unended]
  · simp only [push, List.append_nil, Framing.cut_of_notMem d.unended, List.filterMap_nil]

/-- Two chunks one after the other are one chunk. -/
theorem push_append
    (d : LineDecoder)
    (xs ys : List UInt8) :
    d.push (xs ++ ys) =
      (((d.push xs).1.push ys).1, (d.push xs).2 ++ ((d.push xs).1.push ys).2) := by
  have hcut := Framing.cut_append (d.buffer ++ xs) ys
  apply Prod.ext
  · apply LineDecoder.ext
    simp only [push, ← List.append_assoc, hcut]
  · simp only [push, ← List.append_assoc, hcut, List.filterMap_append]

/-- Chunks one after the other are one chunk. -/
theorem pushAll_eq_push
    (d : LineDecoder)
    (chunks : List (List UInt8)) :
    d.pushAll chunks = d.push chunks.flatten := by
  induction chunks generalizing d with
  | nil =>
      exact (push_nil d).symm
  | cons chunk chunks ih =>
      rw [List.flatten_cons, push_append, ← ih]
      rfl

/-- The frames of a body are those of its lines. -/
theorem frames_eq_lines
    (chunks : List (List UInt8)) :
    frames chunks =
      (chunks.flatten.splitOn Framing.lineFeed).filterMap Framing.frameOfBytes := by
  rw [← Framing.frames_cut, frames, pushAll_eq_push]
  simp only [finish_snd, push, List.nil_append]

/-- The frames of a body are those of the lines of its text. -/
theorem frames_eq_textLines
    (chunks : List (List UInt8)) :
    frames chunks =
      ((Text.decodeLossy chunks.flatten).splitOn '\n').filterMap Framing.frameOfLine := by
  rw [frames_eq_lines, Text.decodeLossy_splitOn, List.filterMap_map]
  rfl

/-- The frames of a body depend on its bytes only and are those of its lines, of bytes or
of text; and a body ends as a line does. -/
theorem frames_of_chunks :
    (∀ chunks : List (List UInt8),
      frames chunks = frames [chunks.flatten] ∧
        frames chunks =
          (chunks.flatten.splitOn Framing.lineFeed).filterMap Framing.frameOfBytes ∧
        frames chunks =
          ((Text.decodeLossy chunks.flatten).splitOn '\n').filterMap Framing.frameOfLine) ∧
      ∀ d : LineDecoder,
        d.push [Framing.lineFeed] = (d.finish.1, d.finish.2.toList) ∧
          d.finish.1 = {} := by
  refine ⟨?_, ?_⟩
  · intro chunks
    refine ⟨?_, frames_eq_lines chunks, frames_eq_textLines chunks⟩
    rw [frames_eq_lines, frames_eq_lines, List.flatten_singleton]
  · intro d
    refine ⟨?_, rfl⟩
    have hcut := Framing.cut_line d.unended []
    apply Prod.ext
    · apply LineDecoder.ext
      simp only [push, hcut]
      rfl
    · rw [finish_snd]
      simp only [push, hcut, List.filterMap_cons, Framing.frameOfBytes_lineFeed]
      cases Framing.frameOfBytes d.buffer <;> rfl

end LineDecoder

end RemoteRun
