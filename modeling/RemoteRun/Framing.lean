import RemoteRun.Text.Blank
import RemoteRun.Text.Utf8

/-!
# Framing of streamed bodies

**Input.** The bytes of a body in chunks of any size.  A frame stands on a line of
its own, alone or after `data:`.  Blank lines, comments, other fields of an event
stream and the closing `[DONE]` carry no frame.

**Results.** `LineDecoder.push` gives the frames that a chunk completes and
`LineDecoder.finish` the frame of a last line that no line feed ends.
-/

namespace RemoteRun
namespace Framing

/-- The line feed. -/
def lineFeed : UInt8 := 10

/-- Beginnings of the lines of an event stream that carry no frame. -/
def skippedFields : List (List Char) :=
  [['e', 'v', 'e', 'n', 't', ':'], ['i', 'd', ':'], ['r', 'e', 't', 'r', 'y', ':']]

/-- The beginning of a line that carries a frame in an event stream. -/
def dataField : List Char := ['d', 'a', 't', 'a', ':']

/-- The frame that closes a stream. -/
def closing : List Char := ['[', 'D', 'O', 'N', 'E', ']']

/-- The characters of a trimmed line that may be a frame. -/
def body? (line : List Char) : Option (List Char) :=
  match line with
  | [] => none
  | ':' :: _ => none
  | _ =>
      match Text.after? dataField line with
      | some rest => some (Text.trimStart rest)
      | none => if skippedFields.any (·.isPrefixOf line) then none else some line

/-- The frame of a line. -/
def frameOfLine (line : List Char) : Option String :=
  match body? (Text.trim line) with
  | none => none
  | some body => if body.isEmpty || body == closing then none else some (String.ofList body)

/-- The frame of the bytes of a line. -/
def frameOfBytes (line : List UInt8) : Option String :=
  frameOfLine (Text.decodeLossy line)

/-- The lines, each with the line feed that ends it, and the bytes after the last one. -/
def cut : List UInt8 → List (List UInt8) × List UInt8
  | [] => ([], [])
  | b :: bs =>
      let (lines, rest) := cut bs
      if b = lineFeed then ([b] :: lines, rest)
      else
        match lines with
        | [] => ([], b :: rest)
        | line :: lines => ((b :: line) :: lines, rest)

/-- No line feed stands after the last one. -/
theorem lineFeed_notMem_cut (bytes : List UInt8) : lineFeed ∉ (cut bytes).2 := by
  induction bytes with
  | nil => simp [cut]
  | cons b bs ih =>
      by_cases hb : b = lineFeed
      · simpa [cut, hb] using ih
      · cases hl : (cut bs).1 with
        | nil => simp [cut, hb, hl, ih, Ne.symm hb]
        | cons line lines => simpa [cut, hb, hl] using ih

end Framing

/-- The bytes of a line that has not ended. -/
@[ext] structure LineDecoder where
  buffer : List UInt8 := []
  unended : Framing.lineFeed ∉ buffer := by exact List.not_mem_nil

namespace LineDecoder

/-- Take a chunk; the frames it completes. -/
def push (d : LineDecoder) (chunk : List UInt8) : LineDecoder × List String :=
  let bytes := d.buffer ++ chunk
  (⟨(Framing.cut bytes).2, Framing.lineFeed_notMem_cut bytes⟩,
    (Framing.cut bytes).1.filterMap Framing.frameOfBytes)

/-- End the body; the frame of its last line. -/
def finish (d : LineDecoder) : LineDecoder × Option String :=
  ({}, if d.buffer.isEmpty then none else Framing.frameOfBytes d.buffer)

end LineDecoder

end RemoteRun
