import RemoteRun.Proofs.Framing.Chunks

/-!
# Streams of frames

**Streams.** A stream carries frames in lines, each alone or as the data of an event.
Blank lines, comments, other fields of events and the closing sentinel may stand anywhere
between them.  Every line has an ending of its own; the last line may lack one.

**Results.**
* `Framing.frameOfLine_text`: a line gives the frame that it carries.
* `Framing.frames_stream`: a stream gives the frames that it carries in order, however its
  bytes are cut into chunks.
-/

namespace RemoteRun

namespace Text

/-- Characters at whose ends nothing is trimmed off. -/
structure Solid (cs : List Char) : Prop where
  head : ∃ c, cs.head? = some c ∧ isBlank c = false
  last : ∃ c, cs.getLast? = some c ∧ isBlank c = false

namespace Solid

variable {cs : List Char}

theorem trimStart_append
    (h : Solid cs)
    (ds : List Char) :
    trimStart (cs ++ ds) = cs ++ ds := by
  obtain ⟨c, hc, hblank⟩ := h.head
  cases cs with
  | nil =>
      simp at hc
  | cons d cs =>
      cases hc
      simp [trimStart, hblank]

theorem trimEnd_append
    (h : Solid cs)
    (ds : List Char) :
    trimEnd (cs ++ ds) = cs ++ trimEnd ds := by
  obtain ⟨c, hc, hblank⟩ := h.last
  have hkeep : cs.reverse.dropWhile isBlank = cs.reverse := by
    rw [List.getLast?_eq_head?_reverse] at hc
    cases hreverse : cs.reverse with
    | nil =>
        rfl
    | cons d ds =>
        rw [hreverse] at hc
        cases hc
        simp [hblank]
  unfold trimEnd
  rw [List.reverse_append, List.dropWhile_append, hkeep]
  split
  next hempty =>
    rw [List.isEmpty_iff.1 hempty]
    simp
  next =>
    simp

/-- Only what follows solid characters is trimmed. -/
theorem trim_append
    (h : Solid cs)
    (ds : List Char) :
    trim (cs ++ ds) = cs ++ trimEnd ds := by
  rw [trim, h.trimStart_append, h.trimEnd_append]

theorem trim_eq
    (h : Solid cs) :
    trim cs = cs := by
  have htrim := h.trim_append []
  rw [List.append_nil] at htrim
  rw [htrim, trimEnd, List.reverse_nil, List.dropWhile_nil, List.reverse_nil, List.append_nil]

end Solid

end Text

namespace Framing

/-! ### Lines of a stream -/

/-- A frame: an object that is written on one line. -/
structure Frame where
  text : String
  opens : text.toList.head? = some '{'
  closes : text.toList.getLast? = some '}'
  oneLine : '\n' ∉ text.toList

/-- How a frame stands on its line: alone, or as data with or without a space. -/
inductive Wrapping where
  | alone
  | data
  | spacedData

/-- What stands in front of a frame. -/
def Wrapping.opening : Wrapping → List Char
  | .alone => []
  | .data => ['d', 'a', 't', 'a', ':']
  | .spacedData => ['d', 'a', 't', 'a', ':', ' ']

/-- Fields of an event that carry no data. -/
inductive FieldName where
  | event
  | id
  | retry

/-- How a field begins. -/
def FieldName.opening : FieldName → List Char
  | .event => ['e', 'v', 'e', 'n', 't', ':']
  | .id => ['i', 'd', ':']
  | .retry => ['r', 'e', 't', 'r', 'y', ':']

/-- A line of a stream. -/
inductive StreamLine where
  | frame (wrapping : Wrapping) (frame : Frame)
  | blank (blanks : List Char) (isBlank : ∀ c ∈ blanks, Text.isBlank c = true)
      (oneLine : '\n' ∉ blanks)
  | comment (text : List Char) (oneLine : '\n' ∉ text)
  | field (name : FieldName) (text : List Char) (oneLine : '\n' ∉ text)
  | done

namespace StreamLine

/-- The characters of a line. -/
def text : StreamLine → List Char
  | .frame wrapping f => wrapping.opening ++ f.text.toList
  | .blank blanks _ _ => blanks
  | .comment text _ => ':' :: text
  | .field name text _ => name.opening ++ text
  | .done => ['d', 'a', 't', 'a', ':', ' ', '[', 'D', 'O', 'N', 'E', ']']

/-- The frame that a line carries. -/
def frame? : StreamLine → Option String
  | .frame _ f => some f.text
  | .blank _ _ _ | .comment _ _ | .field _ _ _ | .done => none

theorem oneLine
    (line : StreamLine) :
    '\n' ∉ line.text := by
  cases line with
  | frame wrapping f =>
      cases wrapping <;> simp [text, Wrapping.opening, f.oneLine]
  | blank blanks _ honeLine =>
      exact honeLine
  | comment text honeLine =>
      simp [StreamLine.text, honeLine]
  | field name text honeLine =>
      cases name <;> simp [StreamLine.text, FieldName.opening, honeLine]
  | done =>
      simp [text]

end StreamLine

/-- How a line ends. -/
inductive LineEnding where
  | feed
  | returnFeed

namespace LineEnding

/-- What stands between a line and the line feed. -/
def blanks : LineEnding → List Char
  | .feed => []
  | .returnFeed => ['\r']

theorem isBlank_blanks
    (ending : LineEnding) :
    ∀ c ∈ ending.blanks, Text.isBlank c = true := by
  cases ending with
  | feed =>
      exact List.forall_mem_nil _
  | returnFeed =>
      exact List.forall_mem_singleton.2 rfl

theorem lineFeed_notMem_blanks
    (ending : LineEnding) :
    '\n' ∉ ending.blanks := by
  cases ending <;> decide

end LineEnding

/-- Lines with their endings, and perhaps a last one without. -/
structure Stream where
  lines : List (StreamLine × LineEnding)
  last : Option StreamLine := none

namespace Stream

/-- The characters of lines with their endings. -/
def textOf (lines : List (StreamLine × LineEnding)) : List Char :=
  lines.flatMap fun line => line.1.text ++ line.2.blanks ++ ['\n']

theorem textOf_cons
    (line : StreamLine × LineEnding)
    (lines : List (StreamLine × LineEnding)) :
    textOf (line :: lines) = line.1.text ++ line.2.blanks ++ ['\n'] ++ textOf lines :=
  rfl

/-- The text of a stream. -/
def text (s : Stream) : String :=
  String.ofList (textOf s.lines ++ s.last.elim [] StreamLine.text)

/-- The frames that a stream carries. -/
def frames (s : Stream) : List String :=
  (s.lines.map Prod.fst ++ s.last.toList).filterMap StreamLine.frame?

end Stream

/-! ### Frames of lines -/

/-- An object stands for itself, also as data. -/
theorem body?_wrapped
    (wrapping : Wrapping)
    (cs : List Char) :
    body? (wrapping.opening ++ '{' :: cs) = some ('{' :: cs) := by
  have hspace : Text.isBlank ' ' = true := by
    decide
  have hbrace : Text.isBlank '{' = false := by
    decide
  cases wrapping with
  | alone =>
      simp [Wrapping.opening, body?, dataField, skippedFields, Text.after?]
  | data =>
      simp [Wrapping.opening, body?, dataField, Text.after?, Text.trimStart, hbrace]
  | spacedData =>
      simp [Wrapping.opening, body?, dataField, Text.after?, Text.trimStart, hspace, hbrace]

theorem frameOfLine_frame
    (wrapping : Wrapping)
    (f : Frame)
    {ws : List Char}
    (hws : ∀ w ∈ ws, Text.isBlank w = true) :
    frameOfLine (wrapping.opening ++ f.text.toList ++ ws) = some f.text := by
  obtain ⟨cs, hcs⟩ : ∃ cs, f.text.toList = '{' :: cs :=
    List.head?_eq_some_iff.1 f.opens
  have hsolid : Text.Solid (wrapping.opening ++ f.text.toList) := by
    refine ⟨?_, '}', ?_, by decide⟩
    · cases wrapping with
      | alone =>
          exact ⟨'{', f.opens, by decide⟩
      | data =>
          exact ⟨'d', rfl, by decide⟩
      | spacedData =>
          exact ⟨'d', rfl, by decide⟩
    · rw [List.getLast?_append, f.closes]
      rfl
  have hbody : body? (wrapping.opening ++ f.text.toList) = some f.text.toList := by
    rw [hcs, body?_wrapped]
  rw [frameOfLine, Text.trim_append_of_blank _ hws, hsolid.trim_eq, hbody]
  have hframe : (f.text.toList.isEmpty || f.text.toList == closing) = false := by
    simp [hcs, closing]
  simp only [hframe, Bool.false_eq_true, if_false, String.ofList_toList]

theorem frameOfLine_comment
    (cs : List Char) :
    frameOfLine (':' :: cs) = none := by
  have hsolid : Text.Solid [':'] :=
    ⟨⟨':', rfl, rfl⟩, ⟨':', rfl, rfl⟩⟩
  have htrim : Text.trim (':' :: cs) = ':' :: Text.trimEnd cs :=
    hsolid.trim_append cs
  rw [frameOfLine, htrim]
  rfl

theorem frameOfLine_field
    (name : FieldName)
    (cs : List Char) :
    frameOfLine (name.opening ++ cs) = none := by
  have hsolid : Text.Solid name.opening := by
    cases name <;> exact ⟨⟨_, rfl, rfl⟩, ⟨':', rfl, rfl⟩⟩
  rw [frameOfLine, hsolid.trim_append]
  cases name <;>
    simp [FieldName.opening, body?, dataField, skippedFields, Text.after?]

/-- A line gives the frame that it carries, however it ends. -/
theorem frameOfLine_text
    (line : StreamLine)
    {ws : List Char}
    (hws : ∀ w ∈ ws, Text.isBlank w = true) :
    frameOfLine (line.text ++ ws) = line.frame? := by
  cases line with
  | frame wrapping f =>
      exact frameOfLine_frame wrapping f hws
  | blank blanks hblanks _ =>
      have htrim : Text.trim (blanks ++ ws) = [] := by
        have := Text.trim_append_of_blank [] (List.forall_mem_append.2 ⟨hblanks, hws⟩)
        rwa [List.nil_append] at this
      rw [frameOfLine, StreamLine.text, htrim]
      rfl
  | comment cs _ =>
      exact frameOfLine_comment (cs ++ ws)
  | field name cs _ =>
      have := frameOfLine_field name (cs ++ ws)
      rwa [← List.append_assoc] at this
  | done =>
      rw [frameOfLine, Text.trim_append_of_blank _ hws]
      decide

/-! ### Whole streams -/

/-- The frames of the lines of a text that begins with a line. -/
theorem frames_line
    (line : StreamLine)
    (ending : LineEnding)
    (cs : List Char) :
    ((line.text ++ ending.blanks ++ ['\n'] ++ cs).splitOn '\n').filterMap frameOfLine =
      line.frame?.toList ++ (cs.splitOn '\n').filterMap frameOfLine := by
  have honeLine : '\n' ∉ line.text ++ ending.blanks := by
    rw [List.mem_append, not_or]
    exact ⟨line.oneLine, ending.lineFeed_notMem_blanks⟩
  rw [List.append_assoc, List.singleton_append,
    List.splitOn_append_cons_self_of_not_mem honeLine, List.filterMap_cons,
    frameOfLine_text line ending.isBlank_blanks]
  cases line.frame? <;> rfl

theorem frames_last
    (last : Option StreamLine) :
    ((last.elim [] StreamLine.text).splitOn '\n').filterMap frameOfLine =
      last.toList.filterMap StreamLine.frame? := by
  cases last with
  | none =>
      rfl
  | some line =>
      have hframe : frameOfLine (line.text ++ []) = line.frame? :=
        frameOfLine_text line (by simp)
      rw [List.append_nil] at hframe
      rw [Option.elim_some, List.splitOn_eq_singleton line.oneLine, Option.toList_some,
        List.filterMap_cons, List.filterMap_cons, hframe]
      rfl

/-- The lines of the text of a stream give the frames that the stream carries. -/
theorem frames_text
    (s : Stream) :
    (s.text.toList.splitOn '\n').filterMap frameOfLine = s.frames := by
  obtain ⟨lines, last⟩ := s
  simp only [Stream.text, Stream.frames, String.toList_ofList]
  induction lines with
  | nil =>
      exact frames_last last
  | cons line lines ih =>
      rw [Stream.textOf_cons, List.append_assoc, frames_line, ih, List.map_cons,
        List.cons_append, List.filterMap_cons]
      cases line.1.frame? <;> rfl

theorem bytes_text
    (text : String) :
    text.toUTF8.data.toList = text.toList.flatMap String.utf8EncodeChar := by
  rw [String.toUTF8_eq_toByteArray, ← String.utf8Encode_toList, List.utf8Encode,
    List.toList_data_toByteArray]

/-- A stream gives the frames that it carries in order, however its bytes are cut into
chunks. -/
theorem frames_stream
    (s : Stream)
    (chunks : List (List UInt8))
    (hchunks : chunks.flatten = s.text.toUTF8.data.toList) :
    LineDecoder.frames chunks = s.frames := by
  rw [LineDecoder.frames_eq_textLines, hchunks, bytes_text, Text.decodeLossy_encode,
    frames_text]

/-- A stream with a comment, an accented letter in a frame, a sentinel, and a last line that
nothing ends. -/
def accentedStream : Stream :=
  ⟨[(.comment [' ', 'h', 'i'] (by decide), .returnFeed),
    (.frame .data ⟨"\x7b\"é\"\x7d", by decide, by decide, by decide⟩, .returnFeed),
    (.blank [' '] (List.forall_mem_singleton.2 rfl) (by decide), .feed),
    (.done, .feed)],
   some (.frame .alone ⟨"\x7b\x7d", by decide, by decide, by decide⟩)⟩

/-- The bytes of `accentedStream`, cut inside of the letter and in front of a line feed. -/
def accentedChunks : List (List UInt8) :=
  [[58, 32, 104, 105, 13], [10, 100, 97, 116, 97, 58, 123, 34, 0xC3], [], [0xA9, 34, 125, 13, 10],
   [32, 10, 100, 97, 116, 97, 58, 32, 91, 68, 79, 78, 69, 93, 10, 123], [125]]

theorem accentedChunks_frames :
    accentedChunks.flatten = accentedStream.text.toUTF8.data.toList ∧
      LineDecoder.frames accentedChunks = ["\x7b\"é\"\x7d", "\x7b\x7d"] := by
  have hbytes : accentedChunks.flatten = accentedStream.text.toUTF8.data.toList := by
    rw [bytes_text, Stream.text, String.toList_ofList]
    decide
  exact ⟨hbytes, frames_stream accentedStream accentedChunks hbytes⟩

end Framing

end RemoteRun
