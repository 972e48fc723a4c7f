import RemoteRun.Text.CharSet

/-!
# Blank characters

The characters with the Unicode property `White_Space`, and trimming by them.
-/

namespace RemoteRun
namespace Text

/-- The characters with the property `White_Space`. -/
def whiteSpace : CharSet :=
  ⟨[0x9, 0xe, 0x20, 0x21, 0x85, 0x86, 0xa0, 0xa1, 0x1680, 0x1681, 0x2000, 0x200b, 0x2028,
    0x202a, 0x202f, 0x2030, 0x205f, 0x2060, 0x3000, 0x3001]⟩

/-- Whether a character is blank. -/
def isBlank (c : Char) : Bool :=
  whiteSpace.contains c

/-- Drop blanks at the front. -/
def trimStart (cs : List Char) : List Char :=
  cs.dropWhile isBlank

/-- Drop blanks at the end. -/
def trimEnd (cs : List Char) : List Char :=
  (cs.reverse.dropWhile isBlank).reverse

/-- Drop blanks at both ends. -/
def trim (cs : List Char) : List Char :=
  trimEnd (trimStart cs)

/-- The text after a given beginning, if it begins so. -/
def after? : List Char → List Char → Option (List Char)
  | [], cs => some cs
  | _ :: _, [] => none
  | w :: ws, c :: cs => if w = c then after? ws cs else none

end Text
end RemoteRun
