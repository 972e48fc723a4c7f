import RemoteRun.Json.Numeral

/-!
# Reading JSON

**Input.** One value with blanks around it.  Blanks are space, line feed,
carriage return and tab.

**Faults.** A text is refused as ended when it stops before its value is
complete, and as malformed when it goes on in a way no value does.  The first
fault from the left decides.  Arrays and objects may be nested 127 deep; a
deeper one is malformed where it opens.

**Algorithm.** `value` recurses on the nesting still allowed, and the loop over
the parts of one array or object is generic in the reader of a part.
-/

namespace RemoteRun
namespace Json

/-- Why a text is not a value. -/
inductive Fault where
  | ended
  | malformed
deriving DecidableEq, Inhabited

/-- What was read, and the characters after it. -/
abbrev Reading (α : Type) := Except Fault (α × List Char)

/-- Read on after what was read. -/
def andThen {α β : Type} (first : Reading α) (next : α → List Char → Reading β) : Reading β :=
  match first with
  | .ok (a, rest) => next a rest
  | .error fault => .error fault

/-- Whether a character may stand between tokens. -/
def isBlank (c : Char) : Bool :=
  c == ' ' || c == '\n' || c == '\r' || c == '\t'

/-- The text from its first token on. -/
def skipBlank (cs : List Char) : List Char :=
  cs.dropWhile isBlank

/-- The value of a decimal digit. -/
def digit? (c : Char) : Option Nat :=
  if '0' ≤ c ∧ c ≤ '9' then some (c.toNat - 48) else none

/-- Leading digits and the characters after them. -/
def takeDigits : List Char → List Nat × List Char
  | [] => ([], [])
  | c :: cs =>
      match digit? c with
      | some d => let (ds, rest) := takeDigits cs; (d :: ds, rest)
      | none => ([], c :: cs)

/-- Digits of which there must be one. -/
def someDigits (cs : List Char) : Reading (List Nat) :=
  match takeDigits cs with
  | ([], []) => .error .ended
  | ([], _ :: _) => .error .malformed
  | (ds, rest) => .ok (ds, rest)

/-- Whole digits: a zero alone, or digits that start with another one. -/
def wholeDigits (cs : List Char) : Reading (List Nat) :=
  andThen (someDigits cs) fun ds rest =>
    match ds with
    | 0 :: _ :: _ => .error .malformed
    | _ => .ok (ds, rest)

/-- An optional fraction. -/
def fraction (cs : List Char) : Reading (Option (List Nat)) :=
  match cs with
  | '.' :: rest => andThen (someDigits rest) fun ds rest => .ok (some ds, rest)
  | _ => .ok (none, cs)

/-- An exponent's sign and digits. -/
def signedDigits (cs : List Char) : Reading (Bool × List Nat) :=
  match cs with
  | '-' :: rest => andThen (someDigits rest) fun ds rest => .ok ((true, ds), rest)
  | '+' :: rest => andThen (someDigits rest) fun ds rest => .ok ((false, ds), rest)
  | _ => andThen (someDigits cs) fun ds rest => .ok ((false, ds), rest)

/-- An optional exponent. -/
def exponent (cs : List Char) : Reading (Option (Bool × List Nat)) :=
  match cs with
  | [] => .ok (none, [])
  | c :: rest =>
      if c == 'e' || c == 'E' then
        andThen (signedDigits rest) fun e rest => .ok (some e, rest)
      else .ok (none, c :: rest)

/-- A number after its sign. -/
def number (negative : Bool) (cs : List Char) : Reading Json :=
  andThen (wholeDigits cs) fun whole rest =>
  andThen (fraction rest) fun frac rest =>
  andThen (exponent rest) fun expo rest =>
    match Numeral.value? ⟨negative, whole, frac, expo⟩ with
    | some n => .ok (.num n, rest)
    | none => .error .malformed

/-- The value of a hexadecimal digit. -/
def hexValue? (c : Char) : Option Nat :=
  if '0' ≤ c ∧ c ≤ '9' then some (c.toNat - 48)
  else if 'a' ≤ c ∧ c ≤ 'f' then some (c.toNat - 87)
  else if 'A' ≤ c ∧ c ≤ 'F' then some (c.toNat - 55)
  else none

/-- The number of four hexadecimal digits. -/
def fourHex? (a b c d : Char) : Option Nat := do
  let a ← hexValue? a
  let b ← hexValue? b
  let c ← hexValue? c
  let d ← hexValue? d
  return ((a * 16 + b) * 16 + c) * 16 + d

/-- The fault of an escape with fewer than four characters after it: the text
has ended if fewer than four bytes are left. -/
def shortEscape (cs : List Char) : Fault :=
  if cs.foldl (fun n c => n + c.utf8Size) 0 < 4 then .ended else .malformed

/-- The character of an escape letter. -/
def escaped? (c : Char) : Option Char :=
  if c == '"' || c == '\\' || c == '/' then some c
  else if c == 'b' then some '\x08'
  else if c == 'f' then some '\x0c'
  else if c == 'n' then some '\n'
  else if c == 'r' then some '\r'
  else if c == 't' then some '\t'
  else none

/-- Whether a code unit opens a pair. -/
def isLeading (n : Nat) : Bool := 0xD800 ≤ n && n ≤ 0xDBFF

/-- Whether a code unit closes a pair. -/
def isTrailing (n : Nat) : Bool := 0xDC00 ≤ n && n ≤ 0xDFFF

/-- A character in front of a text that was read. -/
def prepend (c : Char) : Reading (List Char) → Reading (List Char)
  | .ok (cs, rest) => .ok (c :: cs, rest)
  | .error fault => .error fault

/-- The characters of a string after its opening quote. -/
def stringBody : List Char → Reading (List Char)
  | [] => .error .ended
  | '"' :: rest => .ok ([], rest)
  | ['\\'] => .error .ended
  | '\\' :: 'u' :: a :: b :: c :: d :: rest =>
      match fourHex? a b c d with
      | none => .error .malformed
      | some n =>
          if isTrailing n then .error .malformed
          else if isLeading n then
            match rest with
            | [] => .error .ended
            | ['\\'] => .error .ended
            | '\\' :: 'u' :: e :: f :: g :: h :: rest =>
                match fourHex? e f g h with
                | none => .error .malformed
                | some m =>
                    if isTrailing m then
                      prepend (Char.ofNat ((n - 0xD800) * 0x400 + (m - 0xDC00) + 0x10000))
                        (stringBody rest)
                    else .error .malformed
            | '\\' :: 'u' :: short => .error (shortEscape short)
            | _ => .error .malformed
          else prepend (Char.ofNat n) (stringBody rest)
  | '\\' :: 'u' :: short => .error (shortEscape short)
  | '\\' :: c :: rest =>
      match escaped? c with
      | some d => prepend d (stringBody rest)
      | none => .error .malformed
  | c :: rest =>
      if c.toNat < 0x20 then .error .malformed else prepend c (stringBody rest)

/-- A string after its opening quote. -/
def string (cs : List Char) : Reading String :=
  andThen (stringBody cs) fun body rest => .ok (String.ofList body, rest)

/-- The rest of a fixed word, and the value it stands for. -/
def word (value : Json) : List Char → List Char → Reading Json
  | [], rest => .ok (value, rest)
  | _ :: _, [] => .error .ended
  | w :: ws, c :: cs => if w = c then word value ws cs else .error .malformed

/-- Parts with commas between them up to a closing character.  `fuel` bounds the
number of parts, each of which takes a character. -/
def parts {α : Type} (part : List Char → Reading α) (close : Char) :
    Nat → List Char → Reading (List α)
  | 0, _ => .error .malformed
  | fuel + 1, cs =>
      andThen (part cs) fun first rest =>
        match skipBlank rest with
        | [] => .error .ended
        | c :: rest =>
            if c = ',' then
              andThen (parts part close fuel rest) fun others rest =>
                .ok (first :: others, rest)
            else if c = close then .ok ([first], rest)
            else .error .malformed

/-- No part or some, up to a closing character. -/
def enclosed {α : Type} (part : List Char → Reading α) (close : Char)
    (cs : List Char) : Reading (List α) :=
  match skipBlank cs with
  | [] => .error .ended
  | c :: rest =>
      if c = close then .ok ([], rest) else parts part close (rest.length + 1) (c :: rest)

/-- A member: a key, a colon and a value. -/
def member (value : List Char → Reading Json) (cs : List Char) : Reading (String × Json) :=
  match skipBlank cs with
  | [] => .error .ended
  | c :: rest =>
      if c = '"' then
        andThen (string rest) fun key rest =>
          match skipBlank rest with
          | [] => .error .ended
          | c :: rest =>
              if c = ':' then andThen (value rest) fun v rest => .ok ((key, v), rest)
              else .error .malformed
      else .error .malformed

/-- A value whose arrays and objects hold what `nested` reads. -/
def valueWith (nested : Option (List Char → Reading Json)) (cs : List Char) : Reading Json :=
  match skipBlank cs with
  | [] => .error .ended
  | c :: rest =>
      if c = '"' then andThen (string rest) fun s rest => .ok (.str s, rest)
      else if c = '[' then
        match nested with
        | none => .error .malformed
        | some value =>
            andThen (enclosed value ']' rest) fun items rest => .ok (.arr items, rest)
      else if c = '\x7b' then
        match nested with
        | none => .error .malformed
        | some value =>
            andThen (enclosed (member value) '\x7d' rest) fun members rest =>
              .ok (.ofMembers members, rest)
      else if c = 'n' then word .null ['u', 'l', 'l'] rest
      else if c = 't' then word (.bool true) ['r', 'u', 'e'] rest
      else if c = 'f' then word (.bool false) ['a', 'l', 's', 'e'] rest
      else if c = '-' then number true rest
      else if (digit? c).isSome then number false (c :: rest)
      else .error .malformed

/-- A value with a bound on its nesting. -/
def value : Nat → List Char → Reading Json
  | 0 => valueWith none
  | depth + 1 => valueWith (some (value depth))

/-- How deep arrays and objects may be nested. -/
def nestingLimit : Nat := 127

/-- A whole text as one value, with a bound on its nesting. -/
def readWithin (depth : Nat) (text : String) : Except Fault Json :=
  match value depth text.toList with
  | .error fault => .error fault
  | .ok (v, rest) =>
      match skipBlank rest with
      | [] => .ok v
      | _ :: _ => .error .malformed

/-- A whole text as one value. -/
def read (text : String) : Except Fault Json :=
  readWithin nestingLimit text

end Json
end RemoteRun
