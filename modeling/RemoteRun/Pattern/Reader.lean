import RemoteRun.Pattern.Basic
import RemoteRun.Pattern.CaseFold
import RemoteRun.Text.Property
import RemoteRun.Word

/-!
# Reading patterns

**Syntax.** Literals, `.`, escapes, classes in brackets with ranges, nesting and
set operations, `^` and `$`, word boundaries, groups with and without names,
alternatives, repetitions, and the flags `i`, `m`, `s`, `R`, `U`, `u` and `x`.  A
pattern that looks around itself or refers back to a group is refused, and so is
every text outside the syntax.

**Algorithm.** Recursive descent with an explicit fuel that the length of the text
bounds; each call either takes a character or goes one level down.
-/

namespace RemoteRun
namespace Pattern

/-- The flags in force. -/
structure Flags where
  caseless : Bool := false
  multiLine : Bool := false
  dotAll : Bool := false
  swapGreed : Bool := false
  unicode : Bool := true
  crlf : Bool := false
  verbose : Bool := false

/-- The text still to be read, the flags in force and the names of groups so far. -/
structure Scanner where
  rest : List Char
  flags : Flags
  names : List (List Char)

/-- A step of reading, which may refuse the pattern. -/
abbrev Scan := StateT Scanner Option

/-- Refuse the pattern. -/
def refuse {α : Type} : Scan α := fun _ => none

/-- Refuse the pattern unless a condition holds. -/
def require (condition : Bool) : Scan Unit :=
  if condition then pure () else refuse

/-- The text still to be read. -/
def remaining : Scan (List Char) := do return (← get).rest

/-- The next character. -/
def peek : Scan (Option Char) := do return (← remaining).head?

/-- The flags in force. -/
def flags : Scan Flags := do return (← get).flags

/-- Go on at another place. -/
def goto (rest : List Char) : Scan Unit := modify fun s => { s with rest := rest }

/-- Blanks and comments of the verbose form. -/
def skipVerbose (inComment : Bool) : List Char → List Char
  | [] => []
  | c :: cs =>
      if inComment then skipVerbose (c != '\n') cs
      else if Text.isBlank c then skipVerbose false cs
      else if c == '#' then skipVerbose true cs
      else c :: cs

/-- Pass over what the verbose form ignores. -/
def skipIgnored : Scan Unit :=
  modify fun s => if s.flags.verbose then { s with rest := skipVerbose false s.rest } else s

/-- Pass over one character. -/
def advance : Scan Unit :=
  modify fun s => { s with rest := s.rest.tail }

/-- Pass over one character and what is ignored after it; more must follow. -/
def advanceWithin : Scan Char := do
  advance
  skipIgnored
  match ← peek with
  | some c => return c
  | none => refuse

/-- Pass over a word if it stands here. -/
def acceptWord (word : List Char) : Scan Bool := do
  match Text.after? word (← remaining) with
  | some rest => goto rest; return true
  | none => return false

/-! ### Classes -/

/-- The ASCII letters, digits and the underscore. -/
def asciiWord : CharSet := ⟨[48, 58, 65, 91, 95, 96, 97, 123]⟩

/-- The ASCII digits. -/
def asciiDigits : CharSet := ⟨[48, 58]⟩

/-- The ASCII blanks. -/
def asciiBlanks : CharSet := ⟨[9, 14, 32, 33]⟩

/-- The ASCII characters. -/
def asciiSet : CharSet := .range 0 127

/-- Whether a set may stand under the flags: without `u` it holds ASCII characters
alone. -/
def admits (f : Flags) (s : CharSet) : Bool :=
  f.unicode || (s.diff asciiSet).isEmpty

/-- A set with the case variants that the flags give it. -/
def foldCase (f : Flags) (s : CharSet) : CharSet :=
  if !f.caseless then s
  else if f.unicode then s.caseClosure
  else s.union ((s.inter asciiSet).caseClosure.inter asciiSet)

/-- The words of the language. -/
def wordSet (f : Flags) : CharSet := if f.unicode then Text.wordCharacters else asciiWord

/-- The set of a one-letter class. -/
def perlClass? (f : Flags) (c : Char) : Option CharSet :=
  let digits := if f.unicode then Text.decimalDigits else asciiDigits
  let blanks := if f.unicode then Text.whiteSpace else asciiBlanks
  match c with
  | 'd' => some digits
  | 's' => some blanks
  | 'w' => some (wordSet f)
  | 'D' => if f.unicode then some digits.compl else none
  | 'S' => if f.unicode then some blanks.compl else none
  | 'W' => if f.unicode then some (wordSet f).compl else none
  | _ => none

/-- The sets of the classes that are named between `[:` and `:]`. -/
def namedClass? (name : String) : Option CharSet :=
  match name with
  | "alnum" => some ⟨[48, 58, 65, 91, 97, 123]⟩
  | "alpha" => some ⟨[65, 91, 97, 123]⟩
  | "ascii" => some ⟨[0, 128]⟩
  | "blank" => some ⟨[9, 10, 32, 33]⟩
  | "cntrl" => some ⟨[0, 32, 127, 128]⟩
  | "digit" => some asciiDigits
  | "graph" => some ⟨[33, 127]⟩
  | "lower" => some ⟨[97, 123]⟩
  | "print" => some ⟨[32, 127]⟩
  | "punct" => some ⟨[33, 48, 58, 65, 91, 97, 123, 127]⟩
  | "space" => some asciiBlanks
  | "upper" => some ⟨[65, 91]⟩
  | "word" => some asciiWord
  | "xdigit" => some ⟨[48, 58, 65, 71, 97, 103]⟩
  | _ => none

/-- A class between `[:` and `:]`, if one stands here. -/
def bracketName? (cs : List Char) : Option (CharSet × List Char) := do
  let rest ← Text.after? ['[', ':'] cs
  let (negated, rest) := match rest with
    | '^' :: rest => (true, rest)
    | _ => (false, rest)
  let name := rest.takeWhile (· != ':')
  let rest ← Text.after? [':', ']'] (rest.dropWhile (· != ':'))
  let set ← namedClass? (String.ofList name)
  return (if negated then set.compl else set, rest)

/-! ### Escapes -/

/-- What an escape or a plain character stands for. -/
inductive Primitive where
  | literal (c : Char)
  | class_ (set : CharSet)
  | assertion (a : Assertion)

/-- Characters that have a meaning of their own. -/
def isMeta (c : Char) : Bool :=
  ['\\', '.', '+', '*', '?', '(', ')', '|', '[', ']', '\x7b', '\x7d', '^', '$', '#', '&', '-',
   '~'].contains c

/-- Characters that an escape leaves as they are. -/
def isEscapable (c : Char) : Bool :=
  isMeta c || (decide (c.toNat < 128) && !c.isAlphanum && c != '<' && c != '>')

/-- The value of a hexadecimal digit. -/
def hexValue? (c : Char) : Option Nat :=
  if '0' ≤ c ∧ c ≤ '9' then some (c.toNat - 48)
  else if 'a' ≤ c ∧ c ≤ 'f' then some (c.toNat - 87)
  else if 'A' ≤ c ∧ c ≤ 'F' then some (c.toNat - 55)
  else none

/-- The character with a number. -/
def charOf? (n : Nat) : Option Char :=
  if n.isValidChar then some (Char.ofNat n) else none

/-- A fixed number of hexadecimal digits, the first of which is next. -/
def fixedHex : Nat → Nat → Scan Nat
  | 0, n => return n
  | count + 1, n => do
      match (← peek).bind hexValue? with
      | none => refuse
      | some d =>
          if count = 0 then
            advance
            skipIgnored
          else discard advanceWithin
          fixedHex count (n * 16 + d)

/-- Hexadecimal digits up to a closing brace. -/
def bracedHex : Nat → Nat → Nat → Scan Nat
  | 0, _, _ => refuse
  | fuel + 1, n, count => do
      match ← peek with
      | none => refuse
      | some '\x7d' =>
          require (count != 0)
          advance
          skipIgnored
          return n
      | some c =>
          match hexValue? c with
          | none => refuse
          | some d =>
              let n := n * 16 + d
              require (decide (n < Word.bound32))
              discard advanceWithin
              bracedHex fuel n (count + 1)

/-- A character by its number, after the letter that says how many digits it has.  Two
digits without `u` stand for a byte, which has to be an ASCII character. -/
def hexEscape (f : Flags) (letter : Char) : Scan Char := do
  let count := if letter == 'x' then 2 else if letter == 'u' then 4 else 8
  let c ← advanceWithin
  let n ← if c == '\x7b' then do
      discard advanceWithin
      bracedHex (← remaining).length 0 0
    else do
      let n ← fixedHex count 0
      require (f.unicode || letter != 'x' || decide (n < 128))
      pure n
  match charOf? n with
  | some c => return c
  | none => refuse

/-- Letters and hyphens up to another character. -/
def edgeName : Nat → List Char → Scan (List Char)
  | 0, _ => refuse
  | fuel + 1, acc => do
      match ← peek with
      | none => refuse
      | some c =>
          if c.isAlpha || c == '-' then
            discard advanceWithin
            edgeName fuel (c :: acc)
          else return acc.reverse

/-- A word boundary, plain or with the name of its kind in braces.  Braces that hold
no name are left for a repetition. -/
def wordBoundary (f : Flags) : Scan Assertion := do
  let make := Assertion.word (wordSet f)
  match ← peek with
  | some '\x7b' =>
      let here ← remaining
      let c ← advanceWithin
      if c.isAlpha || c == '-' then
        let name ← edgeName (← remaining).length []
        require ((← peek) == some '\x7d')
        advance
        match String.ofList name with
        | "start" => return make .start
        | "end" => return make .finish
        | "start-half" => return make .startHalf
        | "end-half" => return make .finishHalf
        | _ => refuse
      else
        goto here
        return make .boundary
  | _ => return make .boundary

/-- A name up to a closing brace; the last character that was passed over stands in front
of it. -/
def bracedName : Nat → List Char → Scan String
  | 0, _ => refuse
  | fuel + 1, acc => do
      let c ← advanceWithin
      if c == '\x7d' then
        advance
        return String.ofList acc.reverse
      else bracedName fuel (c :: acc)

/-- The set that a text in braces names: a name, or a property and a value of it. -/
def propertySet? (text : String) : Option CharSet :=
  let byValue := fun (separator : String) =>
    match text.splitOn separator with
    | property :: value :: more =>
        some (Text.Property.ofValue? property (separator.intercalate (value :: more)))
    | _ => none
  match ((byValue "!=").or (byValue ":")).or (byValue "=") with
  | some found => found
  | none => Text.Property.ofName? text

/-- A class of a property, after the letter that says whether it is negated. -/
def propertyClass (f : Flags) (negated : Bool) : Scan CharSet := do
  require f.unicode
  let c ← advanceWithin
  let found ← if c == '\x7b' then
      do pure (propertySet? (← bracedName (← remaining).length []))
    else do
      require (c != '\\')
      advance
      pure (Text.Property.ofName? (String.singleton c))
  match found with
  | none => refuse
  | some set =>
      return if negated then (foldCase f set).compl else foldCase f set

/-- What stands after a backslash. -/
def escape : Scan Primitive := do
  advance
  let f ← flags
  match ← peek with
  | none => refuse
  | some c =>
      if c.isDigit then refuse
      else if c == 'p' || c == 'P' then return .class_ (← propertyClass f (c == 'P'))
      else if c == 'x' || c == 'u' || c == 'U' then return .literal (← hexEscape f c)
      else if ['d', 's', 'w', 'D', 'S', 'W'].contains c then
        advance
        match perlClass? f c with
        | some set => return .class_ set
        | none => refuse
      else
        advance
        if isEscapable c then return .literal c
        else
          match c with
          | 'a' => return .literal '\x07'
          | 'f' => return .literal '\x0c'
          | 't' => return .literal '\t'
          | 'n' => return .literal '\n'
          | 'r' => return .literal '\r'
          | 'v' => return .literal '\x0b'
          | 'A' => return .assertion .textStart
          | 'z' => return .assertion .textEnd
          | 'b' => return .assertion (← wordBoundary f)
          | 'B' => return .assertion (.word (wordSet f) .inside)
          | '<' => return .assertion (.word (wordSet f) .start)
          | '>' => return .assertion (.word (wordSet f) .finish)
          | _ => refuse

/-! ### Brackets -/

/-- An escape or a plain character inside brackets. -/
def classPart : Scan Primitive := do
  let f ← flags
  let part ← match ← peek with
    | none => refuse
    | some '\\' => escape
    | some c => do
        advance
        pure (.literal c)
  match part with
  | .literal c => require (admits f (.singleton c))
  | _ => pure ()
  return part

/-- A part as a set. -/
def partSet : Primitive → Scan CharSet
  | .literal c => return .singleton c
  | .class_ set => return set
  | .assertion _ => refuse

/-- A part as an end of a range. -/
def partLiteral : Primitive → Scan Char
  | .literal c => return c
  | _ => refuse

/-- The character after the next one and what is ignored. -/
def peekBeyond : Scan (Option Char) := do
  let s ← get
  let rest := s.rest.tail
  return (if s.flags.verbose then skipVerbose false rest else rest).head?

/-- One part, or a range between two. -/
def classRange : Scan CharSet := do
  let first ← classPart
  skipIgnored
  match ← peek with
  | none => refuse
  | some c =>
      let beyond ← peekBeyond
      if c != '-' || beyond == some ']' || beyond == some '-' then partSet first
      else
        discard advanceWithin
        let second ← classPart
        let low ← partLiteral first
        let high ← partLiteral second
        require (decide (low ≤ high))
        return .range low.toNat high.toNat

/-- How two sets in brackets are joined. -/
inductive SetOp where
  | inter
  | diff
  | symmDiff

namespace SetOp

/-- The set that an operation makes of two. -/
def apply : SetOp → CharSet → CharSet → CharSet
  | .inter => CharSet.inter
  | .diff => CharSet.diff
  | .symmDiff => CharSet.symmDiff

end SetOp

/-- The set so far: what stands before the last operation, and the union after it. -/
structure Bracket where
  before : Option (CharSet × SetOp)
  union : CharSet

namespace Bracket

/-- Add characters to the union. -/
def add (b : Bracket) (s : CharSet) : Bracket := { b with union := b.union.union s }

/-- The value so far. -/
def value (b : Bracket) (f : Flags) : CharSet :=
  match b.before with
  | none => b.union
  | some (left, op) => op.apply (foldCase f left) (foldCase f b.union)

/-- Go on after an operation. -/
def operate (b : Bracket) (f : Flags) (op : SetOp) : Bracket :=
  ⟨some (b.value f, op), .empty⟩

end Bracket

/-- Hyphens at the front of brackets. -/
def leadingHyphens : Nat → CharSet → Scan CharSet
  | 0, acc => return acc
  | fuel + 1, acc => do
      if (← peek) == some '-' then
        discard advanceWithin
        leadingHyphens fuel (acc.union (.singleton '-'))
      else return acc

/-- The opening of brackets: whether the set is negated, and what must be literal
because it stands first. -/
def openBracket : Scan (Bool × CharSet) := do
  let c ← advanceWithin
  let negated := c == '^'
  if negated then discard advanceWithin
  let acc ← leadingHyphens (← remaining).length .empty
  if acc.isEmpty && (← peek) == some ']' then
    discard advanceWithin
    return (negated, .singleton ']')
  return (negated, acc)

/-- The rest of a bracketed set after its opening. -/
def bracketRest : Nat → Bool → Bracket → Scan CharSet
  | 0, _, _ => refuse
  | fuel + 1, negated, b => do
      skipIgnored
      let f ← flags
      match ← remaining with
      | [] => refuse
      | '[' :: _ =>
          match bracketName? (← remaining) with
          | some (set, rest) =>
              goto rest
              bracketRest fuel negated (b.add set)
          | none =>
              let (inner, acc) ← openBracket
              let set ← bracketRest fuel inner ⟨none, acc⟩
              bracketRest fuel negated (b.add set)
      | ']' :: _ =>
          advance
          let set := foldCase f (b.value f)
          return if negated then set.compl else set
      | '&' :: '&' :: rest =>
          goto rest
          bracketRest fuel negated (b.operate f .inter)
      | '-' :: '-' :: rest =>
          goto rest
          bracketRest fuel negated (b.operate f .diff)
      | '~' :: '~' :: rest =>
          goto rest
          bracketRest fuel negated (b.operate f .symmDiff)
      | _ =>
          let set ← classRange
          bracketRest fuel negated (b.add set)

/-! ### Repetitions -/

/-- Digits of a count, with blanks around them. -/
def count? : Scan (Option Nat) := do
  let cs := Text.trimStart (← remaining)
  let ds := cs.takeWhile Char.isDigit
  goto (Text.trimStart (cs.dropWhile Char.isDigit))
  if ds.isEmpty then return none
  let n : Nat := ds.foldl (fun n d => n * 10 + (d.toNat - 48)) 0
  require (decide (n < Word.bound32))
  return some n

/-- The least and the greatest number of rounds between braces. -/
def bounds : Scan (Nat × Option Nat) := do
  discard advanceWithin
  let least ← count?
  let (least, most) ← match ← peek, least with
    | some ',', least => do
        let c ← advanceWithin
        if c == '\x7d' then
          match least with
          | some n => pure (n, none)
          | none => refuse
        else
          match least, ← count? with
          | some n, some m => pure (n, some m)
          | _, _ => refuse
    | some _, some n => pure (n, some n)
    | _, _ => refuse
  require ((← peek) == some '\x7d')
  advance
  skipIgnored
  require (most.all fun m => decide (least ≤ m))
  return (least, most)

/-- A question mark that makes a repetition prefer few rounds. -/
def lazyMark : Scan Unit := do
  if (← peek) == some '?' then advance

/-- The greatest number of rounds that is unfolded. -/
def unfoldLimit : Nat := 300000

/-- How much room a pattern takes once its repetitions are unfolded: one place for each
character, condition or choice, and more for the ends of ranges outside ASCII. -/
def weight : Pattern → Nat
  | .empty | .assert _ => 1
  | .chars set => 1 + (set.bounds.filter fun b => decide (128 ≤ b)).length
  | .seq first second => first.weight + second.weight
  | .alt left right => left.weight + right.weight + 1
  | .many body least most => body.weight * max 1 (most.getD least)

/-! ### Groups and flags -/

/-- Set one flag. -/
def setFlag (f : Flags) (on : Bool) : Char → Option Flags
  | 'i' => some { f with caseless := on }
  | 'm' => some { f with multiLine := on }
  | 's' => some { f with dotAll := on }
  | 'U' => some { f with swapGreed := on }
  | 'u' => some { f with unicode := on }
  | 'R' => some { f with crlf := on }
  | 'x' => some { f with verbose := on }
  | _ => none

/-- Flags up to a colon or a closing parenthesis: the flags then in force, and how
many letters were read.  A flag may be named once, a hyphen stand once and not
last. -/
def flagLetters : Nat → Flags → Bool → Bool → List Char → Scan (Flags × Nat)
  | 0, _, _, _, _ => refuse
  | fuel + 1, f, negated, dangling, seen => do
      match ← peek with
      | none => refuse
      | some c =>
          if c == ':' || c == ')' then
            require (!dangling)
            return (f, seen.length)
          else if c == '-' then
            require (!negated)
            discard advanceWithin
            flagLetters fuel f true true seen
          else
            require (!seen.contains c)
            match setFlag f (!negated) c with
            | none => refuse
            | some f =>
                discard advanceWithin
                flagLetters fuel f negated false (c :: seen)

/-- Whether a character may stand in the name of a group. -/
def isNameChar (first : Bool) (c : Char) : Bool :=
  let letter := c == '_' || c.isAlpha || (decide (128 ≤ c.toNat) && Text.wordCharacters.contains c)
  if first then letter && !c.isDigit
  else letter || c.isDigit || c == '.' || c == '[' || c == ']'

/-- The name of a group up to its closing bracket. -/
def groupName : Scan Unit := do
  let cs ← remaining
  let name := cs.takeWhile (· != '>')
  match cs.dropWhile (· != '>') with
  | [] => refuse
  | _ :: rest =>
      let s ← get
      require (!name.isEmpty && isNameChar true (name.headD '>') && name.all (isNameChar false))
      require (!s.names.contains name)
      set { s with rest := rest, names := name :: s.names }

/-- Whether a group looks around itself. -/
def looksAround (cs : List Char) : Bool :=
  [['?', '='], ['?', '!'], ['?', '<', '='], ['?', '<', '!']].any fun word =>
    (Text.after? word cs).isSome

/-- What opens with a parenthesis. -/
inductive Opening where
  | group (inner : Flags)
  | flags (after : Flags)

/-- Read on after an opening parenthesis up to the content of the group. -/
def opening : Scan Opening := do
  advance
  skipIgnored
  require (!looksAround (← remaining))
  let f ← flags
  if (← acceptWord ['?', 'P', '<']) || (← acceptWord ['?', '<']) then
    groupName
    return .group f
  else if ← acceptWord ['?'] then
    let cs ← remaining
    require (!cs.isEmpty)
    let (after, letters) ← flagLetters (cs.length + 1) f false false []
    if (← peek) == some ')' then
      require (letters != 0)
      advance
      return .flags after
    else
      advance
      return .group after
  else return .group f

/-! ### Patterns -/

/-- A literal under the flags in force. -/
def literal (f : Flags) (c : Char) : Pattern :=
  .chars (foldCase f (.singleton c))

/-- The pattern of a dot. -/
def dot (f : Flags) : Scan Pattern := do
  require f.unicode
  let excluded : CharSet :=
    if f.dotAll then .empty
    else if f.crlf then .union (.singleton '\n') (.singleton '\r')
    else .singleton '\n'
  return .chars excluded.compl

/-- The pattern of a primitive. -/
def primitive (f : Flags) : Primitive → Pattern
  | .literal c => literal f c
  | .class_ set => .chars set
  | .assertion a => .assert a

/-- A repetition of the last part, if there is one that can be repeated. -/
def repeated (parts : List (Option Pattern)) (least : Nat) (most : Option Nat) :
    Scan (List (Option Pattern)) :=
  match parts with
  | some p :: parts => do
      let p := Pattern.many p least most
      require (decide (p.weight ≤ unfoldLimit))
      lazyMark
      return some p :: parts
  | _ => refuse

/-- Parts in sequence; the list holds the last one first, and nothing for flags. -/
def inSequence (parts : List (Option Pattern)) : Pattern :=
  parts.foldl (fun acc part =>
    match part with
    | none => acc
    | some p => match acc with
      | .empty => p
      | _ => .seq p acc) .empty

mutual

/-- Alternatives up to a closing parenthesis or the end. -/
def alternatives : Nat → Scan Pattern
  | 0 => refuse
  | fuel + 1 => do
      let first ← sequence fuel []
      if (← peek) == some '|' then
        advance
        return .alt first (← alternatives fuel)
      else return first

/-- A sequence of parts up to a bar, a closing parenthesis or the end. -/
def sequence : Nat → List (Option Pattern) → Scan Pattern
  | 0, _ => refuse
  | fuel + 1, parts => do
      skipIgnored
      let f ← flags
      match ← peek with
      | none => return inSequence parts
      | some '|' => return inSequence parts
      | some ')' => return inSequence parts
      | some '(' =>
          match ← opening with
          | .flags after =>
              modify fun s => { s with flags := after }
              sequence fuel (none :: parts)
          | .group inner =>
              modify fun s => { s with flags := inner }
              let body ← alternatives fuel
              require ((← peek) == some ')')
              advance
              modify fun s => { s with flags := f }
              sequence fuel (some body :: parts)
      | some '[' =>
          let (negated, acc) ← openBracket
          let set ← bracketRest (← remaining).length.succ negated ⟨none, acc⟩
          require (admits f set)
          sequence fuel (some (.chars set) :: parts)
      | some '?' => do
          advance
          sequence fuel (← repeated parts 0 (some 1))
      | some '*' => do
          advance
          sequence fuel (← repeated parts 0 none)
      | some '+' => do
          advance
          sequence fuel (← repeated parts 1 none)
      | some '\x7b' =>
          match parts with
          | some _ :: _ => do
              let (least, most) ← bounds
              sequence fuel (← repeated parts least most)
          | _ => refuse
      | some '\\' =>
          let p ← escape
          sequence fuel (some (primitive f p) :: parts)
      | some '.' =>
          advance
          let p ← dot f
          sequence fuel (some p :: parts)
      | some '^' =>
          advance
          let a := if f.multiLine then Assertion.lineStart f.crlf else .textStart
          sequence fuel (some (.assert a) :: parts)
      | some '$' =>
          advance
          let a := if f.multiLine then Assertion.lineEnd f.crlf else .textEnd
          sequence fuel (some (.assert a) :: parts)
      | some c =>
          advance
          sequence fuel (some (literal f c) :: parts)

end

/-- Read a pattern; nothing if the text is none. -/
def read? (text : String) : Option Pattern :=
  let cs := text.toList
  match (alternatives (2 * cs.length + 2)).run ⟨cs, {}, []⟩ with
  | some (p, s) => if s.rest.isEmpty then some p else none
  | none => none

end Pattern
end RemoteRun
