import RemoteRun.Decimal.Fixed
import RemoteRun.Text.Blank

/-!
# Timestamps

Points in time and their RFC 3339 text.

**Input.** A date and a time with `T`, `t` or a blank between them, an optional
fraction of a second and an offset: `Z`, the letters `UTC`, or a sign with hours
and minutes.  Blanks are allowed around the parts.  A second 60 is a leap second
and is kept as nanoseconds beyond a full second.

**Results.** `Timestamp.ofText?` reads such a text and `Timestamp.text` writes it in
UTC with `Z` and as many fraction digits, by threes, as are needed.
-/

namespace RemoteRun

/-- A point in time: seconds since 1970 and nanoseconds.  A leap second has more
than `10^9` nanoseconds. -/
structure Timestamp where
  seconds : Int
  nanos : Nat
deriving DecidableEq, Inhabited

namespace Timestamp

/-- Days since 1970 of a date of the Gregorian calendar. -/
def daysOfDate (year month day : Int) : Int :=
  let y := if month ≤ 2 then year - 1 else year
  let era := y.fdiv 400
  let yearOfEra := y - era * 400
  let shifted := if month ≤ 2 then month + 9 else month - 3
  let dayOfYear := (153 * shifted + 2) / 5 + day - 1
  let dayOfEra := yearOfEra * 365 + yearOfEra / 4 - yearOfEra / 100 + dayOfYear
  era * 146097 + dayOfEra - 719468

/-- The year, month and day of a number of days since 1970. -/
def dateOfDays (days : Int) : Int × Int × Int :=
  let z := days + 719468
  let era := z.fdiv 146097
  let dayOfEra := z - era * 146097
  let yearOfEra := (dayOfEra - dayOfEra / 1460 + dayOfEra / 36524 - dayOfEra / 146096) / 365
  let dayOfYear := dayOfEra - (365 * yearOfEra + yearOfEra / 4 - yearOfEra / 100)
  let shifted := (5 * dayOfYear + 2) / 153
  let day := dayOfYear - (153 * shifted + 2) / 5 + 1
  let month := if shifted < 10 then shifted + 3 else shifted - 9
  let year := yearOfEra + era * 400 + if month ≤ 2 then 1 else 0
  (year, month, day)

/-- Whether a year has a 29th of February. -/
def isLeapYear (year : Int) : Bool :=
  year % 4 == 0 && (year % 100 != 0 || year % 400 == 0)

/-- The number of days of a month. -/
def daysOfMonth (year : Int) (month : Nat) : Nat :=
  if month = 2 then (if isLeapYear year then 29 else 28)
  else if month = 4 ∨ month = 6 ∨ month = 9 ∨ month = 11 then 30
  else 31

/-- First and last year of the calendar. -/
def years : Int × Int := (-262143, 262142)

/-! ### Reading -/

/-- The value of a decimal digit. -/
def digitValue? (c : Char) : Option Nat :=
  if '0' ≤ c ∧ c ≤ '9' then some (c.toNat - 48) else none

/-- Up to `width` digits onto a number; how many were read. -/
def takeNumber : Nat → Nat → List Char → Nat × Nat × List Char
  | 0, n, cs => (n, 0, cs)
  | _ + 1, n, [] => (n, 0, [])
  | width + 1, n, c :: cs =>
      match digitValue? c with
      | none => (n, 0, c :: cs)
      | some d =>
          let (m, count, rest) := takeNumber width (n * 10 + d) cs
          (m, count + 1, rest)

/-- A number of one to `width` digits. -/
def number? (width : Nat) (cs : List Char) : Option (Nat × List Char) :=
  match takeNumber width 0 cs with
  | (_, 0, _) => none
  | (n, _, rest) => some (n, rest)

/-- A number after blanks. -/
def padded? (width : Nat) (cs : List Char) : Option (Nat × List Char) :=
  number? width (Text.trimStart cs)

/-- A year: four digits, or any number of them after a sign. -/
def year? (cs : List Char) : Option (Int × List Char) :=
  match Text.trimStart cs with
  | '-' :: rest => (number? rest.length rest).map fun (n, rest) => (-(n : Int), rest)
  | '+' :: rest => (number? rest.length rest).map fun (n, rest) => ((n : Int), rest)
  | rest => (number? 4 rest).map fun (n, rest) => ((n : Int), rest)

/-- A fixed character after blanks. -/
def mark? (c : Char) (cs : List Char) : Option (List Char) :=
  match Text.trimStart cs with
  | [] => none
  | d :: rest => if c = d then some rest else none

/-- Two digits and the characters after them. -/
def twoDigits? : List Char → Option (Nat × List Char)
  | a :: b :: rest => do
      let a ← digitValue? a
      let b ← digitValue? b
      return (a * 10 + b, rest)
  | _ => none

/-- An optional fraction of a second in nanoseconds.  Digits after the ninth are
dropped. -/
def fraction? (cs : List Char) : Option (Nat × List Char) :=
  match cs with
  | '.' :: rest =>
      match takeNumber 9 0 rest with
      | (_, 0, _) => none
      | (n, count, rest) =>
          some (n * Decimal.tenTo (9 - count), rest.dropWhile fun c => (digitValue? c).isSome)
  | _ => some (0, cs)

/-- Whether the text begins with the letters `UTC` in either case. -/
def afterUtc? : List Char → Option (List Char)
  | a :: b :: c :: rest =>
      if (a = 'U' ∨ a = 'u') ∧ (b = 'T' ∨ b = 't') ∧ (c = 'C' ∨ c = 'c') then some rest else none
  | _ => none

/-- Hours and minutes of an offset, in seconds. -/
def hoursAndMinutes? (cs : List Char) : Option (Nat × List Char) := do
  let (hours, rest) ← twoDigits? cs
  let rest := rest.dropWhile fun c => c == ':' || Text.isBlank c
  let (minutes, rest) ← twoDigits? rest
  if minutes < 60 then some (hours * 3600 + minutes * 60, rest) else none

/-- An offset in seconds. -/
def offset? (cs : List Char) : Option (Int × List Char) :=
  match afterUtc? cs with
  | some rest => some (0, rest)
  | none =>
      match cs with
      | 'Z' :: rest => some (0, rest)
      | 'z' :: rest => some (0, rest)
      | '+' :: rest => (hoursAndMinutes? rest).map fun (n, rest) => ((n : Int), rest)
      | '-' :: rest => (hoursAndMinutes? rest).map fun (n, rest) => (-(n : Int), rest)
      | '−' :: rest => (hoursAndMinutes? rest).map fun (n, rest) => (-(n : Int), rest)
      | _ => none

/-- The point in time of date, time and offset, if they exist. -/
def ofParts? (year : Int) (month day hour minute second nanos : Nat) (offset : Int) :
    Option Timestamp :=
  if years.1 ≤ year ∧ year ≤ years.2 ∧ 1 ≤ month ∧ month ≤ 12 ∧ 1 ≤ day ∧
      day ≤ daysOfMonth year month ∧ hour ≤ 23 ∧ minute ≤ 59 ∧ second ≤ 60 ∧
      offset.natAbs < 86400 then
    let (second, nanos) := if second = 60 then (59, nanos + 1000000000) else (second, nanos)
    let local' := daysOfDate year month day * 86400 + hour * 3600 + minute * 60 + second
    some ⟨local' - offset, nanos⟩
  else none

/-- Read a timestamp. -/
def ofText? (text : String) : Option Timestamp := do
  let (year, rest) ← year? text.toList
  let rest ← mark? '-' rest
  let (month, rest) ← padded? 2 rest
  let rest ← mark? '-' rest
  let (day, rest) ← padded? 2 rest
  let rest ← match rest with
    | c :: rest => if c = 'T' ∨ c = 't' ∨ c = ' ' then some rest else none
    | [] => none
  let (hour, rest) ← padded? 2 rest
  let rest ← mark? ':' rest
  let (minute, rest) ← padded? 2 rest
  let rest ← mark? ':' rest
  let (second, rest) ← padded? 2 rest
  let (nanos, rest) ← fraction? rest
  let (offset, rest) ← offset? (Text.trimStart rest)
  if (Text.trimStart rest).isEmpty then ofParts? year month day hour minute second nanos offset
  else none

/-! ### Writing -/

/-- A number with at least a number of digits. -/
def padTo (width n : Nat) : List Char :=
  Decimal.padZero width (Decimal.digits n)

/-- A year with four digits, and with a sign outside these. -/
def yearText (year : Int) : List Char :=
  if 0 ≤ year ∧ year ≤ 9999 then padTo 4 year.natAbs
  else (if year < 0 then '-' else '+') :: padTo 4 year.natAbs

/-- A fraction of a second with no, three, six or nine digits. -/
def fractionText (nanos : Nat) : List Char :=
  if nanos = 0 then []
  else if nanos % 1000000 = 0 then '.' :: padTo 3 (nanos / 1000000)
  else if nanos % 1000 = 0 then '.' :: padTo 6 (nanos / 1000)
  else '.' :: padTo 9 nanos

/-- The text of a timestamp. -/
def text (t : Timestamp) : String :=
  let days := t.seconds.fdiv 86400
  let time := (t.seconds - days * 86400).natAbs
  let (year, month, day) := dateOfDays days
  let leap := t.nanos / 1000000000
  let nanos := t.nanos % 1000000000
  String.ofList <|
    yearText year ++ '-' :: padTo 2 month.natAbs ++ '-' :: padTo 2 day.natAbs ++
    'T' :: padTo 2 (time / 3600) ++ ':' :: padTo 2 (time / 60 % 60) ++
    ':' :: padTo 2 (time % 60 + leap) ++ fractionText nanos ++ ['Z']

end Timestamp

end RemoteRun
