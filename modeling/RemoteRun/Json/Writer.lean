import RemoteRun.Json.Basic
import RemoteRun.Decimal.Shortest

/-!
# Writing JSON

**Format.** No blanks.  Members stand in list order.  In strings the quote, the
backslash and the control characters below U+0020 are escaped, five of them by a
letter and the others by four lower-case hexadecimal digits; all else stands as
it is.  A double is written with the fewest digits that read back, in positional
notation with a decimal point when its leading digit stands between `10^-5` and
`10^15`, and otherwise with a signed exponent of at least two digits.
-/

namespace RemoteRun
namespace Json

/-- The lower-case hexadecimal digit of a number below sixteen. -/
def hexDigit (n : Nat) : Char :=
  if n < 10 then Char.ofNat (48 + n) else Char.ofNat (87 + n)

/-- A character as it stands inside a string. -/
def escapeChar (c : Char) : List Char :=
  if c = '"' then ['\\', '"']
  else if c = '\\' then ['\\', '\\']
  else if c = '\x08' then ['\\', 'b']
  else if c = '\x0c' then ['\\', 'f']
  else if c = '\n' then ['\\', 'n']
  else if c = '\r' then ['\\', 'r']
  else if c = '\t' then ['\\', 't']
  else if c.toNat < 0x20 then
    ['\\', 'u', '0', '0', hexDigit (c.toNat / 16), hexDigit (c.toNat % 16)]
  else [c]

/-- A text between quotes. -/
def renderString (s : String) : List Char :=
  '"' :: s.toList.flatMap escapeChar ++ ['"']

/-- Exponents of the leading digit that are written in positional notation. -/
def positionalRange : Int × Int := (-5, 15)

/-- Digits with the point at its place. -/
def positional (d : Decimal.Digits) : List Char :=
  if d.exponent < 0 then
    '0' :: '.' :: (List.replicate ((-d.exponent).toNat - 1) '0' ++ d.digits)
  else
    let whole := d.exponent.toNat + 1
    let front := d.digits.take whole
    let back := d.digits.drop whole
    front ++ List.replicate (whole - front.length) '0' ++ '.' ::
      (if back.isEmpty then ['0'] else back)

/-- Digits with one of them before the point, and an exponent. -/
def scientific (d : Decimal.Digits) : List Char :=
  let sign := if d.exponent < 0 then '-' else '+'
  let exponent := Decimal.digits d.exponent.natAbs
  let padded := if exponent.length < 2 then '0' :: exponent else exponent
  let point := if d.digits.length ≤ 1 then [] else '.' :: d.digits.drop 1
  d.digits.take 1 ++ point ++ 'e' :: sign :: padded

/-- The text of a finite double. -/
def renderReal (bits : UInt64) : List Char :=
  match Decimal.Binary.ofBits? bits with
  | none => ['n', 'u', 'l', 'l']
  | some b =>
      let sign := if b.negative then ['-'] else []
      if b.mantissa = 0 then sign ++ ['0', '.', '0']
      else
        let d := b.shortest
        if positionalRange.1 ≤ d.exponent ∧ d.exponent ≤ positionalRange.2 then
          sign ++ positional d
        else sign ++ scientific d

/-- The text of an integer. -/
def renderInt (value : Int) : List Char :=
  if value < 0 then '-' :: Decimal.digits value.natAbs else Decimal.digits value.natAbs

/-- The text of a number. -/
def renderNumber : Number → List Char
  | .integer value _ => renderInt value
  | .real bits => renderReal bits

/-- Parts with commas between them. -/
def separated : List (List Char) → List Char
  | [] => []
  | [part] => part
  | part :: parts => part ++ ',' :: separated parts

mutual

/-- The characters of a value. -/
def render : Json → List Char
  | .null => ['n', 'u', 'l', 'l']
  | .bool true => ['t', 'r', 'u', 'e']
  | .bool false => ['f', 'a', 'l', 's', 'e']
  | .num value => renderNumber value
  | .str text => renderString text
  | .arr items => '[' :: separated (renderItems items) ++ [']']
  | .obj members => '\x7b' :: separated (renderMembers members) ++ ['\x7d']

/-- The characters of each item. -/
def renderItems : List Json → List (List Char)
  | [] => []
  | item :: items => render item :: renderItems items

/-- The characters of each member. -/
def renderMembers : List (String × Json) → List (List Char)
  | [] => []
  | (key, value) :: members => (renderString key ++ ':' :: render value) :: renderMembers members

end

/-- The text of a value. -/
def write (value : Json) : String :=
  String.ofList value.render

end Json
end RemoteRun
