import RemoteRun.Settings

/-!
# Addresses of calls

Which texts are addresses to which a post can be sent.

**Format.** A scheme, a colon, any number of slashes, the authority and the rest.  The
authority is an optional user before the last `@`, a host and, after a colon, an optional
number of the service.  A host whose last label is a number has to be an address of four
numbers, and a host in brackets consists of groups of hexadecimal digits.

**Results.** `Address.isCallable` holds of addresses over HTTP.  Whether anybody answers
there is another question.
-/

namespace RemoteRun
namespace Http
namespace Address

/-- The schemes of HTTP. -/
def schemes : List (List Char) :=
  [['h', 't', 't', 'p'], ['h', 't', 't', 'p', 's']]

/-- Control characters and the blank, which count for nothing around an address. -/
def isPadding (c : Char) : Bool := decide (c.toNat ≤ 0x20)

/-- The breaks that count for nothing within an address. -/
def isBreak (c : Char) : Bool := c == '\t' || c == '\n' || c == '\r'

/-- An address without what counts for nothing. -/
def clean (text : String) : List Char :=
  let cs := text.toList.dropWhile isPadding
  ((cs.reverse.dropWhile isPadding).reverse).filter fun c => !isBreak c

/-- A slash of either kind. -/
def isSlash (c : Char) : Bool := c == '/' || c == '\\'

/-- Whether a character ends the authority. -/
def endsAuthority (c : Char) : Bool := isSlash c || c == '?' || c == '#'

/-- What follows the scheme, if it is one of HTTP. -/
def afterScheme? (cs : List Char) : Option (List Char) :=
  match cs.dropWhile (· != ':') with
  | [] => none
  | _ :: rest =>
      if schemes.contains ((cs.takeWhile (· != ':')).map Char.toLower) then some rest else none

/-- The host and what follows it in the authority. -/
def hostAndService (cs : List Char) : List Char :=
  let authority := (cs.dropWhile isSlash).takeWhile fun c => !endsAuthority c
  (authority.reverse.takeWhile (· != '@')).reverse

/-- Whether digits are the number of a service; none stand for the usual one. -/
def isService (cs : List Char) : Bool :=
  cs.isEmpty || (Settings.digitsBelow? 65536 cs).isSome

/-- Whether the text after a host is empty or the number of a service. -/
def isServicePart : List Char → Bool
  | [] => true
  | ':' :: digits => isService digits
  | _ => false

/-- The characters that no host has. -/
def forbidden : List Char :=
  ['#', '/', ':', '<', '>', '?', '@', '[', '\\', ']', '^', '|', '%', ' ']

/-- Whether a character may stand in a host. -/
def isHostChar (c : Char) : Bool :=
  decide (0x20 < c.toNat) && decide (c.toNat ≠ 0x7F) && !forbidden.contains c

/-- The labels of a host; a last one that is empty does not count. -/
def labels (host : List Char) : List String :=
  let all := (String.ofList host).splitOn "."
  if all.length > 1 && all.getLast? == some "" then all.dropLast else all

/-- The number that a label of an address of numbers stands for. -/
def labelNumber? (label : String) : Option Nat :=
  match label.toList with
  | '0' :: 'x' :: digits | '0' :: 'X' :: digits =>
      digits.foldl (fun n c => do pure ((← n) * 16 + (← Json.hexValue? c))) (some 0)
  | '0' :: digits =>
      if digits.all fun c => '0' ≤ c && c ≤ '7' then
        some (digits.foldl (fun n c => n * 8 + (c.toNat - '0'.toNat)) 0)
      else none
  | digits => Settings.digitsBelow? Word.bound64 digits

/-- Whether a label is a number, or digits that should be one. -/
def isNumeric (label : String) : Bool :=
  (!label.isEmpty && label.toList.all Char.isDigit) || (labelNumber? label).isSome

/-- Whether numbers form an address: all but the last are bytes, and the last one fills
the bytes that are left. -/
def isFourBytes (numbers : List Nat) : Bool :=
  decide (numbers.length ≤ 4) && numbers.dropLast.all (decide <| · < 256) &&
    (numbers.getLast?).any fun n => decide (n < Decimal.twoTo (8 * (5 - numbers.length)))

/-- Whether a text is a host. -/
def isHost (host : List Char) : Bool :=
  let parts := labels host
  !host.isEmpty && host.all isHostChar &&
    if (parts.getLast?).any isNumeric then
      match parts.mapM labelNumber? with
      | some numbers => isFourBytes numbers
      | none => false
    else true

/-- Whether a text in brackets is made of groups of hexadecimal digits. -/
def isGroups (cs : List Char) : Bool :=
  decide (2 ≤ (cs.filter (· == ':')).length) &&
    cs.all fun c => c == ':' || c == '.' || (Json.hexValue? c).isSome

/-- Whether a text is a host and an optional number of a service. -/
def isAuthority : List Char → Bool
  | '[' :: cs =>
      match cs.dropWhile (· != ']') with
      | [] => false
      | _ :: rest => isGroups (cs.takeWhile (· != ']')) && isServicePart rest
  | cs => isHost (cs.takeWhile (· != ':')) && isServicePart (cs.dropWhile (· != ':'))

/-- Whether a post can be sent to an address. -/
def isCallable (text : String) : Bool :=
  match afterScheme? (clean text) with
  | some rest => isAuthority (hostAndService rest)
  | none => false

end Address
end Http
end RemoteRun
