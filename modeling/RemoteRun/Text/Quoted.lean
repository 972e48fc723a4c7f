import RemoteRun.Text.Printable

/-!
# Quoted texts

The form in which a message shows a text it complains about.

**Format.** Quotes around the text.  Quote and backslash, line feed, carriage
return, tab and the zero character are escaped by a letter; a character that is
not printable or extends a grapheme is written `\u` with its number in
hexadecimal between braces; all else stands as it is.
-/

namespace RemoteRun
namespace Text

/-- A character as it stands in a quoted text. -/
def quoteChar (c : Char) : List Char :=
  if c = '"' then ['\\', '"']
  else if c = '\\' then ['\\', '\\']
  else if c = '\n' then ['\\', 'n']
  else if c = '\r' then ['\\', 'r']
  else if c = '\t' then ['\\', 't']
  else if c = '\x00' then ['\\', '0']
  else if ' ' ≤ c ∧ c ≤ '~' then [c]
  else if graphemeExtenders.contains c || unprintable.contains c then
    ['\\', 'u', '\x7b'] ++ Nat.toDigits 16 c.toNat ++ ['\x7d']
  else [c]

/-- A text in quotes. -/
def quoted (s : String) : String :=
  String.ofList ('"' :: s.toList.flatMap quoteChar ++ ['"'])

end Text
end RemoteRun
