import RemoteRun.Text.Alphabetic
import RemoteRun.Text.Blank
import RemoteRun.Text.Letters
import RemoteRun.Text.Marks
import RemoteRun.Text.Scripts
import RemoteRun.Text.Symbols
import RemoteRun.Text.WordClass

/-!
# Properties of characters

The sets of characters that have a name: general categories and groups of them, scripts,
and a few properties that join categories.

**Names.** Capitals, blanks, underscores and hyphens in a name do not matter, nor does
`is` in front of it.

**Results.** `Property.ofName?` finds a set by its name alone, `Property.ofValue?` by the
name of a property and a value of it.
-/

namespace RemoteRun
namespace Text

/-- A general category or a group of them: its names and its characters. -/
structure Category where
  names : List String
  characters : CharSet

namespace Category

/-- The categories of letters, without the groups. -/
def letters : List Category :=
  [⟨["lu", "uppercaseletter"], uppercaseLetters⟩,
   ⟨["ll", "lowercaseletter"], lowercaseLetters⟩,
   ⟨["lt", "titlecaseletter"], titlecaseLetters⟩,
   ⟨["lm", "modifierletter"], modifierLetters⟩,
   ⟨["lo", "otherletter"], caselessLetters⟩]

/-- The categories of marks. -/
def marks : List Category :=
  [⟨["mn", "nonspacingmark"], nonspacingMarks⟩,
   ⟨["mc", "spacingmark"], spacingMarks⟩,
   ⟨["me", "enclosingmark"], enclosingMarks⟩]

/-- The categories of numbers. -/
def numbers : List Category :=
  [⟨["nd", "decimalnumber", "digit"], decimalDigits⟩,
   ⟨["nl", "letternumber"], letterNumbers⟩,
   ⟨["no", "othernumber"], otherNumbers⟩]

/-- The categories of punctuation. -/
def punctuation : List Category :=
  [⟨["pc", "connectorpunctuation"], connectors⟩,
   ⟨["pd", "dashpunctuation"], dashes⟩,
   ⟨["ps", "openpunctuation"], openings⟩,
   ⟨["pe", "closepunctuation"], closings⟩,
   ⟨["pi", "initialpunctuation"], initialQuotes⟩,
   ⟨["pf", "finalpunctuation"], finalQuotes⟩,
   ⟨["po", "otherpunctuation"], otherPunctuation⟩]

/-- The categories of symbols. -/
def symbols : List Category :=
  [⟨["sm", "mathsymbol"], mathSymbols⟩,
   ⟨["sc", "currencysymbol"], currencySymbols⟩,
   ⟨["sk", "modifiersymbol"], modifierSymbols⟩,
   ⟨["so", "othersymbol"], otherSymbols⟩]

/-- The categories of separators. -/
def separators : List Category :=
  [⟨["zs", "spaceseparator"], spaces⟩,
   ⟨["zl", "lineseparator"], lineSeparators⟩,
   ⟨["zp", "paragraphseparator"], paragraphSeparators⟩]

/-- The categories of other assigned characters. -/
def others : List Category :=
  [⟨["cc", "control", "cntrl"], controls⟩,
   ⟨["cf", "format"], formats⟩,
   ⟨["cs", "surrogate"], surrogates⟩,
   ⟨["co", "privateuse"], privateUse⟩]

/-- The characters of some categories. -/
def union (cs : List Category) : CharSet :=
  .unions (cs.map (·.characters))

/-- The categories without unassigned characters. -/
def assigned : List Category :=
  letters ++ marks ++ numbers ++ punctuation ++ symbols ++ separators ++ others

/-- The characters that no category has. -/
def unassigned : CharSet := (union assigned).compl

/-- The characters of the group of a name. -/
def group? (name : String) : Option CharSet :=
  match name with
  | "l" | "letter" => some (union letters)
  | "lc" | "casedletter" => some (union (letters.take 3))
  | "m" | "mark" | "combiningmark" => some (union marks)
  | "n" | "number" => some (union numbers)
  | "p" | "punctuation" | "punct" => some (union punctuation)
  | "s" | "symbol" => some (union symbols)
  | "z" | "separator" => some (union separators)
  | "c" | "other" => some (.union (union others) unassigned)
  | "cn" | "unassigned" => some unassigned
  | "any" => some .full
  | "assigned" => some unassigned.compl
  | "ascii" => some (.range 0 127)
  | _ => none

/-- The characters of a category or group by its name. -/
def ofName? (name : String) : Option CharSet :=
  ((assigned.find? fun c => c.names.contains name).map (·.characters)).or (group? name)

end Category

namespace Script

/-- The characters of a script by its name. -/
def ofName? (name : String) : Option CharSet :=
  (scripts.find? fun s => s.names.contains name).map (·.characters)

end Script

namespace Property

/-- Whether a character counts for nothing in a name. -/
def isJoint (c : Char) : Bool := c == ' ' || c == '_' || c == '-'

/-- A name without capitals, joints and what no name has. -/
def plain (cs : List Char) : List Char :=
  (cs.filter fun c => !isJoint c && decide (c.toNat < 128)).map Char.toLower

/-- A name in the form in which names are compared. -/
def normalize (name : String) : String :=
  match name.toList with
  | i :: s :: rest =>
      if i.toLower == 'i' && s.toLower == 's' then
        if plain rest == ['c'] then "isc" else String.ofList (plain rest)
      else String.ofList (plain (i :: s :: rest))
  | cs => String.ofList (plain cs)

/-- The characters with a property that joins categories. -/
def joined? (name : String) : Option CharSet :=
  match name with
  | "alphabetic" | "alpha" =>
      some (.unions [Category.union Category.letters, letterNumbers, furtherAlphabetic])
  | "lowercase" | "lower" => some (.union lowercaseLetters furtherLowercase)
  | "uppercase" | "upper" => some (.union uppercaseLetters furtherUppercase)
  | "whitespace" | "wspace" | "space" => some whiteSpace
  | _ => none

/-- The set with a name. -/
def ofName? (name : String) : Option CharSet :=
  let name := normalize name
  ((joined? name).or (Category.ofName? name)).or (Script.ofName? name)

/-- The set of the characters for which a property has a value. -/
def ofValue? (property value : String) : Option CharSet :=
  match normalize property with
  | "gc" | "generalcategory" => Category.ofName? (normalize value)
  | "sc" | "script" => Script.ofName? (normalize value)
  | _ => none

end Property

end Text
end RemoteRun
