import Mathlib.Data.List.Basic
import RemoteRun.Json.Reader
import RemoteRun.Json.Writer

/-!
# Written strings and integers read back

**Continuation.** A string ends at its closing quote.  An integer has no closing
character: it ends where the text goes on with a character that cannot belong to it.
`Ends` says what may follow a value inside a written text, and no such character is a
digit, a point or the letter of an exponent.

**Results.** `stringBody_flatMap` and `number_digits`: the reader gives back exactly what
was written, and stops exactly behind it.  For strings this holds of all characters: each
has one escaped form (`stringBody_escapeChar`), whether or not it needs one.
-/

namespace RemoteRun
namespace Json

/-- A character that closes an array or an object. -/
def IsClosing (c : Char) : Prop :=
  c = ']' ∨ c = '\x7d'

instance (c : Char) : Decidable (IsClosing c) :=
  inferInstanceAs (Decidable (_ ∨ _))

/-- What may follow a value inside a written text: nothing, a comma or a closing
character. -/
def Ends (rest : List Char) : Prop :=
  ∀ c ∈ rest.head?, c = ',' ∨ IsClosing c

theorem ends_nil : Ends [] := by
  simp [Ends]

theorem ends_comma
    (rest : List Char) :
    Ends (',' :: rest) := by
  simp [Ends]

theorem IsClosing.ends
    {c : Char}
    (h : IsClosing c)
    (rest : List Char) :
    Ends (c :: rest) := by
  simp [Ends, h]

/-! ### Integers -/

theorem isDigit_of_mem_digits
    {n : Nat}
    {c : Char}
    (h : c ∈ Decimal.digits n) :
    c.isDigit = true :=
  Nat.isDigit_of_mem_toDigits (by decide) (by decide) h

theorem exists_digits_eq_cons
    (n : Nat) :
    ∃ c cs, Decimal.digits n = c :: cs ∧ c.isDigit = true := by
  cases hdigits : Decimal.digits n with
  | nil =>
      exact absurd hdigits Nat.toDigits_ne_nil
  | cons c cs =>
      have hmem : c ∈ Decimal.digits n := hdigits ▸ List.mem_cons_self
      exact ⟨c, cs, rfl, isDigit_of_mem_digits hmem⟩

/-- The values of the digits of a natural number. -/
def figures (n : Nat) : List Nat :=
  (Decimal.digits n).map fun c => c.toNat - 48

theorem ne_of_isDigit
    {c d : Char}
    (hc : c.isDigit = true)
    (hd : d.isDigit = false) :
    c ≠ d := by
  rintro rfl
  simp [hc] at hd

theorem isBlank_of_isDigit
    {c : Char}
    (h : c.isDigit = true) :
    isBlank c = false := by
  have hne : ∀ d : Char, d.isDigit = false → c ≠ d := fun _ => ne_of_isDigit h
  simp [isBlank, hne ' ' rfl, hne '\n' rfl, hne '\r' rfl, hne '\t' rfl]

theorem digit?_of_isDigit
    {c : Char}
    (h : c.isDigit = true) :
    digit? c = some (c.toNat - 48) := by
  simp only [Char.isDigit, Bool.and_eq_true, decide_eq_true_eq] at h
  exact if_pos h

theorem digit?_of_ends
    {c : Char}
    {rest : List Char}
    (h : Ends (c :: rest)) :
    digit? c = none := by
  rcases h c rfl with rfl | rfl | rfl <;> rfl

theorem takeDigits_of_ends
    {rest : List Char}
    (h : Ends rest) :
    takeDigits rest = ([], rest) := by
  cases rest with
  | nil =>
      rfl
  | cons c rest =>
      simp [takeDigits, digit?_of_ends h]

/-- Digits are taken up to the end of the number. -/
theorem takeDigits_append
    {ds rest : List Char}
    (hds : ∀ c ∈ ds, c.isDigit = true)
    (hrest : Ends rest) :
    takeDigits (ds ++ rest) = (ds.map fun c => c.toNat - 48, rest) := by
  induction ds with
  | nil =>
      exact takeDigits_of_ends hrest
  | cons d ds ih =>
      have hd : digit? d = some (d.toNat - 48) :=
        digit?_of_isDigit (hds d List.mem_cons_self)
      have htail := ih fun c hc => hds c (List.mem_cons_of_mem d hc)
      simp [takeDigits, hd, htail]

theorem takeDigits_digits
    (n : Nat)
    {rest : List Char}
    (hrest : Ends rest) :
    takeDigits (Decimal.digits n ++ rest) = (figures n, rest) :=
  takeDigits_append (fun _ hc => isDigit_of_mem_digits hc) hrest

/-- The digits of a number form that number. -/
theorem natOf_figures
    (n : Nat) :
    Numeral.natOf (figures n) = n := by
  have hdigits : Nat.ofDigitChars 10 (Decimal.digits n) 0 = n :=
    Nat.ofDigitChars_ten_toDigits
  have hzero : '0'.toNat = 48 := rfl
  rw [Numeral.natOf, figures, List.foldl_map]
  simpa only [Nat.ofDigitChars, Nat.mul_comm 10, hzero] using hdigits

/-- The first digit of a positive number is not zero. -/
theorem exists_figures_eq_cons
    {n : Nat}
    (h : 0 < n) :
    ∃ d ds, figures n = d :: ds ∧ d ≠ 0 := by
  induction n using Nat.strongRecOn with
  | ind n ih =>
      by_cases hn : n < 10
      · refine ⟨n, [], ?_, by omega⟩
        rw [figures, Decimal.digits, Nat.toDigits_of_lt_base hn, List.map_singleton,
          Nat.toNat_digitChar_sub_48_of_lt_ten hn]
      · obtain ⟨d, ds, hfigures, hd⟩ := ih (n / 10) (by omega) (by omega)
        refine ⟨d, ds ++ [(n % 10).digitChar.toNat - 48], ?_, hd⟩
        rw [figures, Decimal.digits, Nat.toDigits_of_base_le (by decide) (by omega),
          List.map_append]
        rw [figures, Decimal.digits] at hfigures
        rw [hfigures]
        rfl

theorem figures_ne_nil
    (n : Nat) :
    figures n ≠ [] := by
  simp [figures, Decimal.digits, Nat.toDigits_ne_nil]

theorem someDigits_digits
    (n : Nat)
    {rest : List Char}
    (hrest : Ends rest) :
    someDigits (Decimal.digits n ++ rest) = .ok (figures n, rest) := by
  unfold someDigits
  rw [takeDigits_digits n hrest]
  cases hfigures : figures n with
  | nil =>
      exact absurd hfigures (figures_ne_nil n)
  | cons d ds =>
      rfl

/-- A written number does not start with a zero unless it is zero. -/
theorem wholeDigits_digits
    (n : Nat)
    {rest : List Char}
    (hrest : Ends rest) :
    wholeDigits (Decimal.digits n ++ rest) = .ok (figures n, rest) := by
  unfold wholeDigits
  rw [someDigits_digits n hrest]
  rcases Nat.eq_zero_or_pos n with rfl | hn
  · rfl
  · obtain ⟨d, ds, hfigures, hd⟩ := exists_figures_eq_cons hn
    rw [hfigures]
    cases d with
    | zero =>
        exact absurd rfl hd
    | succ d =>
        rfl

theorem fraction_of_ends
    {rest : List Char}
    (h : Ends rest) :
    fraction rest = .ok (none, rest) := by
  unfold fraction
  split
  · rcases h '.' rfl with h | h | h <;> simp at h
  · rfl

theorem exponent_of_ends
    {rest : List Char}
    (h : Ends rest) :
    exponent rest = .ok (none, rest) := by
  cases rest with
  | nil =>
      rfl
  | cons c rest =>
      rcases h c rfl with rfl | rfl | rfl <;> rfl

/-- The literal of an integer has that integer as its value. -/
theorem value?_figures
    (value : Int)
    (bounded : leastInteger ≤ value ∧ value < integerBound) :
    Numeral.value? ⟨decide (value < 0), figures value.natAbs, none, none⟩ =
      some (.integer value bounded) := by
  -- The digits alone fit a word on both sides of zero; only then does the sign count.
  have hbound : value.natAbs < Numeral.wordBound := by
    simp only [leastInteger, integerBound, Numeral.wordBound, Word.bound64] at *
    omega
  have hplain :
      Numeral.plain? ⟨decide (value < 0), figures value.natAbs, none, none⟩ =
        some value.natAbs := by
    simp [Numeral.plain?, natOf_figures, hbound]
  unfold Numeral.value?
  rw [hplain]
  by_cases hneg : value < 0
  · have hvalue : -(value.natAbs : Int) = value := by omega
    have hne : value.natAbs ≠ 0 := by omega
    simp only [hneg, decide_true, if_true, hne, if_false, hvalue]
    simp [Number.ofInt?, bounded]
  · have hvalue : (value.natAbs : Int) = value := by omega
    simp only [hneg, decide_false, Bool.false_eq_true, if_false, hvalue]
    simp [Number.ofInt?, bounded]

/-- The digits of an integer after its sign are read as the integer. -/
theorem number_digits
    (value : Int)
    (bounded : leastInteger ≤ value ∧ value < integerBound)
    {rest : List Char}
    (hrest : Ends rest) :
    number (decide (value < 0)) (Decimal.digits value.natAbs ++ rest) =
      .ok (.num (.integer value bounded), rest) := by
  unfold number
  rw [wholeDigits_digits value.natAbs hrest]
  simp only [andThen, fraction_of_ends hrest, exponent_of_ends hrest,
    value?_figures value bounded]

/-! ### Strings -/

theorem hexValue?_hexDigit : ∀ n < 16, hexValue? (hexDigit n) = some n := by
  decide

/-- The escape of a control character has its number. -/
theorem fourHex?_hexDigits
    {n : Nat}
    (h : n < 256) :
    fourHex? '0' '0' (hexDigit (n / 16)) (hexDigit (n % 16)) = some n := by
  have hhigh : hexValue? (hexDigit (n / 16)) = some (n / 16) :=
    hexValue?_hexDigit (n / 16) (by omega)
  have hlow : hexValue? (hexDigit (n % 16)) = some (n % 16) :=
    hexValue?_hexDigit (n % 16) (by omega)
  have hzero : hexValue? '0' = some 0 := by decide
  have hn : n / 16 * 16 + n % 16 = n := by omega
  simp [fourHex?, hzero, hhigh, hlow, hn]

/-- A character that stands for itself. -/
theorem stringBody_plain
    {c : Char}
    (hquote : c ≠ '"')
    (hslash : c ≠ '\\')
    (hcontrol : ¬ c.toNat < 0x20)
    (rest : List Char) :
    stringBody (c :: rest) = prepend c (stringBody rest) := by
  -- The side goals say that no earlier pattern fits the text.
  rw [stringBody, if_neg hcontrol]
  all_goals simp [hquote, hslash]

/-- A character behind a backslash, by its letter. -/
theorem stringBody_letter
    {letter c : Char}
    (hletter : letter ≠ 'u')
    (hc : escaped? letter = some c)
    (rest : List Char) :
    stringBody ('\\' :: letter :: rest) = prepend c (stringBody rest) := by
  rw [stringBody, hc]
  all_goals simp [hletter]

/-- A character behind a backslash, by its number. -/
theorem stringBody_control
    {c : Char}
    (hcontrol : c.toNat < 0x20)
    (rest : List Char) :
    stringBody
        ('\\' :: 'u' :: '0' :: '0' :: hexDigit (c.toNat / 16) :: hexDigit (c.toNat % 16) :: rest) =
      prepend c (stringBody rest) := by
  have hfour := fourHex?_hexDigits (show c.toNat < 256 by omega)
  have hleading : isLeading c.toNat = false := by
    rw [isLeading, Bool.and_eq_false_iff, decide_eq_false_iff_not]
    exact .inl (by omega)
  have htrailing : isTrailing c.toNat = false := by
    rw [isTrailing, Bool.and_eq_false_iff, decide_eq_false_iff_not]
    exact .inl (by omega)
  simp [stringBody, hfour, hleading, htrailing]

/-- An escaped character is read as the character, whatever follows. -/
theorem stringBody_escapeChar
    (c : Char)
    (rest : List Char) :
    stringBody (escapeChar c ++ rest) = prepend c (stringBody rest) := by
  by_cases hquote : c = '"'
  · subst hquote
    exact stringBody_letter (by decide) rfl rest
  by_cases hslash : c = '\\'
  · subst hslash
    exact stringBody_letter (by decide) rfl rest
  by_cases hback : c = '\x08'
  · subst hback
    exact stringBody_letter (by decide) rfl rest
  by_cases hfeed : c = '\x0c'
  · subst hfeed
    exact stringBody_letter (by decide) rfl rest
  by_cases hline : c = '\n'
  · subst hline
    exact stringBody_letter (by decide) rfl rest
  by_cases hreturn : c = '\r'
  · subst hreturn
    exact stringBody_letter (by decide) rfl rest
  by_cases htab : c = '\t'
  · subst htab
    exact stringBody_letter (by decide) rfl rest
  unfold escapeChar
  rw [if_neg hquote, if_neg hslash, if_neg hback, if_neg hfeed, if_neg hline, if_neg hreturn,
    if_neg htab]
  by_cases hcontrol : c.toNat < 0x20
  · rw [if_pos hcontrol]
    exact stringBody_control hcontrol rest
  · rw [if_neg hcontrol]
    exact stringBody_plain hquote hslash hcontrol rest

/-- A written text is read up to its closing quote. -/
theorem stringBody_flatMap
    (cs rest : List Char) :
    stringBody (cs.flatMap escapeChar ++ '"' :: rest) = .ok (cs, rest) := by
  induction cs with
  | nil =>
      simp [stringBody]
  | cons c cs ih =>
      rw [List.flatMap_cons, List.append_assoc, stringBody_escapeChar, ih]
      rfl

/-- What follows the opening quote of a written string is read as the string. -/
theorem string_renderString
    (s : String)
    (rest : List Char) :
    string (s.toList.flatMap escapeChar ++ '"' :: rest) = .ok (s, rest) := by
  unfold string
  rw [stringBody_flatMap]
  simp [andThen]

end Json
end RemoteRun
