import Mathlib.Tactic.SplitIfs
import Mathlib.Data.List.Basic
import RemoteRun.Text.Utf8

/-!
# Lossy decoding in parts

**Steps.** `decodeLossy_cons` says what decoding does with the front of its input: it makes
one character of some bytes and goes on with the others.  The bytes that follow the input
have no part in that, provided that they begin with no continuation.  All else is derived
from this by induction on the length of the input.

**Results.**
* `decodeLossy_append`: decoding may be cut in front of a byte that continues no sequence,
  also where a sequence breaks off in front of it.
* `decodeLossy_splitOn`: the lines of a decoded text are the decoded lines.
* `decodeLossy_encode`: the bytes that encode a text decode to this text.
-/

namespace RemoteRun
namespace Text

/-! ### Lead bytes -/

theorem not_lt_of_toNat_le
    {b c : UInt8}
    (h : c.toNat ≤ b.toNat) :
    ¬b < c := by
  rw [UInt8.lt_iff_toNat_lt]
  omega

theorem leadOf_one
    {b : UInt8}
    (hb : b.toNat < 0x80) :
    leadOf b = .single :=
  if_pos (UInt8.lt_iff_toNat_lt.2 hb)

theorem leadOf_two
    {b : UInt8}
    (hlow : 0xC2 ≤ b.toNat)
    (hhigh : b.toNat < 0xE0) :
    leadOf b = .more 1 0x80 0xBF := by
  have h80 : ¬b < 0x80 := not_lt_of_toNat_le (Nat.le_trans (by decide) hlow)
  have hC2 : ¬b < 0xC2 := not_lt_of_toNat_le hlow
  rw [leadOf, if_neg h80, if_neg hC2, if_pos (UInt8.lt_iff_toNat_lt.2 hhigh)]

/-- Bytes that promise two more; surrogates and what two bytes encode are excluded by the
byte after them. -/
theorem exists_leadOf_three
    {b c : UInt8}
    (hlow : 0xE0 ≤ b.toNat)
    (hhigh : b.toNat < 0xF0)
    (hc : 0x80 ≤ c.toNat ∧ c.toNat ≤ 0xBF)
    (hlong : b.toNat = 0xE0 → 0xA0 ≤ c.toNat)
    (hsurrogate : b.toNat = 0xED → c.toNat ≤ 0x9F) :
    ∃ low high, leadOf b = .more 2 low high ∧ low ≤ c ∧ c ≤ high := by
  by_cases hE0 : b = 0xE0
  · subst hE0
    exact ⟨0xA0, 0xBF, rfl, UInt8.le_iff_toNat_le.2 (hlong rfl), UInt8.le_iff_toNat_le.2 hc.2⟩
  by_cases hED : b = 0xED
  · subst hED
    exact ⟨0x80, 0x9F, rfl, UInt8.le_iff_toNat_le.2 hc.1,
      UInt8.le_iff_toNat_le.2 (hsurrogate rfl)⟩
  have h80 : ¬b < 0x80 := not_lt_of_toNat_le (Nat.le_trans (by decide) hlow)
  have hC2 : ¬b < 0xC2 := not_lt_of_toNat_le (Nat.le_trans (by decide) hlow)
  have hltE0 : ¬b < 0xE0 := not_lt_of_toNat_le hlow
  refine ⟨0x80, 0xBF, ?_, UInt8.le_iff_toNat_le.2 hc.1, UInt8.le_iff_toNat_le.2 hc.2⟩
  rw [leadOf, if_neg h80, if_neg hC2, if_neg hltE0, if_neg hE0, if_neg hED,
    if_pos (UInt8.lt_iff_toNat_lt.2 hhigh)]

/-- Bytes that promise three more; what three bytes encode and what is no character are
excluded by the byte after them. -/
theorem exists_leadOf_four
    {b c : UInt8}
    (hlow : 0xF0 ≤ b.toNat)
    (hhigh : b.toNat < 0xF5)
    (hc : 0x80 ≤ c.toNat ∧ c.toNat ≤ 0xBF)
    (hlong : b.toNat = 0xF0 → 0x90 ≤ c.toNat)
    (hlast : b.toNat = 0xF4 → c.toNat ≤ 0x8F) :
    ∃ low high, leadOf b = .more 3 low high ∧ low ≤ c ∧ c ≤ high := by
  by_cases hF0 : b = 0xF0
  · subst hF0
    exact ⟨0x90, 0xBF, rfl, UInt8.le_iff_toNat_le.2 (hlong rfl), UInt8.le_iff_toNat_le.2 hc.2⟩
  by_cases hF4 : b = 0xF4
  · subst hF4
    exact ⟨0x80, 0x8F, rfl, UInt8.le_iff_toNat_le.2 hc.1, UInt8.le_iff_toNat_le.2 (hlast rfl)⟩
  have hne : b.toNat ≠ 0xF4 := fun h => hF4 (UInt8.toNat_inj.1 h)
  have hE0 : b ≠ 0xE0 := by
    rintro rfl
    exact absurd hlow (by decide)
  have hED : b ≠ 0xED := by
    rintro rfl
    exact absurd hlow (by decide)
  have h80 : ¬b < 0x80 := not_lt_of_toNat_le (Nat.le_trans (by decide) hlow)
  have hC2 : ¬b < 0xC2 := not_lt_of_toNat_le (Nat.le_trans (by decide) hlow)
  have hltE0 : ¬b < 0xE0 := not_lt_of_toNat_le (Nat.le_trans (by decide) hlow)
  have hltF0 : ¬b < 0xF0 := not_lt_of_toNat_le hlow
  have hlt : b.toNat < 0xF4 := by
    omega
  refine ⟨0x80, 0xBF, ?_, UInt8.le_iff_toNat_le.2 hc.1, UInt8.le_iff_toNat_le.2 hc.2⟩
  rw [leadOf, if_neg h80, if_neg hC2, if_neg hltE0, if_neg hE0, if_neg hED, if_neg hltF0,
    if_neg hF0, if_pos (UInt8.lt_iff_toNat_lt.2 hlt)]

/-- What a byte is that promises more. -/
theorem leadOf_eq_more
    {b low high : UInt8}
    {count : Nat}
    (h : leadOf b = .more count low high) :
    0x80 ≤ low.toNat ∧ high.toNat ≤ 0xBF ∧
      (count = 1 ∧ 0xC2 ≤ b.toNat ∧ b.toNat < 0xE0 ∨
        count = 2 ∧ 0xE0 ≤ b.toNat ∧ b.toNat < 0xF0 ∧
          (b.toNat = 0xE0 → 0xA0 ≤ low.toNat) ∨
        count = 3 ∧ 0xF0 ≤ b.toNat ∧ b.toNat < 0xF5 ∧
          (b.toNat = 0xF0 → 0x90 ≤ low.toNat)) := by
  simp only [leadOf, UInt8.lt_iff_toNat_lt, ← UInt8.toNat_inj, UInt8.reduceToNat] at h
  repeat' split at h
  all_goals cases h
  all_goals simp only [UInt8.reduceToNat]
  all_goals grind

/-! ### Whole sequences -/

theorem decodeLossy_pair
    {b c low high : UInt8}
    (hlead : leadOf b = .more 1 low high)
    (hc : low ≤ c ∧ c ≤ high)
    (rest : List UInt8) :
    decodeLossy (b :: c :: rest) =
      Char.ofNat (b.toNat % 32 * 64 + low6 c) :: decodeLossy rest := by
  rw [decodeLossy, hlead]
  simp only [hc, and_self, not_true, if_false, if_true]

theorem decodeLossy_triple
    {b c d low high : UInt8}
    (hlead : leadOf b = .more 2 low high)
    (hc : low ≤ c ∧ c ≤ high)
    (hd : isContinuation d = true)
    (rest : List UInt8) :
    decodeLossy (b :: c :: d :: rest) =
      Char.ofNat ((b.toNat % 16 * 64 + low6 c) * 64 + low6 d) :: decodeLossy rest := by
  rw [decodeLossy, hlead]
  simp [hc, hd]

theorem decodeLossy_quadruple
    {b c d e low high : UInt8}
    (hlead : leadOf b = .more 3 low high)
    (hc : low ≤ c ∧ c ≤ high)
    (hd : isContinuation d = true)
    (he : isContinuation e = true)
    (rest : List UInt8) :
    decodeLossy (b :: c :: d :: e :: rest) =
      Char.ofNat (((b.toNat % 8 * 64 + low6 c) * 64 + low6 d) * 64 + low6 e) ::
        decodeLossy rest := by
  rw [decodeLossy, hlead]
  simp [hc, hd, he]

theorem toNat_ofNat
    (n : Nat) :
    (Char.ofNat n).toNat = if n.isValidChar then n else 0 := by
  by_cases h : n.isValidChar
  · rw [if_pos h, Char.ofNat, dif_pos h]
    rfl
  · rw [if_neg h, Char.ofNat, dif_neg h]
    rfl

theorem ofNat_eq_lineFeed
    {n : Nat}
    (h : Char.ofNat n = '\n') :
    n = 10 := by
  have hnat := congrArg Char.toNat h
  rw [toNat_ofNat] at hnat
  split_ifs at hnat
  · exact hnat
  · exact absurd hnat (by decide)

/-! ### One step -/

/-- Whether what is begun in front of some bytes ends there. -/
def Breaks (bytes : List UInt8) : Prop :=
  ∀ b ∈ bytes.head?, isContinuation b = false

theorem breaks_nil :
    Breaks [] := by
  simp [Breaks]

theorem isContinuation_iff
    (b : UInt8) :
    isContinuation b = true ↔ 0x80 ≤ b.toNat ∧ b.toNat ≤ 0xBF := by
  simp [isContinuation, UInt8.le_iff_toNat_le]

/-- What breaks off a sequence is no byte of it. -/
theorem Breaks.not_between
    {b t low high : UInt8}
    {count : Nat}
    {ts : List UInt8}
    (hbreaks : Breaks (t :: ts))
    (hlead : leadOf b = .more count low high) :
    ¬(low ≤ t ∧ t ≤ high) := by
  have ht : isContinuation t = false := hbreaks t rfl
  obtain ⟨hlow, hhigh, _⟩ := leadOf_eq_more hlead
  rintro ⟨hge, hle⟩
  rw [UInt8.le_iff_toNat_le] at hge hle
  have := (isContinuation_iff t).2 ⟨by omega, by omega⟩
  simp [ht] at this

/-- Decoding makes one character of some bytes at the front and goes on with the others,
whatever follows the input. -/
theorem decodeLossy_cons
    (b : UInt8)
    (bs : List UInt8) :
    ∃ c rest, rest <:+ bs ∧ (c = '\n' → b = 10) ∧
      ∀ ts, Breaks ts → decodeLossy (b :: (bs ++ ts)) = c :: decodeLossy (rest ++ ts) := by
  -- What cannot be decoded becomes a replacement, which is no line feed.
  have hreplaced : ∀ {rest : List UInt8}, rest <:+ bs →
      (∀ ts, Breaks ts →
        decodeLossy (b :: (bs ++ ts)) = replacement :: decodeLossy (rest ++ ts)) →
      ∃ c rest, rest <:+ bs ∧ (c = '\n' → b = 10) ∧
        ∀ ts, Breaks ts → decodeLossy (b :: (bs ++ ts)) = c :: decodeLossy (rest ++ ts) :=
    fun hsuffix hdecode =>
      ⟨replacement, _, hsuffix, fun h => absurd h (by decide), hdecode⟩
  cases hlead : leadOf b with
  | single =>
      refine ⟨Char.ofNat b.toNat, bs, List.suffix_refl bs, ?_, ?_⟩
      · intro h
        exact UInt8.toNat_inj.1 (ofNat_eq_lineFeed h)
      · intro ts _
        rw [decodeLossy, hlead]
  | invalid =>
      refine hreplaced (List.suffix_refl bs) ?_
      intro ts _
      rw [decodeLossy, hlead]
  | more count low high =>
      obtain ⟨hlow, hhigh, hcount⟩ := leadOf_eq_more hlead
      rcases bs with _ | ⟨c, bs⟩
      · refine hreplaced (List.suffix_refl []) ?_
        rintro (_ | ⟨t, ts⟩) hbreaks
        · simp [decodeLossy, hlead]
        · rw [List.nil_append, decodeLossy, hlead]
          simp [hbreaks.not_between hlead]
      by_cases hc : low ≤ c ∧ c ≤ high
      swap
      · refine hreplaced (List.suffix_refl _) ?_
        intro ts _
        rw [List.cons_append, decodeLossy, hlead]
        simp only [hc, not_false_eq_true, if_true]
      have hclow := UInt8.le_iff_toNat_le.1 hc.1
      have hchigh := UInt8.le_iff_toNat_le.1 hc.2
      rcases hcount with ⟨rfl, hb⟩ | hcount
      · refine ⟨_, bs, List.suffix_cons c bs, ?_,
          fun ts _ => decodeLossy_pair hlead hc (bs ++ ts)⟩
        intro h
        have := ofNat_eq_lineFeed h
        simp only [low6] at this
        omega
      have hone : count ≠ 1 := by
        omega
      rcases bs with _ | ⟨d, bs⟩
      · refine hreplaced (List.suffix_cons c []) ?_
        rintro (_ | ⟨t, ts⟩) hbreaks
        · simp [decodeLossy, hlead, hc, hone]
        · have ht : isContinuation t = false := hbreaks t rfl
          rw [List.cons_append, List.nil_append, decodeLossy, hlead]
          simp [hc, hone, ht]
      cases hd : isContinuation d with
      | false =>
          refine hreplaced (List.suffix_cons c (d :: bs)) ?_
          intro ts _
          rw [List.cons_append, List.cons_append, decodeLossy, hlead]
          simp [hc, hone, hd]
      | true =>
          have hdrange := (isContinuation_iff d).1 hd
          rcases hcount with ⟨rfl, hb⟩ | ⟨rfl, hb⟩
          · refine ⟨_, bs, ⟨[c, d], rfl⟩, ?_,
              fun ts _ => decodeLossy_triple hlead hc hd (bs ++ ts)⟩
            intro h
            have := ofNat_eq_lineFeed h
            simp only [low6] at this
            omega
          rcases bs with _ | ⟨e, bs⟩
          · refine hreplaced (List.suffix_append [c, d] []) ?_
            rintro (_ | ⟨t, ts⟩) hbreaks
            · simp [decodeLossy, hlead, hc, hd]
            · have ht : isContinuation t = false := hbreaks t rfl
              rw [List.cons_append, List.cons_append, List.nil_append, decodeLossy, hlead]
              simp [hc, hd, ht]
          cases he : isContinuation e with
          | false =>
              refine hreplaced (List.suffix_append [c, d] (e :: bs)) ?_
              intro ts _
              rw [List.cons_append, List.cons_append, List.cons_append, decodeLossy, hlead]
              simp [hc, hd, he]
          | true =>
              have herange := (isContinuation_iff e).1 he
              refine ⟨_, bs, ⟨[c, d, e], rfl⟩, ?_,
                fun ts _ => decodeLossy_quadruple hlead hc hd he (bs ++ ts)⟩
              intro h
              have := ofNat_eq_lineFeed h
              simp only [low6] at this
              omega

/-- Decoding may be cut where nothing is begun. -/
theorem decodeLossy_append
    (bytes : List UInt8)
    {ts : List UInt8}
    (hts : Breaks ts) :
    decodeLossy (bytes ++ ts) = decodeLossy bytes ++ decodeLossy ts := by
  induction hn : bytes.length using Nat.strongRecOn generalizing bytes with
  | ind n ih =>
      cases bytes with
      | nil =>
          rfl
      | cons b bs =>
          obtain ⟨c, rest, hrest, -, hdecode⟩ := decodeLossy_cons b bs
          have hshorter : rest.length < n := by
            have := hrest.length_le
            simp only [List.length_cons] at hn
            omega
          have halone := hdecode [] breaks_nil
          simp only [List.append_nil] at halone
          rw [List.cons_append, hdecode ts hts, halone, ih _ hshorter rest rfl,
            List.cons_append]

/-- A decoded line feed was encoded as one. -/
theorem lineFeed_mem_of_decodeLossy
    (bytes : List UInt8)
    (h : '\n' ∈ decodeLossy bytes) :
    10 ∈ bytes := by
  induction hn : bytes.length using Nat.strongRecOn generalizing bytes with
  | ind n ih =>
      cases bytes with
      | nil =>
          simp [decodeLossy] at h
      | cons b bs =>
          obtain ⟨c, rest, hrest, hc, hdecode⟩ := decodeLossy_cons b bs
          have halone := hdecode [] breaks_nil
          simp only [List.append_nil] at halone
          rw [halone, List.mem_cons] at h
          rcases h with h | h
          · rw [hc h.symm]
            exact List.mem_cons_self
          · have hshorter : rest.length < n := by
              have := hrest.length_le
              simp only [List.length_cons] at hn
              omega
            exact List.mem_cons_of_mem b (hrest.subset (ih _ hshorter rest h rfl))

/-! ### Lines -/

theorem breaks_lineFeed
    (bytes : List UInt8) :
    Breaks (10 :: bytes) := by
  intro b hb
  cases hb
  rfl

theorem decodeLossy_lineFeed
    (bytes : List UInt8) :
    decodeLossy (10 :: bytes) = '\n' :: decodeLossy bytes :=
  rfl

/-- The lines of a decoded text are the decoded lines. -/
theorem decodeLossy_splitOn
    (bytes : List UInt8) :
    (decodeLossy bytes).splitOn '\n' = (bytes.splitOn 10).map decodeLossy := by
  induction hn : bytes.length using Nat.strongRecOn generalizing bytes with
  | ind n ih =>
      by_cases h : 10 ∈ bytes
      · obtain ⟨line, rest, rfl, hline⟩ := List.eq_append_cons_of_mem h
        have htext : '\n' ∉ decodeLossy line := fun hmem =>
          hline (lineFeed_mem_of_decodeLossy line hmem)
        have hshorter : rest.length < n := by
          simp only [List.length_append, List.length_cons] at hn
          omega
        rw [decodeLossy_append line (breaks_lineFeed rest), decodeLossy_lineFeed,
          List.splitOn_append_cons_self_of_not_mem htext,
          List.splitOn_append_cons_self_of_not_mem hline, ih _ hshorter rest rfl,
          List.map_cons]
      · have htext : '\n' ∉ decodeLossy bytes := fun hmem =>
          h (lineFeed_mem_of_decodeLossy bytes hmem)
        rw [List.splitOn_eq_singleton htext, List.splitOn_eq_singleton h, List.map_singleton]

/-! ### Encoded texts -/

theorem toNat_continuation
    (n : Nat) :
    (UInt8.ofNat (n % 64 + 128)).toNat = n % 64 + 128 := by
  rw [UInt8.toNat_ofNat']
  omega

@[simp] theorem low6_continuation
    (n : Nat) :
    low6 (UInt8.ofNat (n % 64 + 128)) = n % 64 := by
  rw [low6, toNat_continuation]
  omega

theorem isContinuation_continuation
    (n : Nat) :
    isContinuation (UInt8.ofNat (n % 64 + 128)) = true := by
  rw [isContinuation_iff, toNat_continuation]
  omega

/-- The bytes of a character decode to it. -/
theorem decodeLossy_encodeChar
    (c : Char)
    (rest : List UInt8) :
    decodeLossy (String.utf8EncodeChar c ++ rest) = c :: decodeLossy rest := by
  have hvalid : c.toNat < 0xD800 ∨ 0xDFFF < c.toNat ∧ c.toNat < 0x110000 := c.valid
  have hchar : ∀ {n : Nat}, n = c.toNat → Char.ofNat n = c := by
    rintro n rfl
    exact Char.ofNat_toNat c
  have hval : c.val.toNat = c.toNat := rfl
  simp only [String.utf8EncodeChar, hval]
  split_ifs with h1 h2 h3
  · have hb : (UInt8.ofNat c.toNat).toNat = c.toNat := by
      rw [UInt8.toNat_ofNat']
      omega
    rw [List.singleton_append, decodeLossy, leadOf_one (by omega)]
    simp only [hchar hb]
  · have hb : (UInt8.ofNat (c.toNat / 64 % 32 + 192)).toNat = c.toNat / 64 % 32 + 192 := by
      rw [UInt8.toNat_ofNat']
      omega
    have hlead := leadOf_two (b := UInt8.ofNat (c.toNat / 64 % 32 + 192))
      (by omega) (by omega)
    have hnext := (isContinuation_iff _).1 (isContinuation_continuation c.toNat)
    rw [List.cons_append, List.singleton_append, decodeLossy_pair hlead hnext,
      low6_continuation, hchar (by omega)]
  · have hb : (UInt8.ofNat (c.toNat / 4096 % 16 + 224)).toNat = c.toNat / 4096 % 16 + 224 := by
      rw [UInt8.toNat_ofNat']
      omega
    have hnext := toNat_continuation (c.toNat / 64)
    obtain ⟨low, high, hlead, hbetween⟩ :=
      exists_leadOf_three (b := UInt8.ofNat (c.toNat / 4096 % 16 + 224))
        (c := UInt8.ofNat (c.toNat / 64 % 64 + 128))
        (by omega) (by omega) (by omega) (by omega) (by omega)
    simp only [List.cons_append, List.nil_append]
    rw [decodeLossy_triple hlead hbetween (isContinuation_continuation _),
      low6_continuation, low6_continuation, hchar (by omega)]
  · have hb : (UInt8.ofNat (c.toNat / 262144 % 8 + 240)).toNat = c.toNat / 262144 % 8 + 240 := by
      rw [UInt8.toNat_ofNat']
      omega
    have hnext := toNat_continuation (c.toNat / 4096)
    obtain ⟨low, high, hlead, hbetween⟩ :=
      exists_leadOf_four (b := UInt8.ofNat (c.toNat / 262144 % 8 + 240))
        (c := UInt8.ofNat (c.toNat / 4096 % 64 + 128))
        (by omega) (by omega) (by omega) (by omega) (by omega)
    simp only [List.cons_append, List.nil_append]
    rw [decodeLossy_quadruple hlead hbetween (isContinuation_continuation _)
        (isContinuation_continuation _),
      low6_continuation, low6_continuation, low6_continuation, hchar (by omega)]

/-- The bytes that encode a text decode to this text. -/
theorem decodeLossy_encode
    (cs : List Char) :
    decodeLossy (cs.flatMap String.utf8EncodeChar) = cs := by
  induction cs with
  | nil =>
      rfl
  | cons c cs ih =>
      rw [List.flatMap_cons, decodeLossy_encodeChar, ih]

end Text
end RemoteRun
