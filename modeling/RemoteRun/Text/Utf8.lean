/-!
# Lossy decoding

**Input.** Bytes that should encode characters.

**Algorithm.** A lead byte says how many bytes follow and which the first of them
may be.  Where a sequence breaks off, the bytes that were well formed so far
become one replacement character and decoding goes on with the next byte.

**Results.** `decodeLossy` is total; it loses nothing of well-formed input.
-/

namespace RemoteRun
namespace Text

/-- The character that stands for bytes that encode none. -/
def replacement : Char := '\ufffd'

/-- Whether a byte continues a sequence. -/
def isContinuation (b : UInt8) : Bool :=
  0x80 ≤ b && b ≤ 0xBF

/-- What a lead byte promises: the number of bytes after it, and the range of the
first of them. -/
inductive Lead where
  | single
  | more (count : Nat) (low high : UInt8)
  | invalid

/-- The promise of a lead byte. -/
def leadOf (b : UInt8) : Lead :=
  if b < 0x80 then .single
  else if b < 0xC2 then .invalid
  else if b < 0xE0 then .more 1 0x80 0xBF
  else if b = 0xE0 then .more 2 0xA0 0xBF
  else if b = 0xED then .more 2 0x80 0x9F
  else if b < 0xF0 then .more 2 0x80 0xBF
  else if b = 0xF0 then .more 3 0x90 0xBF
  else if b < 0xF4 then .more 3 0x80 0xBF
  else if b = 0xF4 then .more 3 0x80 0x8F
  else .invalid

/-- The payload of a continuation byte. -/
def low6 (b : UInt8) : Nat := b.toNat % 64

/-- The characters of a byte sequence. -/
def decodeLossy : List UInt8 → List Char
  | [] => []
  | b :: rest =>
      match leadOf b with
      | .single => Char.ofNat b.toNat :: decodeLossy rest
      | .invalid => replacement :: decodeLossy rest
      | .more count low high =>
          match rest with
          | [] => [replacement]
          | c :: rest₁ =>
              if ¬(low ≤ c ∧ c ≤ high) then replacement :: decodeLossy (c :: rest₁)
              else if count = 1 then
                Char.ofNat (b.toNat % 32 * 64 + low6 c) :: decodeLossy rest₁
              else
                match rest₁ with
                | [] => [replacement]
                | d :: rest₂ =>
                    if ¬isContinuation d then replacement :: decodeLossy (d :: rest₂)
                    else if count = 2 then
                      Char.ofNat ((b.toNat % 16 * 64 + low6 c) * 64 + low6 d) ::
                        decodeLossy rest₂
                    else
                      match rest₂ with
                      | [] => [replacement]
                      | e :: rest₃ =>
                          if ¬isContinuation e then replacement :: decodeLossy (e :: rest₃)
                          else
                            Char.ofNat
                              (((b.toNat % 8 * 64 + low6 c) * 64 + low6 d) * 64 + low6 e) ::
                              decodeLossy rest₃

end Text
end RemoteRun
