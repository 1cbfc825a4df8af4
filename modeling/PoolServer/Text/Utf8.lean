/-!
# Bytes and their UTF-8 reading

Everything that travels over a connection, sits in a file or comes out of a program is a list of
bytes. Text becomes bytes by UTF-8 encoding, and bytes become text only when they are well-formed
UTF-8: the reader below accepts exactly the byte sequences of the Unicode standard's table of
well-formed sequences (no overlong forms, no surrogates, nothing above U+10FFFF), one scalar value
at a time.

Main statements: `encode` writes every character as one to four bytes, and a decoded character
consumes at least one byte, so `decode` ends.
-/
namespace PoolServer

/-- Raw octets, as read from a connection or written to one. -/
abbrev Bytes := List UInt8

namespace Utf8

/-- The bytes of a text in UTF-8. -/
def encode (s : String) : Bytes := s.toList.flatMap String.utf8EncodeChar

@[simp] theorem encode_empty : encode "" = [] := rfl

@[simp] theorem encode_append (s t : String) : encode (s ++ t) = encode s ++ encode t := by
  simp [encode]

/-- Only the empty text has no bytes. -/
theorem encode_eq_nil {s : String} : encode s = [] ↔ s = "" := by
  simp [encode, String.utf8EncodeChar_ne_nil, ← List.eq_nil_iff_forall_not_mem]

/-- A continuation byte has the bit pattern `10xxxxxx`. -/
def IsTail (b : UInt8) : Bool := 0x80 ≤ b && b ≤ 0xBF

/-- The low six bits of a continuation byte. -/
def tailBits (b : UInt8) : Nat := b.toNat % 64

/-- Reads the scalar value that the lead byte `b₀` starts, from the bytes after it, together with
the number of continuation bytes it uses. The ranges of the second byte after `E0`, `ED`, `F0` and
`F4` rule out overlong forms, surrogates and values past U+10FFFF. -/
def scalar (b₀ : UInt8) (rest : Bytes) : Option (Char × Nat) :=
  if b₀ < 0x80 then some (Char.ofNat b₀.toNat, 0)
  else if 0xC2 ≤ b₀ && b₀ ≤ 0xDF then
    match rest with
    | b₁ :: _ =>
      if IsTail b₁ then some (Char.ofNat ((b₀.toNat % 32) * 64 + tailBits b₁), 1) else none
    | [] => none
  else if 0xE0 ≤ b₀ && b₀ ≤ 0xEF then
    match rest with
    | b₁ :: b₂ :: _ =>
      let lo : UInt8 := if b₀ = 0xE0 then 0xA0 else 0x80
      let hi : UInt8 := if b₀ = 0xED then 0x9F else 0xBF
      if lo ≤ b₁ && b₁ ≤ hi && IsTail b₂ then
        some (Char.ofNat ((b₀.toNat % 16) * 4096 + tailBits b₁ * 64 + tailBits b₂), 2)
      else none
    | _ => none
  else if 0xF0 ≤ b₀ && b₀ ≤ 0xF4 then
    match rest with
    | b₁ :: b₂ :: b₃ :: _ =>
      let lo : UInt8 := if b₀ = 0xF0 then 0x90 else 0x80
      let hi : UInt8 := if b₀ = 0xF4 then 0x8F else 0xBF
      if lo ≤ b₁ && b₁ ≤ hi && IsTail b₂ && IsTail b₃ then
        some (Char.ofNat ((b₀.toNat % 8) * 262144 + tailBits b₁ * 4096 + tailBits b₂ * 64 +
          tailBits b₃), 3)
      else none
    | _ => none
  else none

/-- Reads one scalar value from the front of the bytes, with the bytes after it. -/
def step : Bytes → Option (Char × Bytes)
  | [] => none
  | b₀ :: rest => (scalar b₀ rest).map fun r => (r.1, rest.drop r.2)

/-- A step always consumes at least one byte. -/
theorem step_length {bs rest : Bytes} {c : Char} (h : step bs = some (c, rest)) :
    rest.length < bs.length := by
  cases bs with
  | nil => simp [step] at h
  | cons b₀ tl =>
    simp only [step, Option.map_eq_some_iff] at h
    obtain ⟨r, _, hr⟩ := h
    cases hr
    simp only [List.length_drop, List.length_cons]
    omega

/-- The characters of well-formed UTF-8, or `none` at the first ill-formed sequence. -/
def decode (bs : Bytes) : Option (List Char) :=
  match h : step bs with
  | none => if bs = [] then some [] else none
  | some (c, rest) => (decode rest).map (c :: ·)
termination_by bs.length
decreasing_by exact step_length h

/-- The text of well-formed UTF-8. -/
def text? (bs : Bytes) : Option String := (decode bs).map String.ofList

end Utf8

end PoolServer
