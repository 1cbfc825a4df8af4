import Mathlib
import PoolServer.Text.Utf8
/-!
# UTF-8 reads back its own encoding

The decoder accepts exactly the well-formed sequences of the Unicode standard; the encoder writes
each scalar value in the shortest form. This module shows that the two fit: the decoder reads every
character's bytes back as that character (`Utf8.step_encodeChar`), so decoding inverts encoding
(`Utf8.decode_encode`). A byte below 128 stands in an encoding only as an ASCII character of its
own (`Utf8.toNat_eq_of_mem`), so a line ending in the bytes is a line ending in the text.

The proofs move each byte to its value: a lead byte keeps the high bits of the scalar value
behind a fixed prefix, and each continuation byte six bits behind `10`.
-/
namespace PoolServer

namespace Utf8

/-- A character is a Unicode scalar value: below the surrogates, or above them and below
U+110000. -/
theorem toNat_valid (c : Char) : c.toNat < 0xd800 ∨ (0xdfff < c.toNat ∧ c.toNat < 0x110000) := by
  rcases c.valid with h | ⟨h₁, h₂⟩
  · exact .inl h
  · exact .inr ⟨h₁, h₂⟩

/-- A byte cut to its low `k` bits and given the high bits `h`. -/
theorem masked_toNat (x m h : UInt8) (k t : Nat) (hm : m.toNat = 2 ^ k - 1)
    (hh : h.toNat = 2 ^ k * t) :
    (x &&& m ||| h).toNat = 2 ^ k * t + x.toNat % 2 ^ k := by
  rw [UInt8.toNat_or, UInt8.toNat_and, hm, hh, Nat.and_two_pow_sub_one_eq_mod, Nat.or_comm,
    ← Nat.two_pow_add_eq_or_of_lt (Nat.mod_lt _ (Nat.two_pow_pos k))]

theorem shifted_toNat (c : Char) (s : UInt32) (hs : s.toNat < 32) :
    (c.val >>> s).toUInt8.toNat = c.toNat / 2 ^ s.toNat % 256 := by
  rw [UInt32.toNat_toUInt8, UInt32.toNat_shiftRight, Nat.mod_eq_of_lt hs, Nat.shiftRight_eq_div_pow]
  rfl

theorem low_toNat (c : Char) : c.val.toUInt8.toNat = c.toNat % 256 := by
  rw [UInt32.toNat_toUInt8]
  rfl

theorem ofNat_eq {c : Char} {n : Nat} (h : n = c.toNat) : Char.ofNat n = c := by
  rw [h, Char.ofNat_toNat]

/-- A character's bytes read back as the character, leaving the bytes after them. -/
theorem step_encodeChar (c : Char) (rest : Bytes) :
    step (String.utf8EncodeChar c ++ rest) = some (c, rest) := by
  have hv := toNat_valid c
  rcases Char.utf8Size_eq c with h | h | h | h
  · rw [String.utf8EncodeChar_eq_singleton h]
    have hc : c.toNat ≤ 127 := Char.utf8Size_eq_one_iff.1 h
    have hb := low_toNat c
    generalize c.val.toUInt8 = b₀ at hb
    simp only [List.cons_append, List.nil_append, step, scalar, UInt8.lt_iff_toNat_lt, hb]
    rw [if_pos (by simp; omega)]
    simp [ofNat_eq (show c.toNat % 256 = c.toNat by omega)]
  · rw [String.utf8EncodeChar_eq_cons_cons h]
    have hc : 127 < c.toNat ∧ c.toNat ≤ 0x7ff := Char.utf8Size_eq_two_iff.1 h
    have hb₀ := masked_toNat (c.val >>> 6).toUInt8 0x1f 0xc0 5 6 rfl rfl
    have hb₁ := masked_toNat c.val.toUInt8 0x3f 0x80 6 2 rfl rfl
    rw [shifted_toNat c 6 (by decide)] at hb₀
    rw [low_toNat] at hb₁
    generalize ((c.val >>> 6).toUInt8 &&& 0x1f ||| 0xc0) = b₀ at hb₀
    generalize (c.val.toUInt8 &&& 0x3f ||| 0x80) = b₁ at hb₁
    simp only [Nat.reducePow, Nat.reduceMul, show UInt32.toNat 6 = 6 from rfl] at hb₀ hb₁
    have e₀ : b₀.toNat = 192 + c.toNat / 64 := by omega
    have e₁ : b₁.toNat = 128 + c.toNat % 64 := by omega
    simp [step, scalar, UInt8.lt_iff_toNat_lt, UInt8.le_iff_toNat_le, e₀, e₁, IsTail, tailBits]
    rw [if_neg (by omega), if_pos (by omega), if_pos (by omega)]
    refine ⟨1, ?_, rfl⟩
    congr 2
    exact ofNat_eq (by omega)
  · rw [String.utf8EncodeChar_eq_cons_cons_cons h]
    have hc : 0x7ff < c.toNat ∧ c.toNat ≤ 0xffff := Char.utf8Size_eq_three_iff.1 h
    have hb₀ := masked_toNat (c.val >>> 12).toUInt8 0x0f 0xe0 4 14 rfl rfl
    have hb₁ := masked_toNat (c.val >>> 6).toUInt8 0x3f 0x80 6 2 rfl rfl
    have hb₂ := masked_toNat c.val.toUInt8 0x3f 0x80 6 2 rfl rfl
    rw [shifted_toNat c 12 (by decide)] at hb₀
    rw [shifted_toNat c 6 (by decide)] at hb₁
    rw [low_toNat] at hb₂
    generalize ((c.val >>> 12).toUInt8 &&& 0x0f ||| 0xe0) = b₀ at hb₀
    generalize ((c.val >>> 6).toUInt8 &&& 0x3f ||| 0x80) = b₁ at hb₁
    generalize (c.val.toUInt8 &&& 0x3f ||| 0x80) = b₂ at hb₂
    simp only [Nat.reducePow, Nat.reduceMul, show UInt32.toNat 6 = 6 from rfl,
      show UInt32.toNat 12 = 12 from rfl] at hb₀ hb₁ hb₂
    have e₀ : b₀.toNat = 224 + c.toNat / 4096 := by omega
    have e₁ : b₁.toNat = 128 + c.toNat / 64 % 64 := by omega
    have e₂ : b₂.toNat = 128 + c.toNat % 64 := by omega
    have hE0 : b₀ = 224 ↔ c.toNat / 4096 = 0 := by
      rw [← UInt8.toNat_inj, e₀, show (224 : UInt8).toNat = 224 from rfl]; omega
    have hED : b₀ = 237 ↔ c.toNat / 4096 = 13 := by
      rw [← UInt8.toNat_inj, e₀, show (237 : UInt8).toNat = 237 from rfl]; omega
    simp [step, scalar, UInt8.lt_iff_toNat_lt, UInt8.le_iff_toNat_le, e₀, e₁, e₂, IsTail, tailBits,
      hE0, hED]
    rw [if_neg (by omega), if_neg (by omega), if_pos (by omega),
      if_pos (by split <;> split <;> simp <;> omega)]
    refine ⟨2, ?_, rfl⟩
    congr 2
    exact ofNat_eq (by omega)
  · rw [String.utf8EncodeChar_eq_cons_cons_cons_cons h]
    have hc : 0xffff < c.toNat := Char.utf8Size_eq_four_iff.1 h
    have hb₀ := masked_toNat (c.val >>> 18).toUInt8 0x07 0xf0 3 30 rfl rfl
    have hb₁ := masked_toNat (c.val >>> 12).toUInt8 0x3f 0x80 6 2 rfl rfl
    have hb₂ := masked_toNat (c.val >>> 6).toUInt8 0x3f 0x80 6 2 rfl rfl
    have hb₃ := masked_toNat c.val.toUInt8 0x3f 0x80 6 2 rfl rfl
    rw [shifted_toNat c 18 (by decide)] at hb₀
    rw [shifted_toNat c 12 (by decide)] at hb₁
    rw [shifted_toNat c 6 (by decide)] at hb₂
    rw [low_toNat] at hb₃
    generalize ((c.val >>> 18).toUInt8 &&& 0x07 ||| 0xf0) = b₀ at hb₀
    generalize ((c.val >>> 12).toUInt8 &&& 0x3f ||| 0x80) = b₁ at hb₁
    generalize ((c.val >>> 6).toUInt8 &&& 0x3f ||| 0x80) = b₂ at hb₂
    generalize (c.val.toUInt8 &&& 0x3f ||| 0x80) = b₃ at hb₃
    simp only [Nat.reducePow, Nat.reduceMul, show UInt32.toNat 6 = 6 from rfl,
      show UInt32.toNat 12 = 12 from rfl, show UInt32.toNat 18 = 18 from rfl] at hb₀ hb₁ hb₂ hb₃
    have e₀ : b₀.toNat = 240 + c.toNat / 262144 := by omega
    have e₁ : b₁.toNat = 128 + c.toNat / 4096 % 64 := by omega
    have e₂ : b₂.toNat = 128 + c.toNat / 64 % 64 := by omega
    have e₃ : b₃.toNat = 128 + c.toNat % 64 := by omega
    have hF0 : b₀ = 240 ↔ c.toNat / 262144 = 0 := by
      rw [← UInt8.toNat_inj, e₀, show (240 : UInt8).toNat = 240 from rfl]; omega
    have hF4 : b₀ = 244 ↔ c.toNat / 262144 = 4 := by
      rw [← UInt8.toNat_inj, e₀, show (244 : UInt8).toNat = 244 from rfl]; omega
    simp [step, scalar, UInt8.lt_iff_toNat_lt, UInt8.le_iff_toNat_le, e₀, e₁, e₂, e₃, IsTail,
      tailBits, hF0, hF4]
    rw [if_neg (by omega), if_neg (by omega), if_neg (by omega), if_pos (by omega),
      if_pos (by split <;> split <;> simp <;> omega)]
    refine ⟨3, ?_, rfl⟩
    congr 2
    exact ofNat_eq (by omega)

/-- Decoding reads back the encoding of every list of characters. -/
theorem decode_flatMap (cs : List Char) : decode (cs.flatMap String.utf8EncodeChar) = some cs := by
  induction cs with
  | nil => simp [decode, step]
  | cons c cs ih =>
    rw [List.flatMap_cons, decode]
    split
    · next h => rw [step_encodeChar] at h; cases h
    · next c' rest h =>
      rw [step_encodeChar] at h
      cases h
      rw [ih]
      rfl

theorem decode_encode (s : String) : decode (encode s) = some s.toList := decode_flatMap s.toList

/-- A byte below 128 in a character's encoding is the whole encoding of an ASCII character. -/
theorem toNat_eq_of_mem {b : UInt8} {c : Char} (hb : b ∈ String.utf8EncodeChar c)
    (hlt : b.toNat < 128) :
    b.toNat = c.toNat := by
  rcases Char.utf8Size_eq c with h | h | h | h
  · rw [String.utf8EncodeChar_eq_singleton h, List.mem_singleton] at hb
    subst hb
    have := Char.utf8Size_eq_one_iff.1 h
    rw [low_toNat]
    have : c.toNat ≤ 127 := this
    omega
  · rw [String.utf8EncodeChar_eq_cons_cons h] at hb
    simp only [List.mem_cons, List.not_mem_nil, or_false] at hb
    rcases hb with rfl | rfl
    · rw [masked_toNat _ _ _ 5 6 rfl rfl] at hlt; omega
    · rw [masked_toNat _ _ _ 6 2 rfl rfl] at hlt; omega
  · rw [String.utf8EncodeChar_eq_cons_cons_cons h] at hb
    simp only [List.mem_cons, List.not_mem_nil, or_false] at hb
    rcases hb with rfl | rfl | rfl
    · rw [masked_toNat _ _ _ 4 14 rfl rfl] at hlt; omega
    · rw [masked_toNat _ _ _ 6 2 rfl rfl] at hlt; omega
    · rw [masked_toNat _ _ _ 6 2 rfl rfl] at hlt; omega
  · rw [String.utf8EncodeChar_eq_cons_cons_cons_cons h] at hb
    simp only [List.mem_cons, List.not_mem_nil, or_false] at hb
    rcases hb with rfl | rfl | rfl | rfl
    · rw [masked_toNat _ _ _ 3 30 rfl rfl] at hlt; omega
    · rw [masked_toNat _ _ _ 6 2 rfl rfl] at hlt; omega
    · rw [masked_toNat _ _ _ 6 2 rfl rfl] at hlt; omega
    · rw [masked_toNat _ _ _ 6 2 rfl rfl] at hlt; omega

/-- A carriage return byte in encoded text is a carriage return character. -/
theorem cr_mem_of_mem {cs : List Char} (h : (13 : UInt8) ∈ cs.flatMap String.utf8EncodeChar) :
    '\r' ∈ cs := by
  obtain ⟨c, hc, hb⟩ := List.mem_flatMap.1 h
  have h13 : 13 = c.toNat := toNat_eq_of_mem hb (by decide)
  have hcr : c = '\r' := by rw [← Char.ofNat_toNat c, ← h13]
  exact hcr ▸ hc

end Utf8

end PoolServer
