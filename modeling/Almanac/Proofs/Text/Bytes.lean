import Almanac.Rule.Word
import Mathlib.Data.List.Basic

/-!
# Bytes and characters

A word is measured and cut in bytes. This file says when that is the same as cutting it in
characters. An ASCII character is one byte, its code; every other character has a byte beyond ASCII.
So a word of ASCII bytes is a word of ASCII characters, one byte each.
-/

namespace Almanac

theorem utf8EncodeChar_of_ascii {c : Char} (h : c.toNat < 128) :
    String.utf8EncodeChar c = [c.toUInt8] := by
  have hsize : c.utf8Size = 1 := by
    rw [Char.utf8Size_eq_one_iff, UInt32.le_iff_toNat_le]
    exact Nat.le_of_lt_succ h
  rw [String.utf8EncodeChar_eq_singleton hsize]
  rfl

theorem toNat_toUInt8_of_ascii {c : Char} (h : c.toNat < 128) : c.toUInt8.toNat = c.toNat := by
  show c.val.toNat % 256 = c.val.toNat
  exact Nat.mod_eq_of_lt (Nat.lt_trans h (by decide))

/-- A byte with its high bit set is not ASCII. -/
theorem le_toNat_or_highBit (byte : UInt8) : 128 ≤ (byte ||| 0x80).toNat := by
  rw [UInt8.toNat_or]
  exact Nat.right_le_or

/-- **A character beyond ASCII shows in its bytes.** -/
theorem exists_byte_of_not_ascii {c : Char} (h : 128 ≤ c.toNat) :
    ∃ byte ∈ String.utf8EncodeChar c, 128 ≤ byte.toNat := by
  have hone : c.utf8Size ≠ 1 := by
    rw [Ne, Char.utf8Size_eq_one_iff, UInt32.le_iff_toNat_le]
    exact Nat.not_le.2 h
  have hpos := c.utf8Size_pos
  have hmax := c.utf8Size_le_four
  -- whatever the length, the last byte carries the mark of a continuation
  obtain htwo | hthree | hfour : c.utf8Size = 2 ∨ c.utf8Size = 3 ∨ c.utf8Size = 4 := by omega
  · rw [String.utf8EncodeChar_eq_cons_cons htwo]
    exact ⟨_, by simp, le_toNat_or_highBit (c.val.toUInt8 &&& 0x3f)⟩
  · rw [String.utf8EncodeChar_eq_cons_cons_cons hthree]
    exact ⟨_, by simp, le_toNat_or_highBit (c.val.toUInt8 &&& 0x3f)⟩
  · rw [String.utf8EncodeChar_eq_cons_cons_cons_cons hfour]
    exact ⟨_, by simp, le_toNat_or_highBit (c.val.toUInt8 &&& 0x3f)⟩

namespace Word

theorem bytes_eq (word : String) : bytes word = word.toList.flatMap String.utf8EncodeChar := by
  unfold bytes
  rw [String.toUTF8_eq_toByteArray, ← String.utf8Encode_toList]
  simp [List.utf8Encode]

/-- ASCII words are as many bytes as characters. -/
theorem bytes_of_ascii {word : String} (h : ∀ c ∈ word.toList, c.toNat < 128) :
    bytes word = word.toList.map Char.toUInt8 := by
  rw [bytes_eq, List.map_eq_flatMap]
  exact List.flatMap_congr fun c hc => utf8EncodeChar_of_ascii (h c hc)

/-- **ASCII bytes come from ASCII characters.** -/
theorem ascii_of_bytes {word : String} (h : ∀ byte ∈ bytes word, byte.toNat < 128) :
    ∀ c ∈ word.toList, c.toNat < 128 := by
  intro c hc
  rcases Nat.lt_or_ge c.toNat 128 with hascii | hbeyond
  · exact hascii
  · obtain ⟨byte, hbyte, hhigh⟩ := exists_byte_of_not_ascii hbeyond
    have hmem : byte ∈ bytes word := by
      rw [bytes_eq]; exact List.mem_flatMap.2 ⟨c, hc, hbyte⟩
    exact absurd (h byte hmem) (Nat.not_lt.2 hhigh)

end Word

end Almanac
