import Almanac.Proofs.Text.Bytes

/-!
# Cutting a text

A text is measured in bytes and may be cut between characters only, so a place that is counted in
bytes may be one where there is no cut. Beside an ASCII byte there always is: no other character has
such a byte among its own, so the text may be cut before it and behind it (`isValid_of_ascii`). The
part between two such places has the bytes between them (`bytes_extract`).
-/

namespace Almanac

/-- The high bit of an ASCII byte is not set. -/
theorem and_highBit_of_ascii {byte : UInt8} (h : byte.toNat < 128) : byte &&& 0x80 = 0 := by
  have hbits : ∀ n < 128, n &&& 128 = 0 := by decide
  apply UInt8.toNat_inj.1
  rw [UInt8.toNat_and]
  exact hbits byte.toNat h

namespace Word

variable {word : String} {place : Nat}

theorem length_bytes (word : String) : (bytes word).length = word.rawEndPos.byteIdx := by
  unfold bytes
  rw [String.toUTF8_eq_toByteArray, Array.length_toList]
  rfl

theorem getElem?_bytes {byte : UInt8} :
    (bytes word)[place]? = some byte ↔ ∃ h, word.getUTF8Byte ⟨place⟩ h = byte := by
  rw [List.getElem?_eq_some_iff]
  rfl

/-- **Beside an ASCII byte a text may be cut**, on either side. -/
theorem isValid_of_ascii {byte : UInt8} (h : (bytes word)[place]? = some byte)
    (hascii : byte.toNat < 128) :
    String.Pos.Raw.IsValid word ⟨place⟩ ∧ String.Pos.Raw.IsValid word ⟨place + 1⟩ := by
  obtain ⟨hlt, hbyte⟩ := getElem?_bytes.1 h
  have hhigh := and_highBit_of_ascii hascii
  -- a byte without its high bit begins a character
  have hvalid : String.Pos.Raw.IsValid word ⟨place⟩ :=
    String.Pos.Raw.isValid_iff_isUTF8FirstByte.2 (Or.inr ⟨hlt, hbyte ▸ Or.inl hhigh⟩)
  let pos : word.Pos := ⟨⟨place⟩, hvalid⟩
  have hend : pos ≠ word.endPos := by
    intro hlast
    have hplace : (⟨place⟩ : String.Pos.Raw) = word.rawEndPos := congrArg String.Pos.offset hlast
    rw [hplace] at hlt
    exact absurd hlt (Nat.lt_irrefl _)
  -- and such a character has no other byte, so the next one begins behind it
  have hsize : (pos.get hend).utf8Size = 1 := by
    have hfirst : pos.byte hend = byte := by
      rw [← hbyte]
      exact String.Pos.getUTF8Byte_offset.symm
    rw [← String.Pos.utf8ByteSize_byte]
    unfold UInt8.utf8ByteSize
    rw [hfirst, if_pos hhigh]
  have hbehind : pos.offset + pos.get hend = ⟨place + 1⟩ := by
    apply String.Pos.Raw.ext
    rw [String.Pos.Raw.byteIdx_add_char, hsize]
  have hnext := (pos.next hend).isValid
  rw [String.Pos.offset_next, hbehind] at hnext
  exact ⟨hvalid, hnext⟩

/-- What stands between two places of a text has the bytes between them. -/
theorem bytes_extract (first last : word.Pos) :
    bytes (word.extract first last) =
      ((bytes word).take last.offset.byteIdx).drop first.offset.byteIdx := by
  unfold bytes
  rw [String.toUTF8_eq_toByteArray, String.toByteArray_extract, ByteArray.data_extract,
    Array.toList_extract, List.extract_eq_drop_take', String.toUTF8_eq_toByteArray]

end Word

end Almanac
