import IndicatorWrap.Proofs.Text.Lowercase
import IndicatorWrap.Text.Lines
import IndicatorWrap.Text.Utf8

/-!
Line feeds in the bytes of a text. A character past the first 128 is encoded in
large bytes only, so the byte of a line feed stands for a line feed wherever it is
met, and lines may be counted in the text or in its bytes.
-/

namespace IndicatorWrap.Text.Utf8

/-- The byte of a line feed. -/
def lineFeed : UInt8 := 10

theorem encodeChar_large {c : Char} {byte : UInt8} (hc : 0x80 ≤ c.toNat)
    (hbyte : byte ∈ encodeChar c) : 0x80 ≤ byte.toNat := by
  have hlast : c.toNat < 0x110000 := by
    have := c.valid
    simp only [UInt32.isValidChar, Nat.isValidChar] at this
    simp only [Char.toNat]
    omega
  simp only [encodeChar, Nat.not_lt_of_le hc, if_false] at hbyte
  split at hbyte
  · simp only [List.mem_cons, List.not_mem_nil, or_false] at hbyte
    rcases hbyte with rfl | rfl <;> simp only [Nat.toUInt8_eq, UInt8.toNat_ofNat'] <;> omega
  · split at hbyte
    · simp only [List.mem_cons, List.not_mem_nil, or_false] at hbyte
      rcases hbyte with rfl | rfl | rfl <;> simp only [Nat.toUInt8_eq, UInt8.toNat_ofNat'] <;> omega
    · simp only [List.mem_cons, List.not_mem_nil, or_false] at hbyte
      rcases hbyte with rfl | rfl | rfl | rfl <;>
        simp only [Nat.toUInt8_eq, UInt8.toNat_ofNat'] <;> omega

theorem count_lineFeed_encodeChar (c : Char) :
    (encodeChar c).count lineFeed = countLines [c] := by
  by_cases hc : c.toNat < 0x80
  · have hascii : ∀ code < 0x80,
        (encodeChar (Char.ofNat code)).count lineFeed = countLines [Char.ofNat code] := by
      decide
    exact forall_ascii (motive := fun c => (encodeChar c).count lineFeed = countLines [c]) hascii hc
  · have hnone : lineFeed ∉ encodeChar c := by
      intro hmem
      have := encodeChar_large (Nat.le_of_not_lt hc) hmem
      simp [lineFeed] at this
    have hne : c ≠ '\n' := by
      rintro rfl
      exact hc (by decide)
    rw [List.count_eq_zero.mpr hnone, countLines, List.count_eq_zero.mpr (by simp [hne.symm])]

theorem count_lineFeed_encode (text : List Char) :
    (encode text).count lineFeed = countLines text := by
  induction text with
  | nil => rfl
  | cons c rest ih =>
      have hcons : encode (c :: rest) = encodeChar c ++ encode rest := rfl
      rw [hcons, List.count_append, count_lineFeed_encodeChar, ih]
      simp only [countLines, ← List.count_append, List.singleton_append]

end IndicatorWrap.Text.Utf8
