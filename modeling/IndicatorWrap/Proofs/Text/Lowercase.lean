import IndicatorWrap.Text.Lowercase

/-!
Inside ASCII the lower-case form of a text is that of each of its characters, and
what holds of characters can be checked code by code.
-/

namespace IndicatorWrap.Text

theorem forall_ascii {motive : Char → Prop} (h : ∀ code < 0x80, motive (Char.ofNat code)) {c : Char}
    (hc : c.toNat < 0x80) : motive c := by
  rw [← Char.ofNat_toNat c]
  exact h c.toNat hc

theorem lowerAfter_ascii {text : List Char} (h : ∀ c ∈ text, c.toNat < 0x80) (inWord : Bool) :
    lowerAfter inWord text = text.map Char.toLower := by
  induction text generalizing inWord with
  | nil => rfl
  | cons c rest ih =>
      obtain ⟨hc, hrest⟩ := List.forall_mem_cons.mp h
      have hsigma : c ≠ 'Σ' := by
        rintro rfl
        exact absurd hc (by decide)
      rw [lowerAfter, if_neg hsigma, lowerChar, if_pos hc, ih hrest]
      rfl

theorem lower_ascii {text : List Char} (h : ∀ c ∈ text, c.toNat < 0x80) :
    lower text = text.map Char.toLower :=
  lowerAfter_ascii h false

end IndicatorWrap.Text
