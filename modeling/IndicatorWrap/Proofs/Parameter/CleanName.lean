import Mathlib
import IndicatorWrap.Parameter.Name
import IndicatorWrap.Proofs.Text.Lowercase
import IndicatorWrap.Token.Lexer

/-!
Clean names are made of the characters of identifiers if the names are that
they are taken from: to separate words puts in nothing but underscores, and
lower case stays inside ASCII.
-/

namespace IndicatorWrap

open Lexeme (isIdentChar)

/-- Whether all characters may stand inside an identifier. -/
def IdentChars (text : List Char) : Prop :=
  ∀ c ∈ text, isIdentChar c

instance (text : List Char) : Decidable (IdentChars text) :=
  decidable_of_iff (text.all isIdentChar) List.all_eq_true

theorem isIdentChar_ascii {c : Char} (h : isIdentChar c) : c.toNat < 128 := by
  simp only [isIdentChar, Lexeme.isIdentStart, Char.isAlpha, Char.isUpper, Char.isLower,
    Char.isDigit, Bool.or_eq_true, Bool.and_eq_true, decide_eq_true_eq, ge_iff_le,
    UInt32.le_iff_toNat_le] at h
  change (((65 ≤ c.toNat ∧ c.toNat ≤ 90) ∨ (97 ≤ c.toNat ∧ c.toNat ≤ 122)) ∨ c = '_') ∨
    (48 ≤ c.toNat ∧ c.toNat ≤ 57) at h
  rcases h with ((hupper | hlower) | rfl) | hdigit
  · omega
  · omega
  · decide
  · omega

/-- What holds of the characters of identifiers can be checked code by code. -/
theorem forall_isIdentChar {motive : Char → Prop}
    (h : ∀ code < 0x80, isIdentChar (Char.ofNat code) → motive (Char.ofNat code)) {c : Char}
    (hc : isIdentChar c) : motive c :=
  Text.forall_ascii (motive := fun c => isIdentChar c → motive c) h (isIdentChar_ascii hc) hc

theorem isIdentChar_toLower {c : Char} (h : isIdentChar c) : isIdentChar c.toLower := by
  refine forall_isIdentChar (motive := fun c => isIdentChar c.toLower) ?_ h
  decide

namespace IdentChars

theorem cons_iff {c : Char} {rest : List Char} :
    IdentChars (c :: rest) ↔ isIdentChar c ∧ IdentChars rest :=
  List.forall_mem_cons

theorem append_iff {front rest : List Char} :
    IdentChars (front ++ rest) ↔ IdentChars front ∧ IdentChars rest :=
  List.forall_mem_append

theorem of_subset {text larger : List Char} (h : IdentChars larger) (hsubset : text ⊆ larger) :
    IdentChars text :=
  fun c hc => h c (hsubset hc)

theorem not_mem {text : List Char} (h : IdentChars text) {c : Char} (hc : isIdentChar c = false) :
    c ∉ text := by
  intro hmem
  rw [h c hmem] at hc
  cases hc

theorem separateWords {text : List Char} (h : IdentChars text) :
    IdentChars (separateWords text) := by
  induction text with
  | nil => exact h
  | cons c rest ih =>
      obtain ⟨hc, hrest⟩ := cons_iff.mp h
      have hmore := ih hrest
      unfold IndicatorWrap.separateWords
      split
      · exact cons_iff.mpr ⟨hc, cons_iff.mpr ⟨by decide, hmore⟩⟩
      · exact cons_iff.mpr ⟨hc, hmore⟩

theorem lower {text : List Char} (h : IdentChars text) : IdentChars (Text.lower text) := by
  rw [Text.lower_ascii fun c hc => isIdentChar_ascii (h c hc)]
  intro c hc
  obtain ⟨original, horiginal, rfl⟩ := List.mem_map.mp hc
  exact isIdentChar_toLower (h original horiginal)

end IdentChars

theorem mergeUnderscores_subset (text : List Char) : mergeUnderscores text ⊆ text := by
  induction text with
  | nil => exact List.Subset.refl _
  | cons c rest ih =>
      unfold mergeUnderscores
      split
      · exact List.subset_cons_of_subset c ih
      · exact List.cons_subset_cons c ih

theorem trimUnderscores_subset (text : List Char) : trimUnderscores text ⊆ text := by
  intro c hc
  have hinner := List.dropWhile_subset _ (List.mem_reverse.mp hc)
  exact List.dropWhile_subset _ (List.mem_reverse.mp hinner)

theorem IdentChars.trimmedWords {text : List Char} (h : IdentChars text) :
    IdentChars (trimUnderscores (mergeUnderscores (IndicatorWrap.separateWords text))) := by
  refine h.separateWords.of_subset ?_
  exact List.Subset.trans (trimUnderscores_subset _) (mergeUnderscores_subset _)

theorem splitRole_suffix (name : String) : (splitRole name).2.toList <:+ name.toList := by
  simp only [splitRole]
  generalize hmarked : List.findSome? _ roleMarks = marked
  cases marked with
  | none => exact List.suffix_refl _
  | some marked =>
      obtain ⟨entry, -, hmark⟩ := List.exists_of_findSome?_eq_some hmarked
      obtain ⟨rest, hrest, rfl⟩ := Option.map_eq_some_iff.mp hmark
      rw [Option.getD_some, String.toList_ofList]
      exact ⟨entry.1.toList, List.isPrefixOf?_eq_some_iff_append_eq.mp hrest⟩

theorem identChars_snakeCase {name : String} (h : IdentChars name.toList) :
    IdentChars (snakeCase name).toList := by
  rw [snakeCase, String.toList_ofList]
  exact h.trimmedWords.lower

theorem identChars_cleanName {name : String} (h : IdentChars name.toList) :
    IdentChars (cleanName name).toList := by
  have hclean := identChars_snakeCase (h.of_subset (splitRole_suffix name).subset)
  simp only [cleanName]
  split
  · rw [String.toList_append]
    exact IdentChars.append_iff.mpr ⟨hclean, by decide⟩
  · exact hclean

end IndicatorWrap
