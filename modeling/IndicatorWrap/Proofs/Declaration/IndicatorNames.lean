import IndicatorWrap.Proofs.Declaration.Identifiers

/-!
The names of extracted signatures begin with the mark of the library and go on
with capital letters, digits and underscores. So the name of the module is the
rest in small letters, and the rest can be read off it again.
-/

namespace IndicatorWrap

theorem isNameChar_ascii {c : Char} (h : isNameChar c) : c.toNat < 0x80 := by
  apply isIdentChar_ascii
  simp only [isNameChar, Bool.or_eq_true, decide_eq_true_eq] at h
  simp only [Lexeme.isIdentChar, Lexeme.isIdentStart, Char.isAlpha, Bool.or_eq_true,
    decide_eq_true_eq]
  rcases h with (hupper | hdigit) | hunderscore
  · exact .inl (.inl (.inl hupper))
  · exact .inr hdigit
  · exact .inl (.inr hunderscore)

/-- What small letters do to the characters of an indicator's name: none is lost,
and only a digit cannot begin an identifier. -/
def LowersWell (c : Char) : Prop :=
  c.toLower.toUpper = c ∧ Lexeme.isIdentChar c.toLower ∧
    (Lexeme.isIdentStart c.toLower ↔ ¬c.isDigit)

theorem lowersWell_of_isNameChar {c : Char} (h : isNameChar c) : LowersWell c := by
  have hascii : ∀ code < 0x80, isNameChar (Char.ofNat code) → LowersWell (Char.ofNat code) := by
    unfold LowersWell
    decide
  exact Text.forall_ascii (motive := fun c => isNameChar c → LowersWell c) hascii
    (isNameChar_ascii h) h

namespace Signature

/-- Whether a signature is named like an indicator. -/
structure Indicated (signature : Signature) : Prop where
  name_eq : signature.name = libraryMark ++ signature.shortName
  shortName_ne : signature.shortName ≠ ""
  nameChars : ∀ c ∈ signature.shortName.toList, isNameChar c

theorem indicated_of_isIndicatorName {signature : Signature}
    (hname : IdentChars signature.name.toList) (h : isIndicatorName signature.name) :
    signature.Indicated := by
  unfold isIndicatorName at h
  split at h
  · cases h
  · next body hmark =>
      have hshort : signature.shortName = String.ofList body := by
        rw [shortName, hmark]
      have hbody : libraryMark.toList ++ body = signature.name.toList :=
        List.isPrefixOf?_eq_some_iff_append_eq.mp hmark
      simp only [Bool.and_eq_true, bne_iff_ne, Bool.or_eq_true, beq_iff_eq] at h
      obtain ⟨⟨-, hsome⟩, hafter⟩ := h
      -- A line feed behind the name would be a character of the identifier.
      have hnone : body.dropWhile isNameChar = [] := by
        rcases hafter with hnone | hfeed
        · exact hnone
        · have hmem : '\n' ∈ body := List.dropWhile_subset isNameChar (by simp [hfeed])
          refine absurd ?_ (hname.not_mem (c := '\n') rfl)
          rw [← hbody]
          exact List.mem_append_right _ hmem
      refine ⟨?_, ?_, ?_⟩
      · rw [hshort, ← String.toList_inj, String.toList_append, String.toList_ofList, hbody]
      · rintro hempty
        have hnil : body = [] := by simpa using hshort.symm.trans hempty
        exact hsome (by rw [hnil]; rfl)
      · rw [hshort, String.toList_ofList]
        exact List.dropWhile_eq_nil_iff.mp hnone

theorem DeclaredAt.isIndicatorName {tokens : List Token} {place : Nat} {signature : Signature}
    (h : signature.DeclaredAt tokens place) (hheader : headerAt tokens place) :
    isIndicatorName signature.name := by
  obtain ⟨taken, rest, hdrop, hderives⟩ := h
  obtain @⟨name, paren, close, inner, parameters, -, -, -, -⟩ := hderives
  have hname : tokens[place + 2]? = some name := by
    rw [← List.head?_drop, hdrop]
    rfl
  simp only [headerAt, hname, Option.any_some, Bool.and_eq_true] at hheader
  exact hheader.1.2.2

theorem moduleName_toList {signature : Signature} (h : signature.Indicated) :
    signature.moduleName.toList = signature.shortName.toList.map Char.toLower := by
  rw [moduleName, String.toList_ofList]
  exact Text.lower_ascii fun c hc => isNameChar_ascii (h.nameChars c hc)

/-- The name of the module tells the short name. -/
theorem Indicated.shortName_eq {signature : Signature} (h : signature.Indicated) :
    signature.shortName = signature.moduleName.toUpper := by
  rw [← String.toList_inj, String.toUpper, String.toList_map, moduleName_toList h, List.map_map]
  have hback : ∀ c ∈ signature.shortName.toList, (Char.toUpper ∘ Char.toLower) c = c :=
    fun c hc => (lowersWell_of_isNameChar (h.nameChars c hc)).1
  exact ((List.map_congr_left hback).trans (List.map_id _)).symm

end Signature

theorem indicated_of_mem_extract {limit : Option Nat} {text : String} {signature : Signature}
    (h : signature ∈ (extract limit text).signatures) : signature.Indicated := by
  obtain ⟨place, hplace, hdeclared⟩ := Extraction.declaredAt_of_mem h
  rw [Signature.headerPlaces, List.mem_filter, Signature.declaringAt, Bool.and_eq_true] at hplace
  exact Signature.indicated_of_isIndicatorName hdeclared.identified.name.identChars
    (hdeclared.isIndicatorName hplace.2.1)

theorem indicated_of_signaturesOf {text : String} {signatures : List Signature}
    (h : signaturesOf text = .ok signatures) :
    ∀ signature ∈ signatures, signature.Indicated ∧ IdentChars signature.name.toList := by
  intro signature hsignature
  rw [← (extract_of_signaturesOf h).2] at hsignature
  exact ⟨indicated_of_mem_extract hsignature, (identified_of_mem_extract hsignature).name.identChars⟩

end IndicatorWrap
