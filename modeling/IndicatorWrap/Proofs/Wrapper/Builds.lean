import IndicatorWrap.Wrapper.Artifact

/-!
What a finished build is made of: every artifact is that of one of its
signatures.
-/

namespace IndicatorWrap

theorem Artifact.mem_put {artifact other : Artifact} {artifacts : List Artifact}
    (h : other ∈ artifact.put artifacts) : other = artifact ∨ other ∈ artifacts := by
  induction artifacts with
  | nil => exact .inl (List.mem_singleton.mp h)
  | cons first rest ih =>
      rw [put] at h
      split at h
      · rcases List.mem_cons.mp h with rfl | hrest
        · exact .inl rfl
        · exact .inr (List.mem_cons_of_mem first hrest)
      · rcases List.mem_cons.mp h with rfl | hput
        · exact .inr List.mem_cons_self
        · exact (ih hput).imp id (List.mem_cons_of_mem first)

namespace Build

/-- The replacements do not matter to the outcome. -/
theorem outcome_extend_cons {built : List Artifact} {signature : Signature}
    {signatures : List Signature} :
    (extend built (signature :: signatures)).outcome =
      match Artifact.ofSignature signature with
      | .error error => .error error
      | .ok artifact => (extend (artifact.put built) signatures).outcome := by
  rw [extend]
  cases Artifact.ofSignature signature with
  | error error => rfl
  | ok artifact =>
      dsimp only
      split
      · rfl
      · rfl

theorem exists_signature_of_extend {built artifacts : List Artifact}
    {signatures : List Signature} (h : (extend built signatures).outcome = .ok artifacts)
    {artifact : Artifact} (hmem : artifact ∈ artifacts) :
    artifact ∈ built ∨ ∃ signature ∈ signatures, Artifact.ofSignature signature = .ok artifact := by
  induction signatures generalizing built with
  | nil =>
      cases h
      exact .inl hmem
  | cons signature rest ih =>
      rw [outcome_extend_cons] at h
      cases hfirst : Artifact.ofSignature signature with
      | error error => simp [hfirst] at h
      | ok first =>
          rw [hfirst] at h
          rcases ih h with hput | ⟨later, hlater, hof⟩
          · rcases Artifact.mem_put hput with rfl | hbuilt
            · exact .inr ⟨signature, List.mem_cons_self, hfirst⟩
            · exact .inl hbuilt
          · exact .inr ⟨later, List.mem_cons_of_mem signature hlater, hof⟩

theorem exists_signature {artifacts : List Artifact} {signatures : List Signature}
    (h : (ofSignatures signatures).outcome = .ok artifacts) {artifact : Artifact}
    (hmem : artifact ∈ artifacts) :
    ∃ signature ∈ signatures, Artifact.ofSignature signature = .ok artifact := by
  rcases exists_signature_of_extend h hmem with hbuilt | hsignature
  · cases hbuilt
  · exact hsignature

end Build

end IndicatorWrap
