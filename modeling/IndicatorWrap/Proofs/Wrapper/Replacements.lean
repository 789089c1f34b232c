import IndicatorWrap.Proofs.Wrapper.Accepted
import IndicatorWrap.Proofs.Wrapper.Builds

/-!
What repeated declarations come to. Putting an artifact among others leaves their modules
and the order of these as they are, so that a build has one artifact for every module that is
declared, in the order of the first declarations; every other declaration is replaced once.
-/

namespace IndicatorWrap

section FirstOccurrences

variable {α β : Type} [BEq α] [LawfulBEq α] [BEq β] [LawfulBEq β]

theorem eraseDups_of_nodup {items : List α} (h : items.Nodup) : items.eraseDups = items := by
  induction items with
  | nil => rfl
  | cons item items ih =>
      obtain ⟨hitem, hitems⟩ := List.nodup_cons.mp h
      have hkept : items.filter (fun other => !other == item) = items := by
        rw [List.filter_eq_self]
        intro other hother
        have hne : other ≠ item := ne_of_mem_of_not_mem hother hitem
        simp [hne]
      rw [List.eraseDups_cons, hkept, ih hitems]

theorem eraseDups_append_of_mem {item : α} {front : List α} (h : item ∈ front) (rest : List α) :
    (front ++ item :: rest).eraseDups = (front ++ rest).eraseDups := by
  simp [List.eraseDups_append, List.removeAll, h]

theorem nodup_eraseDups (items : List α) : items.eraseDups.Nodup := by
  match items with
  | [] => exact List.nodup_nil
  | item :: items =>
      rw [List.eraseDups_cons, List.nodup_cons]
      exact ⟨by simp, nodup_eraseDups _⟩
termination_by items.length
decreasing_by exact Nat.lt_succ_of_le (List.length_filter_le _ items)

/-- A function that tells the items apart keeps their first occurrences. -/
theorem eraseDups_map {f : α → β} {items : List α}
    (h : ∀ item ∈ items, ∀ other ∈ items, f other = f item → other = item) :
    (items.map f).eraseDups = items.eraseDups.map f := by
  match items with
  | [] => rfl
  | item :: items =>
      have hfilter : (items.map f).filter (fun other => !other == f item) =
          (items.filter (fun other => !other == item)).map f := by
        rw [List.filter_map]
        congr 1
        apply List.filter_congr
        intro other hother
        have hiff : f other = f item ↔ other = item :=
          ⟨h item List.mem_cons_self other (List.mem_cons_of_mem item hother), congrArg f⟩
        have hbeq : (f other == f item) = (other == item) := by
          rw [Bool.eq_iff_iff, beq_iff_eq, beq_iff_eq, hiff]
        exact congrArg not hbeq
      have hrest : ∀ one ∈ items.filter (fun other => !other == item),
          ∀ other ∈ items.filter (fun other => !other == item), f other = f one → other = one := by
        intro one hone other hother
        exact h one (List.mem_cons_of_mem item (List.mem_of_mem_filter hone)) other
          (List.mem_cons_of_mem item (List.mem_of_mem_filter hother))
      rw [List.map_cons, List.eraseDups_cons, List.eraseDups_cons, List.map_cons, hfilter,
        eraseDups_map hrest]
termination_by items.length
decreasing_by exact Nat.lt_succ_of_le (List.length_filter_le _ items)

end FirstOccurrences

theorem Artifact.of_ofSignature {signature : Signature} {artifact : Artifact}
    (h : ofSignature signature = .ok artifact) :
    artifact.signature = signature ∧ artifact.moduleName = signature.moduleName ∧
      artifact.filename = signature.moduleName ++ moduleExtension := by
  obtain ⟨inputs, outputs, -, rfl⟩ := ofSignature_eq_ok_iff.mp h
  exact ⟨rfl, rfl, rfl⟩

/-- An artifact whose module is there already takes its place. -/
theorem Artifact.map_moduleName_put (artifact : Artifact) (built : List Artifact) :
    (artifact.put built).map (·.moduleName) =
      if artifact.moduleName ∈ built.map (·.moduleName) then built.map (·.moduleName)
      else built.map (·.moduleName) ++ [artifact.moduleName] := by
  induction built with
  | nil => rfl
  | cons other rest ih =>
      rw [put]
      by_cases hsame : other.moduleName = artifact.moduleName
      · simp [hsame]
      · have hne : artifact.moduleName ≠ other.moduleName := Ne.symm hsame
        rw [if_neg hsame, List.map_cons, ih]
        simp only [List.map_cons, List.mem_cons, hne, false_or]
        split
        · rfl
        · rfl

namespace Build

variable {built artifacts : List Artifact} {signatures : List Signature}

/-- An artifact whose module is there already replaces one. -/
theorem length_replacements_extend_cons {signature : Signature} {artifact : Artifact}
    (h : Artifact.ofSignature signature = .ok artifact) :
    (extend built (signature :: signatures)).replacements.length =
      (extend (artifact.put built) signatures).replacements.length +
        if artifact.moduleName ∈ built.map (·.moduleName) then 1 else 0 := by
  rw [extend, h]
  dsimp only
  split
  · next hnone =>
      have hfresh : artifact.moduleName ∉ built.map (·.moduleName) := by
        simpa using hnone
      rw [if_neg hfresh, Nat.add_zero]
  · next earlier hsome =>
      have hthere : artifact.moduleName ∈ built.map (·.moduleName) := by
        refine List.mem_map.mpr ⟨earlier, List.mem_of_find?_eq_some hsome, ?_⟩
        simpa using List.find?_some hsome
      rw [if_pos hthere, List.length_cons]

/-- What a build has done with the signatures it was given, if it went well. -/
structure Extends (built : List Artifact) (signatures : List Signature) (artifacts : List Artifact)
    (replaced : Nat) : Prop where
  modules : artifacts.map (·.moduleName) =
    (built.map (·.moduleName) ++ signatures.map Signature.moduleName).eraseDups
  count : artifacts.length + replaced = built.length + signatures.length

theorem extends_of_outcome (hnodup : (built.map (·.moduleName)).Nodup)
    (h : (extend built signatures).outcome = .ok artifacts) :
    Extends built signatures artifacts (extend built signatures).replacements.length := by
  induction signatures generalizing built with
  | nil =>
      cases h
      refine ⟨?_, rfl⟩
      rw [List.map_nil, List.append_nil, eraseDups_of_nodup hnodup]
  | cons signature rest ih =>
      rw [outcome_extend_cons] at h
      cases hfirst : Artifact.ofSignature signature with
      | error error => simp [hfirst] at h
      | ok artifact =>
          rw [hfirst] at h
          have hmodule := (Artifact.of_ofSignature hfirst).2.1
          have hput := artifact.map_moduleName_put built
          have hlength := congrArg List.length hput
          rw [List.length_map] at hlength
          by_cases hthere : artifact.moduleName ∈ built.map (·.moduleName)
          · rw [if_pos hthere] at hput hlength
            obtain ⟨hmodules, hcount⟩ := ih (hput ▸ hnodup) h
            refine ⟨?_, ?_⟩
            · rw [hmodules, hput, List.map_cons, ← hmodule, eraseDups_append_of_mem hthere]
            · rw [length_replacements_extend_cons hfirst, if_pos hthere, List.length_cons]
              rw [List.length_map] at hlength
              omega
          · rw [if_neg hthere] at hput hlength
            have hfresh : ((artifact.put built).map (·.moduleName)).Nodup := by
              rw [hput]
              simpa [List.nodup_append, hnodup] using hthere
            obtain ⟨hmodules, hcount⟩ := ih hfresh h
            refine ⟨?_, ?_⟩
            · rw [hmodules, hput, List.map_cons, hmodule, List.append_assoc]
              rfl
            · rw [length_replacements_extend_cons hfirst, if_neg hthere, List.length_cons]
              rw [List.length_append, List.length_map, List.length_singleton] at hlength
              omega

theorem extends_of_ofSignatures (h : (ofSignatures signatures).outcome = .ok artifacts) :
    Extends [] signatures artifacts (ofSignatures signatures).replacements.length :=
  extends_of_outcome List.nodup_nil h

/-- What is said to be replaced is a signature that was met before, for the same file. -/
theorem of_mem_replacements {replacement : Replacement}
    (h : replacement ∈ (extend built signatures).replacements) :
    replacement.later ∈ signatures ∧
      replacement.earlier ∈ built.map (·.signature) ++ signatures ∧
      replacement.filename = replacement.later.moduleName ++ moduleExtension := by
  induction signatures generalizing built with
  | nil => cases h
  | cons signature rest ih =>
      rw [extend] at h
      split at h
      · cases h
      · next artifact hfirst =>
          obtain ⟨hsignature, -, hfilename⟩ := Artifact.of_ofSignature hfirst
          have hmore : replacement ∈ (extend (artifact.put built) rest).replacements →
              replacement.later ∈ signature :: rest ∧
                replacement.earlier ∈ built.map (·.signature) ++ signature :: rest ∧
                replacement.filename = replacement.later.moduleName ++ moduleExtension := by
            intro hreplacement
            obtain ⟨hlater, hearlier, hfile⟩ := ih hreplacement
            refine ⟨List.mem_cons_of_mem signature hlater, ?_, hfile⟩
            rcases List.mem_append.mp hearlier with hput | hrest
            · obtain ⟨other, hother, heq⟩ := List.mem_map.mp hput
              rcases Artifact.mem_put hother with rfl | hbuilt
              · simp [← heq, hsignature]
              · rw [← heq]
                exact List.mem_append_left _ (List.mem_map_of_mem hbuilt)
            · exact List.mem_append_right _ (List.mem_cons_of_mem signature hrest)
          dsimp only at h
          split at h
          · exact hmore h
          · next earlier hfound =>
              rcases List.mem_cons.mp h with rfl | hrest
              · refine ⟨List.mem_cons_self, List.mem_append_left _ ?_, hfilename⟩
                exact List.mem_map_of_mem (List.mem_of_find?_eq_some hfound)
              · exact hmore hrest

end Build

end IndicatorWrap
