import IndicatorWrap.Proofs.Declaration.IndicatorNames
import IndicatorWrap.Proofs.Package.Publication
import IndicatorWrap.Proofs.Wrapper.Replacements
import IndicatorWrap.Proofs.Wrapper.SourceLines

/-!
The frame of a publication: whatever comes of it, and whichever of its files share a name,
nothing is changed but files of these names in the directory and directories on the way to it,
and nothing is printed. The files of a build are all named for modules, so that this holds of
every build that comes to be written.
-/

namespace IndicatorWrap

open World (execute)

variable {directory : Path} {text : String} {files : List SourceFile} {world last : World}

theorem writePackage_changes {result : Except Fault PackageReport}
    (hparts : ∀ file ∈ files, Path.IsPart file.filename)
    (h : execute (writePackage directory files) world = (result, last)) :
    World.Changes directory (filenames files ++ [manifestFilename]) world last := by
  cases result with
  | error fault =>
      obtain ⟨written, rest, reports, middle, rfl, hwritten, hfailed⟩ := of_writePackage_error h
      have hfront := writeFiles_changes (fun file hfile =>
        hparts file (List.mem_append_left rest hfile)) hwritten
      have hlast := (of_nextWrite_error hfailed).2
      exact (hfront.mono (by simp)).trans (hlast.mono (List.nil_subset _))
  | ok report =>
      obtain ⟨manifest, reports, final, middle, -, hwrite, hlast, -⟩ :=
        execute_writePackage_eq_ok_iff.mp h
      have hchanges := writeText_changes isPart_manifestFilename hlast
      exact ((writeFiles_changes hparts hwrite).mono (by simp)).trans (hchanges.mono (by simp))

theorem isPart_filename {moduleName : String} (h : IdentChars moduleName.toList) :
    Path.IsPart (moduleName ++ moduleExtension) := by
  have hlength : (moduleName ++ moduleExtension).length = moduleName.length + 3 :=
    String.length_append moduleName moduleExtension
  refine Path.isPart_iff.mpr ⟨?_, ?_, ?_⟩
  · intro hempty
    simp [hempty] at hlength
  · intro hdot
    have hone : ".".length = 1 := rfl
    rw [hdot] at hlength
    omega
  · rw [String.toList_append, List.mem_append, not_or]
    exact ⟨h.not_mem rfl, by decide⟩

variable {signatures : List Signature} {artifacts : List Artifact}

theorem Build.isPart_of_outcome (hsignatures : signaturesOf text = .ok signatures)
    (hbuild : (ofSignatures signatures).outcome = .ok artifacts) :
    ∀ file ∈ artifacts.map (·.toSourceFile), Path.IsPart file.filename := by
  rw [List.forall_mem_map]
  intro artifact hartifact
  obtain ⟨signature, hsignature, hof⟩ := exists_signature hbuild hartifact
  have hname := (indicated_of_signaturesOf hsignatures signature hsignature).2
  rw [(Artifact.of_ofSignature hof).2.2]
  exact isPart_filename (Signature.identChars_moduleName hname)

end IndicatorWrap
