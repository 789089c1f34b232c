import IndicatorWrap.Proofs.Package.Frame
import IndicatorWrap.Proofs.Package.Stages

/-!
What generation comes to. It fails while reading, extracting or building and leaves the disk
alone, or while writing, or it ends with the whole package on the disk; in each case it is
told what was printed by then. Writing goes for the modules of the declarations only.
-/

namespace IndicatorWrap

open World (execute)

variable {input output : Path} {text : String} {signatures : List Signature}
  {artifacts : List Artifact} {world last : World}

/-- The files that the artifacts are written to. -/
abbrev sourceFiles (artifacts : List Artifact) : List SourceFile :=
  artifacts.map (·.toSourceFile)

/-- Whether the wrappers of a text are built. -/
structure Builds (text : String) (signatures : List Signature) (artifacts : List Artifact) :
    Prop where
  found : signaturesOf text = .ok signatures
  outcome : (Build.ofSignatures signatures).outcome = .ok artifacts

theorem Builds.part (h : Builds text signatures artifacts) :
    ∀ file ∈ sourceFiles artifacts, Path.IsPart file.filename :=
  Build.isPart_of_outcome h.found h.outcome

theorem Builds.distinct (h : Builds text signatures artifacts) :
    (filenames (sourceFiles artifacts)).Nodup := by
  have hmodules : (artifacts.map (·.moduleName)).Nodup := by
    rw [(Build.extends_of_ofSignatures h.outcome).modules]
    exact nodup_eraseDups _
  have hnames : filenames (sourceFiles artifacts) =
      (artifacts.map (·.moduleName)).map (· ++ moduleExtension) := by
    rw [filenames, List.map_map, List.map_map]
    apply List.map_congr_left
    intro artifact hartifact
    obtain ⟨signature, -, hof⟩ := Build.exists_signature h.outcome hartifact
    obtain ⟨-, hmodule, hfilename⟩ := Artifact.of_ofSignature hof
    rw [Function.comp_apply, Function.comp_apply, hmodule]
    exact hfilename
  rw [hnames]
  exact hmodules.map fun one other heq => (String.append_left_inj _).mp heq

/-- Whether the package of the artifacts is in a directory: every source in its file, unless
that is the manifest's, and the manifest of all modules. -/
structure Installed (directory : Path) (artifacts : List Artifact) (disk : Disk) : Prop where
  sources : ∀ file ∈ sourceFiles artifacts, file.filename ≠ manifestFilename →
    disk.readFile (directory.join file.filename) = .ok (Text.Utf8.encode file.source.toList)
  manifest : ∃ source, manifest? (artifacts.map (·.moduleName)) = some source ∧
    disk.readFile (directory.join manifestFilename) = .ok (Text.Utf8.encode source.toList)

theorem Builds.installed {report : PackageReport} (h : Builds text signatures artifacts)
    (hwrite : execute (writePackage output (sourceFiles artifacts)) world = (.ok report, last)) :
    Installed output artifacts last.disk := by
  obtain ⟨manifest, reports, final, middle, hmanifest, hfiles, hlast, -⟩ :=
    execute_writePackage_eq_ok_iff.mp hwrite
  obtain ⟨-, hreports⟩ := of_writeFiles_ok h.part h.distinct hfiles
  obtain ⟨hchanges, hfinal⟩ := of_writeText_ok isPart_manifestFilename hlast
  refine ⟨fun file hfile hname => ?_, manifest, ?_, hfinal.content⟩
  · -- the manifest is written last, over none of the other files
    obtain ⟨report, hreport⟩ := hreports.exists_report file.named (List.mem_map_of_mem hfile)
    have hother : file.filename ∉ [manifestFilename] := by simpa using hname
    exact (hreport.keep (h.part file hfile) hchanges.disk hother).content
  · rw [List.map_map] at hmanifest
    exact hmanifest

/-- What is printed until the wrappers are built. -/
def builtLines (input : Path) (signatures : List Signature) : String :=
  parsingLine input ++ extractedLine signatures ++ (Build.ofSignatures signatures).warnings

/-- How generation may end: with which result, what printed and which disk. -/
inductive Generates (input output : Path) (disk : Disk) :
    Except Failure PackageReport → String → Disk → Prop where
  | unreadable {fault : Fault} (h : disk.readText input = .error fault) :
      Generates input output disk (.error (.fault fault)) (parsingLine input) disk
  | unextracted {text : String} {error : ExtractionError}
      (htext : disk.readText input = .ok text) (h : signaturesOf text = .error error) :
      Generates input output disk (.error (.generation (.extraction error))) (parsingLine input) disk
  | unbuilt {text : String} {signatures : List Signature} {error : GenerationError}
      (htext : disk.readText input = .ok text) (hsignatures : signaturesOf text = .ok signatures)
      (h : (Build.ofSignatures signatures).outcome = .error error) :
      Generates input output disk (.error (.generation error)) (builtLines input signatures) disk
  | unwritten {text : String} {signatures : List Signature} {artifacts : List Artifact}
      {fault : Fault} {after : Disk}
      (htext : disk.readText input = .ok text) (hbuilds : Builds text signatures artifacts)
      (hchanges : Disk.Changes output (filenames (sourceFiles artifacts) ++ [manifestFilename])
        disk after) :
      Generates input output disk (.error (.fault fault))
        (builtLines input signatures ++ synthesizedLine artifacts) after
  | written {text : String} {signatures : List Signature} {artifacts : List Artifact}
      {report : PackageReport} {after : Disk}
      (htext : disk.readText input = .ok text) (hbuilds : Builds text signatures artifacts)
      (hchanges : Disk.Changes output (filenames (sourceFiles artifacts) ++ [manifestFilename])
        disk after)
      (hinstalled : Installed output artifacts after) :
      Generates input output disk (.ok report)
        (builtLines input signatures ++ synthesizedLine artifacts ++ writtenLine report ++
          (summaryOf input signatures.length artifacts.length report).render) after

/-- Generation ends in one of these ways, and prints nothing else. -/
theorem generates (input output : Path) (world : World) :
    ∃ said, Generates input output world.disk (execute (generate input output) world).1 said
        (execute (generate input output) world).2.disk ∧
      (execute (generate input output) world).2.output = world.output ++ said ∧
      (execute (generate input output) world).2.errors = world.errors := by
  cases htext : world.disk.readText input with
  | error fault =>
      rw [execute_generate_of_unreadable htext]
      exact ⟨_, .unreadable htext, rfl, rfl⟩
  | ok text =>
      cases hsignatures : signaturesOf text with
      | error error =>
          rw [execute_generate_of_unextracted htext hsignatures]
          exact ⟨_, .unextracted htext hsignatures, rfl, rfl⟩
      | ok signatures =>
          cases hartifacts : (Build.ofSignatures signatures).outcome with
          | error error =>
              rw [execute_generate_of_unbuilt htext hsignatures hartifacts]
              exact ⟨_, .unbuilt htext hsignatures hartifacts, rfl, rfl⟩
          | ok artifacts =>
              have hbuilds : Builds text signatures artifacts := ⟨hsignatures, hartifacts⟩
              rw [execute_generate_of_built htext hsignatures hartifacts]
              split
              · next report after hwrite =>
                  have hchanges := writePackage_changes hbuilds.part hwrite
                  have hinstalled := hbuilds.installed hwrite
                  refine ⟨_, .written htext hbuilds hchanges.disk hinstalled, ?_, hchanges.errors⟩
                  rw [World.printed, hchanges.output]
                  simp only [World.printed, builtLines, String.append_assoc]
              · next fault after hwrite =>
                  have hchanges := writePackage_changes hbuilds.part hwrite
                  refine ⟨_, .unwritten htext hbuilds hchanges.disk, ?_, hchanges.errors⟩
                  rw [hchanges.output]
                  simp only [World.printed, builtLines, String.append_assoc]

/-- Once the wrappers are built, all that was printed up to there stays in front. -/
theorem Generates.said_eq {disk after : Disk} {result : Except Failure PackageReport}
    {said : String} (h : Generates input output disk result said after)
    (htext : disk.readText input = .ok text) (hbuilds : Builds text signatures artifacts) :
    ∃ rest, said = builtLines input signatures ++ rest := by
  cases h with
  | unreadable hfault => cases htext.symm.trans hfault
  | unextracted hother herror =>
      cases htext.symm.trans hother
      cases hbuilds.found.symm.trans herror
  | unbuilt hother hfound =>
      cases htext.symm.trans hother
      cases hbuilds.found.symm.trans hfound
      exact ⟨"", String.append_empty.symm⟩
  | unwritten hother hothers =>
      cases htext.symm.trans hother
      cases hbuilds.found.symm.trans hothers.found
      exact ⟨_, rfl⟩
  | written hother hothers =>
      cases htext.symm.trans hother
      cases hbuilds.found.symm.trans hothers.found
      rw [String.append_assoc, String.append_assoc]
      exact ⟨_, rfl⟩

end IndicatorWrap
