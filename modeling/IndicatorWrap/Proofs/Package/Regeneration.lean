import IndicatorWrap.Proofs.Package.Outcomes
import IndicatorWrap.Proofs.Package.Rewriting

/-!
Generating again. What is written depends on the text of the input only, so that another
run over it writes the same files with the same contents, wherever to and whatever was
there; and a run over the disk that a run has left, if the input is there as it was, finds
everything as it would write it.
-/

namespace IndicatorWrap

open World (execute)

variable {input output : Path} {text : String} {signatures : List Signature}
  {artifacts : List Artifact} {disk before after : Disk} {world last : World}
  {report : PackageReport}

theorem Disk.readText_eq_ok_iff {path : Path} :
    disk.readText path = .ok text ↔
      path.hasNul = false ∧
        ∃ content, disk.readFile path = .ok content ∧ textOf content = .ok text := by
  unfold readText
  cases path.hasNul with
  | true => simp
  | false =>
      cases disk.readFile path with
      | error errno => simp
      | ok content => simp

/-- What is printed before the package is written, and what is printed then. -/
def startedLines (input : Path) (signatures : List Signature) (artifacts : List Artifact) :
    String :=
  builtLines input signatures ++ synthesizedLine artifacts

def finishedLines (input : Path) (signatures : List Signature) (artifacts : List Artifact)
    (report : PackageReport) : String :=
  writtenLine report ++ (summaryOf input signatures.length artifacts.length report).render

theorem execute_generate_of_written {after : World} (htext : world.disk.readText input = .ok text)
    (hbuilds : Builds text signatures artifacts)
    (hwrite : execute (writePackage output (sourceFiles artifacts))
      (world.printed (startedLines input signatures artifacts)) = (.ok report, after)) :
    execute (generate input output : ExceptT Failure (StateM World) PackageReport) world =
      (.ok report, after.printed (finishedLines input signatures artifacts report)) := by
  rw [execute_generate_of_built htext hbuilds.found hbuilds.outcome]
  rw [startedLines, builtLines] at hwrite
  rw [hwrite]
  rfl

/-- Generation goes well only if the wrappers of the text are built and written. -/
theorem exists_written_of_generate
    (h : execute (generate input output : ExceptT Failure (StateM World) PackageReport) world =
      (.ok report, last)) :
    ∃ text signatures artifacts after, world.disk.readText input = .ok text ∧
      Builds text signatures artifacts ∧
      execute (writePackage output (sourceFiles artifacts))
        (world.printed (startedLines input signatures artifacts)) = (.ok report, after) ∧
      last = after.printed (finishedLines input signatures artifacts report) := by
  cases htext : world.disk.readText input with
  | error fault =>
      rw [execute_generate_of_unreadable htext] at h
      cases h
  | ok text =>
      cases hsignatures : signaturesOf text with
      | error error =>
          rw [execute_generate_of_unextracted htext hsignatures] at h
          cases h
      | ok signatures =>
          cases hartifacts : (Build.ofSignatures signatures).outcome with
          | error error =>
              rw [execute_generate_of_unbuilt htext hsignatures hartifacts] at h
              cases h
          | ok artifacts =>
              rw [execute_generate_of_built htext hsignatures hartifacts] at h
              split at h
              · next written after hwrite =>
                  obtain ⟨hreport, rfl⟩ := Prod.mk.inj h
                  cases hreport
                  exact ⟨text, signatures, artifacts, after, rfl, ⟨hsignatures, hartifacts⟩,
                    hwrite, rfl⟩
              · cases h

/-- Two packages of the same artifacts have the same contents. -/
theorem Installed.exists_content {directory other : Path} (h : Installed directory artifacts before)
    (hother : Installed other artifacts after) :
    ∀ name ∈ filenames (sourceFiles artifacts) ++ [manifestFilename], ∃ content,
      before.readFile (directory.join name) = .ok content ∧
        after.readFile (other.join name) = .ok content := by
  intro name hname
  by_cases hmanifest : name = manifestFilename
  · obtain ⟨source, hsource, hread⟩ := h.manifest
    obtain ⟨again, hagain, hreadOther⟩ := hother.manifest
    cases hsource.symm.trans hagain
    exact ⟨_, hmanifest ▸ hread, hmanifest ▸ hreadOther⟩
  · rcases List.mem_append.mp hname with hsource | hlast
    · obtain ⟨file, hfile, rfl⟩ := List.mem_map.mp hsource
      exact ⟨_, h.sources file hfile hmanifest, hother.sources file hfile hmanifest⟩
    · exact absurd (List.mem_singleton.mp hlast) hmanifest

/-- After the package was written, the input is there as it was unless it is one of the files. -/
theorem readText_of_written (htext : world.disk.readText input = .ok text)
    (hbuilds : Builds text signatures artifacts) {started : String}
    (hwrite : execute (writePackage output (sourceFiles artifacts)) (world.printed started) =
      (.ok report, last))
    (hinput : ∀ file ∈ report.files, world.disk.locate input ≠ .ok file.place) :
    last.disk.readText input = .ok text := by
  obtain ⟨hclean, content, hread, hcontent⟩ := Disk.readText_eq_ok_iff.mp htext
  obtain ⟨manifest, reports, final, rfl, hsettled⟩ :=
    exists_settled hbuilds.part hbuilds.distinct hwrite
  have hchanges := (writePackage_changes hbuilds.part hwrite).disk
  refine Disk.readText_eq_ok_iff.mpr ⟨hclean, content, ?_, hcontent⟩
  refine hchanges.readFile hread fun place hlocate name hname hentry => ?_
  obtain ⟨file, hfile, rfl⟩ := hsettled.exists_report_of_isEntry hname hentry
  exact hinput file hfile hlocate

/-- Two runs over the same input write the same files with the same contents. -/
theorem copies_of_generate {other target : Path} {elsewhere result : World} {copy : PackageReport}
    (h : execute (generate input output) world = (.ok report, last))
    (hcopy : execute (generate other target) elsewhere = (.ok copy, result))
    (hsame : elsewhere.disk.readFile other = world.disk.readFile input) :
    copy.files.map FileReport.extent = report.files.map FileReport.extent ∧
      ∀ file ∈ report.files, ∃ content,
        last.disk.readFile (output.join file.filename) = .ok content ∧
          result.disk.readFile (target.join file.filename) = .ok content := by
  obtain ⟨text, signatures, artifacts, after, htext, hbuilds, hwrite, rfl⟩ :=
    exists_written_of_generate h
  obtain ⟨_, _, _, afterwards, htextCopy, hbuildsCopy, hwriteCopy, rfl⟩ :=
    exists_written_of_generate hcopy
  obtain ⟨-, content, hread, hcontent⟩ := Disk.readText_eq_ok_iff.mp htext
  obtain ⟨-, _, hreadCopy, hcontentCopy⟩ := Disk.readText_eq_ok_iff.mp htextCopy
  cases hreadCopy.symm.trans (hsame.trans hread)
  cases hcontentCopy.symm.trans hcontent
  cases hbuildsCopy.found.symm.trans hbuilds.found
  cases hbuildsCopy.outcome.symm.trans hbuilds.outcome
  obtain ⟨manifest, reports, final, rfl, hsettled⟩ :=
    exists_settled hbuilds.part hbuilds.distinct hwrite
  obtain ⟨_, reportsCopy, finalCopy, rfl, hsettledCopy⟩ :=
    exists_settled hbuilds.part hbuilds.distinct hwriteCopy
  cases hsettledCopy.names_modules.symm.trans hsettled.names_modules
  refine ⟨hsettledCopy.map_extent.trans hsettled.map_extent.symm, fun file hfile => ?_⟩
  refine (hbuilds.installed hwrite).exists_content (hbuilds.installed hwriteCopy) _ ?_
  rw [← hsettled.map_filename]
  exact List.mem_map_of_mem hfile

/-- Generation is repeated without a change to the disk, unless the input was written over; and
from the same input, wherever it is, the same files are written to any other directory. -/
theorem generate_again (h : execute (generate input output) world = (.ok report, last))
    (hinput : ∀ file ∈ report.files, world.disk.locate input ≠ .ok file.place) :
    ∃ said, last.output = world.output ++ said ∧ last.errors = world.errors ∧
      (∀ again : World, again.disk = last.disk →
        execute (generate input output) again = (.ok report, again.printed said)) ∧
      ∀ (other target : Path) (elsewhere result : World) (copy : PackageReport),
        elsewhere.disk.readFile other = world.disk.readFile input →
        execute (generate other target) elsewhere = (.ok copy, result) →
        copy.files.map FileReport.extent = report.files.map FileReport.extent ∧
          ∀ file ∈ report.files, ∃ content,
            last.disk.readFile (output.join file.filename) = .ok content ∧
              result.disk.readFile (target.join file.filename) = .ok content := by
  obtain ⟨text, signatures, artifacts, after, htext, hbuilds, hwrite, rfl⟩ :=
    exists_written_of_generate h
  have hchanges := writePackage_changes hbuilds.part hwrite
  have hkept := readText_of_written htext hbuilds hwrite hinput
  obtain ⟨manifest, reports, final, hreport, hsettled⟩ :=
    exists_settled hbuilds.part hbuilds.distinct hwrite
  refine ⟨startedLines input signatures artifacts ++
    finishedLines input signatures artifacts report, ?_, hchanges.errors, ?_, ?_⟩
  · have houtput : after.output = world.output ++ startedLines input signatures artifacts :=
      hchanges.output
    rw [World.printed, houtput, String.append_assoc]
  · intro again hagain
    rw [World.printed_disk] at hagain
    have hwriteAgain : execute (writePackage output (sourceFiles artifacts))
        (again.printed (startedLines input signatures artifacts)) =
          (.ok report, again.printed (startedLines input signatures artifacts)) := by
      rw [hreport]
      apply Settled.execute_writePackage
      rw [World.printed_disk, hagain]
      exact hsettled
    rw [execute_generate_of_written (hagain ▸ hkept) hbuilds hwriteAgain, World.printed_printed]
  · intro other target elsewhere result copy hsame hcopy
    exact copies_of_generate h hcopy hsame

/-- A declaration whose wrapper has the name of the manifest, and so is written over in each run. -/
def overwrittenText : String :=
  "pub fn TA_MOD(inX: *f64, outBegIdx: int, outNBElement: int, outX: *f64)"

/-- A world with that declaration and the remains of another package. -/
def staleWorld : World :=
  .ofDisk
    { current := ["home"]
      root := .subdirectory "home"
        (.file "in.rs" (Text.Utf8.encode overwrittenText.toList)
          (.subdirectory "talib" (.file "mod.rs" [0xFF] (.file "sma.rs" [] .empty)) .empty)) .empty
      current_directory := rfl }

theorem staleWorld_again :
    ∃ report last said,
      execute (generate (.ofText "in.rs") (.ofText "talib")) staleWorld = (.ok report, last) ∧
        (∀ file ∈ report.files, staleWorld.disk.locate (.ofText "in.rs") ≠ .ok file.place) ∧
        last.output = said ∧
        execute (generate (.ofText "in.rs") (.ofText "talib")) last =
          (.ok report, last.printed said) := by
  have hplaces : ((execute (generate (.ofText "in.rs") (.ofText "talib") :
      ExceptT Failure (StateM World) PackageReport) staleWorld).1.map fun report =>
        report.files.map FileReport.place) =
          .ok [["home", "talib", "mod.rs"], ["home", "talib", "mod.rs"]] := by
    decide +kernel
  obtain ⟨report, hreport, hplaces⟩ := Except.map_eq_ok_iff.mp hplaces
  have hinput : ∀ file ∈ report.files,
      staleWorld.disk.locate (.ofText "in.rs") ≠ .ok file.place := by
    intro file hfile hlocate
    have hplace : file.place ∈ report.files.map FileReport.place := List.mem_map_of_mem hfile
    have hplaceOf : staleWorld.disk.locate (.ofText "in.rs") = .ok ["home", "in.rs"] := by
      decide +kernel
    rw [hplaces, ← Except.ok.inj (hplaceOf.symm.trans hlocate)] at hplace
    exact absurd hplace (by decide)
  obtain ⟨said, houtput, -, hagain, -⟩ := generate_again (Prod.ext hreport rfl) hinput
  refine ⟨report, _, said, Prod.ext hreport rfl, hinput, houtput.trans ?_, hagain _ rfl⟩
  exact String.empty_append

end IndicatorWrap
