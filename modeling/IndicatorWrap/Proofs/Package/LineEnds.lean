import IndicatorWrap.Proofs.Machine.Twins
import IndicatorWrap.Proofs.Package.Regeneration
import IndicatorWrap.Proofs.Text.Decoding

/-!
How the lines of the input end makes no difference to generation. Reading turns every end of a
line into a line feed before anything is made of the text, and nothing else looks into the file:
it may be written over, then with the same content, but it is not read again.
-/

namespace IndicatorWrap

open Text.Utf8 (Bytes encode)
open Text (LineEnd)
open World (execute)

variable {input output : Path} {place : Location} {one other : Bytes} {first second : World}

/-- The content of a file with a text in it, its lines ended in one way. -/
def contentOf (lineEnd : LineEnd) (text : String) : Bytes :=
  encode (lineEnd.write text.toList)

theorem textOf_contentOf {text : String} (h : '\r' ∉ text.toList) (lineEnd : LineEnd) :
    textOf (contentOf lineEnd text) = .ok text := by
  rw [textOf, contentOf, Text.Utf8.decode_encode]
  dsimp only
  rw [Text.unifyLineEnds_write h, String.ofList_toList]

theorem Disk.readText_of_file {disk : Disk} {content : Bytes}
    (hlocate : disk.locate input = .ok place) (hfile : disk.lookup place = some (.file content)) :
    disk.readText input = if input.hasNul then .error .nulInPath else textOf content := by
  rw [readText, readFile_eq_ok_iff.mpr ⟨place, hlocate, hfile⟩]

theorem Disk.twins_put {disk : Disk} (h : disk.lookup place = some (.file one)) (other : Bytes) :
    Twins place one other disk (disk.put place (.file other)) where
  current := rfl
  elsewhere := by
    intro target htarget
    rw [lookup_put_of_file h, if_neg htarget]
  here := by
    rw [lookup_put_of_file h, if_pos rfl]
    exact .inr ⟨h, rfl⟩

theorem World.Twins.printed (h : Twins place one other first second) (text : String) :
    Twins place one other (first.printed text) (second.printed text) :=
  ⟨h.disk, congrArg (· ++ text) h.output, h.errors⟩

/-- Generation does the same on twins where the same text is read. -/
theorem generate_twins (h : World.Twins place one other first second)
    (hread : first.disk.readText input = second.disk.readText input) :
    (execute (generate input output : ExceptT Failure (StateM World) PackageReport) first).1 =
        (execute (generate input output) second).1 ∧
      World.Twins place one other (execute (generate input output) first).2
        (execute (generate input output) second).2 := by
  cases htext : second.disk.readText input with
  | error fault =>
      rw [execute_generate_of_unreadable (hread.trans htext), execute_generate_of_unreadable htext]
      exact ⟨rfl, h.printed _⟩
  | ok text =>
      cases hsignatures : signaturesOf text with
      | error error =>
          rw [execute_generate_of_unextracted (hread.trans htext) hsignatures,
            execute_generate_of_unextracted htext hsignatures]
          exact ⟨rfl, h.printed _⟩
      | ok signatures =>
          cases hartifacts : (Build.ofSignatures signatures).outcome with
          | error error =>
              rw [execute_generate_of_unbuilt (hread.trans htext) hsignatures hartifacts,
                execute_generate_of_unbuilt htext hsignatures hartifacts]
              exact ⟨rfl, h.printed _⟩
          | ok artifacts =>
              rw [execute_generate_of_built (hread.trans htext) hsignatures hartifacts,
                execute_generate_of_built htext hsignatures hartifacts]
              generalize parsingLine input ++ extractedLine signatures ++
                (Build.ofSignatures signatures).warnings ++ synthesizedLine artifacts = started
              have hwritten := writePackage_blind output (sourceFiles artifacts) _ _
                (h.printed started)
              rcases hfirst : execute (writePackage output (sourceFiles artifacts))
                (first.printed started) with ⟨result, after⟩
              rcases hsecond : execute (writePackage output (sourceFiles artifacts))
                (second.printed started) with ⟨result', after'⟩
              rw [hfirst, hsecond] at hwritten
              obtain ⟨rfl, hafter⟩ := hwritten
              cases result with
              | error fault => exact ⟨rfl, hafter⟩
              | ok report => exact ⟨rfl, hafter.printed _⟩

/-- Whatever a package was written over, its files hold the same. -/
theorem Settled.same_content {directory : Path} {files : List SourceFile} {manifest : String}
    {reports : List FileReport} {final : FileReport} {disk twin : Disk}
    (h : Settled directory files manifest reports final disk)
    (h' : Settled directory files manifest reports final twin) :
    ∀ report ∈ reports ++ [final], ∃ content,
      disk.lookup report.place = some (.file content) ∧
        twin.lookup report.place = some (.file content) := by
  have hfinal : ∃ content, disk.lookup final.place = some (.file content) ∧
      twin.lookup final.place = some (.file content) :=
    ⟨_, h.holds, h'.holds⟩
  have hreports : List.Forall₂ (fun _ report => ∃ content,
      disk.lookup report.place = some (.file content) ∧
        twin.lookup report.place = some (.file content)) files reports := by
    refine h.settled.mp ?_ h'.settled
    rintro file report ⟨-, hplace | hsource⟩ ⟨-, hplace' | hsource'⟩
    · exact hplace ▸ hfinal
    · exact hplace ▸ hfinal
    · exact hplace' ▸ hfinal
    · exact ⟨_, hsource, hsource'⟩
  rw [List.forall_mem_append, List.forall_mem_singleton]
  refine ⟨fun report hreport => ?_, hfinal⟩
  obtain ⟨file, -, hcontent⟩ := exists_mem_of_forall₂ hreports.flip report hreport
  exact hcontent

/-- Two runs that read the same text and report the same have written the same. -/
theorem same_files_of_generate {report : PackageReport} {last twin : World}
    (h : execute (generate input output) first = (.ok report, last))
    (h' : execute (generate input output) second = (.ok report, twin))
    (hread : first.disk.readText input = second.disk.readText input) :
    ∀ file ∈ report.files, ∃ content, last.disk.lookup file.place = some (.file content) ∧
      twin.disk.lookup file.place = some (.file content) := by
  obtain ⟨text, signatures, artifacts, after, htext, hbuilds, hwrite, rfl⟩ :=
    exists_written_of_generate h
  obtain ⟨_, _, _, after', htext', hbuilds', hwrite', rfl⟩ := exists_written_of_generate h'
  cases htext.symm.trans (hread.trans htext')
  cases hbuilds'.found.symm.trans hbuilds.found
  cases hbuilds'.outcome.symm.trans hbuilds.outcome
  obtain ⟨manifest, reports, final, hreport, hsettled⟩ :=
    exists_settled hbuilds.part hbuilds.distinct hwrite
  obtain ⟨manifest', reports', final', hreport', hsettled'⟩ :=
    exists_settled hbuilds.part hbuilds.distinct hwrite'
  cases hsettled'.names_modules.symm.trans hsettled.names_modules
  subst hreport
  have hfiles : reports ++ [final] = reports' ++ [final'] := by
    simpa using hreport'
  obtain ⟨rfl, hfinal⟩ := List.append_inj' hfiles rfl
  obtain rfl := List.singleton_inj.mp hfinal
  exact hsettled.same_content hsettled'

/-- Whether two runs came to the same: the same result, the same prints and disks that are the same
but for the file at a place, which each run may have left as it was. The files that are reported
hold the same bytes, be that one of them or not. -/
structure SameRun (place : Location) (one other : Bytes)
    (run twin : Except Failure PackageReport × World) : Prop where
  result : twin.1 = run.1
  world : World.Twins place one other run.2 twin.2
  files : ∀ report, run.1 = .ok report → ∀ file ∈ report.files, ∃ content,
    run.2.disk.lookup file.place = some (.file content) ∧
      twin.2.disk.lookup file.place = some (.file content)

/-- Two runs that came to the same, the first of them well, reported and wrote the same. -/
theorem SameRun.written {run twin : Except Failure PackageReport × World} {places : List Location}
    {target : Location} (h : SameRun place one other run twin)
    (hplaces : run.1.map (fun report => report.files.map FileReport.place) = .ok places)
    (htarget : target ∈ places) :
    ∃ report last last', run = (.ok report, last) ∧ twin = (.ok report, last') ∧
      last.output = last'.output ∧ last.disk.lookup target = last'.disk.lookup target := by
  obtain ⟨report, hreport, rfl⟩ := Except.map_eq_ok_iff.mp hplaces
  obtain ⟨file, hfile, rfl⟩ := List.mem_map.mp htarget
  obtain ⟨content, hcontent, hcontent'⟩ := h.files report hreport file hfile
  exact ⟨report, run.2, twin.2, Prod.ext hreport rfl, Prod.ext (h.result.trans hreport) rfl,
    h.world.output, hcontent.trans hcontent'.symm⟩

/-- The same text in files with different ends of lines, on disks that are else the same, leads
generation to the same. -/
theorem generate_lineEnds {text : String} (htext : '\r' ∉ text.toList) (one other : LineEnd)
    (hlocate : first.disk.locate input = .ok place)
    (hone : first.disk.lookup place = some (.file (contentOf one text)))
    (hother : second.disk.lookup place = some (.file (contentOf other text)))
    (htwins : World.Twins place (contentOf one text) (contentOf other text) first second) :
    SameRun place (contentOf one text) (contentOf other text)
      (execute (generate input output) first) (execute (generate input output) second) := by
  have hread : first.disk.readText input = second.disk.readText input := by
    rw [Disk.readText_of_file hlocate hone,
      Disk.readText_of_file (htwins.disk.locate_eq input ▸ hlocate) hother,
      textOf_contentOf htext, textOf_contentOf htext]
  obtain ⟨hresult, hlast⟩ := generate_twins htwins hread
  refine ⟨hresult.symm, hlast, fun report hreport => ?_⟩
  exact same_files_of_generate (Prod.ext hreport rfl) (Prod.ext (hresult.symm.trans hreport) rfl)
    hread

/-- A declaration behind a comment that has to end with its line. -/
def commentedText : String :=
  "// one line\npub fn TA_X(inX: *f64, outBegIdx: int, outNBElement: int, outX: *f64)\n"

/-- A world with that text in the file that the manifest will be written to. -/
def commentedWorld (lineEnd : LineEnd) : World :=
  .ofDisk
    { current := ["home"]
      root := .subdirectory "home" (.subdirectory "talib"
        (.file "mod.rs" (contentOf lineEnd commentedText) .empty) .empty) .empty
      current_directory := rfl }

theorem commentedWorld_generates :
    ∃ report last last',
      execute (generate (.ofText "talib/mod.rs") (.ofText "talib"))
        (commentedWorld .lineFeed) = (.ok report, last) ∧
      execute (generate (.ofText "talib/mod.rs") (.ofText "talib"))
        (commentedWorld .carriageReturn) = (.ok report, last') ∧
      last.output = last'.output ∧
      last.disk.lookup ["home", "talib", "mod.rs"] =
        last'.disk.lookup ["home", "talib", "mod.rs"] := by
  have hok : ((execute (generate (.ofText "talib/mod.rs") (.ofText "talib") :
      ExceptT Failure (StateM World) PackageReport) (commentedWorld .lineFeed)).1.map fun report =>
        report.files.map FileReport.place) =
          .ok [["home", "talib", "x.rs"], ["home", "talib", "mod.rs"]] := by
    decide +kernel
  have hfile : (commentedWorld .lineFeed).disk.lookup ["home", "talib", "mod.rs"] =
      some (.file (contentOf .lineFeed commentedText)) := rfl
  have hother : (commentedWorld .carriageReturn).disk.lookup ["home", "talib", "mod.rs"] =
      some (.file (contentOf .carriageReturn commentedText)) := rfl
  have hput : (commentedWorld .carriageReturn).disk =
      (commentedWorld .lineFeed).disk.put ["home", "talib", "mod.rs"]
        (.file (contentOf .carriageReturn commentedText)) := rfl
  have htwins : World.Twins ["home", "talib", "mod.rs"] (contentOf .lineFeed commentedText)
      (contentOf .carriageReturn commentedText) (commentedWorld .lineFeed)
      (commentedWorld .carriageReturn) :=
    ⟨hput ▸ Disk.twins_put hfile _, rfl, rfl⟩
  have hlocate : (commentedWorld .lineFeed).disk.locate (.ofText "talib/mod.rs") =
      .ok ["home", "talib", "mod.rs"] := rfl
  exact (generate_lineEnds (by decide) .lineFeed .carriageReturn hlocate hfile hother
    htwins).written hok (by decide)

end IndicatorWrap
