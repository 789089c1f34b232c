import IndicatorWrap.Package.Writer
import IndicatorWrap.Proofs.Machine.Denials
import IndicatorWrap.Proofs.Text.EncodedLines
import Mathlib

/-!
Files written into a directory, one after the other. A write that fails was denied and
leaves all files as they were; one that goes well leaves the text and a report on it that
agrees with the disk, and it goes on to agree whatever is written next to it under
other names.
-/

namespace IndicatorWrap

open World (execute)

variable {directory : Path} {filename text : String} {disk before after : Disk}
  {report : FileReport}

/-- Whether a report on a text written to a file agrees with a disk: the file is at
the place reported and holds the text, and the counts are those of its bytes and of
the line feeds among them. -/
structure FileReport.AgreesWith (report : FileReport) (directory : Path) (filename text : String)
    (disk : Disk) : Prop where
  name : report.filename = filename
  place : disk.locate (directory.join filename) = .ok report.place
  content : disk.readFile (directory.join filename) = .ok (Text.Utf8.encode text.toList)
  byteCount : report.byteCount = (Text.Utf8.encode text.toList).length
  lineCount : report.lineCount = (Text.Utf8.encode text.toList).count Text.Utf8.lineFeed

/-- The report on a text that was just written to a file. -/
def writtenReport (directory : Path) (filename text : String) (disk : Disk) : FileReport where
  filename := filename
  place := (disk.locate (directory.join filename)).toOption.getD []
  lineCount := Text.countLines text.toList
  byteCount := (Text.Utf8.encode text.toList).length

namespace FileReport.AgreesWith

theorem of_writeFile
    (h : before.writeFile (directory.join filename) (Text.Utf8.encode text.toList) = .ok after) :
    (writtenReport directory filename text after).AgreesWith directory filename text after := by
  obtain ⟨outer, name, hopens, rfl⟩ := Disk.writeFile_eq_ok_iff.mp h
  have hlocate := hopens.locate_put (.file (Text.Utf8.encode text.toList))
  refine ⟨rfl, ?_, ?_, rfl, (Text.Utf8.count_lineFeed_encode text.toList).symm⟩
  · rw [writtenReport, hlocate]
    rfl
  · rw [Disk.readFile, hopens.node_put]

theorem lookup (h : report.AgreesWith directory filename text disk) :
    disk.lookup report.place = some (.file (Text.Utf8.encode text.toList)) := by
  obtain ⟨place, hplace, hcontent⟩ := Disk.readFile_eq_ok_iff.mp h.content
  obtain rfl : report.place = place := Except.ok.inj (h.place.symm.trans hplace)
  exact hcontent

/-- Files written under other names leave a file and what was said about it as they
are. -/
theorem keep {names : List String} (h : report.AgreesWith directory filename text before)
    (hname : Path.IsPart filename) (hchanges : Disk.Changes directory names before after)
    (hfresh : filename ∉ names) : report.AgreesWith directory filename text after := by
  have hlocate := hchanges.grows.locate h.place
  have hcontent := h.lookup
  refine { h with place := hlocate, content := ?_ }
  refine Disk.readFile_eq_ok_iff.mpr ⟨report.place, hlocate, ?_⟩
  cases hchanges.became report.place with
  | kept same => exact same.trans hcontent
  | made made => exact absurd (hcontent.symm.trans made.absent) (by simp)
  | written named _ there =>
      -- the place is an entry of one name only, and that one is not among those written
      obtain ⟨other, hother, hentry⟩ := named
      obtain ⟨content, hcontent⟩ := there
      rw [Path.join_of_isPart hname] at hlocate
      have hown := Disk.IsEntry.of_locate hlocate hcontent
      exact absurd (hown.name_eq hentry ▸ hother) hfresh

end FileReport.AgreesWith

/-- Whether texts are in files of these names and reports agree with them, one by one. -/
def Reported (directory : Path) (texts : List (String × String)) (reports : List FileReport)
    (disk : Disk) : Prop :=
  List.Forall₂ (fun named report => report.AgreesWith directory named.1 named.2 disk) texts reports

namespace Reported

variable {texts : List (String × String)} {reports : List FileReport}

theorem keep {names : List String} (h : Reported directory texts reports before)
    (hparts : ∀ named ∈ texts, Path.IsPart named.1) (hfresh : ∀ named ∈ texts, named.1 ∉ names)
    (hchanges : Disk.Changes directory names before after) :
    Reported directory texts reports after := by
  induction h with
  | nil => exact .nil
  | cons hreport _ ih =>
      obtain ⟨hpart, hparts⟩ := List.forall_mem_cons.mp hparts
      obtain ⟨hfresh, hmore⟩ := List.forall_mem_cons.mp hfresh
      exact .cons (hreport.keep hpart hchanges hfresh) (ih hparts hmore)

theorem exists_report (h : Reported directory texts reports disk) :
    ∀ named ∈ texts, ∃ report : FileReport, report.AgreesWith directory named.1 named.2 disk := by
  induction h with
  | nil => exact List.forall_mem_nil _
  | cons hreport _ ih => exact List.forall_mem_cons.mpr ⟨⟨_, hreport⟩, ih⟩

theorem readFile (h : Reported directory texts reports disk) :
    ∀ named ∈ texts, disk.readFile (directory.join named.1) =
      .ok (Text.Utf8.encode named.2.toList) := by
  intro named hnamed
  obtain ⟨report, hreport⟩ := h.exists_report named hnamed
  exact hreport.content

theorem sum_lineCount (h : Reported directory texts reports disk) :
    reports.foldr (fun file total => file.lineCount + total) 0 =
      (texts.map fun named => (Text.Utf8.encode named.2.toList).count Text.Utf8.lineFeed).sum := by
  induction h with
  | nil => rfl
  | cons hreport _ ih => rw [List.foldr_cons, List.map_cons, List.sum_cons, hreport.lineCount, ih]

end Reported

variable {world last : World}

/-- What a write comes to: it is denied and no file is changed, or the directory is there
and the file is written into it. -/
theorem writeText_cases {result : Except Fault FileReport}
    (h : execute (writeText directory filename text) world = (result, last)) :
    (∃ fault, result = .error fault ∧ Denied directory filename last.disk fault ∧
        World.Changes directory [] world last) ∨
      ∃ middle disk, World.Changes directory [] world middle ∧
        middle.disk.writeFile (directory.join filename) (Text.Utf8.encode text.toList) = .ok disk ∧
        last = { middle with disk } ∧
        result = .ok (writtenReport directory filename text disk) := by
  unfold writeText at h
  rcases World.execute_bind_eq_iff.mp h with ⟨_, start, hcheck, hmake⟩ | ⟨fault, hcheck, rfl⟩
  · have hclean := Machine.clean_of_checkPath hcheck
    rw [Machine.world_eq_of_checkPath hcheck] at hmake
    rcases World.execute_bind_eq_iff.mp hmake with ⟨_, middle, hmade, hrest⟩ | ⟨fault, hmade, rfl⟩
    · have hchanges := (Machine.of_ensureDirectories hmade).changes
      rcases World.execute_bind_eq_iff.mp hrest with ⟨_, again, hcheck, hwrite⟩ | ⟨fault, hcheck, rfl⟩
      · rw [Machine.world_eq_of_checkPath hcheck, World.execute_bind,
          Machine.execute_writeFile] at hwrite
        cases hfile : middle.disk.writeFile (directory.join filename)
            (Text.Utf8.encode text.toList) with
        | ok disk =>
            rw [hfile] at hwrite
            obtain ⟨rfl, rfl⟩ := Prod.mk.inj hwrite
            exact .inr ⟨middle, disk, hchanges, hfile, rfl, rfl⟩
        | error errno =>
            rw [hfile] at hwrite
            obtain ⟨rfl, rfl⟩ := Prod.mk.inj hwrite
            have hopen := Disk.writeFile_eq_error_iff.mp hfile
            exact .inl ⟨_, rfl, .unopened hopen, hchanges⟩
      · rw [Machine.world_eq_of_checkPath hcheck]
        obtain ⟨hnul, rfl⟩ := Machine.of_checkPath_error hcheck
        exact .inl ⟨_, rfl, .nulInPath (.inr hnul), hchanges⟩
    · have hblocked := Machine.blocked_of_ensureDirectories hclean hmade
      exact .inl ⟨fault, rfl, .blocked hblocked, (Machine.of_ensureDirectories hmade).changes⟩
  · rw [Machine.world_eq_of_checkPath hcheck]
    obtain ⟨hnul, rfl⟩ := Machine.of_checkPath_error hcheck
    exact .inl ⟨_, rfl, .nulInPath (.inl hnul), .refl directory [] world⟩

theorem of_writeText_ok (hname : Path.IsPart filename)
    (h : execute (writeText directory filename text) world = (.ok report, last)) :
    World.Changes directory [filename] world last ∧
      report.AgreesWith directory filename text last.disk := by
  rcases writeText_cases h with ⟨fault, hfault, -⟩ | ⟨middle, disk, hchanges, hfile, rfl, hreport⟩
  · cases hfault
  · cases hreport
    refine ⟨?_, .of_writeFile hfile⟩
    rw [Path.join_of_isPart hname] at hfile
    exact (hchanges.mono (List.nil_subset _)).trans ⟨.writeFile hfile, rfl, rfl⟩

theorem of_writeText_error {fault : Fault}
    (h : execute (writeText directory filename text) world = (.error fault, last)) :
    Denied directory filename last.disk fault ∧ World.Changes directory [] world last := by
  rcases writeText_cases h with ⟨_, hfault, hfailed⟩ | ⟨_, _, _, _, _, hreport⟩
  · cases hfault
    exact hfailed
  · cases hreport

theorem writeText_changes {result : Except Fault FileReport} (hname : Path.IsPart filename)
    (h : execute (writeText directory filename text) world = (result, last)) :
    World.Changes directory [filename] world last := by
  cases result with
  | error fault => exact (of_writeText_error h).2.mono (List.nil_subset _)
  | ok report => exact (of_writeText_ok hname h).1

variable {files : List SourceFile}

/-- The names of the files, in order. -/
abbrev filenames (files : List SourceFile) : List String :=
  files.map SourceFile.filename

/-- The name of a source file and its text. -/
def SourceFile.named (file : SourceFile) : String × String :=
  (file.filename, file.source)

/-- Whatever comes of a run of writes, nothing else is changed but files of these names. -/
theorem writeFiles_changes {result : Except Fault (List FileReport)}
    (hparts : ∀ file ∈ files, Path.IsPart file.filename)
    (h : execute (writeFiles directory files) world = (result, last)) :
    World.Changes directory (filenames files) world last := by
  induction files generalizing world result with
  | nil =>
      cases h
      exact .refl directory _ last
  | cons file rest ih =>
      obtain ⟨hpart, hparts⟩ := List.forall_mem_cons.mp hparts
      rcases World.execute_bind_eq_iff.mp h with ⟨report, middle, hfile, hmore⟩ | ⟨_, hfile, -⟩
      · have hfirst : World.Changes directory (filenames (file :: rest)) world middle :=
          (writeText_changes hpart hfile).mono (by simp)
        rcases World.execute_bind_eq_iff.mp hmore with ⟨more, again, hrest, hdone⟩ | ⟨_, hrest, -⟩
        · cases hdone
          exact hfirst.trans ((ih hparts hrest).mono (by simp))
        · exact hfirst.trans ((ih hparts hrest).mono (by simp))
      · exact (writeText_changes hpart hfile).mono (by simp)

/-- A run of writes: every report agrees with the disk at the end. -/
theorem of_writeFiles_ok {reports : List FileReport}
    (hparts : ∀ file ∈ files, Path.IsPart file.filename) (hdistinct : (filenames files).Nodup)
    (h : execute (writeFiles directory files) world = (.ok reports, last)) :
    World.Changes directory (filenames files) world last ∧
      Reported directory (files.map SourceFile.named) reports last.disk := by
  refine ⟨writeFiles_changes hparts h, ?_⟩
  induction files generalizing world reports with
  | nil =>
      cases h
      exact .nil
  | cons file rest ih =>
      -- what the rest of the run changes has other names than the first file
      obtain ⟨hpart, hparts⟩ := List.forall_mem_cons.mp hparts
      obtain ⟨hfresh, hdistinct⟩ := List.nodup_cons.mp hdistinct
      obtain ⟨report, middle, hfile, hmore⟩ := World.execute_bind_eq_ok_iff.mp h
      obtain ⟨more, again, hrest, hdone⟩ := World.execute_bind_eq_ok_iff.mp hmore
      cases hdone
      have hreport := (of_writeText_ok hpart hfile).2
      have hchanges := writeFiles_changes hparts hrest
      exact .cons (hreport.keep hpart hchanges.disk hfresh) (ih hparts hdistinct hrest)

/-- A run of writes that fails: the one that failed, and those before it, which did not. -/
theorem of_writeFiles_error {fault : Fault}
    (h : execute (writeFiles directory files) world = (.error fault, last)) :
    ∃ written file rest reports middle, files = written ++ file :: rest ∧
      execute (writeFiles directory written) world = (.ok reports, middle) ∧
      execute (file.write directory) middle = (.error fault, last) := by
  induction files generalizing world with
  | nil => cases h
  | cons file rest ih =>
      rcases World.execute_bind_eq_iff.mp h with ⟨report, middle, hfile, hrest⟩ | ⟨_, hfile, hfault⟩
      · rcases World.execute_bind_eq_iff.mp hrest with ⟨_, _, _, hdone⟩ | ⟨_, hrest, hfault⟩
        · cases hdone
        · cases hfault
          obtain ⟨written, failed, left, reports, before, rfl, hwritten, hfailed⟩ := ih hrest
          refine ⟨file :: written, failed, left, report :: reports, before, rfl, ?_, hfailed⟩
          refine World.execute_bind_eq_ok_iff.mpr ⟨report, middle, hfile, ?_⟩
          exact World.execute_bind_eq_ok_iff.mpr ⟨reports, before, hwritten, rfl⟩
      · cases hfault
        exact ⟨[], file, rest, [], world, rfl, rfl, hfile⟩

end IndicatorWrap
