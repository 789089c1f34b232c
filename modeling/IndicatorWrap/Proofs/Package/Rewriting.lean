import IndicatorWrap.Proofs.Machine.Rewrites
import IndicatorWrap.Proofs.Package.Publication
import IndicatorWrap.Proofs.Wrapper.Accepted

/-!
Writing a package again. A file that was written can be written wherever it could be
then, with the same report, and if it holds the same text nothing is changed. Only the
file of the manifest may hold another text on the way, because a source of that name is
written first; in the end it holds the manifest again.
-/

namespace IndicatorWrap

open Text.Utf8 (Bytes encode)
open World (execute)

variable {directory : Path} {filename text : String} {disk before after : Disk}
  {report : FileReport} {world last : World}

/-- Whether a report tells of a text that was written to a file, whatever the file holds
by now. -/
structure FileReport.TellsOf (report : FileReport) (directory : Path) (filename text : String)
    (disk : Disk) : Prop where
  part : Path.IsPart filename
  clean : directory.hasNul = false
  clean_file : (directory.join filename).hasNul = false
  node : disk.node directory = .ok .directory
  place : disk.locate (directory.join filename) = .ok report.place
  file : ∃ content, disk.lookup report.place = some (.file content)
  eq_written : report = writtenReport directory filename text disk

theorem execute_report (directory : Path) (filename text : String) (world : World) :
    execute (do
      let place ← (Machine.locate (directory.join filename) : StateM World _)
      return ⟨filename, place, Text.countLines text.toList, (encode text.toList).length⟩ :
        ExceptT Fault (StateM World) FileReport) world =
      (.ok (writtenReport directory filename text world.disk), world) :=
  rfl

namespace FileReport

namespace TellsOf

theorem of_writeText (hname : Path.IsPart filename)
    (h : execute (writeText directory filename text) world = (.ok report, last)) :
    report.TellsOf directory filename text last.disk := by
  obtain ⟨hchanges, hagrees⟩ := of_writeText_ok hname h
  unfold writeText at h
  obtain ⟨_, start, hcheck, hmake⟩ := World.execute_bind_eq_ok_iff.mp h
  obtain ⟨_, middle, hmade, hrest⟩ := World.execute_bind_eq_ok_iff.mp hmake
  obtain ⟨_, again, hcheckFile, hwrite⟩ := World.execute_bind_eq_ok_iff.mp hrest
  have hnode := (Machine.of_ensureDirectories hmade).node rfl
  rw [Machine.world_eq_of_checkPath hcheckFile, World.execute_bind, Machine.execute_writeFile]
    at hwrite
  cases hfile : middle.disk.writeFile (directory.join filename) (encode text.toList) with
  | error errno =>
      rw [hfile] at hwrite
      cases hwrite
  | ok disk =>
      rw [hfile] at hwrite
      obtain ⟨hreport, rfl⟩ := Prod.mk.inj hwrite
      obtain ⟨outer, name, hopens, rfl⟩ := Disk.writeFile_eq_ok_iff.mp hfile
      exact ⟨hname, Machine.clean_of_checkPath hcheck, Machine.clean_of_checkPath hcheckFile,
        (hopens.grows _).node_directory hnode, hagrees.place, ⟨_, hagrees.lookup⟩,
        (Except.ok.inj hreport).symm⟩

theorem keep (h : report.TellsOf directory filename text before)
    (hkeeps : Disk.Keeps before after) : report.TellsOf directory filename text after := by
  obtain ⟨old, hold⟩ := h.file
  have hplace := hkeeps.locate h.place
  have hwritten : writtenReport directory filename text after =
      writtenReport directory filename text before := by
    rw [writtenReport, writtenReport, h.place, hplace]
  exact ⟨h.part, h.clean, h.clean_file, hkeeps.node_directory h.node, hplace, hkeeps.file hold,
    h.eq_written.trans hwritten.symm⟩

/-- The text is written again and nothing else changed. -/
theorem execute_writeText (world : World) (h : report.TellsOf directory filename text world.disk) :
    execute (writeText directory filename text) world =
      (.ok report,
        { world with disk := world.disk.put report.place (.file (encode text.toList)) }) := by
  obtain ⟨old, hold⟩ := h.file
  obtain ⟨outer, name, hopens, hplace⟩ := Disk.exists_opens_of_file h.place hold
  have hwrite : world.disk.writeFile (directory.join filename) (encode text.toList) =
      .ok (world.disk.put report.place (.file (encode text.toList))) :=
    Disk.writeFile_eq_ok_iff.mpr ⟨outer, name, hopens, by rw [hplace]⟩
  have hfile := Machine.execute_writeFile (directory.join filename) (encode text.toList) world
  rw [hwrite] at hfile
  have hkept := h.keep (Disk.keeps_put hold (encode text.toList))
  refine World.execute_bind_eq_ok_iff.mpr ⟨(), world, ?_, ?_⟩
  · rw [Machine.execute_checkPath, h.clean, if_neg Bool.false_ne_true]
  refine World.execute_bind_eq_ok_iff.mpr
    ⟨(), world, Machine.execute_ensureDirectories_of_directory h.clean h.node, ?_⟩
  refine World.execute_bind_eq_ok_iff.mpr ⟨(), world, ?_, ?_⟩
  · rw [Machine.execute_checkPath, h.clean_file, if_neg Bool.false_ne_true]
  refine World.execute_bind_eq_ok_iff.mpr ⟨(), _, hfile, ?_⟩
  exact (execute_report directory filename text _).trans (by rw [← hkept.eq_written])

end TellsOf

end FileReport

variable {files : List SourceFile} {reports : List FileReport} {place : Location}
  {content old : Bytes}

/-- What is written later leaves every earlier file a file. -/
theorem tellsOf_of_writeFiles (hparts : ∀ file ∈ files, Path.IsPart file.filename)
    (h : execute (writeFiles directory files) world = (.ok reports, last)) :
    List.Forall₂ (fun file report => report.TellsOf directory file.filename file.source last.disk)
      files reports := by
  induction files generalizing world reports with
  | nil =>
      cases h
      exact .nil
  | cons file rest ih =>
      obtain ⟨hpart, hparts⟩ := List.forall_mem_cons.mp hparts
      obtain ⟨report, middle, hfile, hmore⟩ := World.execute_bind_eq_ok_iff.mp h
      obtain ⟨more, again, hrest, hdone⟩ := World.execute_bind_eq_ok_iff.mp hmore
      cases hdone
      have hkeeps := (writeFiles_changes hparts hrest).disk.keeps
      exact .cons ((FileReport.TellsOf.of_writeText hpart hfile).keep hkeeps) (ih hparts hrest)

/-- Whether a report tells of a file that holds its source, unless it is at one place. -/
def SettledBut (place : Location) (directory : Path) (disk : Disk) (file : SourceFile)
    (report : FileReport) : Prop :=
  report.TellsOf directory file.filename file.source disk ∧
    (report.place = place ∨
      disk.lookup report.place = some (.file (encode file.source.toList)))

/-- Only the file at that place is changed if the files are written again, whatever it held
before. -/
theorem writeFiles_again (hplace : disk.lookup place = some (.file old))
    (h : List.Forall₂ (SettledBut place directory disk) files reports)
    (hdisk : world.disk = disk.put place (.file content)) :
    ∃ content, execute (writeFiles directory files) world =
      (.ok reports, { world with disk := disk.put place (.file content) }) := by
  induction h generalizing world content with
  | nil => exact ⟨content, by rw [← hdisk]; rfl⟩
  | @cons file report files reports hfirst _ ih =>
      -- between two writes the disk differs from the one given at that place only
      obtain ⟨htold, hsettled⟩ := hfirst
      have hkept := htold.keep (Disk.keeps_put hplace content)
      rw [← hdisk] at hkept
      have hfile := hkept.execute_writeText world
      obtain ⟨between, hput⟩ := Disk.put_put_of_settled hplace hsettled content
      rw [hdisk, hput] at hfile
      have hnext : ({ world with disk := disk.put place (.file between) } : World).disk =
          disk.put place (.file between) := rfl
      obtain ⟨final, hrest⟩ := ih hnext
      refine ⟨final, World.execute_bind_eq_ok_iff.mpr ⟨report, _, hfile, ?_⟩⟩
      exact World.execute_bind_eq_ok_iff.mpr ⟨reports, _, hrest, rfl⟩

/-- Whether a package is on a disk as it was written there: the manifest holds its text, and
so do the other files. -/
structure Settled (directory : Path) (files : List SourceFile) (manifest : String)
    (reports : List FileReport) (final : FileReport) (disk : Disk) : Prop where
  names_modules : manifest? (files.map SourceFile.moduleName) = some manifest
  settled : List.Forall₂ (SettledBut final.place directory disk) files reports
  told : final.TellsOf directory manifestFilename manifest disk
  holds : disk.lookup final.place = some (.file (encode manifest.toList))

theorem exists_settled {report : PackageReport}
    (hparts : ∀ file ∈ files, Path.IsPart file.filename) (hdistinct : (filenames files).Nodup)
    (h : execute (writePackage directory files) world = (.ok report, last)) :
    ∃ manifest reports final, report = ⟨directory, reports ++ [final]⟩ ∧
      Settled directory files manifest reports final last.disk := by
  obtain ⟨manifest, reports, final, middle, hmanifest, hfiles, hlast, rfl⟩ :=
    execute_writePackage_eq_ok_iff.mp h
  have htold := tellsOf_of_writeFiles hparts hfiles
  obtain ⟨-, hreports⟩ := of_writeFiles_ok hparts hdistinct hfiles
  obtain ⟨hchanges, hfinal⟩ := of_writeText_ok isPart_manifestFilename hlast
  refine ⟨manifest, reports, final, rfl, hmanifest, ?_,
    .of_writeText isPart_manifestFilename hlast, hfinal.lookup⟩
  refine htold.mp ?_ (List.forall₂_map_left_iff.mp hreports)
  intro file report htold hagrees
  have hkept := htold.keep hchanges.disk.keeps
  refine ⟨hkept, ?_⟩
  by_cases hname : file.filename = manifestFilename
  · have hplace := hfinal.place
    rw [← hname] at hplace
    exact .inl (Except.ok.inj (hkept.place.symm.trans hplace))
  · have hfresh : file.filename ∉ [manifestFilename] := by simpa using hname
    exact .inr (hagrees.keep htold.part hchanges.disk hfresh).lookup

/-- A package is written again as it was written, and nothing changes: what the file of the
manifest holds after the sources is written over in the end. -/
theorem Settled.execute_writePackage {manifest : String} {final : FileReport}
    (h : Settled directory files manifest reports final world.disk) :
    execute (writePackage directory files) world =
      (.ok ⟨directory, reports ++ [final]⟩, world) := by
  have hself := Disk.put_eq_self h.holds
  obtain ⟨content, hfiles⟩ := writeFiles_again h.holds h.settled hself.symm
  have hkept := h.told.keep (Disk.keeps_put h.holds content)
  have hlast := hkept.execute_writeText
    { world with disk := world.disk.put final.place (.file content) }
  rw [Disk.put_put, hself] at hlast
  exact execute_writePackage_eq_ok_iff.mpr
    ⟨manifest, reports, final, _, h.names_modules, hfiles, hlast, rfl⟩

/-! What a report says of a file, its place aside, is told by its name and its text. -/

def FileReport.extent (report : FileReport) : String × Nat × Nat :=
  (report.filename, report.lineCount, report.byteCount)

def extentOf (named : String × String) : String × Nat × Nat :=
  (named.1, Text.countLines named.2.toList, (encode named.2.toList).length)

theorem FileReport.TellsOf.extent_eq (h : report.TellsOf directory filename text disk) :
    report.extent = extentOf (filename, text) := by
  rw [h.eq_written]
  rfl

namespace Settled

variable {manifest : String} {final : FileReport}

theorem forall₂_tellsOf (h : Settled directory files manifest reports final disk) :
    List.Forall₂ (fun named report => FileReport.TellsOf report directory named.1 named.2 disk)
      (packageTexts files manifest) (reports ++ [final]) := by
  refine List.rel_append ?_ (.cons h.told .nil)
  exact List.forall₂_map_left_iff.mpr (h.settled.imp fun _ _ hsettled => hsettled.1)

theorem map_extent (h : Settled directory files manifest reports final disk) :
    (reports ++ [final]).map FileReport.extent = (packageTexts files manifest).map extentOf := by
  symm
  rw [← List.forall₂_eq_eq_eq, List.forall₂_map_left_iff, List.forall₂_map_right_iff]
  exact h.forall₂_tellsOf.imp fun _ _ htold => htold.extent_eq.symm

theorem map_filename (h : Settled directory files manifest reports final disk) :
    (reports ++ [final]).map FileReport.filename = filenames files ++ [manifestFilename] := by
  have hnames := congrArg (List.map Prod.fst) h.map_extent
  simp only [packageTexts, List.map_append, List.map_map] at hnames
  rw [List.map_append]
  exact hnames

/-- The place of a file of the package, whatever it holds, is one that is reported. -/
theorem exists_report_of_isEntry (h : Settled directory files manifest reports final disk)
    (hname : filename ∈ filenames files ++ [manifestFilename])
    (hentry : disk.IsEntry directory filename place) :
    ∃ report ∈ reports ++ [final], report.place = place := by
  have hnamed : ∃ named ∈ packageTexts files manifest, named.1 = filename := by
    simpa [packageTexts, filenames, SourceFile.named, eq_comm] using hname
  obtain ⟨named, hnamed, rfl⟩ := hnamed
  obtain ⟨report, hreport, htold⟩ := exists_mem_of_forall₂ h.forall₂_tellsOf named hnamed
  obtain ⟨content, hcontent⟩ := htold.file
  have hplace := htold.place
  rw [Path.join_of_isPart htold.part] at hplace
  exact ⟨report, hreport, (Disk.IsEntry.of_locate hplace hcontent).place_eq hentry⟩

end Settled

end IndicatorWrap
