import IndicatorWrap.Proofs.Package.WrittenFiles

/-!
Publishing a package. If all goes well the disk holds every source and the manifest,
whatever it held before, and the report says so truthfully. If a directory cannot be made
or a file cannot be opened the sources before it are there, and nothing else has changed,
so that a manifest is only ever there with all the modules that it names.
-/

namespace IndicatorWrap

open World (execute)

variable {directory : Path} {files written rest : List SourceFile} {world last : World}

/-- Whether files can make up a package: their names are parts of a path, no two of
them the same and none that of the manifest. -/
structure Packable (files : List SourceFile) : Prop where
  part : ∀ file ∈ files, Path.IsPart file.filename
  ne_manifest : manifestFilename ∉ filenames files
  distinct : (filenames files).Nodup

instance (files : List SourceFile) : Decidable (Packable files) :=
  decidable_of_iff
    ((∀ file ∈ files, Path.IsPart file.filename) ∧ manifestFilename ∉ filenames files ∧
      (filenames files).Nodup)
    ⟨fun ⟨part, ne_manifest, distinct⟩ => ⟨part, ne_manifest, distinct⟩,
      fun h => ⟨h.part, h.ne_manifest, h.distinct⟩⟩

theorem isPart_manifestFilename : Path.IsPart manifestFilename := by
  decide

/-- The files of a package with their texts, the manifest last. -/
def packageTexts (files : List SourceFile) (manifest : String) : List (String × String) :=
  files.map SourceFile.named ++ [(manifestFilename, manifest)]

/-- Whether a package with a manifest is on a disk, in a directory, and a report agrees
with all of it. -/
structure Published (directory : Path) (files : List SourceFile) (manifest : String)
    (report : PackageReport) (disk : Disk) : Prop where
  names_modules : manifest? (files.map SourceFile.moduleName) = some manifest
  reported_directory : report.directory = directory
  reported_files : Reported directory (packageTexts files manifest) report.files disk
  totalLines : report.totalLines = ((packageTexts files manifest).map fun named =>
    (Text.Utf8.encode named.2.toList).count Text.Utf8.lineFeed).sum

namespace Packable

theorem part_named (h : Packable files) : ∀ named ∈ files.map SourceFile.named,
    Path.IsPart named.1 :=
  List.forall_mem_map.mpr h.part

theorem distinct_append (h : Packable (written ++ rest)) :
    (filenames written).Nodup ∧ (filenames rest).Nodup ∧
      ∀ name ∈ filenames written, ∀ other ∈ filenames rest, name ≠ other := by
  have hdistinct := h.distinct
  rwa [filenames, List.map_append, List.nodup_append] at hdistinct

theorem front (h : Packable (written ++ rest)) : Packable written where
  part file hfile := h.part file (List.mem_append_left rest hfile)
  ne_manifest hmem := h.ne_manifest (by simp [hmem])
  distinct := h.distinct_append.1

/-- What is yet to be written has none of the names that were written. -/
theorem fresh (h : Packable (written ++ rest)) {name : String}
    (hname : name ∈ filenames rest ++ [manifestFilename]) : name ∉ filenames written := by
  intro hwritten
  rcases List.mem_append.mp hname with hrest | hmanifest
  · exact h.distinct_append.2.2 name hwritten name hrest rfl
  · rw [List.mem_singleton.mp hmanifest] at hwritten
    exact h.ne_manifest (by simp [hwritten])

end Packable

theorem of_writeManifest_ok {names : List String} {report : FileReport}
    (h : execute (writeManifest directory names) world = (.ok report, last)) :
    ∃ manifest, manifest? names = some manifest ∧
      World.Changes directory [manifestFilename] world last ∧
      report.AgreesWith directory manifestFilename manifest last.disk := by
  unfold writeManifest at h
  split at h
  · cases h
  · next manifest hmanifest =>
      exact ⟨manifest, hmanifest, of_writeText_ok isPart_manifestFilename h⟩

theorem of_writeManifest_error {names : List String} {fault : Fault}
    (h : execute (writeManifest directory names) world = (.error fault, last)) :
    ((names = [] ∧ fault = .emptyManifest) ∨ Denied directory manifestFilename last.disk fault) ∧
      World.Changes directory [] world last := by
  cases names with
  | nil =>
      cases h
      exact ⟨.inl ⟨rfl, rfl⟩, .refl directory [] _⟩
  | cons name more =>
      obtain ⟨hdenied, hchanges⟩ := of_writeText_error h
      exact ⟨.inr hdenied, hchanges⟩

/-- A publication goes well exactly if the files are written and then a manifest of all of
them. -/
theorem execute_writePackage_eq_ok_iff {report : PackageReport} :
    execute (writePackage directory files) world = (.ok report, last) ↔
      ∃ manifest reports final middle, manifest? (files.map SourceFile.moduleName) = some manifest ∧
        execute (writeFiles directory files) world = (.ok reports, middle) ∧
        execute (writeText directory manifestFilename manifest) middle = (.ok final, last) ∧
        report = ⟨directory, reports ++ [final]⟩ := by
  constructor
  · intro h
    obtain ⟨reports, middle, hwrite, hrest⟩ := World.execute_bind_eq_ok_iff.mp h
    obtain ⟨final, after, hlast, hdone⟩ := World.execute_bind_eq_ok_iff.mp hrest
    cases hdone
    unfold writeManifest at hlast
    split at hlast
    · cases hlast
    · next manifest hmanifest => exact ⟨manifest, reports, final, middle, hmanifest, hwrite, hlast, rfl⟩
  · rintro ⟨manifest, reports, final, middle, hmanifest, hwrite, hlast, rfl⟩
    refine World.execute_bind_eq_ok_iff.mpr ⟨reports, middle, hwrite, ?_⟩
    refine World.execute_bind_eq_ok_iff.mpr ⟨final, last, ?_, rfl⟩
    rw [writeManifest, hmanifest]
    exact hlast

/-- A publication that goes well leaves the package on the disk, whatever was there, and
the report on it is true of the disk at the end. -/
theorem writePackage_published {report : PackageReport} (hfiles : Packable files)
    (h : execute (writePackage directory files) world = (.ok report, last)) :
    ∃ manifest, Published directory files manifest report last.disk := by
  obtain ⟨reports, middle, hwrite, hrest⟩ := World.execute_bind_eq_ok_iff.mp h
  obtain ⟨final, after, hlast, hdone⟩ := World.execute_bind_eq_ok_iff.mp hrest
  cases hdone
  obtain ⟨-, hreports⟩ := of_writeFiles_ok hfiles.part hfiles.distinct hwrite
  obtain ⟨manifest, hmanifest, hchanges, hfinal⟩ := of_writeManifest_ok hlast
  have hfresh : ∀ named ∈ files.map SourceFile.named, named.1 ∉ [manifestFilename] := by
    refine List.forall_mem_map.mpr fun file hfile hmem => hfiles.ne_manifest ?_
    exact List.mem_singleton.mp hmem ▸ List.mem_map_of_mem hfile
  have hkept := hreports.keep hfiles.part_named hfresh hchanges.disk
  have hall : Reported directory (packageTexts files manifest) (reports ++ [final]) last.disk :=
    List.rel_append hkept (.cons hfinal .nil)
  exact ⟨manifest, hmanifest, rfl, hall, hall.sum_lineCount⟩

/-- A disk with an older package in the directory of the output, and with a directory
where a file may be wanted. -/
def olderPackage : Disk where
  current := ["home"]
  root := .subdirectory "home"
    (.subdirectory "talib"
      (.file "mod.rs" [0xFF] (.file "sma.rs" [0x0A, 0x0A] (.subdirectory "ema.rs" .empty .empty)))
      .empty)
    .empty
  current_directory := rfl

def newerFiles : List SourceFile :=
  [⟨"sma", "sma.rs", "// Σ\n"⟩, ⟨"wma", "wma.rs", ""⟩]

theorem newerFiles_published :
    Packable newerFiles ∧
      ∃ report last,
        execute (writePackage (.ofText "talib") newerFiles) (.ofDisk olderPackage) =
          (.ok report, last) ∧
        ∃ manifest, Published (.ofText "talib") newerFiles manifest report last.disk := by
  have hfiles : Packable newerFiles := by decide
  have hok : ((execute (writePackage (.ofText "talib") newerFiles) (.ofDisk olderPackage)).1.map
      fun report => report.files.length) = .ok 3 := by
    decide +kernel
  rcases hwrite : execute (writePackage (.ofText "talib") newerFiles) (.ofDisk olderPackage) with
    ⟨fault | report, last⟩
  · rw [hwrite] at hok
    cases hok
  · exact ⟨hfiles, report, last, rfl, writePackage_published hfiles hwrite⟩

/-- The write that comes next: that of the first file left, or else of the manifest. -/
def nextWrite (directory : Path) (files rest : List SourceFile) :
    ExceptT Fault (StateM World) FileReport :=
  match rest with
  | [] => writeManifest directory (files.map SourceFile.moduleName)
  | file :: _ => file.write directory

/-- The name of the file that is written next. -/
def nextFilename (rest : List SourceFile) : String :=
  match rest with
  | [] => manifestFilename
  | file :: _ => file.filename

theorem of_nextWrite_error {fault : Fault}
    (h : execute (nextWrite directory files rest) world = (.error fault, last)) :
    ((files = [] ∧ fault = .emptyManifest) ∨
        Denied directory (nextFilename rest) last.disk fault) ∧
      World.Changes directory [] world last := by
  cases rest with
  | nil =>
      have hmanifest := of_writeManifest_error h
      rwa [List.map_eq_nil_iff] at hmanifest
  | cons file more =>
      obtain ⟨hdenied, hchanges⟩ := of_writeText_error h
      exact ⟨.inr hdenied, hchanges⟩

/-- A publication that fails, fails at one write, and those before it went well. -/
theorem of_writePackage_error {fault : Fault}
    (h : execute (writePackage directory files) world = (.error fault, last)) :
    ∃ written rest reports middle, files = written ++ rest ∧
      execute (writeFiles directory written) world = (.ok reports, middle) ∧
      execute (nextWrite directory files rest) middle = (.error fault, last) := by
  rcases World.execute_bind_eq_iff.mp h with ⟨reports, middle, hwrite, hrest⟩ | ⟨_, hwrite, hfault⟩
  · rcases World.execute_bind_eq_iff.mp hrest with ⟨_, _, _, hdone⟩ | ⟨_, hmanifest, hfault⟩
    · cases hdone
    · cases hfault
      exact ⟨files, [], reports, middle, (List.append_nil files).symm, hwrite, hmanifest⟩
  · cases hfault
    obtain ⟨written, file, rest, reports, middle, hfiles, hwritten, hfailed⟩ :=
      of_writeFiles_error hwrite
    exact ⟨written, file :: rest, reports, middle, hfiles, hwritten, hfailed⟩

/-- What a failed publication leaves. The files before the one that failed hold their
sources. A place of another name of the package is as it was, unless the path of the
directory has a part of that name and a directory was made there; and so is every other
place, unless it is a directory of that path. -/
structure Interrupted (directory : Path) (written rest : List SourceFile) (before after : Disk) :
    Prop where
  sources : ∀ file ∈ written,
    after.readFile (directory.join file.filename) = .ok (Text.Utf8.encode file.source.toList)
  others : ∀ name ∈ filenames rest ++ [manifestFilename], ∀ place,
    after.IsEntry directory name place →
      after.lookup place = before.lookup place ∨
        name ∈ directory.parts ∧ before.lookup place = none ∧
          after.lookup place = some .directory
  elsewhere : ∀ place, (∀ name ∈ filenames written, ¬ after.IsEntry directory name place) →
    after.lookup place = before.lookup place ∨ Disk.Made directory before after place

/-- The manifest is published last: a publication that fails stops at one write, which was
denied before its file was touched, and no file is changed but those that were written
before it. -/
theorem writePackage_interrupted {fault : Fault} (hfiles : Packable files)
    (h : execute (writePackage directory files) world = (.error fault, last)) :
    ∃ written rest reports middle, files = written ++ rest ∧
      execute (writeFiles directory written) world = (.ok reports, middle) ∧
      execute (nextWrite directory files rest) middle = (.error fault, last) ∧
      ((files = [] ∧ fault = .emptyManifest) ∨
        Denied directory (nextFilename rest) last.disk fault) ∧
      Interrupted directory written rest world.disk last.disk := by
  obtain ⟨written, rest, reports, middle, rfl, hwrite, hfailed⟩ := of_writePackage_error h
  obtain ⟨hchanges, hreports⟩ := of_writeFiles_ok hfiles.front.part hfiles.front.distinct hwrite
  obtain ⟨hdenied, hlast⟩ := of_nextWrite_error hfailed
  have hall := hchanges.disk.trans (hlast.disk.mono (List.nil_subset _))
  have hkept := hreports.keep hfiles.front.part_named (fun _ _ => List.not_mem_nil) hlast.disk
  exact ⟨written, rest, reports, middle, rfl, hwrite, hfailed, hdenied,
    { sources := List.forall_mem_map.mp hkept.readFile
      others := fun name hname place => hall.entry_kept_or_made (hfiles.fresh hname)
      elsewhere := fun place => hall.kept_or_made }⟩

def blockedFiles : List SourceFile :=
  [⟨"sma", "sma.rs", "// Σ\n"⟩, ⟨"ema", "ema.rs", ""⟩, ⟨"wma", "wma.rs", ""⟩]

theorem blockedFiles_interrupted :
    Packable blockedFiles ∧
      ∃ fault last,
        execute (writePackage (.ofText "talib") blockedFiles) (.ofDisk olderPackage) =
          (.error fault, last) ∧
        ∃ written rest reports middle, blockedFiles = written ++ rest ∧
          execute (writeFiles (.ofText "talib") written) (.ofDisk olderPackage) =
            (.ok reports, middle) ∧
          execute (nextWrite (.ofText "talib") blockedFiles rest) middle = (.error fault, last) ∧
          ((blockedFiles = [] ∧ fault = .emptyManifest) ∨
            Denied (.ofText "talib") (nextFilename rest) last.disk fault) ∧
          Interrupted (.ofText "talib") written rest olderPackage last.disk := by
  have hfiles : Packable blockedFiles := by decide
  have hblocked : (execute (writePackage (.ofText "talib") blockedFiles) (.ofDisk olderPackage)).1 =
      .error (.refused .isDirectory (.ofText "talib/ema.rs")) := by
    decide +kernel
  have hwrite : execute (writePackage (.ofText "talib") blockedFiles) (.ofDisk olderPackage) =
      (.error (.refused .isDirectory (.ofText "talib/ema.rs")),
        (execute (writePackage (.ofText "talib") blockedFiles) (.ofDisk olderPackage)).2) :=
    Prod.ext hblocked rfl
  exact ⟨hfiles, _, _, hwrite, writePackage_interrupted hfiles hwrite⟩

/-- A disk without a manifest, and with a directory where a file is wanted. -/
def withoutManifest : Disk where
  current := ["home"]
  root := .subdirectory "home"
    (.subdirectory "talib" (.subdirectory "ema.rs" .empty .empty) .empty) .empty
  current_directory := rfl

/-- The path of the directory may itself lead through the name of the manifest. Then a
publication that fails may have made a directory of that name. -/
theorem manifest_made_directory :
    Packable [⟨"ema", "ema.rs", ""⟩] ∧
      ∃ fault last,
        execute (writePackage (.ofText "talib/mod.rs/..") [⟨"ema", "ema.rs", ""⟩])
          (.ofDisk withoutManifest) = (.error fault, last) ∧
        ∃ place, last.disk.IsEntry (.ofText "talib/mod.rs/..") manifestFilename place ∧
          withoutManifest.lookup place = none ∧ last.disk.lookup place = some .directory := by
  have hblocked : (execute (writePackage (.ofText "talib/mod.rs/..") [⟨"ema", "ema.rs", ""⟩])
      (.ofDisk withoutManifest)).1 =
        .error (.refused .isDirectory (.ofText "talib/mod.rs/../ema.rs")) := by
    decide +kernel
  refine ⟨by decide, _, _, Prod.ext hblocked rfl,
    ["home", "talib", manifestFilename], ⟨["home", "talib"], ?_, rfl⟩, ?_, ?_⟩
  · decide +kernel
  · decide +kernel
  · decide +kernel

end IndicatorWrap
