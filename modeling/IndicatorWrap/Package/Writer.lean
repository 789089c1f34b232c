import IndicatorWrap.Machine.Basic
import IndicatorWrap.Package.Manifest
import IndicatorWrap.Package.Summary
import IndicatorWrap.Wrapper.Artifact

/-!
Writing a package: every source file in order and the manifest last, so that a
manifest never names a file that is not there yet. The directory is made when a
file is written and is not there.
-/

namespace IndicatorWrap

/-- What was written: the name asked for, the place it led to and the extent of
the content. -/
structure FileReport where
  filename : String
  place : Location
  lineCount : Nat
  byteCount : Nat
deriving DecidableEq, Repr

structure PackageReport where
  directory : Path
  files : List FileReport
deriving DecidableEq, Repr

def FileReport.summary (file : FileReport) : FileLines :=
  ⟨file.filename, file.lineCount⟩

def PackageReport.totalLines (report : PackageReport) : Nat :=
  report.files.foldr (fun file total => file.lineCount + total) 0

variable {m : Type → Type} [Monad m] [Machine m]

/-- Writes a text to a file in a directory. -/
def writeText (directory : Path) (filename text : String) : ExceptT Fault m FileReport := do
  Machine.checkPath directory
  Machine.ensureDirectories directory
  let path := directory.join filename
  let content := Text.Utf8.encode text.toList
  Machine.checkPath path
  Machine.demand path (Machine.writeFile path content)
  let place ← (Machine.locate path : m _)
  return ⟨filename, place, Text.countLines text.toList, content.length⟩

def SourceFile.write (directory : Path) (file : SourceFile) : ExceptT Fault m FileReport :=
  writeText directory file.filename file.source

/-- Writes the manifest of the named modules; without one nothing is written. -/
def writeManifest (directory : Path) (moduleNames : List String) :
    ExceptT Fault m FileReport :=
  match manifest? moduleNames with
  | none => throw .emptyManifest
  | some source => writeText directory manifestFilename source

def writeFiles (directory : Path) : List SourceFile → ExceptT Fault m (List FileReport)
  | [] => return []
  | file :: rest => do
    let report ← file.write directory
    let reports ← writeFiles directory rest
    return report :: reports

def writePackage (directory : Path) (files : List SourceFile) :
    ExceptT Fault m PackageReport := do
  let reports ← writeFiles directory files
  let last ← writeManifest directory (files.map SourceFile.moduleName)
  return ⟨directory, reports ++ [last]⟩

end IndicatorWrap
