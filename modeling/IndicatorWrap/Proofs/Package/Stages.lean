import IndicatorWrap.Package.Generate
import IndicatorWrap.Proofs.Machine.Programs

/-!
The stages of a run. Reading, extraction and building come first and do nothing but
print, so a run that fails in one of them leaves the disk alone; only if all three go
well is the package written.
-/

namespace IndicatorWrap

open World (execute)

/-- The world with one more text printed. -/
def World.printed (world : World) (text : String) : World :=
  { world with output := world.output ++ text }

@[simp] theorem World.printed_disk (world : World) (text : String) :
    (world.printed text).disk = world.disk := rfl

@[simp] theorem World.printed_printed (world : World) (first second : String) :
    (world.printed first).printed second = world.printed (first ++ second) := by
  simp [World.printed, String.append_assoc]

/-- The text of the file at a path. -/
def Disk.readText (disk : Disk) (path : Path) : Except Fault String :=
  if path.hasNul then
    .error .nulInPath
  else
    match disk.readFile path with
    | .ok content => textOf content
    | .error errno => .error (.refused errno path)

variable {input output : Path} {world last : World} {text : String}
  {signatures : List Signature} {artifacts : List Artifact}

@[simp] theorem mapError_ok {ε ε' α : Type} (f : ε → ε') (value : α) :
    (Except.ok value : Except ε α).mapError f = .ok value :=
  rfl

@[simp] theorem mapError_error {ε ε' α : Type} (f : ε → ε') (error : ε) :
    (Except.error error : Except ε α).mapError f = .error (f error) :=
  rfl

@[simp] theorem execute_readText (path : Path) (world : World) :
    execute (readText path : ExceptT Fault (StateM World) String) world =
      (world.disk.readText path, world) := by
  rw [readText, World.execute_bind, Machine.execute_checkPath, Disk.readText]
  cases path.hasNul with
  | true => rfl
  | false =>
      simp only [Bool.false_eq_true, if_false, World.execute_bind, Machine.execute_readFile]
      cases world.disk.readFile path with
      | error errno => rfl
      | ok content =>
          simp only [mapError_ok]
          cases textOf content with
          | error fault => rfl
          | ok text => rfl

@[simp] theorem execute_say (line : String) (world : World) :
    execute (say line : ExceptT Failure (StateM World) Unit) world =
      (.ok (), world.printed (line ++ "\n")) :=
  rfl

@[simp] theorem run_print (text : String) (world : World) :
    (Machine.print text : StateM World Unit).run world = ((), world.printed text) :=
  rfl

@[simp] theorem execute_adapt {ε ε' α : Type} (f : ε → ε') (program : ExceptT ε (StateM World) α)
    (world : World) :
    execute (ExceptT.adapt f program) world =
      ((execute program world).1.mapError f, (execute program world).2) :=
  rfl

@[simp] theorem execute_orFail {ε α : Type} (failure : ε → Failure) (result : Except ε α) (world : World) :
    execute (orFail failure result : ExceptT Failure (StateM World) α) world =
      (result.mapError failure, world) := by
  cases result with
  | ok value => rfl
  | error error => rfl

def parsingLine (input : Path) : String :=
  "Parsing: " ++ input.text ++ "\n"

def extractedLine (signatures : List Signature) : String :=
  "  Extracted: " ++ Text.decimal signatures.length ++ " declarations" ++ "\n"

def synthesizedLine (artifacts : List Artifact) : String :=
  "  Synthesized: " ++ Text.decimal artifacts.length ++ " functions" ++ "\n"

def writtenLine (report : PackageReport) : String :=
  "  Written: " ++ Text.decimal report.files.length ++ " files, " ++
    Text.decimal report.totalLines ++ " lines to " ++ report.directory.text ++ "\n"

theorem execute_generate_of_unreadable {fault : Fault}
    (h : world.disk.readText input = .error fault) :
    execute (generate input output : ExceptT Failure (StateM World) PackageReport) world =
      (.error (.fault fault), world.printed (parsingLine input)) := by
  -- `delta`, because an equation for a definition with literals this long is slow to make
  delta parsingLine
  simp [generate, World.execute_bind, h]

theorem execute_generate_of_unextracted {error : ExtractionError}
    (htext : world.disk.readText input = .ok text) (h : signaturesOf text = .error error) :
    execute (generate input output : ExceptT Failure (StateM World) PackageReport) world =
      (.error (.generation (.extraction error)), world.printed (parsingLine input)) := by
  delta parsingLine
  simp [generate, World.execute_bind, htext, h]

theorem execute_generate_of_unbuilt {error : GenerationError}
    (htext : world.disk.readText input = .ok text) (hsignatures : signaturesOf text = .ok signatures)
    (h : (Build.ofSignatures signatures).outcome = .error error) :
    execute (generate input output : ExceptT Failure (StateM World) PackageReport) world =
      (.error (.generation error),
        world.printed (parsingLine input ++ extractedLine signatures ++
          (Build.ofSignatures signatures).warnings)) := by
  delta parsingLine extractedLine
  simp [generate, World.execute_bind, htext, hsignatures, h]

/-- Only once all wrappers are built is anything written. -/
theorem execute_generate_of_built
    (htext : world.disk.readText input = .ok text) (hsignatures : signaturesOf text = .ok signatures)
    (hartifacts : (Build.ofSignatures signatures).outcome = .ok artifacts) :
    execute (generate input output : ExceptT Failure (StateM World) PackageReport) world =
      match execute (writePackage output (artifacts.map (·.toSourceFile)))
        (world.printed (parsingLine input ++ extractedLine signatures ++
          (Build.ofSignatures signatures).warnings ++ synthesizedLine artifacts)) with
      | (.ok report, after) =>
        (.ok report, after.printed (writtenLine report ++
          (summaryOf input signatures.length artifacts.length report).render))
      | (.error fault, after) => (.error (.fault fault), after) := by
  delta parsingLine extractedLine synthesizedLine
  simp only [generate, World.execute_bind, execute_say, execute_adapt, execute_readText,
    World.printed_disk, htext, mapError_ok, execute_orFail, hsignatures, World.execute_lift,
    run_print, hartifacts, World.printed_printed]
  generalize execute (writePackage output (artifacts.map (·.toSourceFile))) _ = written
  rcases written with ⟨_ | report, after⟩
  · rfl
  · rfl

/-- A failure of generation comes before all writing. -/
theorem printed_of_generationError {error : GenerationError}
    (h : execute (generate input output : ExceptT Failure (StateM World) PackageReport) world =
      (.error (.generation error), last)) : ∃ text, last = world.printed text := by
  cases htext : world.disk.readText input with
  | error fault =>
      rw [execute_generate_of_unreadable htext] at h
      cases h
  | ok text =>
      cases hsignatures : signaturesOf text with
      | error error =>
          rw [execute_generate_of_unextracted htext hsignatures] at h
          exact ⟨_, (Prod.mk.inj h).2.symm⟩
      | ok signatures =>
          cases hartifacts : (Build.ofSignatures signatures).outcome with
          | error error =>
              rw [execute_generate_of_unbuilt htext hsignatures hartifacts] at h
              exact ⟨_, (Prod.mk.inj h).2.symm⟩
          | ok artifacts =>
              rw [execute_generate_of_built htext hsignatures hartifacts] at h
              split at h
              · cases h
              · cases h

end IndicatorWrap
