import IndicatorWrap.CommandLine.Options
import IndicatorWrap.Package.Generate

/-!
The program: from the arguments to the end of the run. Everything that goes
wrong once the two paths have been checked is reported on the output stream and
ends the run with status 1; a fault met while checking them, or an option that
names no path, breaks the run off.
-/

namespace IndicatorWrap.CommandLine

def usageLine : String := "usage: gen.py --input [path] --output [path]"

def helpText : String :=
  Text.endLines
    [usageLine,
      "",
      "Generate Rust wrappers for TA-Lib declarations",
      "",
      "options:",
      "  -h, --help            show this help message and exit",
      "  -i INPUT, --input INPUT",
      "                        Declaration file to read.",
      "  -o OUTPUT, --output OUTPUT",
      "                        Directory to write into."]

def UsageError.report (error : UsageError) : String :=
  Text.endLines [usageLine, "gen.py: error: " ++ error.message]

/-- The two paths of a run. -/
structure Config where
  input : Path
  output : Path
deriving DecidableEq, Repr

inductive ConfigError where
  | pathNotFound (path : Path)
  | inputNotFile (path : Path)
  | outputNotDirectory (path : Path)
deriving DecidableEq, Repr

def ConfigError.report : ConfigError → Report
  | .pathNotFound path =>
    ⟨.config, "PATH_NOT_FOUND", "Path for --input does not exist: " ++ path.text,
      some "Pass the bindgen output file, e.g. --input ta_func.rs", none⟩
  | .inputNotFile path =>
    ⟨.config, "INPUT_NOT_FILE", "Path for --input is not a file: " ++ path.text,
      some "Pass the declaration file itself, not its directory.", none⟩
  | .outputNotDirectory path =>
    ⟨.config, "OUTPUT_NOT_DIRECTORY",
      "Path for --output exists and is not a directory: " ++ path.text,
      some "Pass a directory; it is created if absent.", none⟩

theorem ConfigError.code_mem (error : ConfigError) :
    error.report.code ∈ error.report.family.codes := by
  cases error <;> simp [report, Report.Family.codes]

/-- What breaks a run off. -/
inductive Breach where
  /-- An option that was left with nothing is asked for its path. -/
  | noPath
  | fault (fault : Fault)
deriving DecidableEq, Repr

def Breach.message : Breach → String
  | .noPath => "'list' object has no attribute 'exists'"
  | .fault met => met.message

/-- Why there is no configuration. -/
inductive Interruption where
  /-- All has been said, and the run ends with this status. -/
  | exit (status : Nat)
  | config (error : ConfigError)
  | breach (breach : Breach)
deriving DecidableEq, Repr

/-- How a run ends. -/
inductive Ending where
  | completed
  | exited (status : Nat)
  | broken (breach : Breach)
deriving DecidableEq, Repr

variable {m : Type → Type} [Monad m] [Machine m]

/-- The path that an option was given. -/
def pathOf : Value → ExceptT Interruption m Path
  | .text text => return .ofText text
  | .nothing => throw (.breach .noPath)

/-- What is at a path, a fault being a breach. -/
def kindAt? (path : Path) : ExceptT Interruption m (Option Node.Kind) :=
  ExceptT.adapt (fun fault => .breach (.fault fault)) (Machine.kind? path)

def checkInput (path : Path) : ExceptT Interruption m Unit := do
  match ← kindAt? path with
  | none => throw (.config (.pathNotFound path))
  | some .directory => throw (.config (.inputNotFile path))
  | some .file => return ()

def checkOutput (path : Path) : ExceptT Interruption m Unit := do
  match ← kindAt? path with
  | some .file => throw (.config (.outputNotDirectory path))
  | _ => return ()

/-- The configuration that the arguments ask for, once both paths are checked,
the input in front of the output. -/
def configure (arguments : List String) : ExceptT Interruption m Config :=
  match parse arguments with
  | .error error => do
    (Machine.complain error.report : m _)
    throw (.exit 2)
  | .ok .help => do
    (Machine.print helpText : m _)
    throw (.exit 0)
  | .ok (.generate input output) => do
    let inputPath ← pathOf input
    checkInput inputPath
    let outputPath ← pathOf output
    checkOutput outputPath
    return ⟨inputPath, outputPath⟩

/-- What is printed about a failure: its report under a title, with the hint if
there is one. -/
def reportText (title : String) (report : Report) : String :=
  let hint := match report.suggestion with
    | some suggestion => ["Hint: " ++ suggestion]
    | none => []
  Text.endLines ((title ++ " [" ++ report.code ++ "]: " ++ report.message) :: hint)

def faultTitle : Fault → String
  | .refused _ _ => "Error"
  | .undecodable _ => "Error"
  | .nulInPath => "Internal error"
  | .emptyManifest => "Internal error"

def failureText : Failure → String
  | .generation error => reportText "Generation error" error.report
  | .fault fault => faultTitle fault ++ ": " ++ fault.message ++ "\n"

/-- Prints a text and ends the run as failed. -/
def fail (text : String) : m Ending := do
  Machine.print text
  return .exited 1

def run (arguments : List String) : m Ending := do
  match ← (configure arguments : ExceptT Interruption m Config).run with
  | .error (.exit status) => return .exited status
  | .error (.breach breach) => return .broken breach
  | .error (.config error) => fail (reportText "Config error" error.report)
  | .ok config =>
    match ← (generate config.input config.output : ExceptT Failure m PackageReport).run with
    | .ok _ => return .completed
    | .error failure => fail (failureText failure)

end IndicatorWrap.CommandLine
