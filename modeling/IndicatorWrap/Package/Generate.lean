import IndicatorWrap.Package.Writer

/-!
A run of the generator: read the declarations, build every wrapper in memory,
then write the package and print a summary. Nothing is written before the last
declaration has been accepted.
-/

namespace IndicatorWrap

inductive Failure where
  | generation (error : GenerationError)
  | fault (fault : Fault)
deriving DecidableEq, Repr

/-- The text of a file with the given content. -/
def textOf (content : Text.Utf8.Bytes) : Except Fault String :=
  match Text.Utf8.decode content with
  | .ok text => .ok (String.ofList (Text.unifyLineEnds text))
  | .error fault => .error (.undecodable fault)

variable {m : Type → Type} [Monad m] [Machine m]

/-- Prints a line. -/
def say (line : String) : ExceptT Failure m Unit :=
  (Machine.print (line ++ "\n") : m _)

def orFail {ε α : Type} (failure : ε → Failure) : Except ε α → ExceptT Failure m α
  | .ok value => return value
  | .error error => throw (failure error)

def readText (path : Path) : ExceptT Fault m String := do
  Machine.checkPath path
  let content ← Machine.demand path (Machine.readFile path)
  match textOf content with
  | .ok text => return text
  | .error fault => throw fault

def summaryOf (input : Path) (declarations : Nat) (functions : Nat) (report : PackageReport) :
    Summary :=
  ⟨input.text, report.directory.text, declarations, functions,
    report.files.map FileReport.summary⟩

/-- Generates the package of the declarations in the input file. -/
def generate (input output : Path) : ExceptT Failure m PackageReport := do
  say ("Parsing: " ++ input.text)
  let text ← ExceptT.adapt Failure.fault (readText input)
  let signatures ← orFail (.generation ∘ .extraction) (signaturesOf text)
  say ("  Extracted: " ++ Text.decimal signatures.length ++ " declarations")
  let build := Build.ofSignatures signatures
  (Machine.print build.warnings : m _)
  let artifacts ← orFail .generation build.outcome
  say ("  Synthesized: " ++ Text.decimal artifacts.length ++ " functions")
  let report ← ExceptT.adapt Failure.fault (writePackage output (artifacts.map (·.toSourceFile)))
  say ("  Written: " ++ Text.decimal report.files.length ++ " files, " ++
    Text.decimal report.totalLines ++ " lines to " ++ report.directory.text)
  (Machine.print (summaryOf input signatures.length artifacts.length report).render : m _)
  return report

end IndicatorWrap
