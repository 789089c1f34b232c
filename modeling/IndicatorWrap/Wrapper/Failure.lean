import IndicatorWrap.Declaration.Extraction
import IndicatorWrap.Wrapper.Convention

/-!
Failures of generation, and the reports on them. A report says to which family
a failure belongs and carries a code, so that a caller can tell failures apart
without reading their messages; each family admits the codes of its own causes.
-/

namespace IndicatorWrap

inductive GenerationError where
  | extraction (error : ExtractionError)
  | typeResolution (error : TypeError)
  | synthesis (error : ConventionError)
deriving DecidableEq, Repr

inductive Report.Family where
  | config
  | generation
  | extraction
  | typeResolution
  | synthesis
deriving DecidableEq, Repr

def Report.Family.name : Report.Family → String
  | .config => "ConfigError"
  | .generation => "GenerationError"
  | .extraction => "ExtractionError"
  | .typeResolution => "TypeResolutionError"
  | .synthesis => "SynthesisError"

/-- The codes of a family, in alphabetical order. The family of all failures of
generation has none of its own. -/
def Report.Family.codes : Report.Family → List String
  | .config => ["INPUT_NOT_FILE", "OUTPUT_NOT_DIRECTORY", "PATH_NOT_FOUND"]
  | .generation => []
  | .extraction => ["MALFORMED_DECLARATION", "NO_DECLARATIONS"]
  | .typeResolution => ["UNKNOWN_ELEMENT_TYPE", "UNKNOWN_TYPE"]
  | .synthesis =>
    ["DUPLICATE_NAME", "EMPTY_NAME", "FIRST_INPUT_NOT_BUFFER", "MISSING_BOOKKEEPING",
      "NO_INPUTS", "NO_OUTPUTS", "SCALAR_OUTPUT"]

/-- What is said about a code that a family does not admit. -/
def Report.Family.refusal (family : Report.Family) (code : String) : String :=
  let kind := if family = .config then "config error" else family.name
  "Unknown " ++ kind ++ " code: " ++ code

structure Report where
  family : Report.Family
  code : String
  message : String
  suggestion : Option String
  /-- The raw type at fault, where types are resolved. -/
  rawType : Option String
deriving DecidableEq, Repr

/-- A report, unless its family refuses its code; then what is said about it. -/
def Report.make (report : Report) : Except String Report :=
  if report.code ∈ report.family.codes then .ok report
  else .error (report.family.refusal report.code)

def ExtractionError.report : ExtractionError → Report
  | .noDeclarations =>
    ⟨.extraction, "NO_DECLARATIONS", "No `pub fn TA_*(...)` declarations found in input.",
      some "Check that --input points at the bindgen output for ta_func.h.", none⟩
  | .malformed error =>
    ⟨.extraction, "MALFORMED_DECLARATION", error.message,
      some "Parameters must read `name: type`, e.g. `inReal: *const f64`.", none⟩

def TypeError.report (error : TypeError) : Report :=
  ⟨.typeResolution, error.code, error.message, some error.suggestion, some error.rawType⟩

def ConventionError.report (error : ConventionError) : Report :=
  ⟨.synthesis, error.code, error.message, none, none⟩

def GenerationError.report : GenerationError → Report
  | .extraction error => error.report
  | .typeResolution error => error.report
  | .synthesis error => error.report

theorem GenerationError.code_mem (error : GenerationError) :
    error.report.code ∈ error.report.family.codes := by
  rcases error with (_ | _) | ⟨(_ | _), _, _⟩ | ⟨_, _, (_ | _ | _ | _ | _ | _ | _)⟩ <;>
    simp [report, ExtractionError.report, TypeError.report, ConventionError.report,
      TypeError.code, ConventionError.code, Report.Family.codes]

end IndicatorWrap
