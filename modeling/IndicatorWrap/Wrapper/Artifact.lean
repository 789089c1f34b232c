import IndicatorWrap.Wrapper.Failure
import IndicatorWrap.Wrapper.Source

/-!
Artifacts: the wrappers as files in memory. All of them are made before any is
written. Of several declarations for one module the last one wins; its wrapper
takes the place of the first.
-/

namespace IndicatorWrap

/-- A source file of the package. -/
structure SourceFile where
  moduleName : String
  filename : String
  source : String
deriving DecidableEq, Repr

structure Artifact extends SourceFile where
  signature : Signature
deriving DecidableEq, Repr

def moduleExtension : String := ".rs"

/-- The source of the wrapper, if the declaration keeps the convention. -/
def synthesize (signature : Signature) (inputs outputs : List Argument) :
    Except ConventionError String :=
  match checkConvention signature inputs outputs with
  | .error error => .error error
  | .ok () => .ok (Source.render signature inputs outputs)

/-- The inputs and outputs of a signature; all inputs are resolved before any
output. -/
def Signature.arguments (function : String) (signature : Signature) :
    Except TypeError (List Argument × List Argument) := do
  let inputs ← resolveAll function (signature.inRole .input)
  let outputs ← resolveAll function (signature.inRole .output)
  return (inputs, outputs)

def Artifact.ofSignature (signature : Signature) : Except GenerationError Artifact :=
  match signature.arguments signature.name with
  | .error error => .error (.typeResolution error)
  | .ok (inputs, outputs) =>
    match synthesize signature inputs outputs with
    | .error error => .error (.synthesis error)
    | .ok source =>
      .ok
        { moduleName := signature.moduleName
          filename := signature.moduleName ++ moduleExtension
          source := source
          signature := signature }

/-- An artifact that takes the place of an earlier one for the same module. -/
structure Replacement where
  later : Signature
  earlier : Signature
  filename : String
deriving DecidableEq, Repr

def Replacement.warning (replacement : Replacement) : String :=
  "Warning: " ++ replacement.later.name ++ " (line " ++ Text.decimal replacement.later.line ++
    ") replaces " ++ replacement.earlier.name ++ " (line " ++
    Text.decimal replacement.earlier.line ++ ") in " ++ replacement.filename

/-- Puts an artifact into the place of the one for the same module, or at the
end. -/
def Artifact.put (artifact : Artifact) : List Artifact → List Artifact
  | [] => [artifact]
  | other :: rest =>
    if other.moduleName = artifact.moduleName then artifact :: rest
    else other :: put artifact rest

/-- A build: the replacements up to its end and the artifacts or the first
failure. -/
structure Build where
  replacements : List Replacement
  outcome : Except GenerationError (List Artifact)

/-- Adds the artifacts of signatures to those already built. -/
def Build.extend (built : List Artifact) : List Signature → Build
  | [] => ⟨[], .ok built⟩
  | signature :: rest =>
    match Artifact.ofSignature signature with
    | .error error => ⟨[], .error error⟩
    | .ok artifact =>
      let build := extend (artifact.put built) rest
      match built.find? (·.moduleName == artifact.moduleName) with
      | none => build
      | some earlier =>
        let replacement := ⟨signature, earlier.signature, artifact.filename⟩
        { build with replacements := replacement :: build.replacements }

def Build.ofSignatures (signatures : List Signature) : Build :=
  extend [] signatures

/-- The warnings of a build, a line each. -/
def Build.warnings (build : Build) : String :=
  Text.endLines (build.replacements.map Replacement.warning)

end IndicatorWrap
