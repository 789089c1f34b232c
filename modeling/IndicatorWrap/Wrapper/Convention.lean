import IndicatorWrap.Parameter.Argument
import IndicatorWrap.Text.Numeral

/-!
The calling convention of indicators. The wrapper sizes every output by the
first input and passes the two bookkeeping parameters itself, so a declaration
that lacks one of these has no wrapper; nor has one whose names would clash.
-/

namespace IndicatorWrap

/-- The variables of a wrapper that stand for no parameter. -/
def beginLocal : String := "out_begin"

def sizeLocal : String := "out_size"

def returnCodeLocal : String := "ret_code"

def synthesizedLocals : List String :=
  [beginLocal, sizeLocal, returnCodeLocal]

/-- How a declaration departs from the convention; a parameter is named as it
is declared. -/
inductive ConventionError.Cause where
  | noInputs
  | firstInputNotBuffer (parameter : String)
  | noOutputs
  | scalarOutput (parameter : String)
  | missingBookkeeping (names : List String)
  | emptyName (parameter : String)
  | duplicateName (parameter : String) (localName : String)
deriving DecidableEq, Repr

structure ConventionError where
  function : String
  line : Int
  cause : ConventionError.Cause
deriving DecidableEq, Repr

def ConventionError.code (error : ConventionError) : String :=
  match error.cause with
  | .noInputs => "NO_INPUTS"
  | .firstInputNotBuffer _ => "FIRST_INPUT_NOT_BUFFER"
  | .noOutputs => "NO_OUTPUTS"
  | .scalarOutput _ => "SCALAR_OUTPUT"
  | .missingBookkeeping _ => "MISSING_BOOKKEEPING"
  | .emptyName _ => "EMPTY_NAME"
  | .duplicateName _ _ => "DUPLICATE_NAME"

def ConventionError.Cause.text : ConventionError.Cause → String
  | .noInputs => "no input parameters to size outputs against"
  | .firstInputNotBuffer parameter => "first input " ++ parameter ++ " is not a series"
  | .noOutputs => "no output series"
  | .scalarOutput parameter => "output " ++ parameter ++ " is not a series"
  | .missingBookkeeping names => "missing " ++ ", ".intercalate names
  | .emptyName parameter => parameter ++ " has nothing after its role prefix"
  | .duplicateName parameter localName =>
    parameter ++ " cleans to " ++ Text.quoted localName ++ ", already in use"

def ConventionError.message (error : ConventionError) : String :=
  error.function ++ " (line " ++ Text.decimal error.line ++ "): " ++ error.cause.text

/-- The first argument without a name of its own, where `used` holds the names
that are already in use. -/
def nameFault? (used : List String) : List Argument → Option ConventionError.Cause
  | [] => none
  | argument :: rest =>
    if argument.name = "" then
      some (.emptyName argument.parameter.name)
    else if argument.localName ∈ used then
      some (.duplicateName argument.parameter.name argument.localName)
    else
      nameFault? (argument.localName :: used) rest

/-- The bookkeeping parameters that a declaration lacks. -/
def missingBookkeeping (signature : Signature) : List String :=
  bookkeepingNames.filter fun name => name ∉ signature.parameters.map Parameter.name

/-- The first departure from the convention. -/
def conventionFault? (signature : Signature) (inputs outputs : List Argument) :
    Option ConventionError.Cause :=
  match inputs with
  | [] => some .noInputs
  | first :: _ =>
    if !first.hostType.isBuffer then
      some (.firstInputNotBuffer first.parameter.name)
    else if outputs.isEmpty then
      some .noOutputs
    else
      match outputs.find? (!·.hostType.isBuffer) with
      | some output => some (.scalarOutput output.parameter.name)
      | none =>
        match missingBookkeeping signature with
        | [] => nameFault? synthesizedLocals (inputs ++ outputs)
        | missing => some (.missingBookkeeping missing)

def checkConvention (signature : Signature) (inputs outputs : List Argument) :
    Except ConventionError Unit :=
  match conventionFault? signature inputs outputs with
  | none => .ok ()
  | some cause => .error ⟨signature.name, signature.line, cause⟩

end IndicatorWrap
