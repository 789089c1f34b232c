import IndicatorWrap.Parameter.HostType
import IndicatorWrap.Parameter.Name

/-!
Arguments: classified parameters whose types are known.
-/

namespace IndicatorWrap

structure Argument where
  name : String
  role : Role
  hostType : HostType
  parameter : Parameter
deriving DecidableEq, Repr

/-- The name inside the wrapper. That of an output is marked, so that it never
hides an input of the same clean name. -/
def Argument.localName (argument : Argument) : String :=
  if argument.role = .output then "out_" ++ argument.name else argument.name

def Classified.resolve (function : String) (item : Classified) : Except TypeError Argument :=
  match HostType.ofRaw item.parameter.rawType item.role with
  | .ok hostType => .ok ⟨item.name, item.role, hostType, item.parameter⟩
  | .error error => .error { error with place := some (function, item.parameter.name) }

/-- Resolves parameters in order, up to the first of unknown type. -/
def resolveAll (function : String) : List Classified → Except TypeError (List Argument)
  | [] => .ok []
  | item :: rest => do
    let argument ← item.resolve function
    let arguments ← resolveAll function rest
    return argument :: arguments

end IndicatorWrap
