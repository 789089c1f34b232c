import IndicatorWrap.Declaration.Signature

/-!
What a parameter is for, told by the mark its name begins with. The two
parameters through which the library reports the extent of its results carry
the mark of an output, but the wrapper passes them itself, so they are none.
-/

namespace IndicatorWrap

inductive Role where
  | input
  | output
  | ignored
deriving DecidableEq, Repr

def Role.name : Role → String
  | .input => "input"
  | .output => "output"
  | .ignored => "ignored"

def Role.ofName : String → Role
  | "input" => .input
  | "output" => .output
  | _ => .ignored

theorem Role.ofName_name (role : Role) : ofName role.name = role := by
  cases role <;> rfl

/-- The marks, in the order in which they are tried. -/
def roleMarks : List (String × Role) :=
  [("optIn", .input), ("in", .input), ("out", .output)]

/-- The role that a name is marked with, and the rest of the name. -/
def splitRole (name : String) : Role × String :=
  let marked := roleMarks.findSome? fun (mark, role) =>
    (mark.toList.isPrefixOf? name.toList).map fun rest => (role, String.ofList rest)
  marked.getD (.ignored, name)

/-- The output that receives the index of the first result. -/
def beginIndexName : String := "outBegIdx"

/-- The output that receives the number of results. -/
def elementCountName : String := "outNBElement"

def bookkeepingNames : List String :=
  [beginIndexName, elementCountName]

def Role.ofParameter (name : String) : Role :=
  let role := (splitRole name).1
  if role = .output ∧ name ∈ bookkeepingNames then .ignored else role

end IndicatorWrap
