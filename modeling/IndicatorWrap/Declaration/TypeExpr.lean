/-!
Type expressions of a declaration: a chain of pointers that ends in a path of
names. A qualifier belongs to the pointer that it stands behind.
-/

namespace IndicatorWrap

inductive Qualifier where
  | const
  | mut
deriving DecidableEq, Repr

def Qualifier.word : Qualifier → String
  | .const => "const"
  | .mut => "mut"

def Qualifier.ofWord? : String → Option Qualifier
  | "const" => some .const
  | "mut" => some .mut
  | _ => none

/-- A nonempty list of names; `rooted` says whether a separator stands in front
of the first. -/
structure TypePath where
  rooted : Bool
  first : String
  more : List String
deriving DecidableEq, Repr

def TypePath.render (path : TypePath) : String :=
  (if path.rooted then "::" else "") ++ path.first ++ String.join (path.more.map ("::" ++ ·))

inductive TypeExpr where
  | named (path : TypePath)
  | pointer (qualifier : Option Qualifier) (target : TypeExpr)
deriving DecidableEq, Repr

/-- The canonical text of a type: one space behind a qualifier and no other. -/
def TypeExpr.render : TypeExpr → String
  | .named path => path.render
  | .pointer none target => "*" ++ target.render
  | .pointer (some qualifier) target => "*" ++ qualifier.word ++ " " ++ target.render

end IndicatorWrap
