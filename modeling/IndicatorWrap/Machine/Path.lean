/-!
Path texts. A path is kept as its root and its parts; empty parts and single
dots mean nothing and are dropped, while two dots stay, because what they lead
to is for the disk to say.
-/

namespace IndicatorWrap

/-- Where a path begins: at the current directory, or at the root with one
slash or with two. -/
inductive Path.Root where
  | current
  | slash
  | doubleSlash
deriving DecidableEq, Repr

def Path.Root.text : Path.Root → String
  | .current => ""
  | .slash => "/"
  | .doubleSlash => "//"

structure Path where
  root : Path.Root
  parts : List String
deriving DecidableEq, Repr

namespace Path

/-- The pieces of a text between slashes. -/
def pieces : List Char → List (List Char)
  | [] => [[]]
  | c :: rest =>
    if c = '/' then
      [] :: pieces rest
    else
      match pieces rest with
      | [] => [[c]]
      | piece :: more => (c :: piece) :: more

/-- The root of a text, by the number of slashes in front. More than two are
one. -/
def rootOf (text : List Char) : Root :=
  match (text.takeWhile (· == '/')).length with
  | 0 => .current
  | 2 => .doubleSlash
  | _ => .slash

def ofText (text : String) : Path :=
  let named := (pieces text.toList).filter fun piece => piece ≠ [] ∧ piece ≠ ['.']
  ⟨rootOf text.toList, named.map String.ofList⟩

/-- The normal text of a path. -/
def text (path : Path) : String :=
  let text := path.root.text ++ "/".intercalate path.parts
  if text = "" then "." else text

/-- The path without its last part. -/
def parent (path : Path) : Path :=
  { path with parts := path.parts.dropLast }

/-- The path of `text` as seen from a path; a text with a root of its own leads
from there. -/
def join (path : Path) (text : String) : Path :=
  let other := ofText text
  if other.root = .current then { path with parts := path.parts ++ other.parts } else other

/-- No file can have such a name. -/
def hasNul (path : Path) : Bool :=
  path.parts.any (·.toList.contains '\x00')

end Path

end IndicatorWrap
