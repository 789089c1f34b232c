import IndicatorWrap.Text.Utf8

/-!
What a directory holds, with everything below it. A place is named by the names
that lead to it; what is put at one place is found there, and nothing else is
changed.
-/

namespace IndicatorWrap

open Text.Utf8 (Bytes)

/-- The names that lead from a directory to a place below it. -/
abbrev Location := List String

/-- What is found at a place. -/
inductive Node where
  | directory
  | file (content : Bytes)
deriving DecidableEq, Repr

inductive Node.Kind where
  | directory
  | file
deriving DecidableEq, Repr

def Node.kind : Node → Node.Kind
  | .directory => .directory
  | .file _ => .file

/-- The entries of a directory, one after the other. -/
inductive Directory where
  | empty
  | file (name : String) (content : Bytes) (rest : Directory)
  | subdirectory (name : String) (inner rest : Directory)
deriving DecidableEq, Repr

namespace Directory

/-- What is at a place, if the names lead anywhere. -/
def lookup : Directory → Location → Option Node
  | _, [] => some .directory
  | .empty, _ :: _ => none
  | .file other content rest, name :: names =>
    if other = name then
      if names = [] then some (.file content) else none
    else
      rest.lookup (name :: names)
  | .subdirectory other inner rest, name :: names =>
    if other = name then inner.lookup names else rest.lookup (name :: names)

/-- One more entry, in front. -/
def add (name : String) (node : Node) (rest : Directory) : Directory :=
  match node with
  | .directory => .subdirectory name .empty rest
  | .file content => .file name content rest

/-- Puts a node at a place in a directory that is there, instead of a file. A
directory that is there is kept as it is. -/
def put : Directory → Location → Node → Directory
  | here, [], _ => here
  | .empty, [name], node => add name node .empty
  | .empty, _ :: _ :: _, _ => .empty
  | .file other content rest, name :: names, node =>
    if other = name then
      if names = [] then add name node rest else .file other content rest
    else
      .file other content (rest.put (name :: names) node)
  | .subdirectory other inner rest, name :: names, node =>
    if other = name then
      .subdirectory other (inner.put names node) rest
    else
      .subdirectory other inner (rest.put (name :: names) node)

/-- The directories that lead to a place, and nothing else. -/
def leadingTo : Location → Directory
  | [] => .empty
  | name :: names => .subdirectory name (leadingTo names) .empty

/-- Every place below, with what is there. -/
def contents : Directory → List (Location × Node)
  | .empty => []
  | .file name content rest => ([name], .file content) :: rest.contents
  | .subdirectory name inner rest =>
    ([name], .directory) :: inner.contents.map (fun (names, node) => (name :: names, node)) ++
      rest.contents

theorem lookup_nil (directory : Directory) : directory.lookup [] = some .directory := by
  cases directory <;> rfl

theorem lookup_add (name other : String) (node : Node) (rest : Directory) (names : Location) :
    (add name node rest).lookup (other :: names) =
      if name = other then (if names = [] then some node else none)
      else rest.lookup (other :: names) := by
  cases node <;> cases names <;> simp [add, lookup]

/-- A place in a directory holds what was put there last, and no other place is
changed. -/
theorem lookup_put (directory : Directory) (outer target : Location) (name : String) (node : Node)
    (houter : directory.lookup outer = some .directory)
    (hplace : directory.lookup (outer ++ [name]) ≠ some .directory) :
    (directory.put (outer ++ [name]) node).lookup target =
      if target = outer ++ [name] then some node else directory.lookup target := by
  induction directory generalizing outer target with
  | empty =>
      cases outer with
      | nil => cases target <;> grind [put, lookup_nil, lookup_add, lookup]
      | cons first names => simp [lookup] at houter
  | file other content rest ih =>
      cases outer with
      | nil => cases target <;> grind [put, lookup_nil, lookup_add, lookup]
      | cons first names =>
          by_cases h : other = first
          · grind [lookup]
          · cases target <;> grind [put, lookup_nil, lookup]
  | subdirectory other inner rest ihInner ihRest =>
      cases outer with
      | nil => cases target <;> grind [put, lookup_nil, lookup]
      | cons first names => cases target <;> grind [put, lookup_nil, lookup]

/-- Of a file and what is put over it, only the latter counts. -/
theorem put_put (directory : Directory) (place : Location) (content : Bytes) (node : Node) :
    (directory.put place (.file content)).put place node = directory.put place node := by
  induction directory generalizing place with
  | empty =>
      rcases place with _ | ⟨name, _ | ⟨inner, names⟩⟩
      · rfl
      · simp [put, add]
      · rfl
  | file other old rest ih =>
      cases place with
      | nil => rfl
      | cons name names => grind [put, add]
  | subdirectory other inner rest ihInner ihRest =>
      cases place with
      | nil => rfl
      | cons name names => grind [put]

/-- A directory stays one, whatever is put anywhere. -/
theorem lookup_put_directory (directory : Directory) (place target : Location) (node : Node)
    (h : directory.lookup target = some .directory) :
    (directory.put place node).lookup target = some .directory := by
  induction directory generalizing place target with
  | empty => cases target <;> grind [lookup, lookup_nil]
  | file other content rest ih =>
      cases target with
      | nil => exact lookup_nil _
      | cons first names => cases place <;> grind [put, lookup, lookup_add]
  | subdirectory other inner rest ihInner ihRest =>
      cases target with
      | nil => exact lookup_nil _
      | cons first names => cases place <;> grind [put, lookup]

/-- Only a directory has something in it. -/
theorem lookup_outer (directory : Directory) (outer : Location) (name : String) (node : Node)
    (h : directory.lookup (outer ++ [name]) = some node) :
    directory.lookup outer = some .directory := by
  induction directory generalizing outer with
  | empty => cases outer <;> simp [lookup] at h
  | file other content rest ih =>
      cases outer <;> grind [lookup_nil, lookup, List.append_ne_nil_of_right_ne_nil]
  | subdirectory other inner rest ihInner ihRest => cases outer <;> grind [lookup_nil, lookup]

theorem lookup_leadingTo (place : Location) :
    (leadingTo place).lookup place = some .directory := by
  induction place with
  | nil => rfl
  | cons name names ih => simpa [leadingTo, lookup] using ih

end Directory

end IndicatorWrap
