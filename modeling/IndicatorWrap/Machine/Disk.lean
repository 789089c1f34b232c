import IndicatorWrap.Machine.Directory
import IndicatorWrap.Machine.Path

/-!
A disk: all there is from the root on, and the current directory, which no call
takes away. Paths are followed part by part. On the way every part must be a
directory, two dots lead to the directory above, and a part that is too long for
a name is refused before it is looked up. A path that is too long as a whole is
not followed at all.

A call is refused for what its path leads to, and for nothing else. There are no
permissions and no links, and there is always room: a write that breaks off once
its file is open, and leaves it empty or cut, is not described here.
-/

namespace IndicatorWrap

open Text.Utf8 (Bytes)

/-- Why a call to the disk is refused. -/
inductive Errno where
  | noEntry
  | exists
  | notDirectory
  | isDirectory
  | nameTooLong
deriving DecidableEq, Repr

def Errno.number : Errno → Nat
  | .noEntry => 2
  | .exists => 17
  | .notDirectory => 20
  | .isDirectory => 21
  | .nameTooLong => 36

def Errno.text : Errno → String
  | .noEntry => "No such file or directory"
  | .exists => "File exists"
  | .notDirectory => "Not a directory"
  | .isDirectory => "Is a directory"
  | .nameTooLong => "File name too long"

structure Disk where
  current : Location
  root : Directory
  current_directory : root.lookup current = some .directory
deriving DecidableEq, Repr

namespace Disk

/-- What is at a place. -/
def lookup (disk : Disk) (place : Location) : Option Node :=
  disk.root.lookup place

/-- Puts a node at a place in a directory that is there. -/
def put (disk : Disk) (place : Location) (node : Node) : Disk where
  current := disk.current
  root := disk.root.put place node
  current_directory :=
    disk.root.lookup_put_directory place disk.current node disk.current_directory

theorem lookup_put (disk : Disk) (outer target : Location) (name : String) (node : Node)
    (houter : disk.lookup outer = some .directory)
    (hplace : disk.lookup (outer ++ [name]) ≠ some .directory) :
    (disk.put (outer ++ [name]) node).lookup target =
      if target = outer ++ [name] then some node else disk.lookup target :=
  disk.root.lookup_put outer target name node houter hplace

theorem put_put (disk : Disk) (place : Location) (content : Bytes) (node : Node) :
    (disk.put place (.file content)).put place node = disk.put place node := by
  have hroot := disk.root.put_put place content node
  simp only [put, hroot]

/-- The most bytes that a name may have. -/
def maxNameBytes : Nat := 255

/-- The place that a name leads to from a place. -/
def enter (disk : Disk) (place : Location) (name : String) : Except Errno Location :=
  match disk.lookup place with
  | none => .error .noEntry
  | some (.file _) => .error .notDirectory
  | some .directory =>
    if name = ".." then
      .ok place.dropLast
    else if maxNameBytes < (Text.Utf8.encode name.toList).length then
      .error .nameTooLong
    else if (disk.lookup (place ++ [name])).isSome then
      .ok (place ++ [name])
    else
      .error .noEntry

def follow (disk : Disk) (place : Location) : List String → Except Errno Location
  | [] => .ok place
  | name :: rest =>
    match disk.enter place name with
    | .ok inner => disk.follow inner rest
    | .error errno => .error errno

/-- Where a path begins. -/
def start (disk : Disk) (path : Path) : Location :=
  match path.root with
  | .current => disk.current
  | _ => []

/-- The most bytes that the text of a path may have. -/
def maxPathBytes : Nat := 4095

def isTooLong (path : Path) : Bool :=
  maxPathBytes < (Text.Utf8.encode path.text.toList).length

/-- The place that a path leads to. -/
def locate (disk : Disk) (path : Path) : Except Errno Location :=
  if isTooLong path then .error .nameTooLong else disk.follow (disk.start path) path.parts

/-- The place that a path leads to but for its last part, and that part. A path
without parts has none. -/
def locateOuter (disk : Disk) (path : Path) : Except Errno (Location × Option String) :=
  if isTooLong path then
    .error .nameTooLong
  else
    match disk.follow (disk.start path) path.parts.dropLast with
    | .ok place => .ok (place, path.parts.getLast?)
    | .error errno => .error errno

/-- The node that a path leads to. -/
def node (disk : Disk) (path : Path) : Except Errno Node :=
  match disk.locate path with
  | .error errno => .error errno
  | .ok place =>
    match disk.lookup place with
    | some node => .ok node
    | none => .error .noEntry

def readFile (disk : Disk) (path : Path) : Except Errno Bytes :=
  match disk.node path with
  | .ok (.file content) => .ok content
  | .ok .directory => .error .isDirectory
  | .error errno => .error errno

/-- Makes one directory, in a directory that is there. -/
def makeDirectory (disk : Disk) (path : Path) : Except Errno Disk :=
  match disk.locateOuter path with
  | .error errno => .error errno
  | .ok (_, none) => .error .exists
  | .ok (place, some name) =>
    match disk.enter place name with
    | .ok _ => .error .exists
    | .error .noEntry => .ok (disk.put (place ++ [name]) .directory)
    | .error errno => .error errno

/-- Opens a file to write it anew, in a directory that is there: its place, and the disk
on which it is empty, whether it was made or held something. -/
def openFile (disk : Disk) (path : Path) : Except Errno (Location × Disk) :=
  match disk.locateOuter path with
  | .error errno => .error errno
  | .ok (_, none) => .error .isDirectory
  | .ok (place, some name) =>
    match disk.enter place name with
    | .ok target =>
      match disk.lookup target with
      | some (.file _) => .ok (target, disk.put target (.file []))
      | _ => .error .isDirectory
    | .error .noEntry => .ok (place ++ [name], disk.put (place ++ [name]) (.file []))
    | .error errno => .error errno

/-- Writes a file, in a directory that is there. Only the opening is ever refused, and then
the file is untouched: an open file takes every content as a whole. -/
def writeFile (disk : Disk) (path : Path) (content : Bytes) : Except Errno Disk :=
  match disk.openFile path with
  | .error errno => .error errno
  | .ok (place, opened) => .ok (opened.put place (.file content))

/-- The places above a place, from the root on. -/
def above (place : Location) : List Location :=
  (List.range place.length).map place.take

/-- Puts a node at a place, and directories at those places above it where
nothing is. -/
def plant (disk : Disk) (place : Location) (node : Node) : Disk :=
  let missing := (above place).filter fun outer => (disk.lookup outer).isNone
  (missing.foldl (fun disk outer => disk.put outer .directory) disk).put place node

/-- A disk with nothing on it but the current directory and those above it. -/
def blank (current : Location) : Disk :=
  ⟨current, .leadingTo current, Directory.lookup_leadingTo current⟩

/-- Everything below the current directory with its path from there, in the
order of the paths. -/
def listing (disk : Disk) : List (String × Node) :=
  let below := disk.root.contents.filterMap fun (place, node) =>
    match disk.current.isPrefixOf? place with
    | none | some [] => none
    | some names => some ("/".intercalate names, node)
  below.mergeSort fun a b => !(b.1 < a.1)

end Disk

end IndicatorWrap
