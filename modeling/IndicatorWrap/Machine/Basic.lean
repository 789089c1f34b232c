import IndicatorWrap.Machine.Disk
import IndicatorWrap.Text.Quoted
import IndicatorWrap.Text.Numeral

/-!
What generation asks of the machine it runs on, and the faults it may meet. The
calls are those of a disk, with two streams to print on; everything above them
is written once, for any machine.
-/

namespace IndicatorWrap

open Text.Utf8 (Bytes)

class Machine (m : Type → Type) where
  /-- What is found at a path. -/
  kind : Path → m (Except Errno Node.Kind)
  readFile : Path → m (Except Errno Bytes)
  /-- Writes a file anew. What is refused is its opening, before anything is written. -/
  writeFile : Path → Bytes → m (Except Errno Unit)
  /-- Makes one directory. -/
  makeDirectory : Path → m (Except Errno Unit)
  /-- The place of a file that was just written. -/
  locate : Path → m Location
  print : String → m Unit
  /-- Prints on the stream for errors. -/
  complain : String → m Unit

inductive Fault where
  /-- A refused call, and the path it was made with. -/
  | refused (errno : Errno) (path : Path)
  /-- A path that no call can be made with. -/
  | nulInPath
  | undecodable (fault : Text.Utf8.Fault)
  | emptyManifest
deriving DecidableEq, Repr

def Text.Utf8.Reason.text : Text.Utf8.Reason → String
  | .badStart => "invalid start byte"
  | .badContinuation => "invalid continuation byte"
  | .cutShort => "unexpected end of data"

def Text.Utf8.Fault.message (fault : Text.Utf8.Fault) : String :=
  let run :=
    if fault.length = 1 then
      "byte 0x" ++ String.ofList (Text.hexDigits 2 fault.first.toNat) ++ " in position " ++
        Text.decimal fault.position
    else
      "bytes in position " ++ Text.decimal fault.position ++ "-" ++
        Text.decimal (fault.position + fault.length - 1 : Nat)
  "'utf-8' codec can't decode " ++ run ++ ": " ++ fault.reason.text

def Fault.message : Fault → String
  | .refused errno path =>
    "[Errno " ++ Text.decimal errno.number ++ "] " ++ errno.text ++ ": " ++ Text.quoted path.text
  | .nulInPath => "embedded null byte"
  | .undecodable fault => fault.message
  | .emptyManifest => "manifest must list at least one module"

namespace Machine

variable {m : Type → Type} [Monad m] [Machine m]

/-- Refuses a path that no call can be made with. -/
def checkPath (path : Path) : ExceptT Fault m Unit :=
  if path.hasNul then throw .nulInPath else return ()

/-- The value of a call, or the fault that it was refused. -/
def demand {α : Type} (path : Path) (result : m (Except Errno α)) : ExceptT Fault m α := do
  match ← result with
  | .ok value => return value
  | .error errno => throw (.refused errno path)

/-- What is at a path, if anything is. Nothing is where a path leads nowhere or
through a file, or where no call can be made with it. -/
def kind? (path : Path) : ExceptT Fault m (Option Node.Kind) :=
  if path.hasNul then
    return none
  else do
    match ← (kind path : m _) with
    | .ok kind => return some kind
    | .error .noEntry => return none
    | .error .notDirectory => return none
    | .error errno => throw (.refused errno path)

/-- Forgives that a directory could not be made if it is there. -/
def settleFor (path : Path) (errno : Errno) : ExceptT Fault m Unit := do
  match ← kind? path with
  | some .directory => return ()
  | _ => throw (.refused errno path)

/-- Makes a directory in a directory that is there, unless it is there itself. -/
def ensureDirectory (path : Path) : ExceptT Fault m Unit := do
  match ← (makeDirectory path : m _) with
  | .ok () => return ()
  | .error .noEntry => throw (.refused .noEntry path)
  | .error errno => settleFor path errno

/-- Makes a directory and those above it, unless they are there. -/
def ensureDirectories (path : Path) : ExceptT Fault m Unit := do
  match ← (makeDirectory path : m _) with
  | .ok () => return ()
  | .error .noEntry =>
    if _h : path.parts = [] then
      throw (.refused .noEntry path)
    else
      ensureDirectories path.parent
      ensureDirectory path
  | .error errno => settleFor path errno
termination_by path.parts.length
decreasing_by
  have := List.length_pos_iff.2 _h
  simp only [Path.parent, List.length_dropLast]
  omega

end Machine

end IndicatorWrap
