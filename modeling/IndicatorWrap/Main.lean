import IndicatorWrap.CommandLine.Run

/-!
The program on a real machine: its calls are those of the operating system.
-/

namespace IndicatorWrap

open Text.Utf8 (Bytes)

/-- The number of an error from its code, which some calls give as a negative. -/
def errorNumber (code : UInt32) : Nat :=
  min code.toNat (0 - code).toNat

/-- The refusal that an error of the operating system stands for. -/
def errno? : IO.Error → Option Errno
  | .noFileOrDirectory _ _ _ => some .noEntry
  | .alreadyExists _ _ _ => some .exists
  | .inappropriateType _ code _ =>
    some (if errorNumber code = Errno.isDirectory.number then .isDirectory else .notDirectory)
  | .invalidArgument _ code _ =>
    if errorNumber code = Errno.nameTooLong.number then some .nameTooLong else none
  | _ => none

/-- Any other error breaks the program off. -/
def attempt {α : Type} (action : IO α) : IO (Except Errno α) :=
  tryCatch (Except.ok <$> action) fun error =>
    match errno? error with
    | some errno => return .error errno
    | none => throw error

instance : Machine IO where
  kind path := attempt do
    let found ← (System.mkFilePath [path.text]).metadata
    return if found.type == .dir then .directory else .file
  readFile path := attempt do
    return (← IO.FS.readBinFile path.text).data.toList
  writeFile path content := attempt (IO.FS.writeBinFile path.text ⟨content.toArray⟩)
  makeDirectory path := attempt (IO.FS.createDir path.text)
  locate path := do
    let place ← IO.FS.realPath path.text
    return (Path.ofText place.toString).parts
  print := IO.print
  complain := IO.eprint

end IndicatorWrap

open IndicatorWrap in
def main (arguments : List String) : IO UInt32 := do
  match ← (CommandLine.run arguments : IO CommandLine.Ending) with
  | .completed => return 0
  | .exited status => return status.toUInt32
  | .broken breach =>
    IO.eprintln breach.message
    return 1
