import IndicatorWrap.Text.Lines
import IndicatorWrap.Text.Numeral

/-!
The summary printed after a run: where the declarations came from, how many
there were, how many functions they gave, and a row for each file written.
-/

namespace IndicatorWrap

structure FileLines where
  filename : String
  lines : Int
deriving DecidableEq, Repr

structure Summary where
  inputLabel : String
  outputLabel : String
  declarations : Int
  functions : Int
  files : List FileLines
deriving DecidableEq, Repr

namespace Summary

/-- How many declarations gave way to a later one. -/
def replaced (summary : Summary) : Int :=
  summary.declarations - summary.functions

def totalLines (summary : Summary) : Int :=
  summary.files.foldr (fun file total => file.lines + total) 0

/-- The width of the columns of counts and of names. -/
def countWidth : Nat := 6

def nameWidth : Nat := 28

def functionsLine (summary : Summary) : String :=
  let count := "  Functions:    " ++ Text.alignRight countWidth (Text.decimal summary.functions)
  if summary.replaced > 0 then
    count ++ "  (" ++ Text.decimal summary.replaced ++ " replaced by later declarations)"
  else
    count

def fileRow (file : FileLines) : String :=
  "    " ++ Text.alignLeft nameWidth file.filename ++ " " ++
    Text.alignRight countWidth (Text.grouped file.lines) ++ " lines"

def totalLine (summary : Summary) : String :=
  "  Total: " ++ Text.grouped summary.totalLines ++ " lines across " ++
    Text.decimal summary.files.length ++ " files"

def lines (summary : Summary) : List String :=
  ["TA-Lib wrappers generated:",
    "",
    "  Input:      " ++ summary.inputLabel,
    "  Output:     " ++ summary.outputLabel,
    "",
    "  Declarations: " ++ Text.alignRight countWidth (Text.decimal summary.declarations),
    summary.functionsLine,
    "",
    "  Files written:"] ++
    summary.files.map fileRow ++ ["", summary.totalLine]

def render (summary : Summary) : String :=
  Text.endLines summary.lines

end Summary

end IndicatorWrap
