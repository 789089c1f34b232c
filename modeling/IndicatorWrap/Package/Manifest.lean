import IndicatorWrap.Text.Lines

/-!
The manifest of a package: the file that names its modules, one a line.
-/

namespace IndicatorWrap

def manifestFilename : String := "mod.rs"

/-- The source of the manifest. A package has at least one module. -/
def manifest? (moduleNames : List String) : Option String :=
  match moduleNames with
  | [] => none
  | _ :: _ => some (Text.endLines (moduleNames.map fun name => "pub mod " ++ name ++ ";"))

end IndicatorWrap
