import IndicatorWrap.Text.Lines
import IndicatorWrap.Wrapper.Convention

/-!
The source of a wrapper: a comment, the imports and one function. The function
allocates every output with the length of the first input, makes the foreign
call and, if it succeeds, publishes as many elements as the library reported.
Nothing in the source depends on when or where it is written.

A brace without its partner stands in a literal by its code: \x7b opens and \x7d closes a
block. For one input and one output the text is

    // x-------------------------------------------x //
    // | TA-Lib wrapper for Rust
    // | Generated by ta-bindings-gen, do not edit
    // | Source: TA_SMA
    // x-------------------------------------------x //

    use ta_lib_wrapper::{TA_Integer, TA_Real, TA_SMA, TA_RetCode};

    pub fn sma(real: &Vec<TA_Real>) -> (Vec<TA_Real>, TA_Integer) {
        let mut out_real: Vec<TA_Real> = Vec::with_capacity(real.len());
        let mut out_begin: TA_Integer = 0;
        let mut out_size: TA_Integer = 0;

        unsafe {
            let ret_code = TA_SMA(
                0,
                real.len() as i32 - 1,
                real.as_ptr(),
                &mut out_begin,
                &mut out_size,
                out_real.as_mut_ptr(),
            );
            match ret_code {
                TA_RetCode::TA_SUCCESS => {
                    out_real.set_len(out_size as usize);
                }
                _ => panic!("Could not compute indicator, err: {:?}", ret_code),
            }
        }

        (out_real, out_begin)
    }
-/

namespace IndicatorWrap.Source

def crate : String := "ta_lib_wrapper"

def border : String := "// x-------------------------------------------x //"

/-- The comment at the top of a file. -/
def header (signature : Signature) : List String :=
  [border,
    "// | TA-Lib wrapper for Rust",
    "// | Generated by ta-bindings-gen, do not edit",
    "// | Source: " ++ signature.name,
    border]

/-- The names that a wrapper imports. The type of moving averages is imported
only where an input has it. -/
def imports (signature : Signature) (inputs : List Argument) : List String :=
  let averages := if inputs.any (·.hostType.text == "TA_MAType") then ["TA_MAType"] else []
  ["TA_Integer", "TA_Real", signature.name] ++ averages ++ ["TA_RetCode"]

def useLine (signature : Signature) (inputs : List Argument) : String :=
  "use " ++ crate ++ "::\x7b" ++ ", ".intercalate (imports signature inputs) ++ "\x7d;"

def parameterList (inputs : List Argument) : String :=
  ", ".intercalate (inputs.map fun input => input.localName ++ ": " ++ input.hostType.text)

def returnTypes (outputs : List Argument) : String :=
  ", ".intercalate (outputs.map (·.hostType.text) ++ ["TA_Integer"])

def functionLine (signature : Signature) (inputs outputs : List Argument) : String :=
  "pub fn " ++ signature.moduleName ++ "(" ++ parameterList inputs ++ ") -> (" ++
    returnTypes outputs ++ ") \x7b"

def allocation (series : String) (output : Argument) : String :=
  "let mut " ++ output.localName ++ ": " ++ output.hostType.text ++ " = Vec::with_capacity(" ++
    series ++ ".len());"

def inputArgument (input : Argument) : String :=
  if input.hostType.isBuffer then input.localName ++ ".as_ptr()" else input.localName

def outputArgument (output : Argument) : String :=
  output.localName ++ ".as_mut_ptr()"

/-- The arguments of the foreign call, for the range of the whole series. -/
def callArguments (series : String) (inputs outputs : List Argument) : List String :=
  ["0", series ++ ".len() as i32 - 1"] ++ inputs.map inputArgument ++
    ["&mut " ++ beginLocal, "&mut " ++ sizeLocal] ++ outputs.map outputArgument

def publication (output : Argument) : String :=
  output.localName ++ ".set_len(" ++ sizeLocal ++ " as usize);"

def indent (width : Nat) (line : String) : String :=
  String.ofList (List.replicate width ' ') ++ line

/-- The body of the function. -/
def body (signature : Signature) (inputs outputs : List Argument) : List String :=
  let series := (inputs.head?.map Argument.localName).getD ""
  outputs.map (fun output => indent 4 (allocation series output)) ++
    ["    let mut " ++ beginLocal ++ ": TA_Integer = 0;",
      "    let mut " ++ sizeLocal ++ ": TA_Integer = 0;",
      "",
      "    unsafe \x7b",
      "        let " ++ returnCodeLocal ++ " = " ++ signature.name ++ "("] ++
    (callArguments series inputs outputs).map (fun argument => indent 12 (argument ++ ",")) ++
    ["        );",
      "        match " ++ returnCodeLocal ++ " \x7b",
      "            TA_RetCode::TA_SUCCESS => \x7b"] ++
    outputs.map (fun output => indent 16 (publication output)) ++
    ["            \x7d",
      "            _ => panic!(\"Could not compute indicator, err: {:?}\", " ++
        returnCodeLocal ++ "),",
      "        \x7d",
      "    \x7d",
      "",
      "    (" ++ ", ".intercalate (outputs.map Argument.localName ++ [beginLocal]) ++ ")"]

def lines (signature : Signature) (inputs outputs : List Argument) : List String :=
  header signature ++ ["", useLine signature inputs, "", functionLine signature inputs outputs] ++
    body signature inputs outputs ++ ["\x7d"]

def render (signature : Signature) (inputs outputs : List Argument) : String :=
  Text.endLines (lines signature inputs outputs)

end IndicatorWrap.Source
