import IndicatorWrap.Parameter.Role
import IndicatorWrap.Text.Blank
import IndicatorWrap.Text.Quoted

/-!
From the raw type of a declaration to the type of the wrapper. A pointer is a
series whose element is found by the last name of the pointed-to path; any other
type must stand in a closed table as it is written. Nothing is guessed.
-/

namespace IndicatorWrap

/-- The scalar types, by raw type. -/
def scalarTypes : List (String × String) :=
  [("::std::os::raw::c_int", "i32"), ("TA_MAType", "TA_MAType"), ("f32", "TA_Real"),
    ("f64", "TA_Real")]

/-- The types of the elements of series, by tag. -/
def elementTypes : List (String × String) :=
  [("c_int", "TA_Integer"), ("f32", "TA_Real"), ("f64", "TA_Real")]

/-- The text behind a qualifier and the blanks after it, or the whole text. -/
def dropQualifier (text : List Char) : List Char :=
  let behind? := ["const", "mut"].findSome? fun word => word.toList.isPrefixOf? text
  match behind? with
  | some (c :: rest) => if Text.isBlank c then Text.dropBlanks rest else text
  | _ => text

/-- The text in front of the first separator of a path. -/
def uptoSeparator : List Char → List Char
  | ':' :: ':' :: _ => []
  | c :: rest => c :: uptoSeparator rest
  | [] => []

/-- The text behind the last separator of a path. -/
def lastSegment (path : List Char) : List Char :=
  (uptoSeparator path.reverse).reverse

/-- The tag of what a pointer type points to, the last name of its path. A
pointer to a pointer has none, and neither has a type broken over two lines. -/
def elementTag (rawType : String) : Option String :=
  match Text.trim rawType.toList with
  | '*' :: behind =>
    let pointee := dropQualifier (Text.dropBlanks behind)
    let path := Text.trim pointee
    let tag := Text.trim (lastSegment path)
    if pointee.contains '\n' || path.head? == some '*' || tag == [] then
      none
    else
      some (String.ofList tag)
  | _ => none

structure HostType where
  text : String
  isBuffer : Bool
  element : Option String
deriving DecidableEq, Repr

inductive TypeError.Cause where
  | unknownElement
  | unknownScalar
deriving DecidableEq, Repr

/-- A raw type that no table holds; `place` names the function and the parameter
where it was met. -/
structure TypeError where
  cause : TypeError.Cause
  rawType : String
  place : Option (String × String)
deriving DecidableEq, Repr

def TypeError.code (error : TypeError) : String :=
  match error.cause with
  | .unknownElement => "UNKNOWN_ELEMENT_TYPE"
  | .unknownScalar => "UNKNOWN_TYPE"

def TypeError.message (error : TypeError) : String :=
  let place := match error.place with
    | some (function, parameter) => function ++ "(" ++ parameter ++ "): "
    | none => ""
  let fault := match error.cause with
    | .unknownElement => "No element type for pointer type "
    | .unknownScalar => "No host type for raw type "
  place ++ fault ++ Text.quoted error.rawType

def TypeError.suggestion (error : TypeError) : String :=
  match error.cause with
  | .unknownElement => "Known element tags: " ++ ", ".intercalate (elementTypes.map (·.1)) ++ "."
  | .unknownScalar => "Known scalar types: " ++ ", ".intercalate (scalarTypes.map (·.1)) ++ "."

/-- The host type of a raw type. The wrapper borrows the series it reads and
owns those it returns. -/
def HostType.ofRaw (rawType : String) (role : Role) : Except TypeError HostType :=
  if rawType.toList.head? = some '*' then
    match (elementTag rawType).bind (List.lookup · elementTypes) with
    | none => .error ⟨.unknownElement, rawType, none⟩
    | some element =>
      let borrow := if role = .input then "&" else ""
      .ok ⟨borrow ++ "Vec<" ++ element ++ ">", true, some element⟩
  else
    match List.lookup rawType scalarTypes with
    | none => .error ⟨.unknownScalar, rawType, none⟩
    | some host => .ok ⟨host, false, none⟩

end IndicatorWrap
