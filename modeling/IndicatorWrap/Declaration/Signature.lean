import IndicatorWrap.Text.Lowercase

/-!
Signatures of foreign functions. The parameters keep the order of the
declaration, because the foreign call passes them by position.
-/

namespace IndicatorWrap

structure Parameter where
  name : String
  rawType : String
deriving DecidableEq, Repr

structure Signature where
  name : String
  parameters : List Parameter
  line : Int
deriving DecidableEq, Repr

/-- What every function of the library begins with. -/
def libraryMark : String := "TA_"

/-- The name without the library's mark. -/
def Signature.shortName (signature : Signature) : String :=
  match libraryMark.toList.isPrefixOf? signature.name.toList with
  | some rest => String.ofList rest
  | none => signature.name

/-- The module that holds the wrapper. -/
def Signature.moduleName (signature : Signature) : String :=
  String.ofList (Text.lower signature.shortName.toList)

/-- What marks a variant for single precision, behind the library's mark. -/
def singlePrecisionMark : String := "S_"

/-- Capital letters, digits and the underscore. -/
def isNameChar (c : Char) : Bool :=
  c.isUpper || c.isDigit || c = '_'

/-- Whether a function is an indicator, by its name: the library's mark, then
capital letters, digits and underscores. Variants for single precision are no
indicators, and lower-case letters mark helpers. One line feed may end the
name. -/
def isIndicatorName (name : String) : Bool :=
  match libraryMark.toList.isPrefixOf? name.toList with
  | none => false
  | some body =>
    let after := body.dropWhile isNameChar
    !(singlePrecisionMark.toList.isPrefixOf body) && body.takeWhile isNameChar != [] &&
      (after == [] || after == ['\n'])

end IndicatorWrap
