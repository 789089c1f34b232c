import IndicatorWrap.Parameter.Role

/-!
Clean names: what is left of a parameter's name behind its mark, in lower case,
with an underscore where a new word begins.
-/

namespace IndicatorWrap

def isLowerOrDigit (c : Char) : Bool :=
  c.isLower || c.isDigit

/-- Whether a word begins behind a letter: a capital behind a small letter or
digit, or the last of several capitals if a small letter follows. -/
def wordBegins (letter : Char) : List Char → Bool
  | [] => false
  | next :: rest =>
    next.isUpper && (isLowerOrDigit letter || (letter.isUpper && rest.head?.any Char.isLower))

/-- An underscore in front of each word but the first. -/
def separateWords : List Char → List Char
  | [] => []
  | c :: rest =>
    if wordBegins c rest then c :: '_' :: separateWords rest else c :: separateWords rest

/-- One underscore in place of several. -/
def mergeUnderscores : List Char → List Char
  | [] => []
  | c :: rest =>
    if c = '_' ∧ rest.head? = some '_' then mergeUnderscores rest
    else c :: mergeUnderscores rest

/-- The text without the underscores at its two ends. -/
def trimUnderscores (text : List Char) : List Char :=
  let dropUnderscores := List.dropWhile (· == '_')
  (dropUnderscores (dropUnderscores text).reverse).reverse

def snakeCase (name : String) : String :=
  String.ofList (Text.lower (trimUnderscores (mergeUnderscores (separateWords name.toList))))

/-- Words that the target language keeps for itself. -/
def reservedWords : List String :=
  ["as", "async", "await", "break", "const", "continue", "crate", "dyn", "else", "enum",
    "extern", "false", "fn", "for", "if", "impl", "in", "let", "loop", "match", "mod", "move",
    "mut", "pub", "ref", "return", "self", "static", "struct", "super", "trait", "true", "type",
    "unsafe", "use", "where", "while"]

/-- The name that the wrapper gives a parameter; a reserved word is told apart
by an underscore behind it. -/
def cleanName (name : String) : String :=
  let clean := snakeCase (splitRole name).2
  if clean ∈ reservedWords then clean ++ "_" else clean

/-- A parameter with its role and its clean name. -/
structure Classified where
  parameter : Parameter
  role : Role
  name : String
deriving DecidableEq, Repr

def Classified.of (parameter : Parameter) : Classified :=
  ⟨parameter, Role.ofParameter parameter.name, cleanName parameter.name⟩

/-- The parameters of one role, in the order of the declaration. -/
def Signature.inRole (signature : Signature) (role : Role) : List Classified :=
  (signature.parameters.map Classified.of).filter (·.role == role)

end IndicatorWrap
