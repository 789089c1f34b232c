import IndicatorWrap.Token
import IndicatorWrap.Text.Quoted
import IndicatorWrap.Text.Numeral

/-!
Reading a part of a declaration off the front of a token list. A reading either
is done with a value or is stuck at the first token that no declaration could
have there; both keep the tokens that were not taken.
-/

namespace IndicatorWrap

/-- What a reading was waiting for. -/
inductive Expected where
  | functionName
  | parameterName
  | colonAfter (parameter : String)
  | typeName
  | pathSegment
  | commaOrClose
  | kind (kind : Token.Kind)
  /-- In the caller's own words. -/
  | described (text : String)
deriving DecidableEq, Repr

def Expected.text : Expected → String
  | .functionName => "function name"
  | .parameterName => "parameter name"
  | .colonAfter parameter => "':' after " ++ parameter
  | .typeName => "type name"
  | .pathSegment => "path segment"
  | .commaOrClose => "',' or ')'"
  | .kind wanted => Text.quoted wanted.name
  | .described text => text

inductive Reading (α : Type) where
  | done (value : α) (rest : List Token)
  | stuck (expected : Expected) (rest : List Token)
deriving DecidableEq, Repr

namespace Reading

variable {α β : Type}

def rest : Reading α → List Token
  | done _ rest => rest
  | stuck _ rest => rest

def map (f : α → β) : Reading α → Reading β
  | done value rest => done (f value) rest
  | stuck expected rest => stuck expected rest

def bind (reading : Reading α) (next : α → List Token → Reading β) : Reading β :=
  match reading with
  | done value rest => next value rest
  | stuck expected rest => stuck expected rest

theorem map_rest (f : α → β) (reading : Reading α) : (reading.map f).rest = reading.rest := by
  cases reading <;> rfl

theorem bind_rest_suffix {reading : Reading α} {next : α → List Token → Reading β}
    {tokens : List Token} (hfirst : reading.rest <:+ tokens)
    (hnext : ∀ value rest, (next value rest).rest <:+ rest) :
    (reading.bind next).rest <:+ tokens := by
  cases reading with
  | done value rest => exact (hnext value rest).trans hfirst
  | stuck expected rest => exact hfirst

/-- Takes one token of the given kind. -/
def expect (kind : Token.Kind) (expected : Expected) : List Token → Reading Token
  | [] => stuck expected []
  | token :: rest => if token.kind = kind then done token rest else stuck expected (token :: rest)

theorem expect_rest_suffix (kind : Token.Kind) (expected : Expected) (tokens : List Token) :
    (expect kind expected tokens).rest <:+ tokens := by
  unfold expect
  split
  · exact List.suffix_refl _
  · split
    · exact List.suffix_cons _ _
    · exact List.suffix_refl _

end Reading

/-- A declaration that does not parse: its function, what was expected and the
token found instead, if any was left. -/
structure Malformed where
  function : String
  expected : Expected
  found : Option Token
deriving DecidableEq, Repr

def Malformed.message (error : Malformed) : String :=
  let (place, found) := match error.found with
    | none => ("at end of input", "end of input")
    | some token => ("at line " ++ Text.decimal token.line, Text.quoted token.value)
  "Malformed declaration " ++ error.function ++ " " ++ place ++ ": expected " ++
    error.expected.text ++ ", found " ++ found

end IndicatorWrap
