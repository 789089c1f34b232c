import IndicatorWrap.Declaration.Grammar
import IndicatorWrap.Token.Lexer

/-!
The signatures of a text. Tokens outside the declarations of indicators are
passed over, and so is a declaration without parameters, which leaves nothing
to wrap. Signatures come out one pull at a time, so that a fault late in a text
withholds none of those before it.
-/

namespace IndicatorWrap

/-- The name token of the indicator declaration that begins here, and the
tokens behind it. -/
def Signature.header? : List Token → Option (Token × List Token)
  | visibility :: keyword :: name :: paren :: rest =>
    if visibility.isWord "pub" && keyword.isWord "fn" && name.kind == .ident &&
        paren.kind == .openParen && isIndicatorName name.value then
      some (name, paren :: rest)
    else
      none
  | _ => none

theorem Signature.header?_length {tokens rest : List Token} {name : Token}
    (h : Signature.header? tokens = some (name, rest)) : rest.length < tokens.length := by
  unfold Signature.header? at h
  split at h
  · split at h
    · cases h
      simp only [List.length_cons]
      omega
    · cases h
  · cases h

/-- The outcome of looking for the next signature: the function whose header
was entered last, the tokens left, and the signature, if one was left. -/
structure Pull where
  function : String
  rest : List Token
  result : Except Malformed (Option Signature)

/-- Looks for the next signature; `function` is the one entered last so far. -/
def Pull.ofTokens (function : String) (tokens : List Token) : Pull :=
  match tokens with
  | [] => ⟨function, [], .ok none⟩
  | token :: rest =>
    match _h : Signature.header? (token :: rest) with
    | none => ofTokens function rest
    | some (name, behind) =>
      match _hread : Signature.readAfter name behind with
      | .stuck expected left => ⟨name.value, left, .error ⟨name.value, expected, left.head?⟩⟩
      | .done signature left =>
        if signature.parameters.isEmpty then
          ofTokens name.value left
        else
          ⟨name.value, left, .ok (some signature)⟩
termination_by tokens.length
decreasing_by
  · exact Nat.lt_succ_self _
  · have hleft := (Signature.readAfter_suffix name behind).length_le
    rw [_hread] at hleft
    exact Nat.lt_of_le_of_lt hleft (Signature.header?_length _h)

/-- A pull that yields a signature has taken tokens. -/
theorem Pull.ofTokens_length {function : String} {tokens : List Token} {signature : Signature}
    (h : (ofTokens function tokens).result = .ok (some signature)) :
    (ofTokens function tokens).rest.length < tokens.length := by
  fun_induction ofTokens function tokens with
  | case1 => cases h
  | case2 function token rest _ ih => exact Nat.lt_succ_of_lt (ih h)
  | case3 => cases h
  | case4 function token rest name behind hheader found left hread _ ih =>
      have hleft := (Signature.readAfter_suffix name behind).length_le
      rw [hread] at hleft
      exact Nat.lt_trans (ih h) (Nat.lt_of_le_of_lt hleft (Signature.header?_length hheader))
  | case5 function token rest name behind hheader found left hread _ =>
      have hleft := (Signature.readAfter_suffix name behind).length_le
      rw [hread] at hleft
      exact Nat.lt_of_le_of_lt hleft (Signature.header?_length hheader)

inductive ExtractionError where
  | noDeclarations
  | malformed (error : Malformed)
deriving DecidableEq, Repr

inductive Extraction.Status where
  /-- As many signatures as were asked for, and nothing looked at behind them. -/
  | paused
  | done
  | failed (error : ExtractionError)
deriving DecidableEq, Repr

structure Extraction where
  signatures : List Signature
  status : Extraction.Status
deriving DecidableEq, Repr

/-- Pulls signatures until there are `limit` of them, the tokens end or one is
malformed. That none was found is an error; `found` says whether one was found
before these tokens. -/
def Extraction.ofTokens (limit : Option Nat) (found : Bool) (tokens : List Token) : Extraction :=
  if limit = some 0 then
    ⟨[], .paused⟩
  else
    match _h : (Pull.ofTokens "" tokens).result with
    | .error error => ⟨[], .failed (.malformed error)⟩
    | .ok none => ⟨[], if found then .done else .failed .noDeclarations⟩
    | .ok (some signature) =>
      let more := ofTokens (limit.map (· - 1)) true (Pull.ofTokens "" tokens).rest
      { more with signatures := signature :: more.signatures }
termination_by tokens.length
decreasing_by exact Pull.ofTokens_length _h

/-- The first `limit` signatures of a text, or all of them. -/
def extract (limit : Option Nat) (text : String) : Extraction :=
  .ofTokens limit false (Token.scan text)

/-- All signatures of a text. -/
def signaturesOf (text : String) : Except ExtractionError (List Signature) :=
  let extraction := extract none text
  match extraction.status with
  | .failed error => .error error
  | _ => .ok extraction.signatures

end IndicatorWrap
