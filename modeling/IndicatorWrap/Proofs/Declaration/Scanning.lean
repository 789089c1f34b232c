import IndicatorWrap.Declaration.Extraction

/-!
The steps of looking for declarations: a pull passes over a token that begins no
header, or reads the declaration behind a header; an extraction goes from one
pull to the next.
-/

namespace IndicatorWrap

theorem Pull.ofTokens_nil (function : String) : ofTokens function [] = ⟨function, [], .ok none⟩ := by
  rw [ofTokens]

theorem Pull.ofTokens_skip {token : Token} {rest : List Token}
    (h : Signature.header? (token :: rest) = none) (function : String) :
    ofTokens function (token :: rest) = ofTokens function rest := by
  rw [ofTokens]
  split
  · rfl
  · next heq => cases h.symm.trans heq

theorem Pull.ofTokens_header {tokens behind : List Token} {name : Token}
    (h : Signature.header? tokens = some (name, behind)) (function : String) :
    ofTokens function tokens =
      match Signature.readAfter name behind with
      | .stuck expected left => ⟨name.value, left, .error ⟨name.value, expected, left.head?⟩⟩
      | .done signature left =>
        if signature.parameters.isEmpty then ofTokens name.value left
        else ⟨name.value, left, .ok (some signature)⟩ := by
  match tokens with
  | [] => cases h
  | token :: rest =>
      rw [ofTokens]
      split
      · next heq => cases h.symm.trans heq
      · next heq =>
          cases h.symm.trans heq
          split
          · next hread => rw [hread]
          · next hread => rw [hread]

theorem Extraction.ofTokens_zero (found : Bool) (tokens : List Token) :
    ofTokens (some 0) found tokens = ⟨[], .paused⟩ := by
  rw [ofTokens, if_pos rfl]

theorem Extraction.ofTokens_pull {limit : Option Nat} (h : limit ≠ some 0) (found : Bool)
    (tokens : List Token) :
    ofTokens limit found tokens =
      match (Pull.ofTokens "" tokens).result with
      | .error error => ⟨[], .failed (.malformed error)⟩
      | .ok none => ⟨[], if found then .done else .failed .noDeclarations⟩
      | .ok (some signature) =>
        let more := ofTokens (limit.map (· - 1)) true (Pull.ofTokens "" tokens).rest
        ⟨signature :: more.signatures, more.status⟩ := by
  rw [ofTokens, if_neg h]
  split
  · next heq => rw [heq]
  · next heq => rw [heq]
  · next heq => rw [heq]

end IndicatorWrap
