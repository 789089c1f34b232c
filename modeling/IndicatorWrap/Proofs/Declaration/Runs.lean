import IndicatorWrap.Proofs.Declaration.Coverage

/-!
Runs of a cursor. An extraction pulls its signatures with one cursor, one after
the other, until a pull yields none; if that pull ends in an error, the cursor
has entered a header whose declaration does not parse.
-/

namespace IndicatorWrap

namespace Pull

open Signature

/-- What is found does not depend on what was entered before. -/
theorem ofTokens_congr (function other : String) (tokens : List Token) :
    (ofTokens function tokens).result = (ofTokens other tokens).result ∧
      (ofTokens function tokens).rest = (ofTokens other tokens).rest := by
  fun_induction ofTokens function tokens generalizing other with
  | case1 => simp [ofTokens_nil]
  | case2 function token rest hheader ih =>
      rw [ofTokens_skip hheader]
      exact ih other
  | case3 function token rest name behind hheader expected left hread =>
      rw [ofTokens_header hheader, hread]
      exact ⟨rfl, rfl⟩
  | case4 function token rest name behind hheader signature left hread hempty _ =>
      rw [ofTokens_header hheader, hread]
      simp only [if_pos hempty, and_self]
  | case5 function token rest name behind hheader signature left hread hsome =>
      rw [ofTokens_header hheader, hread]
      simp only [if_neg hsome, and_self]

/-- A pull ends in an error at a header behind which the reading gets stuck. -/
theorem ofTokens_error {function : String} {tokens : List Token} {error : Malformed}
    (h : (ofTokens function tokens).result = .error error) :
    ∃ front begun name behind expected rest, tokens = front ++ begun ∧
      header? begun = some (name, behind) ∧ readAfter name behind = .stuck expected rest ∧
      error = ⟨name.value, expected, rest.head?⟩ ∧
      ofTokens function tokens = ⟨name.value, rest, .error error⟩ := by
  fun_induction ofTokens function tokens with
  | case1 => cases h
  | case2 function token rest _ ih =>
      obtain ⟨front, begun, name, behind, expected, left, rfl, hhalts⟩ := ih h
      exact ⟨token :: front, begun, name, behind, expected, left, rfl, hhalts⟩
  | case3 function token rest name behind hheader expected left hread =>
      cases h
      exact ⟨[], _, name, behind, expected, left, rfl, hheader, hread, rfl, rfl⟩
  | case4 function token rest name behind hheader signature left hread _ ih =>
      obtain ⟨passed, hpassed, -⟩ := header?_read hheader hread
      obtain ⟨front, begun, name, behind, expected, rest, rfl, hhalts⟩ := ih h
      refine ⟨passed ++ front, begun, name, behind, expected, rest, ?_, hhalts⟩
      rw [hpassed, List.append_assoc]
  | case5 => cases h

end Pull

namespace Cursor

/-- Pulling signatures one after the other from a cursor up to another one. -/
inductive Pulls : Cursor → List Signature → Cursor → Prop where
  | nil {cursor : Cursor} : Pulls cursor [] cursor
  | cons {cursor next last : Cursor} {signature : Signature} {signatures : List Signature}
      (hnext : cursor.next = (.ok (some signature), next)) (hmore : Pulls next signatures last) :
      Pulls cursor (signature :: signatures) last

theorem Pulls.tokens_eq {cursor last : Cursor} {signatures : List Signature}
    (h : Pulls cursor signatures last) : last.tokens = cursor.tokens := by
  induction h with
  | nil => rfl
  | cons hnext _ ih =>
      rw [ih, ← (Prod.mk.inj hnext).2]
      rfl

theorem next_result (cursor : Cursor) :
    cursor.next.1 = (Pull.ofTokens "" cursor.ahead).result :=
  (Pull.ofTokens_congr cursor.function "" cursor.ahead).1

theorem ahead_next {cursor : Cursor} {signature : Signature}
    (h : cursor.next.1 = .ok (some signature)) :
    cursor.next.2.ahead = (Pull.ofTokens "" cursor.ahead).rest := by
  obtain ⟨front, place, hahead, -⟩ := Pull.ofTokens_some h
  rw [← (Pull.ofTokens_congr cursor.function "" cursor.ahead).2]
  exact ahead_advanceTo hahead

/-- An extraction that meets a fault has pulled its signatures and then the error. -/
theorem pulls_of_malformed {limit : Option Nat} {found : Bool} {tokens : List Token}
    {error : Malformed} (hlimit : limit = none)
    (h : (Extraction.ofTokens limit found tokens).status = .failed (.malformed error))
    {cursor : Cursor} (hahead : cursor.ahead = tokens) :
    ∃ reached final, cursor.Pulls (Extraction.ofTokens limit found tokens).signatures reached ∧
      reached.next = (.error error, final) := by
  fun_induction Extraction.ofTokens limit found tokens generalizing cursor with
  | case1 => cases hlimit
  | case2 limit found tokens _ fault hpull =>
      cases h
      have herror : cursor.next.1 = .error error := by rw [next_result, hahead, hpull]
      exact ⟨cursor, cursor.next.2, .nil, Prod.ext herror rfl⟩
  | case3 limit found tokens _ hpull =>
      split at h
      · cases h
      · cases h
  | case4 limit found tokens _ signature hpull more ih =>
      have hfound : cursor.next.1 = .ok (some signature) := by rw [next_result, hahead, hpull]
      have hbehind := ahead_next hfound
      rw [hahead] at hbehind
      obtain ⟨reached, final, hpulls, hlast⟩ := ih (by rw [hlimit]; rfl) h hbehind
      exact ⟨reached, final, .cons (Prod.ext hfound rfl) hpulls, hlast⟩

theorem read_of_stuck {α : Type} {reader : List Token → Reading α} {cursor : Cursor}
    {taken rest : List Token} {expected : Expected} (hahead : cursor.ahead = taken ++ rest)
    (h : reader cursor.ahead = .stuck expected rest) :
    cursor.read reader = (.error ⟨cursor.function, expected, rest.head?⟩,
      { cursor with position := cursor.position + taken.length }) := by
  rw [read, h, ← advanceTo_of_append hahead]

/-- Reading a declaration that gets stuck leaves the cursor where it is stuck. -/
theorem readDeclaration_of_stuck {cursor : Cursor} {name : Token} {taken rest : List Token}
    {expected : Expected}
    (h : cursor.tokens.drop (cursor.position + 2) = name :: (taken ++ rest))
    (hname : name.kind = .ident)
    (hread : Signature.readAfter name (taken ++ rest) = .stuck expected rest) :
    cursor.readDeclaration = (.error ⟨name.value, expected, rest.head?⟩,
      ⟨cursor.tokens, cursor.position + 3 + taken.length, name.value⟩) := by
  have hahead : (Cursor.mk cursor.tokens (cursor.position + 3) name.value).ahead =
      taken ++ rest := by
    change cursor.tokens.drop (cursor.position + 2 + 1) = taken ++ rest
    rw [← List.drop_drop, h]
    rfl
  rw [readDeclaration_of_name h hname, read_of_stuck hahead (hahead.symm ▸ hread)]

end Cursor

/-- Where the reading gets stuck there is no declaration. -/
theorem Signature.not_declaredAt_of_stuck {tokens behind rest : List Token} {place : Nat}
    {name : Token} {expected : Expected} (h : tokens.drop (place + 2) = name :: behind)
    (hread : readAfter name behind = .stuck expected rest) (signature : Signature) :
    ¬signature.DeclaredAt tokens place := by
  rintro ⟨taken, after, htaken, hdeclaration⟩
  obtain ⟨first, others, rfl, -⟩ := hdeclaration.exists_name
  rw [h, List.cons_append] at htaken
  obtain ⟨rfl, rfl⟩ := List.cons.inj htaken
  cases hread.symm.trans (readAfter_complete hdeclaration after)

end IndicatorWrap
