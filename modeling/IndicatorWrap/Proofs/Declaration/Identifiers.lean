import IndicatorWrap.Proofs.Declaration.Coverage
import IndicatorWrap.Proofs.Parameter.CleanName

/-!
The names of extracted signatures. They are values of tokens of the text, hence
identifiers.
-/

namespace IndicatorWrap

open Lexeme (IsIdentifier)

namespace Token

/-- Whether the names among the tokens are identifiers. -/
def Identified (tokens : List Token) : Prop :=
  ∀ token ∈ tokens, token.kind = .ident → IsIdentifier token.value.toList

theorem identified_cons_iff {token : Token} {tokens : List Token} :
    Identified (token :: tokens) ↔
      (token.kind = .ident → IsIdentifier token.value.toList) ∧ Identified tokens :=
  List.forall_mem_cons

theorem identified_of_drop {line count : Nat} {text : List Char} {taken rest : List Token}
    (h : (scanFrom line text).drop count = taken ++ rest) : Identified taken := by
  intro token htoken hkind
  have hmem : token ∈ (scanFrom line text).drop count := by
    rw [h]
    exact List.mem_append_left rest htoken
  exact isIdentifier_of_mem_scanFrom (List.mem_of_mem_drop hmem) hkind

end Token

namespace Derives

theorem OneParameter.exists_name {tokens : List Token} {parameter : Parameter}
    (h : OneParameter tokens parameter) :
    ∃ token ∈ tokens, token.kind = .ident ∧ token.value = parameter.name := by
  obtain ⟨hname, hcolon, htype⟩ := h
  exact ⟨_, List.mem_cons_self, hname, rfl⟩

/-- The tokens of each parameter are among those of all. -/
theorem MoreParameters.exists_one {tokens : List Token} {parameters : List Parameter}
    (h : MoreParameters tokens parameters) :
    ∀ parameter ∈ parameters, ∃ inner, inner ⊆ tokens ∧ OneParameter inner parameter := by
  induction h with
  | nil => simp
  | trailing => simp
  | cons hcomma hfirst hmore ih =>
      intro parameter hparameter
      rcases List.mem_cons.mp hparameter with rfl | hlater
      · refine ⟨_, ?_, hfirst⟩
        exact List.subset_cons_of_subset _ (List.subset_append_left _ _)
      · obtain ⟨inner, hinner, hone⟩ := ih parameter hlater
        refine ⟨inner, ?_, hone⟩
        exact List.subset_cons_of_subset _ (List.subset_append_of_subset_right _ hinner)

theorem Parameters.exists_one {tokens : List Token} {parameters : List Parameter}
    (h : Parameters tokens parameters) :
    ∀ parameter ∈ parameters, ∃ inner, inner ⊆ tokens ∧ OneParameter inner parameter := by
  cases h with
  | none => simp
  | some hfirst hmore =>
      intro parameter hparameter
      rcases List.mem_cons.mp hparameter with rfl | hlater
      · exact ⟨_, List.subset_append_left _ _, hfirst⟩
      · obtain ⟨inner, hinner, hone⟩ := hmore.exists_one parameter hlater
        exact ⟨inner, List.subset_append_of_subset_right _ hinner, hone⟩

end Derives

theorem Lexeme.IsIdentifier.identChars {text : List Char} (h : IsIdentifier text) :
    IdentChars text :=
  h.isIdentChar_of_mem

/-- Whether the names of a signature are identifiers. -/
structure Signature.Identified (signature : Signature) : Prop where
  name : IsIdentifier signature.name.toList
  parameters : ∀ parameter ∈ signature.parameters, IsIdentifier parameter.name.toList

theorem Signature.DeclaredAt.identified {line : Nat} {text : List Char} {place : Nat}
    {signature : Signature} (h : signature.DeclaredAt (Token.scanFrom line text) place) :
    signature.Identified := by
  obtain ⟨taken, rest, hdrop, hderives⟩ := h
  have hscanned := Token.identified_of_drop hdrop
  obtain @⟨name, paren, close, inner, parameters, hname, hparen, hparameters, hclose⟩ := hderives
  refine ⟨hscanned name List.mem_cons_self hname, ?_⟩
  intro parameter hparameter
  obtain ⟨tokens, htokens, hone⟩ := hparameters.exists_one parameter hparameter
  obtain ⟨token, htoken, hkind, hvalue⟩ := hone.exists_name
  rw [← hvalue]
  exact hscanned token (by simp [htokens htoken]) hkind

theorem Extraction.declaredAt_of_mem {limit : Option Nat} {found : Bool} {tokens : List Token}
    {signature : Signature} (h : signature ∈ (ofTokens limit found tokens).signatures) :
    ∃ place ∈ Signature.headerPlaces tokens, signature.DeclaredAt tokens place := by
  fun_induction ofTokens limit found tokens with
  | case1 => cases h
  | case2 => cases h
  | case3 => cases h
  | case4 limit found tokens hlimit first hpull more ih =>
      obtain ⟨front, place, htokens, hdeclared, hplaces⟩ := Pull.ofTokens_some hpull
      rw [hplaces]
      rcases List.mem_cons.mp h with rfl | hlater
      · exact ⟨place, List.mem_cons_self, hdeclared⟩
      · obtain ⟨later, hmem, hlater⟩ := ih hlater
        refine ⟨front.length + later, List.mem_cons_of_mem _ (List.mem_map_of_mem hmem), ?_⟩
        rw [htokens]
        exact hlater.append front

theorem identified_of_mem_extract {limit : Option Nat} {text : String} {signature : Signature}
    (h : signature ∈ (extract limit text).signatures) : signature.Identified := by
  obtain ⟨place, -, hdeclared⟩ := Extraction.declaredAt_of_mem h
  exact hdeclared.identified

end IndicatorWrap
