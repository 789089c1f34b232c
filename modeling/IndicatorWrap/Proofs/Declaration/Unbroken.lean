import IndicatorWrap.Proofs.Declaration.Coverage
import IndicatorWrap.Proofs.Declaration.Faults

/-!
No declaration goes on over a semicolon. Every derivation is free of them, so that the reading
of a header or a declaration in front of one does not depend on what stands behind it.
-/

namespace IndicatorWrap

namespace Derives

/-- No derivation takes a semicolon. -/
def Unbroken (tokens : List Token) : Prop :=
  ∀ token ∈ tokens, token.kind ≠ .semicolon

theorem unbroken_cons {token : Token} {tokens : List Token} (h : token.kind ≠ .semicolon)
    (hmore : Unbroken tokens) : Unbroken (token :: tokens) :=
  List.forall_mem_cons.mpr ⟨h, hmore⟩

theorem unbroken_append {first more : List Token} (hfirst : Unbroken first)
    (hmore : Unbroken more) : Unbroken (first ++ more) :=
  List.forall_mem_append.mpr ⟨hfirst, hmore⟩

theorem unbroken_nil : Unbroken [] :=
  fun _ h => absurd h List.not_mem_nil

theorem Segments.unbroken {tokens : List Token} {names : List String} (h : Segments tokens names) :
    Unbroken tokens := by
  induction h with
  | nil => exact unbroken_nil
  | cons hseparator hname _ ih =>
      exact unbroken_cons (by simp [hseparator]) (unbroken_cons (by simp [hname]) ih)

theorem Path.unbroken {tokens : List Token} {text : String} (h : Path tokens text) :
    Unbroken tokens := by
  cases h with
  | plain hname hmore => exact unbroken_cons (by simp [hname]) hmore.unbroken
  | rooted hseparator hname hmore =>
      exact unbroken_cons (by simp [hseparator]) (unbroken_cons (by simp [hname]) hmore.unbroken)

theorem RawType.unbroken {tokens : List Token} {text : String} (h : RawType tokens text) :
    Unbroken tokens := by
  induction h with
  | path hpath => exact hpath.unbroken
  | qualified hstar hword _ ih =>
      have hkind := (Token.isWord_iff.mp hword).1
      exact unbroken_cons (by simp [hstar]) (unbroken_cons (by simp [hkind]) ih)
  | bare hstar _ _ ih => exact unbroken_cons (by simp [hstar]) ih

theorem OneParameter.unbroken {tokens : List Token} {parameter : Parameter}
    (h : OneParameter tokens parameter) : Unbroken tokens := by
  obtain ⟨hname, hcolon, htype⟩ := h
  exact unbroken_cons (by simp [hname]) (unbroken_cons (by simp [hcolon]) htype.unbroken)

theorem MoreParameters.unbroken {tokens : List Token} {parameters : List Parameter}
    (h : MoreParameters tokens parameters) : Unbroken tokens := by
  induction h with
  | nil => exact unbroken_nil
  | trailing hcomma => exact unbroken_cons (by simp [hcomma]) unbroken_nil
  | cons hcomma hfirst _ ih =>
      exact unbroken_cons (by simp [hcomma]) (unbroken_append hfirst.unbroken ih)

theorem Parameters.unbroken {tokens : List Token} {parameters : List Parameter}
    (h : Parameters tokens parameters) : Unbroken tokens := by
  cases h with
  | none => exact unbroken_nil
  | some hfirst hmore => exact unbroken_append hfirst.unbroken hmore.unbroken

theorem Declaration.unbroken {tokens : List Token} {signature : Signature}
    (h : Declaration tokens signature) : Unbroken tokens := by
  obtain ⟨hname, hparen, hparameters, hclose⟩ := h
  refine unbroken_cons (by simp [hname]) (unbroken_cons (by simp [hparen]) ?_)
  exact unbroken_append hparameters.unbroken (unbroken_cons (by simp [hclose]) unbroken_nil)

/-- Tokens that are taken in front of a semicolon leave it and what follows it. -/
theorem Unbroken.exists_rest {tokens taken rest : List Token} {semicolon : Token}
    (h : Unbroken taken) (hkind : semicolon.kind = .semicolon)
    (heq : tokens ++ [semicolon] = taken ++ rest) :
    ∃ more, rest = more ++ [semicolon] ∧ tokens = taken ++ more := by
  rcases List.eq_nil_or_concat rest with rfl | ⟨more, last, rfl⟩
  · have hmem : semicolon ∈ taken := by
      rw [← List.append_nil taken, ← heq]
      simp
    exact absurd hkind (h semicolon hmem)
  · rw [List.concat_eq_append, ← List.append_assoc] at heq
    obtain ⟨htokens, hlast⟩ := List.append_singleton_inj.mp heq
    exact ⟨more, by rw [List.concat_eq_append, hlast], htokens⟩

end Derives

variable {semicolon : Token}

namespace Signature

theorem headerAt_kinds {tokens : List Token} {place : Nat} (h : headerAt tokens place) :
    ∀ token ∈ tokens[place]?.toList ++ tokens[place + 1]?.toList ++ tokens[place + 2]?.toList ++
      tokens[place + 3]?.toList, token.kind ≠ .semicolon := by
  simp only [headerAt, Bool.and_eq_true, Option.any_eq_true, beq_iff_eq] at h
  obtain ⟨⟨⟨⟨visibility, hvisibility, hpub⟩, keyword, hkeyword, hfn⟩, name, hname, hident, -⟩,
    paren, hparen, hopen⟩ := h
  have hpub := (Token.isWord_iff.mp hpub).1
  have hfn := (Token.isWord_iff.mp hfn).1
  simp [hvisibility, hkeyword, hname, hparen, hpub, hfn, hident, hopen]

/-- There is no semicolon in a header. -/
theorem header?_of_semicolon (hkind : semicolon.kind = .semicolon) {front : List Token}
    (hshort : front.length < 4) (back : List Token) :
    header? (front ++ semicolon :: back) = none := by
  cases hheader : header? (front ++ semicolon :: back) with
  | none => rfl
  | some found =>
      obtain ⟨-, hat, -⟩ := header?_eq_some hheader
      refine absurd hkind (headerAt_kinds hat semicolon ?_)
      match front, hshort with
      | [], _ => simp
      | [_], _ => simp
      | [_, _], _ => simp
      | [_, _, _], _ => simp

/-- Whether a header begins does not depend on what stands behind a semicolon. -/
theorem header?_seam (hkind : semicolon.kind = .semicolon) (tokens : List Token) :
    (∀ back, header? (tokens ++ semicolon :: back) = none) ∨
      ∃ name more, ∀ back,
        header? (tokens ++ semicolon :: back) = some (name, more ++ semicolon :: back) := by
  by_cases hshort : tokens.length < 4
  · exact .inl fun back => header?_of_semicolon hkind hshort back
  · obtain ⟨visibility, keyword, name, paren, rest, rfl⟩ :
        ∃ visibility keyword name paren rest,
          tokens = visibility :: keyword :: name :: paren :: rest := by
      match tokens, hshort with
      | _ :: _ :: _ :: _ :: _, _ => exact ⟨_, _, _, _, _, rfl⟩
      | [], h | [_], h | [_, _], h | [_, _, _], h => simp at h
    simp only [List.cons_append, header?]
    split
    · exact .inr ⟨name, paren :: rest, fun back => rfl⟩
    · exact .inl fun back => rfl

/-- Nor does the reading of a declaration. -/
theorem readAfter_seam (hkind : semicolon.kind = .semicolon) {name : Token}
    (hname : name.kind = .ident) (tokens : List Token) :
    (∃ signature more, ∀ back,
        readAfter name (tokens ++ semicolon :: back) = .done signature (more ++ semicolon :: back)) ∨
      ∃ expected more, ∀ back,
        readAfter name (tokens ++ semicolon :: back) =
          .stuck expected (more ++ semicolon :: back) := by
  cases hread : readAfter name (tokens ++ [semicolon]) with
  | done signature rest =>
      obtain ⟨taken, htaken, hderives⟩ := readAfter_sound hname hread
      have hunbroken : Derives.Unbroken taken := (List.forall_mem_cons.mp hderives.unbroken).2
      obtain ⟨more, rfl, rfl⟩ := hunbroken.exists_rest hkind htaken
      refine .inl ⟨signature, more, fun back => ?_⟩
      rw [List.append_assoc]
      exact readAfter_complete hderives _
  | stuck expected rest =>
      obtain ⟨taken, htaken, hhalts⟩ := readAfter_prompt hname _ _ _ hread
      obtain ⟨next, after, -, signature, hderives⟩ := hhalts.viable
      have hunbroken : Derives.Unbroken taken := by
        intro token htoken
        exact hderives.unbroken token (List.mem_cons_of_mem _ (List.mem_append_left _ htoken))
      obtain ⟨more, rfl, rfl⟩ := hunbroken.exists_rest hkind htaken
      refine .inr ⟨expected, more, fun back => ?_⟩
      rw [List.append_assoc]
      refine hhalts.stuck _ ?_
      cases more with
      | nil => rfl
      | cons first more => rfl

end Signature

end IndicatorWrap
