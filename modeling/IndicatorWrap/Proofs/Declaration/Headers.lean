import Mathlib.Data.List.Chain
import IndicatorWrap.Proofs.Declaration.Acceptance

/-!
The headers of a token list, wherever they stand. A declaration hides none: two
names stand side by side in it only behind a qualifier, but a header begins with
the names `pub` and `fn`.
-/

namespace IndicatorWrap

/-- Whether the tokens `pub fn NAME (` of an indicator stand at the place. -/
def Signature.headerAt (tokens : List Token) (place : Nat) : Bool :=
  tokens[place]?.any (·.isWord "pub") && tokens[place + 1]?.any (·.isWord "fn") &&
    tokens[place + 2]?.any (fun name => name.kind == .ident && isIndicatorName name.value) &&
    tokens[place + 3]?.any (·.kind == .openParen)

/-- Whether a header stands at the place and does not close at once. -/
def Signature.declaringAt (tokens : List Token) (place : Nat) : Bool :=
  headerAt tokens place && !tokens[place + 4]?.any (·.kind == .closeParen)

/-- The places of the headers of declarations with parameters, in increasing
order. -/
def Signature.headerPlaces (tokens : List Token) : List Nat :=
  (List.range tokens.length).filter (declaringAt tokens)

/-- What may stand side by side in a declaration. -/
def Token.Apart (first second : Token) : Prop :=
  first.kind = .ident → second.kind = .ident → ∃ qualifier : Qualifier, first.isWord qualifier.word

theorem Token.apart_of_left {first second : Token} (h : first.kind ≠ .ident) :
    first.Apart second := by
  intro hfirst _
  exact absurd hfirst h

theorem Token.apart_of_right {first second : Token} (h : second.kind ≠ .ident) :
    first.Apart second := by
  intro _ hsecond
  exact absurd hsecond h

namespace Derives

theorem Segments.head_kind {tokens : List Token} {names : List String}
    (h : Segments tokens names) : ∀ token ∈ tokens.head?, token.kind ≠ .ident := by
  cases h with
  | nil => simp
  | cons hseparator => simp [hseparator]

theorem MoreParameters.head_kind {tokens : List Token} {parameters : List Parameter}
    (h : MoreParameters tokens parameters) : ∀ token ∈ tokens.head?, token.kind ≠ .ident := by
  cases h with
  | nil => simp
  | trailing hcomma => simp [hcomma]
  | cons hcomma => simp [hcomma]

theorem Segments.apart {tokens : List Token} {names : List String} (h : Segments tokens names) :
    tokens.IsChain Token.Apart := by
  induction h with
  | nil => exact .nil
  | cons hseparator _ hmore ih =>
      refine .cons_cons (Token.apart_of_left (by simp [hseparator])) (ih.cons ?_)
      intro next hnext
      exact Token.apart_of_right (hmore.head_kind next hnext)

theorem Path.apart {tokens : List Token} {text : String} (h : Path tokens text) :
    tokens.IsChain Token.Apart := by
  cases h with
  | plain _ hmore =>
      apply hmore.apart.cons
      intro next hnext
      exact Token.apart_of_right (hmore.head_kind next hnext)
  | rooted hseparator _ hmore =>
      refine .cons_cons (Token.apart_of_left (by simp [hseparator])) (hmore.apart.cons ?_)
      intro next hnext
      exact Token.apart_of_right (hmore.head_kind next hnext)

theorem RawType.apart {tokens : List Token} {text : String} (h : RawType tokens text) :
    tokens.IsChain Token.Apart := by
  induction h with
  | path hpath => exact hpath.apart
  | @qualified star word qualifier tokens text hstar hword htarget ih =>
      refine .cons_cons (Token.apart_of_left (by simp [hstar])) (ih.cons ?_)
      intro _ _ _ _
      exact ⟨qualifier, hword⟩
  | bare hstar hword htarget ih =>
      apply ih.cons
      intro _ _
      exact Token.apart_of_left (by simp [hstar])

theorem OneParameter.apart {tokens : List Token} {parameter : Parameter}
    (h : OneParameter tokens parameter) : tokens.IsChain Token.Apart := by
  obtain ⟨hname, hcolon, htype⟩ := h
  refine .cons_cons (Token.apart_of_right (by simp [hcolon])) (htype.apart.cons ?_)
  intro _ _
  exact Token.apart_of_left (by simp [hcolon])

theorem MoreParameters.apart {tokens : List Token} {parameters : List Parameter}
    (h : MoreParameters tokens parameters) : tokens.IsChain Token.Apart := by
  induction h with
  | nil => exact .nil
  | trailing => exact .singleton _
  | cons hcomma hfirst hmore ih =>
      have hboth := hfirst.apart.append ih fun _ _ next hnext =>
        Token.apart_of_right (hmore.head_kind next hnext)
      apply hboth.cons
      intro _ _
      exact Token.apart_of_left (by simp [hcomma])

theorem Parameters.apart {tokens : List Token} {parameters : List Parameter}
    (h : Parameters tokens parameters) : tokens.IsChain Token.Apart := by
  cases h with
  | none => exact .nil
  | some hfirst hmore =>
      apply hfirst.apart.append hmore.apart
      intro _ _ next hnext
      exact Token.apart_of_right (hmore.head_kind next hnext)

theorem Declaration.apart {tokens : List Token} {signature : Signature}
    (h : Declaration tokens signature) : tokens.IsChain Token.Apart := by
  obtain @⟨name, paren, close, inner, parameters, hname, hparen, hparameters, hclose⟩ := h
  have hclosed : (inner ++ [close]).IsChain Token.Apart := by
    refine hparameters.apart.append (.singleton close) ?_
    rintro _ _ next ⟨⟩
    exact Token.apart_of_right (by simp [hclose])
  refine .cons_cons (Token.apart_of_right (by simp [hparen])) (hclosed.cons ?_)
  intro _ _
  exact Token.apart_of_left (by simp [hparen])

theorem Declaration.getLast?_kind {tokens : List Token} {signature : Signature}
    (h : Declaration tokens signature) :
    ∀ token ∈ tokens[tokens.length - 1]?, token.kind = .closeParen := by
  obtain ⟨hname, hparen, hparameters, hclose⟩ := h
  simp [hclose]

/-- The words that begin a header do not stand side by side in a declaration. -/
theorem Declaration.not_words {tokens : List Token} {signature : Signature}
    (h : Declaration tokens signature) {index : Nat} {visibility keyword : Token}
    (hvisibility : tokens[index]? = some visibility) (hkeyword : tokens[index + 1]? = some keyword)
    (hpub : visibility.isWord "pub") : ¬keyword.isWord "fn" := by
  intro hfn
  obtain ⟨hfirst, rfl⟩ := List.getElem?_eq_some_iff.mp hvisibility
  obtain ⟨hsecond, rfl⟩ := List.getElem?_eq_some_iff.mp hkeyword
  obtain ⟨hkind, hvalue⟩ := Token.isWord_iff.mp hpub
  obtain ⟨qualifier, hqualifier⟩ :=
    h.apart.getElem index hsecond hkind (Token.isWord_iff.mp hfn).1
  have hword := hvalue.symm.trans (Token.isWord_iff.mp hqualifier).2
  cases qualifier with
  | const => exact absurd hword (by decide)
  | «mut» => exact absurd hword (by decide)

end Derives

namespace Signature

theorem headerAt_words {tokens : List Token} {place : Nat} (h : headerAt tokens place) :
    ∃ visibility keyword, tokens[place]? = some visibility ∧ tokens[place + 1]? = some keyword ∧
      visibility.isWord "pub" ∧ keyword.isWord "fn" := by
  simp only [headerAt, Bool.and_eq_true, Option.any_eq_true] at h
  obtain ⟨⟨⟨⟨visibility, hvisibility, hpub⟩, ⟨keyword, hkeyword, hfn⟩⟩, -⟩, -⟩ := h
  exact ⟨visibility, keyword, hvisibility, hkeyword, hpub, hfn⟩

/-- Headers do not overlap in their first two tokens. -/
theorem not_headerAt_succ {tokens : List Token} {place : Nat} (h : headerAt tokens place) :
    ¬headerAt tokens (place + 1) := by
  intro hnext
  obtain ⟨-, keyword, -, hkeyword, -, hfn⟩ := headerAt_words h
  obtain ⟨visibility, -, hvisibility, -, hpub, -⟩ := headerAt_words hnext
  cases hkeyword.symm.trans hvisibility
  have hword := (Token.isWord_iff.mp hfn).2.symm.trans (Token.isWord_iff.mp hpub).2
  exact absurd hword (by decide)

/-- No header begins inside a declaration. -/
theorem not_headerAt_of_derives {tokens front taken rest : List Token} {signature : Signature}
    (htokens : tokens = front ++ (taken ++ rest)) (h : Derives.Declaration taken signature)
    {place : Nat} (hstart : front.length ≤ place) (hend : place < front.length + taken.length) :
    ¬headerAt tokens place := by
  intro hheader
  obtain ⟨visibility, keyword, hvisibility, hkeyword, hpub, hfn⟩ := headerAt_words hheader
  obtain ⟨index, rfl⟩ := Nat.exists_eq_add_of_le hstart
  have hindex : index < taken.length := by omega
  have hin : taken[index]? = some visibility := by
    rw [htokens, List.getElem?_append_right (by omega), Nat.add_sub_cancel_left,
      List.getElem?_append_left hindex] at hvisibility
    exact hvisibility
  by_cases hlast : index + 1 < taken.length
  · have hnext : taken[index + 1]? = some keyword := by
      rw [htokens, Nat.add_assoc, List.getElem?_append_right (by omega), Nat.add_sub_cancel_left,
        List.getElem?_append_left hlast] at hkeyword
      exact hkeyword
    exact h.not_words hin hnext hpub hfn
  · have hclose : index = taken.length - 1 := by omega
    have hkind := h.getLast?_kind visibility (hclose ▸ hin)
    exact absurd ((Token.isWord_iff.mp hpub).1.symm.trans hkind) (by decide)

/-- A header that begins behind a front part does not depend on it. -/
theorem headerPlaces_append (front rest : List Token) :
    headerPlaces (front ++ rest) =
      (List.range front.length).filter (declaringAt (front ++ rest)) ++
        (headerPlaces rest).map (front.length + ·) := by
  have hrest : declaringAt (front ++ rest) ∘ (front.length + ·) = declaringAt rest := by
    funext place
    simp only [Function.comp, declaringAt, headerAt, Nat.add_assoc, List.getElem?_append_right,
      Nat.le_add_right, Nat.add_sub_cancel_left]
  rw [headerPlaces, List.length_append, List.range_add, List.filter_append, List.filter_map, hrest,
    headerPlaces]

theorem headerPlaces_of_passed {front rest : List Token}
    (h : ∀ place < front.length, ¬declaringAt (front ++ rest) place) :
    headerPlaces (front ++ rest) = (headerPlaces rest).map (front.length + ·) := by
  have hfront : (List.range front.length).filter (declaringAt (front ++ rest)) = [] := by
    rw [List.filter_eq_nil_iff]
    intro place hplace
    exact h place (List.mem_range.mp hplace)
  rw [headerPlaces_append, hfront, List.nil_append]

theorem headerPlaces_of_found {front rest : List Token} (hpos : 0 < front.length)
    (hfirst : declaringAt (front ++ rest) 0)
    (h : ∀ place < front.length, 0 < place → ¬declaringAt (front ++ rest) place) :
    headerPlaces (front ++ rest) = 0 :: (headerPlaces rest).map (front.length + ·) := by
  have hfront : (List.range front.length).filter (declaringAt (front ++ rest)) = [0] := by
    obtain ⟨length, hlength⟩ := Nat.exists_eq_succ_of_ne_zero (Nat.ne_of_gt hpos)
    rw [hlength, List.range_succ_eq_map, List.filter_cons_of_pos hfirst]
    congr 1
    rw [List.filter_eq_nil_iff]
    intro place hplace
    obtain ⟨previous, hprevious, rfl⟩ := List.mem_map.mp hplace
    have hbound := List.mem_range.mp hprevious
    exact h previous.succ (by omega) (Nat.succ_pos previous)
  rw [headerPlaces_append, hfront, List.singleton_append]

end Signature

end IndicatorWrap
