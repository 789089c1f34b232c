import IndicatorWrap.Proofs.Token.Lossless

/-!
The end of a block comment. Where a comment opens, the text from there on begins with one whole
comment at most. If it does, the comment ends there; otherwise it runs to the end of the text.
-/

namespace IndicatorWrap.Comment

open Gap

/-- A whole comment in front of a text is what is split off. -/
theorem split_of_prefix {comment text : List Char} (h : comment <+: text)
    (hcomment : BlockComment comment) : (split 0 text).1 = comment := by
  obtain ⟨after, rfl⟩ := h
  rw [split_comment hcomment]

/-- A comment ends behind what is split off from where it opens. -/
theorem endFrom_eq {text : String} {start : Nat} (h : start ≤ text.length) :
    endFrom text start = start + (split 0 (text.toList.drop start)).1.length := by
  have hwhole := congrArg List.length (split_append 0 (text.toList.drop start))
  rw [List.length_append, List.length_drop, String.length_toList] at hwhole
  rw [endFrom]
  omega

/-- A comment ends where the comment that opens at its start is whole, in one way only, and at the
end of the text if it is never whole. Its opening delimiter belongs to it in any case. -/
theorem endFrom_of_opening {text : String} {start : Nat}
    (h : ['/', '*'] <+: text.toList.drop start) :
    (∀ comment, comment <+: text.toList.drop start → BlockComment comment →
      (∀ other, other <+: text.toList.drop start → BlockComment other → other = comment) ∧
        endFrom text start = start + comment.length) ∧
    ((∀ comment, comment <+: text.toList.drop start → ¬BlockComment comment) →
      endFrom text start = text.length) ∧
    start + 2 ≤ endFrom text start ∧ endFrom text start ≤ text.length := by
  obtain ⟨body, hbody⟩ : ∃ body, '/' :: '*' :: body = text.toList.drop start := h
  have hstart : start ≤ text.length := by
    have hlength := congrArg List.length hbody
    rw [List.length_drop, String.length_toList, List.length_cons] at hlength
    omega
  have hend := endFrom_eq hstart
  rw [← hbody] at hend ⊢
  refine ⟨fun comment hfront hcomment => ⟨fun other hother hwhole => ?_, ?_⟩, fun hnone => ?_,
    ?_, Nat.sub_le _ _⟩
  · rw [← split_of_prefix hother hwhole, split_of_prefix hfront hcomment]
  · rw [hend, split_of_prefix hfront hcomment]
  · -- had the comment closed, what is split off would be whole
    rcases blockComment_or_end body with hcomment | hrest
    · exact absurd hcomment (hnone _ ⟨_, split_append 0 _⟩)
    · rw [endFrom, ← hbody, hrest]
      rfl
  · rw [hend, split_opening]
    simp only [List.length_cons]
    omega

/-- A comment with another one inside, between delimiters that would overlap. -/
def crossed : String :=
  "f/*/ /**/ **/*/;"

/-- A comment that lacks one of its closing delimiters. -/
def unclosed : String :=
  "f/*/ /* */"

theorem blockComment_crossed : BlockComment "/*/ /**/ **/".toList := by
  have htail : CommentBody [' ', '*', '*', '/'] :=
    .char (by decide) (by decide) (.char (by decide) (by decide) .close)
  have hnested : CommentBody ('/' :: '*' :: (['*', '/'] ++ [' ', '*', '*', '/'])) :=
    .nested .close htail
  exact ⟨_, rfl, .char (by decide) (by decide) (.char (by decide) (by decide) hnested)⟩

/-- Nothing in front of a text is a whole comment if one more character would be split off with
all of the text. -/
theorem not_blockComment_of_split {text comment : List Char} {c : Char}
    (h : (split 0 (text ++ [c])).1 = text ++ [c]) (hfront : comment <+: text) :
    ¬BlockComment comment := by
  intro hcomment
  have hall := split_of_prefix (hfront.trans (List.prefix_append text [c])) hcomment
  have hlength := hfront.length_le
  rw [← hall, h, List.length_append, List.length_singleton] at hlength
  omega

theorem crossed_unclosed_end :
    (['/', '*'] <+: crossed.toList.drop 1 ∧
      "/*/ /**/ **/".toList <+: crossed.toList.drop 1 ∧
      BlockComment "/*/ /**/ **/".toList ∧ endFrom crossed 1 = 13) ∧
    ['/', '*'] <+: unclosed.toList.drop 1 ∧
      (∀ comment, comment <+: unclosed.toList.drop 1 → ¬BlockComment comment) ∧
      endFrom unclosed 1 = unclosed.length := by
  have hcrossed : ['/', '*'] <+: crossed.toList.drop 1 := by decide
  have hfront : "/*/ /**/ **/".toList <+: crossed.toList.drop 1 := by decide
  have hunclosed : ['/', '*'] <+: unclosed.toList.drop 1 := by decide
  have hnone : ∀ comment, comment <+: unclosed.toList.drop 1 → ¬BlockComment comment :=
    fun comment => not_blockComment_of_split (c := 'x') (by decide)
  exact ⟨⟨hcrossed, hfront, blockComment_crossed,
      ((endFrom_of_opening hcrossed).1 _ hfront blockComment_crossed).2⟩,
    hunclosed, hnone, (endFrom_of_opening hunclosed).2.1 hnone⟩

end IndicatorWrap.Comment
