import Mathlib
import IndicatorWrap.Proofs.Parameter.CleanName
import IndicatorWrap.Proofs.Text.Lines

/-!
The words of a text. Texts put together at a character that no word has bring their own words
and no others, and what is made of such characters only stands inside one word or nowhere.
-/

namespace IndicatorWrap.Text

open Lexeme (isIdentChar)

/-- The runs of characters of identifiers, an empty one between two other characters. -/
def words (text : List Char) : List (List Char) :=
  text.splitOnP (!isIdentChar ·)

def wordsOf (text : String) : List String :=
  (words text.toList).map String.ofList

theorem words_append_cons {c : Char} (hc : isIdentChar c = false) (front behind : List Char) :
    words (front ++ c :: behind) = words front ++ words behind :=
  List.splitOnP_append_cons front behind (by simp [hc])

theorem words_cons {c : Char} (hc : isIdentChar c = false) (behind : List Char) :
    words (c :: behind) = [] :: words behind := by
  rw [← List.nil_append (c :: behind), words_append_cons hc]
  rfl

theorem words_of_identChars {text : List Char} (h : IdentChars text) : words text = [text] :=
  List.splitOnP_eq_singleton fun c hc => by simp [h c hc]

/-- Whether no word of what follows goes on with a word of the text. -/
def endsOutside (text : List Char) : Bool :=
  text.getLast?.all (!isIdentChar ·)

/-- Whether no word in front goes on into the text. -/
def beginsOutside (text : List Char) : Bool :=
  text.head?.all (!isIdentChar ·)

theorem words_append_subset {front behind : List Char}
    (h : endsOutside front ∨ beginsOutside behind) :
    words (front ++ behind) ⊆ words front ++ words behind := by
  rcases h with hends | hbegins
  · rcases List.eq_nil_or_concat front with rfl | ⟨front, c, rfl⟩
    · exact List.subset_append_right _ _
    · have hc : isIdentChar c = false := by simpa [endsOutside] using hends
      rw [List.concat_eq_append, List.append_assoc, List.singleton_append, words_append_cons hc,
        words_append_cons hc]
      intro word hword
      simp only [List.mem_append] at hword ⊢
      exact hword.imp_left .inl
  · cases behind with
    | nil =>
        rw [List.append_nil]
        exact List.subset_append_left _ _
    | cons c behind =>
        have hc : isIdentChar c = false := by simpa [beginsOutside] using hbegins
        rw [words_append_cons hc, words_cons hc]
        intro word hword
        simp only [List.mem_append, List.mem_cons] at hword ⊢
        exact hword.imp_right .inr

theorem endsOutside_append {behind : List Char} (hsome : behind ≠ []) (front : List Char) :
    endsOutside (front ++ behind) = endsOutside behind := by
  rw [endsOutside, List.getLast?_append_of_ne_nil front hsome, endsOutside]

theorem beginsOutside_append {front : List Char} (hsome : front ≠ []) (behind : List Char) :
    beginsOutside (front ++ behind) = beginsOutside front := by
  rw [beginsOutside, List.head?_append_of_ne_nil front hsome, beginsOutside]

/-- A text is one word, or its first word ends in front of a character that is in none. -/
theorem words_induction {motive : List Char → Prop} (whole : ∀ text, IdentChars text → motive text)
    (cut : ∀ front c behind, IdentChars front → isIdentChar c = false → motive behind →
      motive (front ++ c :: behind)) (text : List Char) : motive text := by
  have hfront : IdentChars (text.takeWhile isIdentChar) := fun c hc => List.mem_takeWhile_imp hc
  have htext := List.takeWhile_append_dropWhile (p := isIdentChar) (l := text)
  cases hrest : text.dropWhile isIdentChar with
  | nil =>
      rw [hrest, List.append_nil] at htext
      exact whole text (htext ▸ hfront)
  | cons c behind =>
      have hc : isIdentChar c = false := by
        have hhead := List.head?_dropWhile_not isIdentChar text
        simpa [hrest] using hhead
      have hshorter : behind.length < text.length := by
        have hlength := congrArg List.length htext
        rw [hrest, List.length_append, List.length_cons] at hlength
        omega
      rw [hrest] at htext
      rw [← htext]
      exact cut _ c behind hfront hc (words_induction whole cut behind)
termination_by text.length

theorem infix_of_mem_words {text word : List Char} (h : word ∈ words text) : word <:+: text := by
  induction text using words_induction with
  | whole text htext =>
      rw [words_of_identChars htext, List.mem_singleton] at h
      exact h ▸ List.infix_refl _
  | cut front c behind hfront hc ih =>
      rw [words_append_cons hc, words_of_identChars hfront, List.singleton_append,
        List.mem_cons] at h
      rcases h with rfl | hbehind
      · exact (List.prefix_append _ _).isInfix
      · exact ((ih hbehind).trans (List.suffix_cons c behind).isInfix).trans
          (List.suffix_append front _).isInfix

theorem prefix_append_cons {part front behind : List Char} {c : Char} (hc : c ∉ part)
    (h : part <+: front ++ c :: behind) : part <+: front := by
  induction front generalizing part with
  | nil =>
      cases part with
      | nil => exact List.prefix_refl _
      | cons first others =>
          obtain ⟨rfl, -⟩ := List.cons_prefix_cons.mp h
          exact absurd List.mem_cons_self hc
  | cons next front ih =>
      cases part with
      | nil => exact List.nil_prefix
      | cons first others =>
          obtain ⟨rfl, hothers⟩ := List.cons_prefix_cons.mp h
          exact List.cons_prefix_cons.mpr ⟨rfl, ih (List.not_mem_of_not_mem_cons hc) hothers⟩

/-- What a text holds without some character of it stands on one side of that character. -/
theorem infix_append_cons {part front behind : List Char} {c : Char} (hc : c ∉ part)
    (h : part <:+: front ++ c :: behind) : part <:+: front ∨ part <:+: behind := by
  induction front with
  | nil =>
      rcases List.infix_cons_iff.mp h with hprefix | hbehind
      · exact .inl (prefix_append_cons hc hprefix).isInfix
      · exact .inr hbehind
  | cons first others ih =>
      rcases List.infix_cons_iff.mp h with hprefix | hlater
      · exact .inl (prefix_append_cons hc hprefix).isInfix
      · exact (ih hlater).imp_left fun hothers => hothers.trans (List.suffix_cons _ _).isInfix

theorem exists_word_of_infix {part text : List Char} (hpart : IdentChars part)
    (h : part <:+: text) : ∃ word ∈ words text, part <:+: word := by
  induction text using words_induction with
  | whole text htext => exact ⟨text, by simp [words_of_identChars htext], h⟩
  | cut front c behind hfront hc ih =>
      rw [words_append_cons hc]
      rcases infix_append_cons (hpart.not_mem hc) h with hinfront | hinbehind
      · exact ⟨front, by simp [words_of_identChars hfront], hinfront⟩
      · obtain ⟨word, hword, hin⟩ := ih hinbehind
        exact ⟨word, List.mem_append_right _ hword, hin⟩

theorem infix_endLines {line : String} {lines : List String} (h : line ∈ lines) :
    line.toList <:+: (endLines lines).toList := by
  induction lines with
  | nil => cases h
  | cons first lines ih =>
      rw [toList_endLines_cons]
      rcases List.mem_cons.mp h with rfl | hlater
      · exact (List.prefix_append _ _).isInfix
      · exact ((ih hlater).trans (List.suffix_cons '\n' _).isInfix).trans
          (List.suffix_append first.toList _).isInfix

theorem infix_intercalate {part separator : String} {parts : List String} (h : part ∈ parts) :
    part.toList <:+: (separator.intercalate parts).toList := by
  induction parts with
  | nil => cases h
  | cons first parts ih =>
      cases parts with
      | nil => simp [List.mem_singleton.mp h]
      | cons next parts =>
          rw [String.intercalate_cons_cons, String.toList_append, String.toList_append]
          rcases List.mem_cons.mp h with rfl | hlater
          · exact ((List.prefix_append _ _).trans (List.prefix_append _ _)).isInfix
          · exact (ih hlater).trans (List.suffix_append _ _).isInfix

theorem exists_line_of_infix {part : List Char} {lines : List String} (hfeed : '\n' ∉ part)
    (hsome : part ≠ []) (h : part <:+: (endLines lines).toList) :
    ∃ line ∈ lines, part <:+: line.toList := by
  induction lines with
  | nil => exact absurd (List.eq_nil_of_infix_nil h) hsome
  | cons line lines ih =>
      rw [toList_endLines_cons] at h
      rcases infix_append_cons hfeed h with hline | hlater
      · exact ⟨line, List.mem_cons_self, hline⟩
      · obtain ⟨found, hfound, hin⟩ := ih hlater
        exact ⟨found, List.mem_cons_of_mem line hfound, hin⟩

end IndicatorWrap.Text
