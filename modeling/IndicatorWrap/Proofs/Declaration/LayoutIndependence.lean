import IndicatorWrap.Proofs.Declaration.Relocation
import IndicatorWrap.Proofs.Token.Layout

/-!
Layout carries no meaning. However tokens are written out, scanning gives them
back; so two layouts of the same tokens hold the same declarations, and their
extractions differ in lines only.
-/

namespace IndicatorWrap

open Text

/-- An extraction without regard to where its tokens stand. -/
def Extraction.withoutLines (extraction : Extraction) : Extraction :=
  extraction.relocate fun _ => 0

namespace Layout

theorem relocate_placed (line : Nat) (items : List (Token × List Char)) :
    (placed line items).map (Token.relocate fun _ => 0) =
      items.map fun (token, _) => token.relocate fun _ => 0 := by
  induction items generalizing line with
  | nil => rfl
  | cons item items ih =>
      rw [placed, List.map_cons, List.map_cons, ih]
      rfl

theorem relocate_words (layout : Layout) :
    layout.items.map (fun (token, _) => token.relocate fun _ => 0) =
      layout.words.map fun (kind, value) => ⟨kind, value, 0⟩ := by
  rw [words, List.map_map]
  rfl

/-- The tokens of a layout fix its extraction up to lines. -/
theorem extract_withoutLines {layout : Layout} (h : layout.WellFormed) (limit : Option Nat) :
    (extract limit layout.text).withoutLines =
      .ofTokens limit false (layout.words.map fun (kind, value) => ⟨kind, value, 0⟩) := by
  rw [extract, scan_text h, Extraction.withoutLines, ← Extraction.ofTokens_relocate,
    relocate_placed, relocate_words]

/-- Scanning a layout gives back the kinds and values that were written, each on
the line that its place in the layout has, and any other layout of the same
tokens has the same signatures. -/
theorem scan_text_fixes_tokens {layout : Layout} (h : layout.WellFormed) :
    (Token.scan layout.text).length = layout.items.length ∧
    (∀ (index : Nat) (token : Token) gap, layout.items[index]? = some (token, gap) →
      (Token.scan layout.text)[index]? =
        some { token with line := 1 + countLines (layout.before index) }) ∧
    (∀ other : Layout, other.WellFormed → other.words = layout.words → ∀ limit,
      (extract limit other.text).withoutLines = (extract limit layout.text).withoutLines) := by
  refine ⟨?_, ?_, ?_⟩
  · rw [scan_text h, length_placed]
  · intro index token gap hindex
    have hcount : countLines (layout.before index) =
        countLines layout.lead + countLines (written (layout.items.take index)) :=
      List.count_append
    rw [scan_text h, getElem?_placed, hindex, hcount]
    simp only [Option.map_some, Option.some.injEq, Token.mk.injEq, true_and]
    omega
  · intro other hother hwords limit
    rw [extract_withoutLines hother, extract_withoutLines h, hwords]

/-- A declaration among comments and literals that look like each other. -/
def crowded : Layout where
  lead := ['/', '/', '"', '\n']
  items :=
    [(⟨.ident, "pub", 0⟩, ['\t', '\n']),
      (⟨.ident, "fn", 0⟩, ['/', '*', '/', '*', '*', '/', '"', '*', '/']),
      (⟨.ident, "TA_X", 0⟩, ['"', '/', '/', '\\', '\n', '\\', '"', '"']),
      (⟨.openParen, "(", 0⟩, [' ']),
      (⟨.ident, "a", 0⟩, ['/', '/', '\n']),
      (⟨.colon, ":", 0⟩, [' ']),
      (⟨.star, "*", 0⟩, ['/', '*', '*', '/']),
      (⟨.ident, "f64", 0⟩, [' ']),
      (⟨.closeParen, ")", 0⟩, [])]

/-- The same tokens with a blank behind each. -/
def spaced : Layout where
  lead := []
  items := crowded.items.map fun (token, _) => (token, [' '])

theorem alone_crowded : ∀ item ∈ crowded.items, item.1.Alone := by
  intro item hitem
  simp only [crowded, List.mem_cons, List.not_mem_nil, or_false] at hitem
  rcases hitem with rfl | rfl | rfl | rfl | rfl | rfl | rfl | rfl | rfl <;>
    (unfold Token.Alone; decide +kernel)

theorem separator_of_piece {text : List Char} (h : Gap.Piece text) : Gap.Separator text :=
  ⟨[text], by simpa using h, by simp⟩

theorem separator_blank : Gap.Separator [' '] := by
  apply separator_of_piece
  apply Gap.Piece.blanks
  simp [Gap.blanks]

theorem wellFormed_crowded : crowded.WellFormed where
  alone := alone_crowded
  quote := by decide
  slash := by decide
  lead := separator_of_piece (.lineComment ⟨['"'], rfl, by decide⟩)
  gaps := by
    have hnested : Gap.CommentBody ['/', '*', '*', '/', '"', '*', '/'] :=
      .nested Gap.CommentBody.close (.char (by decide) (by decide) .close)
    have hliteral : Gap.StringBody ['/', '/', '\\', '\n', '\\', '"'] :=
      .plain (by decide) (by decide) (by decide) (.plain (by decide) (by decide) (by decide)
        (.escaped (.escaped .nil)))
    intro item hitem
    simp only [crowded, List.mem_cons, List.not_mem_nil, or_false] at hitem
    rcases hitem with rfl | rfl | rfl | rfl | rfl | rfl | rfl | rfl | rfl
    · exact separator_of_piece (.blanks (by simp [Gap.blanks]))
    · exact separator_of_piece (.blockComment ⟨_, rfl, hnested⟩)
    · exact separator_of_piece (.stringLiteral ⟨_, rfl, hliteral⟩)
    · exact separator_blank
    · exact separator_of_piece (.lineComment ⟨[], rfl, List.not_mem_nil⟩)
    · exact separator_blank
    · exact separator_of_piece (.blockComment ⟨_, rfl, .close⟩)
    · exact separator_blank
    · exact separator_of_piece (.blanks (by simp))
  apart := by decide

theorem wellFormed_spaced : spaced.WellFormed where
  alone := by
    intro item hitem
    obtain ⟨original, horiginal, rfl⟩ := List.mem_map.mp hitem
    exact alone_crowded original horiginal
  quote := by decide
  slash := by decide
  lead := ⟨[], by simp, rfl⟩
  gaps := by
    intro item hitem
    obtain ⟨original, -, rfl⟩ := List.mem_map.mp hitem
    exact separator_blank
  apart := by decide

theorem scan_crowded_fixes_tokens :
    crowded.WellFormed ∧ (Token.scan crowded.text).length = 9 ∧
      (Token.scan crowded.text)[7]? = some ⟨.ident, "f64", 5⟩ ∧
      (extract none spaced.text).withoutLines = (extract none crowded.text).withoutLines := by
  obtain ⟨hlength, hplace, hother⟩ := scan_text_fixes_tokens wellFormed_crowded
  refine ⟨wellFormed_crowded, hlength, ?_, hother spaced wellFormed_spaced rfl none⟩
  exact (hplace 7 ⟨.ident, "f64", 0⟩ [' '] rfl).trans (by decide)

end Layout

end IndicatorWrap
