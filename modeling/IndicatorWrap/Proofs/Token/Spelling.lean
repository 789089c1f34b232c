import IndicatorWrap.Proofs.Token.Gap
import IndicatorWrap.Proofs.Token.Lexemes

/-!
Texts written on one line out of names and marks. Whatever follows such a text,
scanning gives back the tokens that were written, unless the last of them is a
name and is continued.
-/

namespace IndicatorWrap

open Text

namespace Lexeme

theorem isLayout_of_isIdentStart {c : Char} (h : isIdentStart c) : isLayout c = false := by
  rw [Bool.eq_false_iff]
  intro hlayout
  rw [isLayout_iff, Gap.blanks] at hlayout
  simp only [List.mem_cons, List.not_mem_nil, or_false] at hlayout
  rcases hlayout with rfl | rfl | rfl | rfl | rfl | rfl <;> exact absurd h (by decide)

theorem first_word {c : Char} {rest after : List Char} (hstart : isIdentStart c)
    (hrest : ∀ next ∈ rest, isIdentChar next)
    (hafter : ∀ next ∈ after.head?, isIdentChar next = false) :
    first c (rest ++ after) = ⟨some .ident, c :: rest, after⟩ := by
  have hends : after.takeWhile isIdentChar = [] ∧ after.dropWhile isIdentChar = after := by
    cases after with
    | nil => exact ⟨rfl, rfl⟩
    | cons next after =>
        have hnext := hafter next rfl
        simp [hnext]
  unfold first
  rw [isLayout_of_isIdentStart hstart, if_neg Bool.false_ne_true, if_pos hstart, run,
    List.takeWhile_append_of_pos hrest, List.dropWhile_append_of_pos hrest, hends.1, hends.2,
    List.append_nil]

end Lexeme

namespace Token

/-- Whether a text on a line is written as the tokens. -/
def Written (line : Nat) (text : String) (tokens : List Token) : Prop :=
  ∀ after : List Char, (∀ c ∈ after.head?, Lexeme.isIdentChar c = false) →
    scanFrom line (text.toList ++ after) = tokens ++ scanFrom line after

/-- A text that begins with a mark ends the name in front of it. -/
theorem head_of_mark {mark : String} {c : Char} {rest : List Char}
    (hmark : mark.toList = c :: rest) (hc : Lexeme.isIdentChar c = false) (text : String) :
    ∀ next ∈ (mark ++ text).toList.head?, Lexeme.isIdentChar next = false := by
  simp [hmark, hc]

theorem head_of_join {separator : String} {c : Char} {rest : List Char}
    (hseparator : separator.toList = c :: rest) (hc : Lexeme.isIdentChar c = false)
    (texts : List String) :
    ∀ next ∈ (String.join (texts.map (separator ++ ·))).toList.head?,
      Lexeme.isIdentChar next = false := by
  cases texts with
  | nil => simp
  | cons text texts =>
      rw [List.map_cons, String.join_cons, String.append_assoc]
      exact head_of_mark hseparator hc _

namespace Written

variable {line : Nat} {text text' : String} {tokens tokens' : List Token}

theorem nil : Written line "" [] :=
  fun _ _ => rfl

theorem scan_eq (h : Written 1 text tokens) : scan text = tokens := by
  have htext := h [] (by simp)
  rw [List.append_nil] at htext
  rw [scan, htext, scanFrom, List.append_nil]

theorem word (h : Lexeme.IsIdentifier text.toList) : Written line text [⟨.ident, text, line⟩] := by
  intro after hafter
  have hlines : countLines text.toList = 0 := by
    rw [countLines, List.count_eq_zero]
    intro hfeed
    exact absurd (h.isIdentChar_of_mem _ hfeed) (by decide)
  obtain ⟨c, rest, htext, hstart, hrest⟩ := h
  have hfirst := Lexeme.first_word hstart hrest hafter
  rw [htext] at hlines
  rw [htext, List.cons_append, scanFrom_taken hfirst, hlines, ← htext, String.ofList_toList]
  rfl

theorem append (h : Written line text tokens) (h' : Written line text' tokens')
    (htext' : ∀ c ∈ text'.toList.head?, Lexeme.isIdentChar c = false) :
    Written line (text ++ text') (tokens ++ tokens') := by
  intro after hafter
  have hbehind : ∀ c ∈ (text'.toList ++ after).head?, Lexeme.isIdentChar c = false := by
    cases hempty : text'.toList with
    | nil => exact hafter
    | cons c rest => simpa [hempty] using htext'
  rw [String.toList_append, List.append_assoc, h _ hbehind, h' after hafter, List.append_assoc]

theorem mark {c : Char} (hc : c ∈ ['(', ')', ',', '*']) (h : Written line text tokens) :
    Written line (String.singleton c ++ text)
      (⟨.ofMark c, String.singleton c, line⟩ :: tokens) := by
  intro after hafter
  have hfirst : ∀ rest, Lexeme.first c rest = ⟨some (.ofMark c), [c], rest⟩ := by
    simp only [List.mem_cons, List.not_mem_nil, or_false] at hc
    rcases hc with rfl | rfl | rfl | rfl <;> exact fun _ => rfl
  have hlines : countLines [c] = 0 := by
    simp only [List.mem_cons, List.not_mem_nil, or_false] at hc
    rcases hc with rfl | rfl | rfl | rfl <;> rfl
  have htext : (String.singleton c ++ text).toList = c :: text.toList := by simp
  rw [htext, List.cons_append, scanFrom_taken (hfirst _), hlines, Nat.add_zero, h after hafter]
  rfl

theorem separator (h : Written line text tokens) :
    Written line ("::" ++ text) (⟨.pathSep, "::", line⟩ :: tokens) := by
  intro after hafter
  have htext : ("::" ++ text).toList = ':' :: ':' :: text.toList := by simp
  have hfirst : ∀ rest, Lexeme.first ':' (':' :: rest) = ⟨some .pathSep, [':', ':'], rest⟩ :=
    fun _ => rfl
  rw [htext, List.cons_append, List.cons_append, scanFrom_taken (hfirst _)]
  exact congrArg _ (h after hafter)

theorem blank (h : Written line text tokens) : Written line (" " ++ text) tokens := by
  intro after hafter
  have htext : (" " ++ text).toList = ' ' :: text.toList := by simp
  rw [htext, List.cons_append, scanFrom_blank (by simp [Gap.blanks])]
  exact h after hafter

theorem comma (h : Written line text tokens) :
    Written line (", " ++ text) (⟨.comma, ",", line⟩ :: tokens) := by
  have htext : ", " ++ text = String.singleton ',' ++ (" " ++ text) := by
    simp [← String.toList_inj]
  rw [htext]
  exact h.blank.mark (by decide)

theorem colon (h : Written line text tokens) :
    Written line (": " ++ text) (⟨.colon, ":", line⟩ :: tokens) := by
  intro after hafter
  have htext : (": " ++ text).toList = ':' :: (" " ++ text).toList := by simp
  have hfirst : Lexeme.first ':' ((" " ++ text).toList ++ after) =
      ⟨some .colon, [':'], (" " ++ text).toList ++ after⟩ := by
    simp [Lexeme.first]
    rfl
  rw [htext, List.cons_append, scanFrom_taken hfirst]
  exact congrArg _ (h.blank after hafter)

end Written

end Token

end IndicatorWrap
