import Mathlib.Data.List.Basic

/-!
Cutting a text at a separator: at the first one, or at all of them from left to right.
Texts without the first character of the separator are the pieces again of what they
are joined to.
-/

namespace IndicatorWrap.Text

/-- The text in front of the first separator and the text behind it. -/
def cut? (separator : List Char) : List Char → Option (List Char × List Char)
  | [] => (separator.isPrefixOf? []).map fun behind => ([], behind)
  | c :: rest =>
    match separator.isPrefixOf? (c :: rest) with
    | some behind => some ([], behind)
    | none => (cut? separator rest).map fun (front, behind) => (c :: front, behind)

/-- The pieces of a text between separators. -/
def splitAll (separator text : List Char) : List (List Char) :=
  match cut? separator text with
  | none => [text]
  | some (front, behind) =>
    if behind.length < text.length then front :: splitAll separator behind else [text]
termination_by text.length

section

variable {first : Char} {others : List Char}

theorem cut?_of_not_mem {text : List Char} (h : first ∉ text) :
    cut? (first :: others) text = none := by
  induction text with
  | nil => rfl
  | cons c rest ih =>
      obtain ⟨hc, hrest⟩ := List.ne_and_not_mem_of_not_mem_cons h
      have hother : (first :: others).isPrefixOf? (c :: rest) = none := by
        simp [List.isPrefixOf?, hc]
      rw [cut?, hother, ih hrest]
      rfl

theorem cut?_append {front : List Char} (h : first ∉ front) (behind : List Char) :
    cut? (first :: others) (front ++ (first :: others ++ behind)) = some (front, behind) := by
  induction front with
  | nil =>
      have hprefix : (first :: others).isPrefixOf? (first :: (others ++ behind)) = some behind :=
        List.isPrefixOf?_eq_some_iff_append_eq.mpr rfl
      rw [List.nil_append, List.cons_append, cut?, hprefix]
  | cons c front ih =>
      obtain ⟨hc, hfront⟩ := List.ne_and_not_mem_of_not_mem_cons h
      have hother : (first :: others).isPrefixOf?
          (c :: (front ++ (first :: others ++ behind))) = none := by
        simp [List.isPrefixOf?, hc]
      rw [List.cons_append, cut?, hother, ih hfront]
      rfl

theorem splitAll_of_not_mem {text : List Char} (h : first ∉ text) :
    splitAll (first :: others) text = [text] := by
  rw [splitAll, cut?_of_not_mem h]

theorem splitAll_append {front : List Char} (h : first ∉ front) (behind : List Char) :
    splitAll (first :: others) (front ++ (first :: others ++ behind)) =
      front :: splitAll (first :: others) behind := by
  have hshorter : behind.length < (front ++ (first :: others ++ behind)).length := by
    simp only [List.length_append, List.length_cons]
    omega
  rw [splitAll, cut?_append h]
  exact if_pos hshorter

/-- Joined texts are told apart again. -/
theorem splitAll_intercalate {separator : String} (hseparator : separator.toList = first :: others)
    {parts : List String} (hsome : parts ≠ []) (h : ∀ part ∈ parts, first ∉ part.toList) :
    splitAll (first :: others) (separator.intercalate parts).toList =
      parts.map String.toList := by
  induction parts with
  | nil => exact absurd rfl hsome
  | cons part parts ih =>
      obtain ⟨hpart, hparts⟩ := List.forall_mem_cons.mp h
      cases parts with
      | nil => simpa using splitAll_of_not_mem hpart
      | cons next parts =>
          rw [String.intercalate_cons_cons, String.append_assoc, String.toList_append,
            String.toList_append, hseparator, splitAll_append hpart,
            ih (List.cons_ne_nil _ _) hparts]
          rfl

end

theorem not_mem_intercalate {c : Char} {separator : String} (hseparator : c ∉ separator.toList)
    {parts : List String} (h : ∀ part ∈ parts, c ∉ part.toList) :
    c ∉ (separator.intercalate parts).toList := by
  induction parts with
  | nil => simp
  | cons part parts ih =>
      obtain ⟨hpart, hparts⟩ := List.forall_mem_cons.mp h
      cases parts with
      | nil => simpa using hpart
      | cons next parts =>
          rw [String.intercalate_cons_cons, String.toList_append, String.toList_append,
            List.mem_append, List.mem_append, not_or, not_or]
          exact ⟨⟨hpart, hseparator⟩, ih hparts⟩

end IndicatorWrap.Text
