import IndicatorWrap.Proofs.Text.Cutting
import IndicatorWrap.Text.Lines
import IndicatorWrap.Text.Numeral

/-!
Reading the lines of a text back: lines without line feeds of their own, each
ended by one, are the lines of the text that they make.
-/

namespace IndicatorWrap.Text

/-- The text cut behind every line feed, without the line feeds. -/
def splitLines : List Char → List (List Char)
  | [] => []
  | c :: rest =>
    if c = '\n' then
      [] :: splitLines rest
    else
      match splitLines rest with
      | [] => [[c]]
      | line :: lines => (c :: line) :: lines

def linesOf (text : String) : List String :=
  (splitLines text.toList).map String.ofList

/-- Whether a text has no line feed. -/
def OneLine (text : String) : Prop :=
  '\n' ∉ text.toList

instance (text : String) : Decidable (OneLine text) :=
  inferInstanceAs (Decidable ('\n' ∉ text.toList))

theorem oneLine_append_iff {front back : String} :
    OneLine (front ++ back) ↔ OneLine front ∧ OneLine back := by
  simp [OneLine]

theorem splitLines_line {line : List Char} (h : '\n' ∉ line) (rest : List Char) :
    splitLines (line ++ '\n' :: rest) = line :: splitLines rest := by
  induction line with
  | nil => simp [splitLines]
  | cons c line ih =>
      have hc : c ≠ '\n' := fun heq => h (heq ▸ List.mem_cons_self)
      have hline : '\n' ∉ line := fun hmem => h (List.mem_cons_of_mem c hmem)
      simp [splitLines, hc, ih hline]

theorem toList_endLines_cons (line : String) (lines : List String) :
    (endLines (line :: lines)).toList = line.toList ++ '\n' :: (endLines lines).toList := by
  simp [endLines, String.join_cons]

theorem linesOf_endLines {lines : List String} (h : ∀ line ∈ lines, OneLine line) :
    linesOf (endLines lines) = lines := by
  induction lines with
  | nil => rfl
  | cons line lines ih =>
      have hmore := ih fun next hnext => h next (List.mem_cons_of_mem line hnext)
      rw [linesOf, toList_endLines_cons, splitLines_line (h line List.mem_cons_self), List.map_cons,
        String.ofList_toList]
      exact congrArg (line :: ·) hmore

theorem OneLine.intercalate {separator : String} {texts : List String}
    (hseparator : OneLine separator) (h : ∀ text ∈ texts, OneLine text) :
    OneLine (separator.intercalate texts) :=
  not_mem_intercalate hseparator h

/-- Cut at every line feed, the text has an empty piece behind the last one. -/
theorem splitOn_endLines {lines : List String} (h : ∀ line ∈ lines, OneLine line) :
    (endLines lines).toList.splitOn '\n' = lines.map String.toList ++ [[]] := by
  induction lines with
  | nil => rfl
  | cons line lines ih =>
      have hmore := ih fun next hnext => h next (List.mem_cons_of_mem line hnext)
      rw [toList_endLines_cons, List.splitOn_append_cons_self_of_not_mem (h line List.mem_cons_self),
        hmore]
      rfl

theorem digit_ne_lineFeed (n : Nat) : digit n ≠ '\n' := by
  have hdigits : ∀ k < 10, Char.ofNat (48 + k) ≠ '\n' := by decide
  exact hdigits (n % 10) (Nat.mod_lt n (by omega))

theorem oneLine_decimal (n : Int) : OneLine (decimal n) := by
  have hdigits : ∀ n : Nat, '\n' ∉ digits n := by
    intro n
    fun_induction digits n with
    | case1 n h => simp [(digit_ne_lineFeed n).symm]
    | case2 n h ih => simp [ih, (digit_ne_lineFeed n).symm]
  rw [OneLine, decimal, String.toList_ofList, signed]
  split
  · simp [hdigits]
  · exact hdigits _

end IndicatorWrap.Text
