/-!
Block comments. They nest, so each opening delimiter needs a closing one of its
own; delimiters do not overlap, and a comment that is never closed runs to the
end of the text.
-/

namespace IndicatorWrap.Comment

/-- Splits a text after the first delimiter that leaves no comment open, where
`depth` counts the comments open before the text. A stray closing delimiter
counts against the openings that follow it. -/
def split (depth : Int) : List Char → List Char × List Char
  | '/' :: '*' :: rest =>
    if depth + 1 = 0 then
      (['/', '*'], rest)
    else
      let (comment, after) := split (depth + 1) rest
      ('/' :: '*' :: comment, after)
  | '*' :: '/' :: rest =>
    if depth - 1 = 0 then
      (['*', '/'], rest)
    else
      let (comment, after) := split (depth - 1) rest
      ('*' :: '/' :: comment, after)
  | c :: rest =>
    let (comment, after) := split depth rest
    (c :: comment, after)
  | [] => ([], [])

theorem split_append (depth : Int) (text : List Char) :
    (split depth text).1 ++ (split depth text).2 = text := by
  fun_induction split depth text <;> simp_all

theorem split_cons_ne_nil (depth : Int) (c : Char) (text : List Char) :
    (split depth (c :: text)).1 ≠ [] := by
  unfold split
  split <;> try split
  all_goals simp_all

/-- The place just past the comment that opens at `start`. -/
def endFrom (text : String) (start : Nat) : Nat :=
  text.length - (split 0 (text.toList.drop start)).2.length

end IndicatorWrap.Comment
