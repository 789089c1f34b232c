import IndicatorWrap.Proofs.Token.Lexemes

/-!
What may stand between tokens: white space, line comments, nested block comments
and string literals. Each is described by a grammar of its own; scanning skips
it to its end, whatever follows, and counts the lines that end in it.
-/

namespace IndicatorWrap

open Text

/-- The six blanks of ASCII. -/
def Gap.blanks : List Char :=
  [' ', '\t', '\r', '\n', '\x0c', '\x0b']

/-- A line comment without the line feed that ends it. -/
def Gap.LineComment (text : List Char) : Prop :=
  ∃ body, text = '/' :: '/' :: body ∧ '\n' ∉ body

/-- The inside of a block comment and its closing delimiter. A character that
begins a delimiter is no character of the comment. -/
inductive Gap.CommentBody : List Char → Prop where
  | close : CommentBody ['*', '/']
  | char {c : Char} {tail : List Char} (hopen : ¬(c = '/' ∧ tail.head? = some '*'))
      (hclose : ¬(c = '*' ∧ tail.head? = some '/')) (htail : CommentBody tail) :
      CommentBody (c :: tail)
  | nested {inner tail : List Char} (hinner : CommentBody inner) (htail : CommentBody tail) :
      CommentBody ('/' :: '*' :: (inner ++ tail))

/-- A block comment in which every opening delimiter has its closing one. -/
def Gap.BlockComment (text : List Char) : Prop :=
  ∃ body, text = '/' :: '*' :: body ∧ CommentBody body

/-- The inside of a string literal: escaped characters, line feeds among them,
and others that are no quote, backslash or line feed. -/
inductive Gap.StringBody : List Char → Prop where
  | nil : StringBody []
  | escaped {c : Char} {tail : List Char} (htail : StringBody tail) :
      StringBody ('\\' :: c :: tail)
  | plain {c : Char} {tail : List Char} (hquote : c ≠ '"') (hbackslash : c ≠ '\\')
      (hfeed : c ≠ '\n') (htail : StringBody tail) : StringBody (c :: tail)

def Gap.StringLiteral (text : List Char) : Prop :=
  ∃ body, text = '"' :: (body ++ ['"']) ∧ StringBody body

theorem Gap.CommentBody.ne_nil {text : List Char} (h : CommentBody text) : text ≠ [] := by
  cases h <;> exact List.cons_ne_nil _ _

namespace Comment

theorem split_cons {c : Char} {tail : List Char} (hopen : ¬(c = '/' ∧ tail.head? = some '*'))
    (hclose : ¬(c = '*' ∧ tail.head? = some '/')) (depth : Int) :
    split depth (c :: tail) = (c :: (split depth tail).1, (split depth tail).2) := by
  rw [split.eq_def]
  split
  · next heq =>
      obtain ⟨rfl, rfl⟩ := List.cons.inj heq
      exact absurd ⟨rfl, rfl⟩ hopen
  · next heq =>
      obtain ⟨rfl, rfl⟩ := List.cons.inj heq
      exact absurd ⟨rfl, rfl⟩ hclose
  · next heq =>
      obtain ⟨rfl, rfl⟩ := List.cons.inj heq
      rfl
  · next heq => cases heq

/-- Inside a comment the closing delimiter is found behind the nested comments;
splitting goes on there unless no comment is open any more. -/
theorem split_body {body : List Char} (h : Gap.CommentBody body) (depth : Int) (hdepth : 0 < depth)
    (rest : List Char) :
    split depth (body ++ rest) =
      if depth = 1 then (body, rest)
      else (body ++ (split (depth - 1) rest).1, (split (depth - 1) rest).2) := by
  induction h generalizing depth rest with
  | close =>
      by_cases hone : depth = 1
      · simp [split, hone]
      · have hopen : depth - 1 ≠ 0 := by omega
        simp [split, hone, hopen]
  | @char c tail hopen hclose htail ih =>
      have hhead : (tail ++ rest).head? = tail.head? := by
        cases tail with
        | nil => exact absurd rfl htail.ne_nil
        | cons => rfl
      rw [List.cons_append, split_cons (by rwa [hhead]) (by rwa [hhead]), ih depth hdepth]
      split <;> rfl
  | @nested inner tail hinner htail ihinner ihtail =>
      have hdeeper : depth + 1 ≠ 1 := by omega
      have hback : depth + 1 - 1 = depth := by omega
      have hnested := ihinner (depth + 1) (by omega) (tail ++ rest)
      rw [if_neg hdeeper, hback, ihtail depth hdepth] at hnested
      have hopen : depth + 1 ≠ 0 := by omega
      simp only [List.cons_append, List.append_assoc, split, hopen, if_false, hnested]
      split <;> simp

theorem split_comment {text : List Char} (h : Gap.BlockComment text) (rest : List Char) :
    split 0 (text ++ rest) = (text, rest) := by
  obtain ⟨body, rfl, hbody⟩ := h
  have hsplit := split_body hbody 1 (by omega) rest
  rw [if_pos rfl] at hsplit
  simp [split, hsplit]

end Comment

namespace Lexeme

theorem closeString?_body {body : List Char} (h : Gap.StringBody body) (rest : List Char) :
    closeString? (body ++ '"' :: rest) = some (body ++ ['"'], rest) := by
  induction h with
  | nil => rfl
  | escaped _ ih => simp [closeString?, ih]
  | plain hquote hbackslash hfeed _ ih => simp [closeString?, ih, hbackslash]

theorem isLayout_iff {c : Char} : isLayout c ↔ c ∈ Gap.blanks := by
  simp [isLayout, Gap.blanks, or_assoc]

theorem first_blank {c : Char} (h : c ∈ Gap.blanks) (rest : List Char) :
    first c rest = run none isLayout c rest := by
  unfold first
  rw [if_pos (isLayout_iff.mpr h)]

theorem first_lineComment (rest : List Char) :
    first '/' ('/' :: rest) = run none (· ≠ '\n') '/' ('/' :: rest) := by
  rfl

theorem first_blockComment {text : List Char} (h : Gap.BlockComment ('/' :: text))
    (rest : List Char) : first '/' (text ++ rest) = ⟨none, '/' :: text, rest⟩ := by
  have hsplit := Comment.split_comment h rest
  obtain ⟨body, htext, -⟩ := h
  obtain ⟨-, rfl⟩ := List.cons.inj htext
  change ofComment ('/' :: '*' :: (body ++ rest)) = _
  rw [ofComment]
  simp only [List.cons_append] at hsplit
  rw [hsplit]

theorem first_stringLiteral {body : List Char} (h : Gap.StringBody body) (rest : List Char) :
    first '"' (body ++ '"' :: rest) = ⟨none, '"' :: (body ++ ['"']), rest⟩ := by
  change ofQuote (body ++ '"' :: rest) = _
  rw [ofQuote, closeString?_body h]

end Lexeme

namespace Token

/-- A run of blanks may be cut anywhere. -/
theorem scanFrom_blank {c : Char} (h : c ∈ Gap.blanks) (line : Nat) (rest : List Char) :
    scanFrom line (c :: rest) = scanFrom (line + countLines [c]) rest := by
  rw [scanFrom_skipped (Lexeme.first_blank h rest)]
  cases rest with
  | nil => simp
  | cons next rest =>
      by_cases hnext : next ∈ Gap.blanks
      · have hlayout := Lexeme.isLayout_iff.mpr hnext
        rw [scanFrom_skipped (Lexeme.first_blank hnext rest),
          List.takeWhile_cons_of_pos hlayout, List.dropWhile_cons_of_pos hlayout]
        simp only [countLines, List.count_cons, List.count_nil]
        congr 1
        omega
      · have hlayout : ¬Lexeme.isLayout next := fun h => hnext (Lexeme.isLayout_iff.mp h)
        rw [List.takeWhile_cons_of_neg hlayout, List.dropWhile_cons_of_neg hlayout]

theorem scanFrom_blanks {text : List Char} (h : ∀ c ∈ text, c ∈ Gap.blanks) (line : Nat)
    (rest : List Char) :
    scanFrom line (text ++ rest) = scanFrom (line + countLines text) rest := by
  induction text generalizing line with
  | nil => rfl
  | cons c text ih =>
      rw [List.cons_append, scanFrom_blank (h c List.mem_cons_self),
        ih fun next hnext => h next (List.mem_cons_of_mem c hnext)]
      simp only [countLines, List.count_cons, List.count_nil]
      congr 1
      omega

theorem scanFrom_lineComment {text : List Char} (h : Gap.LineComment text) (line : Nat)
    (rest : List Char) :
    scanFrom line (text ++ '\n' :: rest) =
      scanFrom (line + countLines (text ++ ['\n'])) rest := by
  obtain ⟨body, rfl, hbody⟩ := h
  have hinside : ∀ c ∈ '/' :: body, decide (c ≠ '\n') = true := by
    intro c hc
    rw [decide_eq_true_iff]
    rintro rfl
    simp [hbody] at hc
  have htake : ('/' :: (body ++ '\n' :: rest)).takeWhile (· ≠ '\n') = '/' :: body := by
    rw [← List.cons_append, List.takeWhile_append_of_pos hinside]
    simp
  have hdrop : ('/' :: (body ++ '\n' :: rest)).dropWhile (· ≠ '\n') = '\n' :: rest := by
    rw [← List.cons_append, List.dropWhile_append_of_pos hinside]
    simp
  have hfirst : Lexeme.first '/' ('/' :: (body ++ '\n' :: rest)) =
      ⟨none, '/' :: '/' :: body, '\n' :: rest⟩ := by
    rw [Lexeme.first_lineComment, Lexeme.run, htake, hdrop]
  rw [List.cons_append, List.cons_append, scanFrom_skipped hfirst,
    scanFrom_blank (by simp [Gap.blanks]), countLines_append, Nat.add_assoc]

theorem scanFrom_blockComment {text : List Char} (h : Gap.BlockComment text) (line : Nat)
    (rest : List Char) :
    scanFrom line (text ++ rest) = scanFrom (line + countLines text) rest := by
  obtain ⟨tail, rfl⟩ : ∃ tail, text = '/' :: tail := by
    obtain ⟨body, rfl, _⟩ := h
    exact ⟨_, rfl⟩
  exact scanFrom_skipped (Lexeme.first_blockComment h rest) line

theorem scanFrom_stringLiteral {text : List Char} (h : Gap.StringLiteral text) (line : Nat)
    (rest : List Char) :
    scanFrom line (text ++ rest) = scanFrom (line + countLines text) rest := by
  obtain ⟨body, rfl, hbody⟩ := h
  rw [List.cons_append, List.append_assoc, List.singleton_append]
  exact scanFrom_skipped (Lexeme.first_stringLiteral hbody rest) line

end Token

end IndicatorWrap
