import IndicatorWrap.Token
import IndicatorWrap.Token.Comment
import IndicatorWrap.Text.Lines

/-!
From text to tokens. A text is cut into lexemes; white space, comments and
closed string literals are skipped, everything else becomes a token, so that
scanning never fails. A lexeme and what follows it are always the text again.
-/

namespace IndicatorWrap

/-- The first lexeme of a text and what follows it. A lexeme without a kind is
skipped. -/
structure Lexeme where
  kind : Option Token.Kind
  value : List Char
  rest : List Char

namespace Lexeme

def isLayout (c : Char) : Bool :=
  c = ' ' || c = '\t' || c = '\r' || c = '\n' || c = '\x0c' || c = '\x0b'

def isIdentStart (c : Char) : Bool :=
  c.isAlpha || c = '_'

def isIdentChar (c : Char) : Bool :=
  isIdentStart c || c.isDigit

/-- The character and all that follow it in one class. -/
def run (kind : Option Token.Kind) (inClass : Char → Bool) (c : Char) (rest : List Char) :
    Lexeme :=
  ⟨kind, c :: rest.takeWhile inClass, rest.dropWhile inClass⟩

/-- Splits a text after the quote that closes the string literal it begins in.
A backslash takes the next character with it; a line may not end inside a
literal unless escaped. -/
def closeString? : List Char → Option (List Char × List Char)
  | '"' :: rest => some (['"'], rest)
  | '\\' :: c :: rest =>
    (closeString? rest).map fun (body, after) => ('\\' :: c :: body, after)
  | '\n' :: _ => none
  | '\\' :: [] => none
  | c :: rest => (closeString? rest).map fun (body, after) => (c :: body, after)
  | [] => none

/-- A quote: a string literal if one closes, else a token of its own. -/
def ofQuote (rest : List Char) : Lexeme :=
  match closeString? rest with
  | some (body, after) => ⟨none, '"' :: body, after⟩
  | none => ⟨some .other, ['"'], rest⟩

def ofComment (text : List Char) : Lexeme :=
  let (comment, after) := Comment.split 0 text
  ⟨none, comment, after⟩

/-- The first lexeme of `c :: rest`. -/
def first (c : Char) (rest : List Char) : Lexeme :=
  if isLayout c then
    run none isLayout c rest
  else if isIdentStart c then
    run (some .ident) isIdentChar c rest
  else
    match c, rest with
    | '/', '/' :: _ => run none (· ≠ '\n') c rest
    | '/', '*' :: _ => ofComment (c :: rest)
    | '"', _ => ofQuote rest
    | ':', ':' :: after => ⟨some .pathSep, [':', ':'], after⟩
    | '-', '>' :: after => ⟨some .arrow, ['-', '>'], after⟩
    | _, _ => ⟨some (.ofMark c), [c], rest⟩

theorem closeString?_append {text body after : List Char}
    (h : closeString? text = some (body, after)) : body ++ after = text := by
  fun_induction closeString? text generalizing body after with
  | case1 rest =>
      cases h
      rfl
  | case2 c rest ih =>
      obtain ⟨⟨inner, tail⟩, hinner, heq⟩ := Option.map_eq_some_iff.1 h
      cases heq
      simp [ih hinner]
  | case3 => cases h
  | case4 => cases h
  | case5 c rest _ _ _ _ ih =>
      obtain ⟨⟨inner, tail⟩, hinner, heq⟩ := Option.map_eq_some_iff.1 h
      cases heq
      simp [ih hinner]
  | case6 => cases h

/-- Nothing is lost between lexemes. -/
theorem value_append_rest (c : Char) (rest : List Char) :
    (first c rest).value ++ (first c rest).rest = c :: rest := by
  unfold first
  split
  · simp [run]
  · split
    · simp [run]
    · split
      · simp [run]
      · simpa [ofComment] using Comment.split_append 0 _
      · unfold ofQuote
        split
        · next h => simpa using closeString?_append h
        · rfl
      · rfl
      · rfl
      · rfl

theorem value_ne_nil (c : Char) (rest : List Char) : (first c rest).value ≠ [] := by
  unfold first
  split
  · simp [run]
  · split
    · simp [run]
    · split
      · simp [run]
      · exact Comment.split_cons_ne_nil 0 '/' ('*' :: _)
      · unfold ofQuote
        split <;> simp
      · simp
      · simp
      · simp

theorem rest_length_lt (c : Char) (rest : List Char) :
    (first c rest).rest.length < (c :: rest).length := by
  have whole := congrArg List.length (value_append_rest c rest)
  have taken := List.length_pos_iff.2 (value_ne_nil c rest)
  rw [List.length_append] at whole
  omega

end Lexeme

/-- The tokens of a text that begins on the given line. -/
def Token.scanFrom (line : Nat) (text : List Char) : List Token :=
  match text with
  | [] => []
  | c :: rest =>
    let lexeme := Lexeme.first c rest
    let tokens := scanFrom (line + Text.countLines lexeme.value) lexeme.rest
    match lexeme.kind with
    | none => tokens
    | some kind => ⟨kind, String.ofList lexeme.value, line⟩ :: tokens
termination_by text.length
decreasing_by exact Lexeme.rest_length_lt c rest

/-- The tokens of a text; lines count from 1. -/
def Token.scan (text : String) : List Token :=
  scanFrom 1 text.toList

end IndicatorWrap
