import IndicatorWrap.Token.Lexer

/-!
The places of tokens. A text is the sequence of its lexemes, and its tokens are
those of them that are not skipped; so each token has a definite text in front
of it, and its line is the number of line feeds there, counted from the first
line.
-/

namespace IndicatorWrap

open Text

namespace Lexeme

/-- The lexemes of a text, the skipped ones among them. -/
def all (text : List Char) : List Lexeme :=
  match text with
  | [] => []
  | c :: rest => first c rest :: all (first c rest).rest
termination_by text.length
decreasing_by exact rest_length_lt c rest

theorem flatMap_value_all (text : List Char) : (all text).flatMap value = text := by
  fun_induction all text with
  | case1 => rfl
  | case2 c rest ih =>
      rw [List.flatMap_cons, ih]
      exact value_append_rest c rest

/-- What stands in front of the token with the given index. -/
def beforeToken : List Lexeme → Nat → List Char
  | [], _ => []
  | lexeme :: rest, index =>
    match lexeme.kind, index with
    | some _, 0 => []
    | some _, index + 1 => lexeme.value ++ beforeToken rest index
    | none, index => lexeme.value ++ beforeToken rest index

def IsIdentifier (text : List Char) : Prop :=
  ∃ c rest, text = c :: rest ∧ isIdentStart c ∧ ∀ next ∈ rest, isIdentChar next

theorem IsIdentifier.isIdentChar_of_mem {text : List Char} (h : IsIdentifier text) :
    ∀ c ∈ text, isIdentChar c := by
  obtain ⟨c, rest, rfl, hstart, hrest⟩ := h
  exact List.forall_mem_cons.mpr ⟨by simp [isIdentChar, hstart], hrest⟩

theorem ofMark_ne_ident (c : Char) : Token.Kind.ofMark c ≠ .ident := by
  unfold Token.Kind.ofMark
  split <;> exact Token.Kind.noConfusion

theorem isIdentifier_of_kind {c : Char} {rest : List Char}
    (h : (first c rest).kind = some .ident) : IsIdentifier (first c rest).value := by
  unfold first at h ⊢
  split
  · simp_all [run]
  · next hlayout =>
      rw [if_neg hlayout] at h
      split
      · next hstart =>
          refine ⟨c, rest.takeWhile isIdentChar, rfl, hstart, ?_⟩
          intro next hnext
          exact List.all_eq_true.mp List.all_takeWhile next hnext
      · next hstart =>
          rw [if_neg hstart] at h
          split at h
          · simp [run] at h
          · simp [ofComment] at h
          · unfold ofQuote at h
            split at h <;> simp at h
          · simp at h
          · simp at h
          · simp [ofMark_ne_ident] at h

end Lexeme

namespace Token

theorem scanFrom_skipped {c : Char} {rest value after : List Char}
    (h : Lexeme.first c rest = ⟨none, value, after⟩) (line : Nat) :
    scanFrom line (c :: rest) = scanFrom (line + countLines value) after := by
  rw [scanFrom, h]

theorem scanFrom_taken {c : Char} {rest value after : List Char} {kind : Kind}
    (h : Lexeme.first c rest = ⟨some kind, value, after⟩) (line : Nat) :
    scanFrom line (c :: rest) =
      ⟨kind, String.ofList value, line⟩ :: scanFrom (line + countLines value) after := by
  rw [scanFrom, h]

/-- What stands in front of the token with the given index of a text. -/
def textBefore (text : String) (index : Nat) : List Char :=
  Lexeme.beforeToken (Lexeme.all text.toList) index

/-- A token stands behind the text in front of it, on the line that has been
reached there. -/
theorem scanFrom_place {line : Nat} {text : List Char} {index : Nat} {token : Token}
    (h : (scanFrom line text)[index]? = some token) :
    Lexeme.beforeToken (Lexeme.all text) index ++ token.value.toList <+: text ∧
      token.line = line + countLines (Lexeme.beforeToken (Lexeme.all text) index) := by
  induction text using Lexeme.all.induct generalizing line index with
  | case1 => simp [scanFrom] at h
  | case2 c rest ih =>
      have hwhole := Lexeme.value_append_rest c rest
      obtain ⟨kind, value, after, hfirst⟩ :
          ∃ kind value after, Lexeme.first c rest = ⟨kind, value, after⟩ := ⟨_, _, _, rfl⟩
      rw [hfirst] at hwhole ih
      have hlater : ∀ {index}, (scanFrom (line + countLines value) after)[index]? = some token →
          value ++ Lexeme.beforeToken (Lexeme.all after) index ++ token.value.toList <+: c :: rest ∧
            token.line =
              line + countLines (value ++ Lexeme.beforeToken (Lexeme.all after) index) := by
        intro index hindex
        obtain ⟨hfront, hline⟩ := ih hindex
        rw [← hwhole, List.append_assoc, countLines_append]
        exact ⟨(List.prefix_append_right_inj value).mpr hfront, hline.trans (by simp; omega)⟩
      cases kind with
      | none =>
          rw [scanFrom_skipped hfirst] at h
          simpa [Lexeme.all, hfirst, Lexeme.beforeToken] using hlater h
      | some kind =>
          rw [scanFrom_taken hfirst] at h
          cases index with
          | zero =>
              cases h
              rw [Lexeme.all, hfirst, String.toList_ofList, ← hwhole]
              exact ⟨List.prefix_append value after, by simp [Lexeme.beforeToken, countLines]⟩
          | succ index => simpa [Lexeme.all, hfirst, Lexeme.beforeToken] using hlater h

theorem value_length_le {line : Nat} {text : List Char} {token : Token}
    (h : token ∈ scanFrom line text) : token.value.toList.length ≤ text.length := by
  obtain ⟨index, hindex⟩ := List.mem_iff_getElem?.mp h
  have hlength := (scanFrom_place hindex).1.length_le
  rw [List.length_append] at hlength
  omega

theorem isIdentifier_of_mem_scanFrom {line : Nat} {text : List Char} {token : Token}
    (h : token ∈ scanFrom line text) (hkind : token.kind = .ident) :
    Lexeme.IsIdentifier token.value.toList := by
  induction text using Lexeme.all.induct generalizing line with
  | case1 => simp [scanFrom] at h
  | case2 c rest ih =>
      obtain ⟨kind, value, after, hfirst⟩ :
          ∃ kind value after, Lexeme.first c rest = ⟨kind, value, after⟩ := ⟨_, _, _, rfl⟩
      rw [hfirst] at ih
      cases kind with
      | none =>
          rw [scanFrom_skipped hfirst] at h
          exact ih h
      | some kind =>
          rw [scanFrom_taken hfirst] at h
          rcases List.mem_cons.mp h with rfl | hmem
          · have hlexeme := @Lexeme.isIdentifier_of_kind c rest
            rw [hfirst] at hlexeme
            simpa using hlexeme (congrArg some hkind)
          · exact ih hmem

end Token

end IndicatorWrap
