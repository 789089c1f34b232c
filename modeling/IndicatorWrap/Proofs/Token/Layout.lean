import IndicatorWrap.Proofs.Token.Gap

/-!
Layouts of tokens: what a text looks like that is written out of single tokens
with separators between them. Scanning such a text gives back the tokens, each
on the line on which it was written.
-/

namespace IndicatorWrap

open Text

/-- One piece of a separator. A line comment takes its line feed with it. -/
inductive Gap.Piece : List Char → Prop where
  | blanks {text : List Char} (h : ∀ c ∈ text, c ∈ blanks) : Piece text
  | lineComment {text : List Char} (h : LineComment text) : Piece (text ++ ['\n'])
  | blockComment {text : List Char} (h : BlockComment text) : Piece text
  | stringLiteral {text : List Char} (h : StringLiteral text) : Piece text

def Gap.Separator (text : List Char) : Prop :=
  ∃ pieces : List (List Char), (∀ piece ∈ pieces, Piece piece) ∧ text = pieces.flatten

/-- Whether a separator may begin with the character. -/
def Gap.Opens (c : Char) : Prop :=
  c ∈ blanks ∨ c = '/' ∨ c = '"'

theorem Gap.Piece.opens {text : List Char} (h : Piece text) : ∀ c ∈ text.head?, Opens c := by
  cases h with
  | blanks hblanks =>
      intro c hc
      exact Or.inl (hblanks c (List.mem_of_mem_head? hc))
  | lineComment h =>
      obtain ⟨body, rfl, -⟩ := h
      rintro c ⟨⟩
      exact Or.inr (Or.inl rfl)
  | blockComment h =>
      obtain ⟨body, rfl, -⟩ := h
      rintro c ⟨⟩
      exact Or.inr (Or.inl rfl)
  | stringLiteral h =>
      obtain ⟨body, rfl, -⟩ := h
      rintro c ⟨⟩
      exact Or.inr (Or.inr rfl)

theorem Gap.Separator.opens {text : List Char} (h : Separator text) :
    ∀ c ∈ text.head?, Opens c := by
  obtain ⟨pieces, hpieces, rfl⟩ := h
  induction pieces with
  | nil => simp
  | cons piece pieces ih =>
      intro c hc
      rw [List.flatten_cons, List.head?_append] at hc
      cases hhead : piece.head? with
      | none =>
          rw [hhead, Option.none_or] at hc
          exact ih (fun next hnext => hpieces next (List.mem_cons_of_mem piece hnext)) c hc
      | some first =>
          rw [hhead, Option.some_or] at hc
          cases hc
          exact (hpieces piece List.mem_cons_self).opens c hhead

theorem Gap.Opens.not_mem {c : Char} (h : Opens c) :
    Lexeme.isIdentChar c = false ∧ c ≠ ':' ∧ c ≠ '>' := by
  rcases h with hblank | rfl | rfl
  · simp only [blanks, List.mem_cons, List.not_mem_nil, or_false] at hblank
    rcases hblank with rfl | rfl | rfl | rfl | rfl | rfl <;> decide
  · decide
  · decide

/-- A lexeme that is a whole text stays the first lexeme if what follows opens a
separator. -/
theorem Lexeme.first_append {c : Char} {rest after : List Char} {kind : Token.Kind}
    (h : first c rest = ⟨some kind, c :: rest, []⟩) (hquote : c :: rest ≠ ['"'])
    (hslash : c :: rest ≠ ['/']) (hafter : ∀ next ∈ after.head?, Gap.Opens next) :
    first c (rest ++ after) = ⟨some kind, c :: rest, after⟩ := by
  unfold first at h ⊢
  by_cases hlayout : isLayout c
  · simp [hlayout, run] at h
  rw [if_neg hlayout] at h ⊢
  by_cases hstart : isIdentStart c
  · simp only [hstart, if_true, run, Lexeme.mk.injEq, List.cons.injEq, true_and] at h ⊢
    obtain ⟨hkind, htake, -⟩ := h
    have hinside : ∀ next ∈ rest, isIdentChar next := by
      rw [← htake]
      exact List.all_eq_true.mp List.all_takeWhile
    rw [List.takeWhile_append_of_pos hinside, List.dropWhile_append_of_pos hinside]
    cases after with
    | nil => simp [hkind]
    | cons next after =>
        have hnext := (hafter next rfl).not_mem.1
        simp [hkind, hnext]
  rw [if_neg hstart] at h ⊢
  split at h
  · simp [run] at h
  · simp [ofComment] at h
  · unfold ofQuote at h
    split at h
    · simp at h
    · simp only [Lexeme.mk.injEq] at h
      exact absurd h.2.1.symm hquote
  · simp only [Lexeme.mk.injEq, List.cons.injEq] at h
    obtain ⟨hkind, -, rfl⟩ := h
    rw [← hkind]
    rfl
  · simp only [Lexeme.mk.injEq, List.cons.injEq] at h
    obtain ⟨hkind, -, rfl⟩ := h
    rw [← hkind]
    rfl
  · simp only [Lexeme.mk.injEq, List.cons.injEq, true_and] at h
    obtain ⟨hkind, rfl, -⟩ := h
    rw [List.nil_append]
    split
    · exact absurd rfl hslash
    · exact absurd rfl hslash
    · exact absurd rfl hquote
    · exact absurd rfl (hafter ':' rfl).not_mem.2.1
    · exact absurd rfl (hafter '>' rfl).not_mem.2.2
    · rw [hkind]

namespace Token

theorem scanFrom_piece {piece : List Char} (h : Gap.Piece piece) (line : Nat)
    (rest : List Char) :
    scanFrom line (piece ++ rest) = scanFrom (line + countLines piece) rest := by
  cases h with
  | blanks h => exact scanFrom_blanks h line rest
  | lineComment h =>
      rw [List.append_assoc]
      exact scanFrom_lineComment h line rest
  | blockComment h => exact scanFrom_blockComment h line rest
  | stringLiteral h => exact scanFrom_stringLiteral h line rest

theorem scanFrom_separator {text : List Char} (h : Gap.Separator text) (line : Nat)
    (rest : List Char) :
    scanFrom line (text ++ rest) = scanFrom (line + countLines text) rest := by
  obtain ⟨pieces, hpieces, rfl⟩ := h
  induction pieces generalizing line with
  | nil => rfl
  | cons piece pieces ih =>
      rw [List.flatten_cons, List.append_assoc,
        scanFrom_piece (hpieces piece List.mem_cons_self),
        ih _ fun next hnext => hpieces next (List.mem_cons_of_mem piece hnext),
        countLines_append, Nat.add_assoc]

/-- A token that scanning its value alone yields. -/
def Alone (token : Token) : Prop :=
  scan token.value = [{ token with line := 1 }]

theorem Alone.first {token : Token} (h : Alone token) :
    ∃ c rest, token.value.toList = c :: rest ∧
      Lexeme.first c rest = ⟨some token.kind, c :: rest, []⟩ := by
  unfold Alone scan at h
  cases hvalue : token.value.toList with
  | nil => simp [hvalue, scanFrom] at h
  | cons c rest =>
      refine ⟨c, rest, rfl, ?_⟩
      rw [hvalue] at h
      have hwhole := Lexeme.value_append_rest c rest
      obtain ⟨kind, value, after, hfirst⟩ :
          ∃ kind value after, Lexeme.first c rest = ⟨kind, value, after⟩ := ⟨_, _, _, rfl⟩
      cases kind with
      | none =>
          -- Behind a skipped lexeme the text is too short for the whole value.
          have hshort := Lexeme.rest_length_lt c rest
          rw [scanFrom_skipped hfirst] at h
          have hmem := List.mem_singleton_self { token with line := 1 }
          rw [← h] at hmem
          have hlength := value_length_le hmem
          rw [hfirst] at hshort
          simp only [hvalue] at hlength hshort
          omega
      | some kind =>
          rw [scanFrom_taken hfirst] at h
          obtain ⟨htoken, -⟩ := List.cons.inj h
          have hkind : kind = token.kind := congrArg Token.kind htoken
          have htext : value = c :: rest := by
            have := congrArg (fun token => token.value.toList) htoken
            simpa [hvalue] using this
          have hafter : after = [] := by simpa [hfirst, htext] using hwhole
          rw [hfirst, hkind, htext, hafter]

/-- A single token is read as itself wherever a separator or nothing follows. A
quote would begin a string literal there, and a slash a comment. -/
theorem scanFrom_alone {token : Token} (h : Alone token) (hquote : token.value ≠ "\"")
    (hslash : token.value ≠ "/") (line : Nat) {after : List Char}
    (hafter : ∀ c ∈ after.head?, Gap.Opens c) :
    scanFrom line (token.value.toList ++ after) =
      { token with line := line } :: scanFrom (line + countLines token.value.toList) after := by
  obtain ⟨c, rest, hvalue, hfirst⟩ := h.first
  have hlonger : Lexeme.first c (rest ++ after) = ⟨some token.kind, c :: rest, after⟩ := by
    refine Lexeme.first_append hfirst ?_ ?_ hafter
    · rw [← hvalue]
      exact fun heq => hquote (String.toList_inj.mp heq)
    · rw [← hvalue]
      exact fun heq => hslash (String.toList_inj.mp heq)
  rw [hvalue, List.cons_append, scanFrom_taken hlonger, ← hvalue, String.ofList_toList]

end Token

/-- Tokens written out: what stands in front of the first, and each token with
what stands behind it. -/
structure Layout where
  lead : List Char
  items : List (Token × List Char)

namespace Layout

def written (items : List (Token × List Char)) : List Char :=
  items.flatMap fun (token, gap) => token.value.toList ++ gap

def text (layout : Layout) : String :=
  String.ofList (layout.lead ++ written layout.items)

/-- What is written in front of the token with the given index. -/
def before (layout : Layout) (index : Nat) : List Char :=
  layout.lead ++ written (layout.items.take index)

/-- The kinds and values of the tokens, without their places. -/
def words (layout : Layout) : List (Token.Kind × String) :=
  layout.items.map fun (token, _) => (token.kind, token.value)

/-- Every token is one that its value alone yields, none is a lone quote or
slash, and separators stand between tokens, with something in each but the last. -/
structure WellFormed (layout : Layout) : Prop where
  alone : ∀ item ∈ layout.items, item.1.Alone
  quote : ∀ item ∈ layout.items, item.1.value ≠ "\""
  slash : ∀ item ∈ layout.items, item.1.value ≠ "/"
  lead : Gap.Separator layout.lead
  gaps : ∀ item ∈ layout.items, Gap.Separator item.2
  apart : ∀ item ∈ layout.items.dropLast, item.2 ≠ []

/-- The tokens with the lines on which they are written. -/
def placed (line : Nat) : List (Token × List Char) → List Token
  | [] => []
  | (token, gap) :: items =>
    { token with line := line } :: placed (line + countLines (token.value.toList ++ gap)) items

theorem length_placed (line : Nat) (items : List (Token × List Char)) :
    (placed line items).length = items.length := by
  induction items generalizing line with
  | nil => rfl
  | cons item items ih => simp [placed, ih]

theorem getElem?_placed (line : Nat) (items : List (Token × List Char)) (index : Nat) :
    (placed line items)[index]? = items[index]?.map fun (token, _) =>
      { token with line := line + countLines (written (items.take index)) } := by
  induction items generalizing line index with
  | nil => rfl
  | cons item items ih =>
      cases index with
      | zero => simp [placed, written, countLines]
      | succ index =>
          simp only [placed, List.getElem?_cons_succ, ih, List.take_succ_cons, written,
            List.flatMap_cons, countLines, List.count_append]
          congr 1
          funext next
          congr 1
          omega

theorem scanFrom_written {items : List (Token × List Char)} (line : Nat)
    (halone : ∀ item ∈ items, item.1.Alone) (hquote : ∀ item ∈ items, item.1.value ≠ "\"")
    (hslash : ∀ item ∈ items, item.1.value ≠ "/") (hgaps : ∀ item ∈ items, Gap.Separator item.2)
    (hapart : ∀ item ∈ items.dropLast, item.2 ≠ []) :
    Token.scanFrom line (written items) = placed line items := by
  induction items generalizing line with
  | nil => simp [written, placed, Token.scanFrom]
  | cons item items ih =>
      obtain ⟨token, gap⟩ := item
      have hmem : (token, gap) ∈ (token, gap) :: items := List.mem_cons_self
      have htail : ∀ next ∈ items, next ∈ (token, gap) :: items :=
        fun next hnext => List.mem_cons_of_mem _ hnext
      -- Only the last gap may be empty, and then the text ends.
      have hopens : ∀ c ∈ (gap ++ written items).head?, Gap.Opens c := by
        intro c hc
        cases gap with
        | cons first gap => exact (hgaps _ hmem).opens c hc
        | nil =>
            cases items with
            | nil => cases hc
            | cons next items => exact absurd rfl (hapart _ List.mem_cons_self)
      have hrest := ih (line + countLines (token.value.toList ++ gap))
        (fun next hnext => halone next (htail next hnext))
        (fun next hnext => hquote next (htail next hnext))
        (fun next hnext => hslash next (htail next hnext))
        (fun next hnext => hgaps next (htail next hnext))
        (fun next hnext => hapart next (by
          cases items with
          | nil => cases hnext
          | cons => exact List.mem_cons_of_mem _ hnext))
      have hcount : line + countLines token.value.toList + countLines gap =
          line + countLines (token.value.toList ++ gap) := by
        rw [countLines_append, Nat.add_assoc]
      calc Token.scanFrom line (written ((token, gap) :: items))
          = Token.scanFrom line (token.value.toList ++ (gap ++ written items)) := by
            simp [written]
        _ = { token with line := line } ::
              Token.scanFrom (line + countLines token.value.toList) (gap ++ written items) :=
            Token.scanFrom_alone (halone _ hmem) (hquote _ hmem) (hslash _ hmem) line hopens
        _ = placed line ((token, gap) :: items) := by
            rw [Token.scanFrom_separator (hgaps _ hmem), hcount, hrest, placed]

/-- Scanning a layout gives its tokens back, each on its line. -/
theorem scan_text {layout : Layout} (h : layout.WellFormed) :
    Token.scan layout.text = placed (1 + countLines layout.lead) layout.items := by
  rw [text, Token.scan, String.toList_ofList, Token.scanFrom_separator h.lead]
  exact scanFrom_written _ h.alone h.quote h.slash h.gaps h.apart

end Layout

end IndicatorWrap
