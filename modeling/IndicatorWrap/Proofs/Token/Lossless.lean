import IndicatorWrap.Proofs.Token.Layout
import IndicatorWrap.Proofs.Token.Seam

/-!
Nothing of a text is lost to scanning. It is the values of its tokens with gaps around
them, and what a gap may hold is told without the scanner: white space, comments and
closed string literals, and at the very end a block comment that nothing closes. No
token could have been longer.
-/

namespace IndicatorWrap

open Text

/-- A block comment that is never closed: no front of it is a whole comment. -/
def Gap.Unterminated (text : List Char) : Prop :=
  (∃ body, text = '/' :: '*' :: body) ∧ ∀ front, front <+: text → ¬BlockComment front

/-- One piece of a gap with the text behind it. A line comment reaches up to a line feed or
the end of the text, an unterminated comment to the end. -/
inductive Gap.PieceBefore : List Char → List Char → Prop where
  | blanks {after text : List Char} (h : ∀ c ∈ text, c ∈ blanks) : PieceBefore after text
  | lineComment {after text : List Char} (h : LineComment text)
      (hends : ∀ c ∈ after.head?, c = '\n') : PieceBefore after text
  | stringLiteral {after text : List Char} (h : StringLiteral text) : PieceBefore after text
  | blockComment {after text : List Char} (h : BlockComment text) : PieceBefore after text
  | unterminated {text : List Char} (h : Unterminated text) : PieceBefore [] text

/-- A gap with the text behind it. -/
inductive Gap.Before (behind : List Char) : List Char → Prop where
  | nil : Before behind []
  | cons {piece more : List Char} (hpiece : PieceBefore (more ++ behind) piece)
      (hmore : Before behind more) : Before behind (piece ++ more)

/-- The texts of the tokens of a kind. -/
inductive Token.Spells : Token.Kind → List Char → Prop where
  | ident {text : List Char} (h : Lexeme.IsIdentifier text) : Spells .ident text
  | pathSep : Spells .pathSep [':', ':']
  | arrow : Spells .arrow ['-', '>']
  | mark {c : Char} (hblank : c ∉ Gap.blanks) (hstart : ¬Lexeme.isIdentStart c) :
      Spells (.ofMark c) [c]

/-- Whether a character makes the text of a token longer, or the two begin a comment. -/
def Token.Continues (text : List Char) (next : Char) : Prop :=
  (Lexeme.IsIdentifier text ∧ Lexeme.isIdentChar next) ∨
    ∃ first, text = [first] ∧ Lexeme.Pairs first next

/-- The text of a token decides its kind. -/
theorem Token.Spells.unique {kind kind' : Token.Kind} {text : List Char} (h : Spells kind text)
    (h' : Spells kind' text) : kind' = kind := by
  have hstart : ∀ {c : Char} {rest : List Char}, Lexeme.IsIdentifier (c :: rest) →
      Lexeme.isIdentStart c := by
    rintro c rest ⟨first, others, heq, hfirst, -⟩
    obtain ⟨rfl, -⟩ := List.cons.inj heq
    exact hfirst
  cases h with
  | ident hidentifier =>
      cases h' with
      | ident => rfl
      | pathSep => exact absurd (hstart hidentifier) (by decide)
      | arrow => exact absurd (hstart hidentifier) (by decide)
      | mark _ hmark => exact absurd (hstart hidentifier) hmark
  | pathSep =>
      cases h' with
      | ident hidentifier => exact absurd (hstart hidentifier) (by decide)
      | pathSep => rfl
  | arrow =>
      cases h' with
      | ident hidentifier => exact absurd (hstart hidentifier) (by decide)
      | arrow => rfl
  | mark _ hmark =>
      cases h' with
      | ident hidentifier => exact absurd (hstart hidentifier) hmark
      | mark => rfl

/-- So many insides of comments, one after the other. -/
inductive Gap.Closes : Nat → List Char → Prop where
  | last {body : List Char} (h : CommentBody body) : Closes 1 body
  | more {depth : Nat} {body tail : List Char} (h : CommentBody body) (htail : Closes depth tail) :
      Closes (depth + 1) (body ++ tail)

namespace Gap.Closes

variable {depth : Nat} {text : List Char}

theorem ne_nil (h : Closes depth text) : text ≠ [] := by
  cases h with
  | last h => exact h.ne_nil
  | more h _ => simp [h.ne_nil]

theorem pos (h : Closes depth text) : 0 < depth := by
  cases h <;> omega

theorem body (h : Closes 1 text) : CommentBody text := by
  cases h with
  | last h => exact h
  | more _ htail => exact absurd htail.pos (Nat.lt_irrefl 0)

theorem char {c : Char} (hopen : ¬(c = '/' ∧ text.head? = some '*'))
    (hclose : ¬(c = '*' ∧ text.head? = some '/')) (h : Closes depth text) :
    Closes depth (c :: text) := by
  cases h with
  | last h => exact .last (.char hopen hclose h)
  | @more depth body tail h htail =>
      have hhead : (body ++ tail).head? = body.head? := by
        cases body with
        | nil => exact absurd rfl h.ne_nil
        | cons => rfl
      rw [hhead] at hopen hclose
      exact .more (.char hopen hclose h) htail

/-- A comment inside the first of the comments. -/
theorem nested (h : Closes (depth + 1) text) (hdepth : 0 < depth) :
    Closes depth ('/' :: '*' :: text) := by
  cases h with
  | last => exact absurd hdepth (Nat.lt_irrefl 0)
  | @more _ inner rest hinner hrest =>
      cases hrest with
      | last h => exact .last (.nested hinner h)
      | @more depth body tail h htail =>
          have hsplit : '/' :: '*' :: (inner ++ (body ++ tail)) =
              ('/' :: '*' :: (inner ++ body)) ++ tail := by simp
          rw [hsplit]
          exact .more (.nested hinner h) htail

end Gap.Closes

/-- What is split off inside comments closes all of them, unless the text ends before. -/
theorem Comment.split_closes {depth : Int} (hdepth : 0 < depth) (text : List Char) :
    Gap.Closes depth.toNat (split depth text).1 ∨ (split depth text).2 = [] := by
  fun_induction split depth text with
  | case1 depth rest hzero => omega
  | case2 depth rest hzero comment after heq ih =>
      rw [heq] at ih
      refine (ih (by omega)).imp (fun hcloses => ?_) id
      have hdeeper : (depth + 1).toNat = depth.toNat + 1 := by omega
      exact (hdeeper ▸ hcloses).nested (by omega)
  | case3 depth rest hone =>
      have hlast : depth.toNat = 1 := by omega
      exact .inl (hlast ▸ .last .close)
  | case4 depth rest hmore comment after heq ih =>
      rw [heq] at ih
      refine (ih (by omega)).imp (fun hcloses => ?_) id
      have hdeeper : depth.toNat = (depth - 1).toNat + 1 := by omega
      exact hdeeper ▸ .more .close hcloses
  | case5 depth c rest hopening hclosing comment after heq ih =>
      have hrest := split_append depth rest
      rw [heq] at ih hrest
      refine (ih hdepth).imp (fun hcloses => ?_) id
      obtain ⟨first, others, rfl⟩ := List.exists_cons_of_ne_nil hcloses.ne_nil
      refine hcloses.char ?_ ?_
      · rintro ⟨rfl, hhead⟩
        obtain rfl : first = '*' := by simpa using hhead
        exact hopening _ rfl hrest.symm
      · rintro ⟨rfl, hhead⟩
        obtain rfl : first = '/' := by simpa using hhead
        exact hclosing _ rfl hrest.symm
  | case6 depth => exact .inr rfl

theorem Comment.split_opening (body : List Char) :
    split 0 ('/' :: '*' :: body) = ('/' :: '*' :: (split 1 body).1, (split 1 body).2) := by
  simp [split]

/-- A comment that opens is closed, or the text ends before it is. -/
theorem Comment.blockComment_or_end (body : List Char) :
    Gap.BlockComment (split 0 ('/' :: '*' :: body)).1 ∨ (split 0 ('/' :: '*' :: body)).2 = [] := by
  rw [split_opening]
  refine (split_closes Int.one_pos body).imp (fun hcloses => ?_) id
  exact ⟨_, rfl, hcloses.body⟩

namespace Lexeme

theorem stringBody_of_closeString? {text body after : List Char}
    (h : closeString? text = some (body, after)) :
    ∃ inner, body = inner ++ ['"'] ∧ Gap.StringBody inner := by
  fun_induction closeString? text generalizing body after with
  | case1 rest =>
      cases h
      exact ⟨[], rfl, .nil⟩
  | case2 c rest ih =>
      obtain ⟨⟨tail, behind⟩, htail, heq⟩ := Option.map_eq_some_iff.mp h
      cases heq
      obtain ⟨inner, rfl, hinner⟩ := ih htail
      exact ⟨'\\' :: c :: inner, rfl, .escaped hinner⟩
  | case3 => cases h
  | case4 => cases h
  | case5 c rest hquote hescape hfeed hbackslash ih =>
      obtain ⟨⟨tail, behind⟩, htail, heq⟩ := Option.map_eq_some_iff.mp h
      cases heq
      obtain ⟨inner, rfl, hinner⟩ := ih htail
      have hplain : c ≠ '\\' := by
        rintro rfl
        cases rest with
        | nil => exact hbackslash rfl rfl
        | cons next rest => exact hescape next rest rfl rfl
      exact ⟨c :: inner, rfl, .plain hquote hplain hfeed hinner⟩
  | case6 => cases h

/-- A run goes on to the first character outside its class. -/
theorem run_stops {kind : Option Token.Kind} {inClass : Char → Bool} {c next : Char}
    {rest : List Char} (h : next ∈ (run kind inClass c rest).rest.head?) :
    inClass next = false := by
  have hstops := List.head?_dropWhile_not inClass rest
  have hnext : (rest.dropWhile inClass).head? = some next := h
  rw [hnext] at hstops
  exact hstops

theorem inClass_of_mem_takeWhile {inClass : Char → Bool} {text : List Char} {c : Char}
    (h : c ∈ text.takeWhile inClass) : inClass c :=
  List.all_eq_true.mp List.all_takeWhile c h

theorem pieceBefore_lineComment (tail : List Char) :
    Gap.PieceBefore (run none (· ≠ '\n') '/' ('/' :: tail)).rest
      (run none (· ≠ '\n') '/' ('/' :: tail)).value := by
  refine .lineComment ⟨tail.takeWhile (· ≠ '\n'), by simp [run], ?_⟩ ?_
  · intro hfeed
    simpa using inClass_of_mem_takeWhile hfeed
  · intro next hnext
    simpa using run_stops hnext

theorem pieceBefore_ofComment (body : List Char) :
    Gap.PieceBefore (ofComment ('/' :: '*' :: body)).rest
      (ofComment ('/' :: '*' :: body)).value := by
  by_cases hclosed : ∃ front, front <+: '/' :: '*' :: body ∧ Gap.BlockComment front
  · obtain ⟨front, ⟨rest, hrest⟩, hcomment⟩ := hclosed
    rw [← hrest, ofComment, Comment.split_comment hcomment]
    exact .blockComment hcomment
  · -- were something left, what is split off would be a whole comment
    have hwhole := Comment.split_append 0 ('/' :: '*' :: body)
    rcases Comment.blockComment_or_end body with hcomment | hends
    · exact absurd ⟨_, ⟨_, hwhole⟩, hcomment⟩ hclosed
    · rw [hends, List.append_nil] at hwhole
      rw [ofComment]
      dsimp only
      rw [hends, hwhole]
      refine .unterminated ⟨⟨body, rfl⟩, fun front hfront hcomment => ?_⟩
      exact hclosed ⟨front, hfront, hcomment⟩

/-- What is skipped is one piece of a gap. -/
theorem pieceBefore_of_skipped {c : Char} {rest : List Char} (h : (first c rest).kind = none) :
    Gap.PieceBefore (first c rest).rest (first c rest).value := by
  unfold first at h ⊢
  by_cases hlayout : isLayout c
  · rw [if_pos hlayout]
    refine .blanks (List.forall_mem_cons.mpr ⟨isLayout_iff.mp hlayout, ?_⟩)
    intro next hnext
    exact isLayout_iff.mp (inClass_of_mem_takeWhile hnext)
  rw [if_neg hlayout] at h ⊢
  by_cases hstart : isIdentStart c
  · simp [hstart, run] at h
  rw [if_neg hstart] at h ⊢
  split
  · exact pieceBefore_lineComment _
  · exact pieceBefore_ofComment _
  · next hmatch =>
      unfold ofQuote at h ⊢
      split
      · next body after hclose =>
          obtain ⟨inner, rfl, hinner⟩ := stringBody_of_closeString? hclose
          exact .stringLiteral ⟨inner, rfl, hinner⟩
      · next hopen => simp [hopen] at h
  · simp at h
  · simp at h
  · simp at h

theorem not_isIdentStart_of_pairs {c next : Char} (h : Pairs c next) : ¬isIdentStart c := by
  rcases h with ⟨rfl, -⟩ | ⟨rfl, -⟩ | ⟨rfl, -⟩ <;> decide

theorem not_continues_word {text : List Char} (h : IsIdentifier text) {next : Char}
    (hnext : isIdentChar next = false) : ¬Token.Continues text next := by
  rintro (⟨-, hchar⟩ | ⟨first, rfl, hpair⟩)
  · rw [hnext] at hchar
    cases hchar
  · obtain ⟨c, rest, heq, hstart, -⟩ := h
    obtain ⟨rfl, -⟩ := List.cons.inj heq
    exact not_isIdentStart_of_pairs hpair hstart

theorem not_continues_mark {c next : Char} (hstart : ¬isIdentStart c) (hpair : ¬Pairs c next) :
    ¬Token.Continues [c] next := by
  rintro (⟨⟨first, rest, heq, hfirst, -⟩, -⟩ | ⟨first, heq, hfirst⟩)
  · obtain ⟨rfl, -⟩ := List.cons.inj heq
    exact hstart hfirst
  · obtain ⟨rfl, -⟩ := List.cons.inj heq
    exact hpair hfirst

theorem not_continues_pair {c second next : Char} (hstart : ¬isIdentStart c) :
    ¬Token.Continues [c, second] next := by
  rintro (⟨⟨first, rest, heq, hfirst, -⟩, -⟩ | ⟨first, heq, -⟩)
  · obtain ⟨rfl, -⟩ := List.cons.inj heq
    exact hstart hfirst
  · cases heq

/-- What is taken is the text of a token, and what follows does not continue it. -/
theorem spells_of_taken {c : Char} {rest : List Char} {kind : Token.Kind}
    (h : (first c rest).kind = some kind) :
    Token.Spells kind (first c rest).value ∧
      ∀ next ∈ (first c rest).rest.head?, ¬Token.Continues (first c rest).value next := by
  by_cases hlayout : isLayout c
  · rw [first_blank (isLayout_iff.mp hlayout)] at h
    cases h
  by_cases hstart : isIdentStart c
  · have hfirst : first c rest = run (some .ident) isIdentChar c rest := by
      unfold first
      rw [if_neg hlayout, if_pos hstart]
    have hword := @isIdentifier_of_kind c rest
    rw [hfirst] at h hword ⊢
    obtain rfl : Token.Kind.ident = kind := Option.some.inj h
    exact ⟨.ident (hword h), fun next hnext => not_continues_word (hword h) (run_stops hnext)⟩
  have hblank : c ∉ Gap.blanks := mt isLayout_iff.mpr hlayout
  by_cases hquote : c = '"'
  · subst hquote
    have hfirst : first '"' rest = ofQuote rest := rfl
    rw [hfirst, ofQuote] at h ⊢
    split at h
    · cases h
    · next hopen =>
        obtain rfl : Token.Kind.other = kind := Option.some.inj h
        refine ⟨.mark hblank hstart, fun next _ => not_continues_mark hstart ?_⟩
        simp [Pairs]
  by_cases hpair : ∀ next ∈ rest.head?, ¬Pairs c next
  · rw [first_mark hlayout hstart hquote hpair] at h ⊢
    obtain rfl : Token.Kind.ofMark c = kind := Option.some.inj h
    exact ⟨.mark hblank hstart, fun next hnext => not_continues_mark hstart (hpair next hnext)⟩
  · cases rest with
    | nil => simp at hpair
    | cons next tail =>
        have hpairs : Pairs c next := by simpa using hpair
        rcases hpairs with ⟨rfl, rfl | rfl⟩ | ⟨rfl, rfl⟩ | ⟨rfl, rfl⟩
        · cases h
        · cases h
        · cases h
          exact ⟨.pathSep, fun _ _ => not_continues_pair hstart⟩
        · cases h
          exact ⟨.arrow, fun _ _ => not_continues_pair hstart⟩

end Lexeme

/-- Whether tokens with the gaps behind them are what scanning makes of their text, of
which the first begins on the line. -/
inductive Layout.Fits : Nat → List (Token × List Char) → Prop where
  | nil {line : Nat} : Fits line []
  | cons {line : Nat} {token : Token} {gap : List Char} {items : List (Token × List Char)}
      (hline : token.line = line) (hspells : Token.Spells token.kind token.value.toList)
      (hgap : Gap.Before (written items) gap)
      (hlongest : ∀ next ∈ (gap ++ written items).head?,
        ¬Token.Continues token.value.toList next)
      (hitems : Fits (line + countLines (token.value.toList ++ gap)) items) :
      Fits line ((token, gap) :: items)

/-- Scanning cuts a text into gaps and tokens. The induction is on the lexemes: one that is
skipped goes to the gap in front, one that is taken begins a new item. -/
theorem Token.exists_layout (line : Nat) (text : List Char) :
    ∃ lead items, lead ++ Layout.written items = text ∧
      items.map Prod.fst = scanFrom line text ∧ Gap.Before (Layout.written items) lead ∧
      Layout.Fits (line + countLines lead) items := by
  induction text using Lexeme.all.induct generalizing line with
  | case1 => exact ⟨[], [], rfl, by simp [scanFrom], .nil, .nil⟩
  | case2 c rest ih =>
      have hwhole := Lexeme.value_append_rest c rest
      have hskipped := @Lexeme.pieceBefore_of_skipped c rest
      have htaken := @Lexeme.spells_of_taken c rest
      obtain ⟨kind, value, after, hfirst⟩ :
          ∃ kind value after, Lexeme.first c rest = ⟨kind, value, after⟩ := ⟨_, _, _, rfl⟩
      rw [hfirst] at hwhole hskipped htaken ih
      obtain ⟨lead, items, rfl, htokens, hlead, hitems⟩ := ih (line + countLines value)
      dsimp only at hwhole hskipped htaken htokens hlead hitems
      cases kind with
      | none =>
          refine ⟨value ++ lead, items, ?_, ?_, .cons (hskipped rfl) hlead, ?_⟩
          · rw [List.append_assoc, hwhole]
          · rw [scanFrom_skipped hfirst, htokens]
          · rw [countLines_append, ← Nat.add_assoc]
            exact hitems
      | some kind =>
          obtain ⟨hspells, hlongest⟩ := htaken rfl
          refine ⟨[], (⟨kind, String.ofList value, line⟩, lead) :: items, ?_, ?_, .nil, ?_⟩
          · simpa [Layout.written] using hwhole
          · rw [scanFrom_taken hfirst, ← htokens, List.map_cons]
          · refine .cons (by simp [countLines]) ?_ hlead ?_ ?_
            · rw [String.toList_ofList]
              exact hspells
            · rw [String.toList_ofList]
              exact hlongest
            · rw [String.toList_ofList, countLines_append]
              simpa [countLines, Nat.add_assoc] using hitems

namespace Layout

/-- What is written behind the gap of the token with the given index. -/
def behind (layout : Layout) (index : Nat) : List Char :=
  written (layout.items.drop (index + 1))

/-- How a token with the gap behind it stands in a layout that scanning has made: on its
line, with the only kind of its text, in front of a gap and not continued. -/
structure Stands (layout : Layout) (index : Nat) (token : Token) (gap : List Char) : Prop where
  line : token.line = 1 + countLines (layout.before index)
  kind : ∀ kind, Token.Spells kind token.value.toList ↔ kind = token.kind
  gap_before : Gap.Before (layout.behind index) gap
  longest : ∀ next ∈ (gap ++ layout.behind index).head?,
    ¬Token.Continues token.value.toList next

/-- Whether a layout is a text with its tokens and gaps told apart. -/
structure Covers (layout : Layout) (text : String) : Prop where
  text_eq : layout.text = text
  tokens_eq : layout.items.map Prod.fst = Token.scan text
  lead : Gap.Before (written layout.items) layout.lead
  items : ∀ index token gap, layout.items[index]? = some (token, gap) →
    layout.Stands index token gap

theorem Fits.stands {items : List (Token × List Char)} {line : Nat}
    (h : Fits line items) {front : List Char} (hline : line = 1 + countLines front) {index : Nat}
    {token : Token} {gap : List Char} (hitem : items[index]? = some (token, gap)) :
    (Layout.mk front items).Stands index token gap := by
  induction h generalizing front index with
  | nil => simp at hitem
  | @cons line first firstGap items hfirst hspells hgap hlongest _ ih =>
      cases index with
      | zero =>
          obtain ⟨rfl, rfl⟩ : first = token ∧ firstGap = gap := by simpa using hitem
          refine ⟨?_, ?_, hgap, hlongest⟩
          · rw [hfirst, hline]
            simp [before, written]
          · exact fun kind => ⟨hspells.unique, fun heq => heq ▸ hspells⟩
      | succ index =>
          have hcount : line + countLines (first.value.toList ++ firstGap) =
              1 + countLines (front ++ (first.value.toList ++ firstGap)) := by
            rw [hline, countLines_append front, Nat.add_assoc]
          obtain ⟨hlater, hkind, hbefore, hmore⟩ := ih hcount hitem
          refine ⟨?_, hkind, hbefore, hmore⟩
          rw [hlater]
          simp [before, written]

end Layout

/-- Every text is what scanning it gives: its tokens, in order, with gaps around them. -/
theorem Token.scan_covers (text : String) : ∃ layout : Layout, layout.Covers text := by
  obtain ⟨lead, items, htext, htokens, hlead, hitems⟩ := exists_layout 1 text.toList
  refine ⟨⟨lead, items⟩, ?_, htokens, hlead, ?_⟩
  · rw [Layout.text, htext, String.ofList_toList]
  · intro index token gap hitem
    exact hitems.stands rfl hitem

end IndicatorWrap
