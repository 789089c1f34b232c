import IndicatorWrap.Proofs.Token.Gap
import Mathlib.Data.List.TakeWhile

/-!
Texts with a semicolon and a line feed at their end. Of what begins in front of such a
seam only a comment reaches over it, and a comment swallows the semicolon. So if the
semicolon is a token, scanning goes on behind the seam as if it began there.
-/

namespace IndicatorWrap

open Text

/-- The end of a text that others may be put behind. -/
def Token.seam : List Char :=
  [';', '\n']

theorem takeWhile_stop {p : Char → Bool} {stop : Char} (h : p stop = false)
    (front back : List Char) :
    (front ++ stop :: back).takeWhile p = front.takeWhile p ∧
      (front ++ stop :: back).dropWhile p = front.dropWhile p ++ stop :: back := by
  induction front with
  | nil => simp [h]
  | cons first rest ih =>
      by_cases hfirst : p first
      · simp [hfirst, ih]
      · simp [hfirst]

/-- A semicolon makes no delimiter with the character in front of it. -/
theorem Comment.split_cons_seam {c : Char} {rest : List Char}
    (hopen : ∀ tail, c = '/' → rest = '*' :: tail → False)
    (hclose : ∀ tail, c = '*' → rest = '/' :: tail → False) (depth : Int) (back : List Char) :
    split depth (c :: (rest ++ ';' :: back)) =
      (c :: (split depth (rest ++ ';' :: back)).1, (split depth (rest ++ ';' :: back)).2) := by
  apply split_cons
  · rintro ⟨hc, hhead⟩
    cases rest with
    | nil => simp at hhead
    | cons next tail => exact hopen tail hc (by simpa using hhead)
  · rintro ⟨hc, hhead⟩
    cases rest with
    | nil => simp at hhead
    | cons next tail => exact hclose tail hc (by simpa using hhead)

/-- A comment that is closed stays as it is; one that is not runs over the seam. -/
theorem Comment.split_seam (depth : Int) (text : List Char) :
    (∀ back, split depth (text ++ ';' :: back) =
        ((split depth text).1, (split depth text).2 ++ ';' :: back)) ∨
      (split depth text).2 = [] ∧ (split depth (text ++ Token.seam)).2 = [] := by
  fun_induction split depth text with
  | case1 depth rest h => exact .inl fun back => by simp [split, h]
  | case2 depth rest h comment after heq ih =>
      rw [heq] at ih
      refine ih.imp (fun hclosed back => ?_) (fun hopen => ⟨hopen.1, ?_⟩)
      · simp [split, h, hclosed]
      · simp [split, h, hopen.2]
  | case3 depth rest h => exact .inl fun back => by simp [split, h]
  | case4 depth rest h comment after heq ih =>
      rw [heq] at ih
      refine ih.imp (fun hclosed back => ?_) (fun hopen => ⟨hopen.1, ?_⟩)
      · simp [split, h, hclosed]
      · simp [split, h, hopen.2]
  | case5 depth c rest hopening hclosing comment after heq ih =>
      rw [heq] at ih
      refine ih.imp (fun hclosed back => ?_) (fun hopen => ⟨hopen.1, ?_⟩)
      · rw [List.cons_append, split_cons_seam hopening hclosing, hclosed]
      · rw [List.cons_append, Token.seam, split_cons_seam hopening hclosing]
        exact hopen.2
  | case6 depth => exact .inr (by simp [split, Token.seam])

/-- A literal that is not closed does not go on behind the line feed, because nothing
escapes that. -/
theorem Lexeme.closeString?_seam (text back : List Char) :
    closeString? (text ++ ';' :: '\n' :: back) =
      (closeString? text).map fun (body, after) => (body, after ++ ';' :: '\n' :: back) := by
  fun_induction closeString? text with
  | case1 rest => rfl
  | case2 c rest ih =>
      simp only [List.cons_append, closeString?, ih, Option.map_map]
      rfl
  | case3 => rfl
  | case4 => rfl
  | case5 c rest hquote hescape hfeed hbackslash ih =>
      have hplain : c ≠ '\\' := by
        rintro rfl
        cases rest with
        | nil => exact hbackslash rfl rfl
        | cons next rest => exact hescape next rest rfl rfl
      simp [closeString?, ih, hplain]
      rfl
  | case6 => rfl

namespace Lexeme

/-- Whether two characters begin a lexeme together. -/
def Pairs (first second : Char) : Prop :=
  first = '/' ∧ (second = '/' ∨ second = '*') ∨ first = ':' ∧ second = ':' ∨
    first = '-' ∧ second = '>'

theorem first_mark {c : Char} {rest : List Char} (hlayout : ¬isLayout c) (hstart : ¬isIdentStart c)
    (hquote : c ≠ '"') (hpair : ∀ next ∈ rest.head?, ¬Pairs c next) :
    first c rest = ⟨some (.ofMark c), [c], rest⟩ := by
  unfold first
  rw [if_neg hlayout, if_neg hstart]
  split
  · exact absurd (.inl ⟨rfl, .inl rfl⟩) (hpair '/' rfl)
  · exact absurd (.inl ⟨rfl, .inr rfl⟩) (hpair '*' rfl)
  · exact absurd rfl hquote
  · exact absurd (.inr (.inl ⟨rfl, rfl⟩)) (hpair ':' rfl)
  · exact absurd (.inr (.inr ⟨rfl, rfl⟩)) (hpair '>' rfl)
  · rfl

/-- The lexeme with more text behind it. -/
def followedBy (lexeme : Lexeme) (back : List Char) : Lexeme :=
  { lexeme with rest := lexeme.rest ++ back }

theorem run_of_stop {kind : Option Token.Kind} {inClass : Char → Bool} {stop : Char}
    (h : inClass stop = false) (c : Char) (rest back : List Char) :
    run kind inClass c (rest ++ stop :: back) =
      (run kind inClass c rest).followedBy (stop :: back) := by
  obtain ⟨htake, hdrop⟩ := takeWhile_stop h rest back
  rw [run, htake, hdrop, run, followedBy]

theorem run_of_stopped {kind : Option Token.Kind} {inClass : Char → Bool} {c : Char}
    {rest : List Char} (h : (run kind inClass c rest).rest ≠ []) (back : List Char) :
    run kind inClass c (rest ++ back) = (run kind inClass c rest).followedBy back := by
  have hdrop : (rest.dropWhile inClass).isEmpty = false := by
    simpa [run] using h
  have htake : (rest.takeWhile inClass).length ≠ rest.length := by
    have htotal := congrArg List.length (List.takeWhile_append_dropWhile (p := inClass) (l := rest))
    have hpos : 0 < (rest.dropWhile inClass).length := List.length_pos_iff.mpr h
    rw [List.length_append] at htotal
    omega
  simp [run, followedBy, List.takeWhile_append, List.dropWhile_append, hdrop, htake]

/-- Whether a lexeme is skipped that runs to the end of the text, and on over a seam. -/
structure Swallows (c : Char) (rest : List Char) : Prop where
  skipped : (first c rest).kind = none
  ends : (first c rest).rest = []
  skipped_seam : (first c (rest ++ Token.seam)).kind = none
  /-- A line comment leaves the line feed. -/
  ends_seam : ∀ next ∈ (first c (rest ++ Token.seam)).rest, next = '\n'

theorem lineComment_seam (tail : List Char) :
    (∀ back, first '/' ('/' :: tail ++ (Token.seam ++ back)) =
        (first '/' ('/' :: tail)).followedBy (Token.seam ++ back)) ∨ Swallows '/' ('/' :: tail) := by
  by_cases hends : (first '/' ('/' :: tail)).rest = []
  · have hinside : ∀ c ∈ '/' :: tail, decide (c ≠ '\n') = true :=
      List.dropWhile_eq_nil_iff.mp hends
    have hrest : (first '/' ('/' :: tail ++ Token.seam)).rest = ['\n'] := by
      change ('/' :: tail ++ Token.seam).dropWhile (· ≠ '\n') = ['\n']
      rw [List.dropWhile_append_of_pos hinside]
      rfl
    exact .inr ⟨rfl, hends, rfl, hrest ▸ by simp⟩
  · exact .inl fun back => run_of_stopped hends (Token.seam ++ back)

theorem blockComment_seam (tail : List Char) :
    (∀ back, first '/' ('*' :: tail ++ (Token.seam ++ back)) =
        (first '/' ('*' :: tail)).followedBy (Token.seam ++ back)) ∨ Swallows '/' ('*' :: tail) := by
  rcases Comment.split_seam 0 ('/' :: '*' :: tail) with hclosed | ⟨hends, hover⟩
  · refine .inl fun back => ?_
    change ofComment ('/' :: '*' :: tail ++ ';' :: ('\n' :: back)) = _
    rw [ofComment, hclosed]
    rfl
  · refine .inr ⟨rfl, hends, rfl, ?_⟩
    have hrest : (first '/' ('*' :: tail ++ Token.seam)).rest = [] := hover
    simp only [hrest, List.not_mem_nil, false_implies, implies_true]

theorem ofQuote_seam (rest back : List Char) :
    ofQuote (rest ++ (Token.seam ++ back)) = (ofQuote rest).followedBy (Token.seam ++ back) := by
  have hclose : closeString? (rest ++ (Token.seam ++ back)) = _ := closeString?_seam rest back
  rw [ofQuote, ofQuote, hclose]
  cases closeString? rest with
  | none => rfl
  | some closed => rfl

/-- In front of a seam a lexeme stays as it is, unless it is a comment that swallows it. -/
theorem first_seam (c : Char) (rest : List Char) :
    (∀ back, first c (rest ++ (Token.seam ++ back)) =
        (first c rest).followedBy (Token.seam ++ back)) ∨ Swallows c rest := by
  by_cases hlayout : isLayout c
  · refine .inl fun back => ?_
    unfold first
    rw [if_pos hlayout, if_pos hlayout]
    exact run_of_stop (by decide) c rest _
  by_cases hstart : isIdentStart c
  · refine .inl fun back => ?_
    unfold first
    rw [if_neg hlayout, if_neg hlayout, if_pos hstart, if_pos hstart]
    exact run_of_stop (by decide) c rest _
  by_cases hquote : c = '"'
  · subst hquote
    exact .inl (ofQuote_seam rest)
  by_cases hpair : ∀ next ∈ rest.head?, ¬Pairs c next
  · -- nor does the semicolon pair with the mark, if that comes last
    have hpair_seam : ∀ back, ∀ next ∈ (rest ++ (Token.seam ++ back)).head?, ¬Pairs c next := by
      intro back
      cases rest with
      | nil => simp [Token.seam, Pairs]
      | cons next tail => exact hpair
    refine .inl fun back => ?_
    rw [first_mark hlayout hstart hquote (hpair_seam back), first_mark hlayout hstart hquote hpair]
    rfl
  · cases rest with
    | nil => simp at hpair
    | cons next tail =>
        have hpairs : Pairs c next := by simpa using hpair
        rcases hpairs with ⟨rfl, rfl | rfl⟩ | ⟨rfl, rfl⟩ | ⟨rfl, rfl⟩
        · exact lineComment_seam tail
        · exact blockComment_seam tail
        · exact .inl fun _ => rfl
        · exact .inl fun _ => rfl

end Lexeme

namespace Token

theorem scanFrom_seam (line : Nat) (back : List Char) :
    scanFrom line (seam ++ back) = ⟨.semicolon, ";", line⟩ :: scanFrom (line + 1) back := by
  have hfirst : Lexeme.first ';' ('\n' :: back) = ⟨some .semicolon, [';'], '\n' :: back⟩ := rfl
  change scanFrom line (';' :: '\n' :: back) = _
  rw [scanFrom_taken hfirst, scanFrom_blank (by simp [Gap.blanks])]
  rfl

theorem scanFrom_lineFeeds {text : List Char} (h : ∀ c ∈ text, c = '\n') (line : Nat) :
    scanFrom line text = [] := by
  have hblank : ∀ c ∈ text, c ∈ Gap.blanks := by
    intro c hc
    simp [h c hc, Gap.blanks]
  have hscan := scanFrom_blanks hblank line []
  rw [List.append_nil] at hscan
  rw [hscan, scanFrom]

/-- If the first lexeme stays as it is, what more there is comes from behind it. -/
theorem scanFrom_of_kept {c : Char} {rest back : List Char} {line : Nat} {tokens : List Token}
    (hkept : Lexeme.first c (rest ++ back) = (Lexeme.first c rest).followedBy back)
    (hbehind : scanFrom (line + countLines (Lexeme.first c rest).value)
        ((Lexeme.first c rest).rest ++ back) =
      scanFrom (line + countLines (Lexeme.first c rest).value) (Lexeme.first c rest).rest ++
        tokens) :
    scanFrom line (c :: (rest ++ back)) = scanFrom line (c :: rest) ++ tokens := by
  rw [scanFrom, hkept, Lexeme.followedBy, scanFrom]
  dsimp only
  rw [hbehind]
  split
  · rfl
  · rfl

theorem scanFrom_of_swallows {c : Char} {rest : List Char} (h : Lexeme.Swallows c rest)
    (line : Nat) : scanFrom line (c :: (rest ++ seam)) = [] ∧ scanFrom line (c :: rest) = [] := by
  constructor
  · rw [scanFrom, h.skipped_seam]
    exact scanFrom_lineFeeds h.ends_seam _
  · rw [scanFrom, h.skipped, h.ends]
    exact scanFrom_lineFeeds (by simp) _

/-- Behind a text a seam either begins scanning afresh, or the last lexeme swallows it. -/
theorem scanFrom_append_seam (line : Nat) (text : List Char) :
    (∀ back, scanFrom line (text ++ (seam ++ back)) =
        scanFrom line text ++ scanFrom (line + countLines text) (seam ++ back)) ∨
      scanFrom line (text ++ seam) = scanFrom line text := by
  induction text using Lexeme.all.induct generalizing line with
  | case1 =>
      refine .inl fun back => ?_
      rw [scanFrom]
      rfl
  | case2 c rest ih =>
      have hcount : countLines (c :: rest) = countLines (Lexeme.first c rest).value +
          countLines (Lexeme.first c rest).rest := by
        rw [← countLines_append, Lexeme.value_append_rest]
      rcases Lexeme.first_seam c rest with hkept | hswallows
      · refine (ih (line + countLines (Lexeme.first c rest).value)).imp
          (fun hends back => ?_) (fun hover => ?_)
        · refine scanFrom_of_kept (hkept back) ?_
          rw [hends, hcount, Nat.add_assoc]
        · have hseam := hkept []
          rw [List.append_nil] at hseam
          rw [← List.append_nil (scanFrom _ (Lexeme.first c rest).rest)] at hover
          exact (scanFrom_of_kept hseam hover).trans (List.append_nil _)
      · obtain ⟨hseam, hnone⟩ := scanFrom_of_swallows hswallows line
        exact .inr (hseam.trans hnone.symm)

/-- If scanning makes a token of the semicolon at the end of a text, it goes on behind the
seam as it would begin there, on the line reached. -/
theorem scanFrom_append {line : Nat} {text : List Char} {semicolon : Token}
    (h : scanFrom line (text ++ seam) = scanFrom line text ++ [semicolon]) (back : List Char) :
    scanFrom line (text ++ seam ++ back) =
      scanFrom line (text ++ seam) ++ scanFrom (line + countLines (text ++ seam)) back := by
  rcases scanFrom_append_seam line text with hends | hover
  · have hlines : countLines (text ++ seam) = countLines text + 1 := countLines_append text seam
    have hseam := hends []
    rw [scanFrom_seam, List.append_nil, scanFrom] at hseam
    rw [List.append_assoc, hends, scanFrom_seam, hseam, hlines, List.append_assoc,
      List.singleton_append, Nat.add_assoc]
  · rw [hover] at h
    exact absurd (List.append_right_eq_self.mp h.symm) (List.cons_ne_nil _ _)

end Token

end IndicatorWrap
