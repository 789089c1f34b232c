import IndicatorWrap.Proofs.Declaration.Faults
import IndicatorWrap.Proofs.Declaration.Runs

/-!
Reports of malformed declarations. A report names the header that was entered
last and the first token behind it that no declaration has there, or the end of
the text; what stands between the two begins some declaration.
-/

namespace IndicatorWrap

open Text

/-- `"pub" "fn" declaration` -/
inductive Derives.Item : List Token → Signature → Prop where
  | mk {visibility keyword : Token} {tokens : List Token} {signature : Signature}
      (hpub : visibility.isWord "pub") (hfn : keyword.isWord "fn")
      (hdeclaration : Declaration tokens signature) :
      Item (visibility :: keyword :: tokens) signature

open Signature Token in
/-- What a report on the declaration behind the header at `place` has to be, where
`stop` is the place at which the reading of it has ended. -/
structure Malformed.ReportedAt (error : Malformed) (text : String) (place stop : Nat) : Prop where
  header : headerAt (scan text) place
  name : ∃ name ∈ (scan text)[place + 2]?, error.function = name.value
  entered : (Cursor.mk (scan text) place "").readDeclaration =
    (.error error, ⟨scan text, stop, error.function⟩)
  /-- Of a later header at most the first token was passed. -/
  last : ∀ other, headerAt (scan text) other → place < other → stop ≤ other + 1
  undeclared : ∀ signature, ¬DeclaredAt (scan text) place signature
  behind : place + 4 ≤ stop
  inside : stop ≤ (scan text).length
  found : error.found = (scan text)[stop]?
  viable : ∃ next more signature,
    Derives.Item (slice (scan text) place stop ++ next :: more) signature
  earliest : ∀ token ∈ (scan text)[stop]?, ∀ more signature,
    ¬Derives.Item (slice (scan text) place stop ++ token :: more) signature
  atToken : ∀ token ∈ (scan text)[stop]?,
    token.line = 1 + countLines (textBefore text stop) ∧
      (ExtractionError.malformed error).report.message =
        "Malformed declaration " ++ error.function ++ " at line " ++
          decimal (1 + countLines (textBefore text stop)) ++ ": expected " ++
          error.expected.text ++ ", found " ++ quoted token.value
  atEnd : stop = (scan text).length →
    (ExtractionError.malformed error).report.message =
      "Malformed declaration " ++ error.function ++ " at end of input: expected " ++
        error.expected.text ++ ", found end of input"

namespace Malformed

theorem message_of_token {error : Malformed} {token : Token} (h : error.found = some token) :
    error.message = "Malformed declaration " ++ error.function ++ " at line " ++
      decimal token.line ++ ": expected " ++ error.expected.text ++ ", found " ++
      quoted token.value := by
  have hplace : " at line " = " " ++ "at line " := rfl
  unfold message
  rw [h, hplace]
  dsimp only
  rw [← String.append_assoc, ← String.append_assoc]

theorem message_of_end {error : Malformed} (h : error.found = none) :
    error.message = "Malformed declaration " ++ error.function ++ " at end of input: expected " ++
      error.expected.text ++ ", found end of input" := by
  have hplace : " at end of input: expected " = " " ++ "at end of input" ++ ": expected " := rfl
  have hfound : ", found end of input" = ", found " ++ "end of input" := rfl
  unfold message
  rw [h, hplace, hfound]
  dsimp only
  simp only [String.append_assoc]

end Malformed

section

variable {tokens taken rest : List Token} {place : Nat} {visibility keyword name : Token}

theorem Signature.header_apart_of_viable {next : Token} {more : List Token} {signature : Signature}
    (hdrop : tokens.drop place = visibility :: keyword :: name :: (taken ++ rest))
    (hheader : headerAt tokens place)
    (hviable : Derives.Declaration (name :: (taken ++ next :: more)) signature) :
    ∀ other, headerAt tokens other → place < other → place + 3 + taken.length ≤ other + 1 := by
  intro other hother hbehind
  by_contra hlt
  have hsecond : other ≠ place + 1 := by
    rintro rfl
    exact not_headerAt_succ hheader hother
  obtain ⟨index, rfl⟩ := Nat.exists_eq_add_of_le (show place + 2 ≤ other by omega)
  obtain ⟨first, second, hfirst, hsecond, hpub, hfn⟩ := headerAt_words hother
  -- Both words of the later header are among the tokens that were taken.
  have hsame : ∀ index < taken.length + 1,
      tokens[place + 2 + index]? = (name :: (taken ++ next :: more))[index]? := by
    intro index hindex
    rw [Nat.add_assoc, ← List.getElem?_drop, hdrop, Nat.add_comm 2, List.getElem?_cons_succ,
      List.getElem?_cons_succ, ← List.cons_append, ← List.cons_append,
      List.getElem?_append_left hindex, List.getElem?_append_left hindex]
  rw [hsame index (by omega)] at hfirst
  rw [Nat.add_assoc, hsame (index + 1) (by omega)] at hsecond
  exact hviable.not_words hfirst hsecond hpub hfn

/-- The reading goes beyond the parenthesis of the header. -/
theorem Signature.taken_ne_nil_of_halts {derived : List Token → Prop} {expected : Expected}
    (hname : name.kind = .ident)
    (hheader : headerAt (visibility :: keyword :: name :: (taken ++ rest)) 0)
    (hhalts : Reading.Halts (readAfter name) derived expected taken rest.head?) : taken ≠ [] := by
  rintro rfl
  simp only [headerAt, Bool.and_eq_true, Option.any_eq_true] at hheader
  obtain ⟨-, paren, hparen, hopen⟩ := hheader
  have hfirst : rest.head? = some paren := by rwa [List.head?_eq_getElem?]
  rw [hfirst] at hhalts
  exact not_derives_of_halts hhalts [Token.someClose] _
    (.mk hname (beq_iff_eq.mp hopen) .none rfl)

end

open Signature in
/-- A reading that gets stuck behind a header makes a report on it. -/
theorem Malformed.reportedAt_of_stuck {text : String} {place : Nat} {begun behind rest : List Token}
    {name : Token} {expected : Expected} (hdrop : (Token.scan text).drop place = begun)
    (hheader : header? begun = some (name, behind))
    (hread : readAfter name behind = .stuck expected rest) :
    ∃ stop, stop + rest.length = (Token.scan text).length ∧
      (Malformed.mk name.value expected rest.head?).ReportedAt text place stop := by
  obtain ⟨hname, hbegun, visibility, keyword, rfl⟩ := header?_eq_some hheader
  obtain ⟨taken, rfl, hhalts⟩ := readAfter_prompt hname _ _ _ hread
  obtain ⟨next, more, -, signature, hderives⟩ := hhalts.viable
  have hplace : headerAt (Token.scan text) place := by
    simpa [headerAt, ← hdrop, List.getElem?_drop] using hbegun
  obtain ⟨hpub, hfn⟩ : visibility.isWord "pub" ∧ keyword.isWord "fn" := by
    obtain ⟨first, second, hfirst, hsecond, hwords⟩ := headerAt_words hbegun
    cases hfirst
    cases hsecond
    exact hwords
  have hbehind : (Token.scan text).drop (place + 2) = name :: (taken ++ rest) := by
    rw [← List.drop_drop, hdrop]
    rfl
  have htaken : (visibility :: keyword :: name :: taken) ≠ [] := List.cons_ne_nil _ _
  obtain ⟨hinside, hslice⟩ := (Token.slice_eq_iff htaken).mpr ⟨rest, hdrop, rfl⟩
  generalize hstop : place + (visibility :: keyword :: name :: taken).length = stop
    at hinside hslice
  have hlength : stop = place + 3 + taken.length := by
    simp only [← hstop, List.length_cons]
    omega
  have hrest : (Token.scan text).drop stop = rest := by
    rw [← hstop, ← List.drop_drop, hdrop]
    exact List.drop_left
  have hfound : rest.head? = (Token.scan text)[stop]? := by
    rw [← hrest, List.head?_drop]
  refine ⟨stop, ?_, ?_⟩
  · have hdropped := congrArg List.length hrest
    rw [List.length_drop] at hdropped
    omega
  constructor
  case header => exact hplace
  case name =>
    refine ⟨name, ?_, rfl⟩
    rw [Option.mem_def, ← List.head?_drop, hbehind, List.head?_cons]
  case entered =>
    rw [Cursor.readDeclaration_of_stuck hbehind hname hread, hlength]
  case last =>
    rw [hlength]
    exact header_apart_of_viable hdrop hplace hderives
  case undeclared => exact not_declaredAt_of_stuck hbehind hread
  case behind =>
    have htaken := taken_ne_nil_of_halts hname hbegun hhalts
    have hpos := List.length_pos_iff.mpr htaken
    omega
  case inside => exact hinside
  case found => exact hfound
  case viable =>
    rw [hslice]
    exact ⟨next, more, signature, .mk hpub hfn hderives⟩
  case earliest =>
    intro token htoken more signature hitem
    rw [hslice] at hitem
    obtain ⟨-, -, hdeclaration⟩ := hitem
    rw [Option.mem_def, ← hfound] at htoken
    exact not_derives_of_halts (htoken ▸ hhalts) more signature hdeclaration
  case atToken =>
    intro token htoken
    have hline : token.line = 1 + countLines (Token.textBefore text stop) :=
      (Token.scanFrom_place htoken).2
    refine ⟨hline, ?_⟩
    rw [← hline]
    exact message_of_token (hfound.trans htoken)
  case atEnd =>
    intro hend
    apply message_of_end
    rw [hfound, hend, List.getElem?_eq_none_iff]

/-- A malformed declaration is reported at the earliest token possible: the
signatures in front of it are pulled, and the pull behind them stops there. -/
theorem extract_malformed {text : String} {error : Malformed}
    (h : (extract none text).status = .failed (.malformed error)) :
    ∃ reached place stop,
      (Cursor.ofTokens (Token.scan text)).Pulls (extract none text).signatures reached ∧
      reached.next = (.error error, ⟨Token.scan text, stop, error.function⟩) ∧
      reached.position ≤ place ∧ error.ReportedAt text place stop := by
  obtain ⟨reached, final, hpulls, hnext⟩ := Cursor.pulls_of_malformed rfl h
    (show (Cursor.ofTokens (Token.scan text)).ahead = Token.scan text from rfl)
  have htokens : reached.tokens = Token.scan text := hpulls.tokens_eq
  obtain ⟨front, begun, name, behind, expected, rest, hahead, hheader, hread, rfl, hpull⟩ :=
    Pull.ofTokens_error (congrArg Prod.fst hnext)
  have hdrop : (Token.scan text).drop (reached.position + front.length) = begun := by
    rw [← htokens, ← List.drop_drop]
    change reached.ahead.drop front.length = begun
    rw [hahead, List.drop_left]
  obtain ⟨stop, hlength, hreported⟩ := Malformed.reportedAt_of_stuck hdrop hheader hread
  refine ⟨reached, reached.position + front.length, stop, hpulls, ?_, Nat.le_add_right _ _,
    hreported⟩
  have hposition : reached.position + (reached.ahead.length - rest.length) = stop := by
    have hreached : reached.ahead.length = (Token.scan text).length - reached.position := by
      rw [← htokens]
      exact List.length_drop
    have hbehind := hreported.behind
    omega
  rw [Cursor.next, hpull, Cursor.advanceTo, hposition, htokens]

/-- A declaration that is not closed before the next one, behind two that are. -/
def unclosed : String :=
  "pub fn TA_A(x: f64);\npub fn TA_B();\n/* c\n */ pub fn TA_C(y: *const std::f64\n" ++
    "pub fn TA_D(z: f64)"

theorem unclosed_malformed :
    (extract none unclosed).status =
        .failed (.malformed ⟨"TA_C", .commaOrClose, some ⟨.ident, "pub", 5⟩⟩) ∧
      ∃ reached place stop,
        (Cursor.ofTokens (Token.scan unclosed)).Pulls [⟨"TA_A", [⟨"x", "f64"⟩], 1⟩] reached ∧
        reached.position ≤ place ∧
        (Malformed.mk "TA_C" .commaOrClose (some ⟨.ident, "pub", 5⟩)).ReportedAt unclosed place
          stop := by
  have hstatus : (extract none unclosed).status =
      .failed (.malformed ⟨"TA_C", .commaOrClose, some ⟨.ident, "pub", 5⟩⟩) := by
    decide +kernel
  have hsignatures : (extract none unclosed).signatures = [⟨"TA_A", [⟨"x", "f64"⟩], 1⟩] := by
    decide +kernel
  obtain ⟨reached, place, stop, hpulls, -, hplace, hreported⟩ := extract_malformed hstatus
  rw [hsignatures] at hpulls
  exact ⟨hstatus, reached, place, stop, hpulls, hplace, hreported⟩

end IndicatorWrap
