import IndicatorWrap.Proofs.Declaration.Concatenation

/-!
Extraction up to a limit. A limited extraction makes the first pulls of the whole one and no
other: it yields the first signatures, and it ends as the whole one does if these are not
enough. So a fault late in a text neither withholds nor alters a signature before it.
-/

namespace IndicatorWrap

/-- Whether a header stands at the place, but no declaration behind it. -/
def Signature.MalformedAt (tokens : List Token) (place : Nat) : Prop :=
  headerAt tokens place ∧ ∀ signature, ¬DeclaredAt tokens place signature

namespace Extraction

/-- What the next pull of a cursor has to come to where an extraction ends. An extraction that
is paused does not make it. -/
def Status.Stops (status : Status) (cursor : Cursor) : Prop :=
  match status with
  | .paused => True
  | .done => cursor.next.1 = .ok none
  | .failed .noDeclarations => cursor.next.1 = .ok none
  | .failed (.malformed error) => cursor.next.1 = .error error

/-- Whether an extraction is one run of a cursor: its signatures are pulled one after the
other, and where they end the cursor stops as the extraction does. -/
def IsRun (extraction : Extraction) (cursor : Cursor) : Prop :=
  ∃ reached, cursor.Pulls extraction.signatures reached ∧ extraction.status.Stops reached

/-- Whether an extraction is another one up to a limit. -/
structure IsLimited (limit : Nat) (whole limited : Extraction) : Prop where
  signatures : limited.signatures = whole.signatures.take limit
  paused_iff : limited.status = .paused ↔ limit ≤ whole.signatures.length
  status_eq : whole.signatures.length < limit → limited.status = whole.status

/-- How an extraction without a limit ends: at a malformed declaration if there is one, and
otherwise with an error exactly if it has found nothing. -/
structure IsWhole (tokens : List Token) (whole : Extraction) : Prop where
  malformed_iff : (∃ error, whole.status = .failed (.malformed error)) ↔
    ∃ place, Signature.MalformedAt tokens place
  noDeclarations_iff : whole.status = .failed .noDeclarations ↔
    whole.signatures = [] ∧ ¬∃ place, Signature.MalformedAt tokens place
  done_iff : whole.status = .done ↔
    whole.signatures ≠ [] ∧ ¬∃ place, Signature.MalformedAt tokens place

variable {limit : Option Nat} {found : Bool} {tokens : List Token}

theorem ofTokens_isRun (limit : Option Nat) (found : Bool) (tokens : List Token) :
    ∀ cursor : Cursor, cursor.ahead = tokens → (ofTokens limit found tokens).IsRun cursor := by
  fun_induction ofTokens limit found tokens with
  | case1 =>
      intro cursor _
      exact ⟨cursor, .nil, trivial⟩
  | case2 limit found tokens _ error hpull =>
      intro cursor hahead
      refine ⟨cursor, .nil, ?_⟩
      rw [Status.Stops, Cursor.next_result, hahead, hpull]
  | case3 limit found tokens _ hpull =>
      intro cursor hahead
      have hnone : cursor.next.1 = .ok none := by rw [Cursor.next_result, hahead, hpull]
      refine ⟨cursor, .nil, ?_⟩
      cases found with
      | false => exact hnone
      | true => exact hnone
  | case4 limit found tokens _ signature hpull more ih =>
      intro cursor hahead
      have hfound : cursor.next.1 = .ok (some signature) := by
        rw [Cursor.next_result, hahead, hpull]
      have hbehind := Cursor.ahead_next hfound
      rw [hahead] at hbehind
      obtain ⟨reached, hpulls, hstops⟩ := ih cursor.next.2 hbehind
      exact ⟨reached, .cons (Prod.ext hfound rfl) hpulls, hstops⟩

theorem ofTokens_isLimited (limit : Nat) (found : Bool) (tokens : List Token) :
    IsLimited limit (ofTokens none found tokens) (ofTokens (some limit) found tokens) := by
  induction limit generalizing found tokens with
  | zero =>
      rw [ofTokens_zero]
      exact ⟨rfl, by simp, by simp⟩
  | succ limit ih =>
      -- both make the same pull, and the limit goes down only if it yields a signature
      have hall : (none : Option Nat) ≠ some 0 := by simp
      have hsome : some (limit + 1) ≠ some 0 := by simp
      rw [ofTokens_pull hall, ofTokens_pull hsome]
      rcases (Pull.ofTokens "" tokens).result with error | _ | signature
      · exact ⟨rfl, by simp, fun _ => rfl⟩
      · refine ⟨rfl, ?_, fun _ => rfl⟩
        cases found <;> simp
      · obtain ⟨hsignatures, hpaused, hstatus⟩ := ih true (Pull.ofTokens "" tokens).rest
        refine ⟨?_, ?_, ?_⟩
        · simpa using hsignatures
        · simpa using hpaused
        · simpa using hstatus

theorem not_paused (found : Bool) (tokens : List Token) :
    (ofTokens none found tokens).status ≠ .paused := by
  generalize hlimit : none = limit
  fun_induction ofTokens limit found tokens with
  | case1 => cases hlimit
  | case2 => simp
  | case3 limit found tokens => cases found <;> simp
  | case4 limit found tokens _ signature _ more ih => exact ih (by rw [← hlimit]; rfl)

/-- An extraction that ends well has found something, now or before. -/
theorem found_of_done (h : (ofTokens limit found tokens).status = .done) :
    found ∨ (ofTokens limit found tokens).signatures ≠ [] := by
  fun_induction ofTokens limit found tokens with
  | case1 => cases h
  | case2 => cases h
  | case3 limit found tokens =>
      cases found with
      | false => cases h
      | true => exact .inl rfl
  | case4 => exact .inr (List.cons_ne_nil _ _)

end Extraction

namespace Signature

/-- A header that closes at once is that of a declaration without parameters. -/
theorem exists_declaredAt_of_closed {tokens : List Token} {place : Nat}
    (hheader : headerAt tokens place) (hclosed : ¬declaringAt tokens place) :
    ∃ signature, DeclaredAt tokens place signature := by
  have hclose : tokens[place + 4]?.any (·.kind == .closeParen) := by
    simpa [declaringAt, hheader] using hclosed
  simp only [headerAt, Bool.and_eq_true, Option.any_eq_true, beq_iff_eq] at hheader hclose
  obtain ⟨⟨-, name, hname, hident, -⟩, paren, hparen, hopen⟩ := hheader
  obtain ⟨close, hclose, hkind⟩ := hclose
  refine ⟨_, [name, paren, close], tokens.drop (place + 5), ?_, .mk hident hopen .none hkind⟩
  obtain ⟨hnameAt, rfl⟩ := List.getElem?_eq_some_iff.mp hname
  obtain ⟨hparenAt, rfl⟩ := List.getElem?_eq_some_iff.mp hparen
  obtain ⟨hcloseAt, rfl⟩ := List.getElem?_eq_some_iff.mp hclose
  rw [List.drop_eq_getElem_cons hnameAt, List.drop_eq_getElem_cons hparenAt,
    List.drop_eq_getElem_cons hcloseAt]
  rfl

end Signature

namespace Extraction

open Signature

/-- An extraction that meets no fault has found a declaration behind each header. -/
theorem exists_declaredAt {tokens : List Token}
    (h : ∀ error, (ofTokens none false tokens).status ≠ .failed (.malformed error)) {place : Nat}
    (hheader : headerAt tokens place) : ∃ signature, DeclaredAt tokens place signature := by
  by_cases hdeclaring : declaringAt tokens place
  · -- whether something was found before does not matter for what is found
    have hfree : ∀ error, (ofTokens none true tokens).status ≠ .failed error := by
      rintro (_ | error) herror
      · cases (of_noDeclarations herror).1
      · rcases ofTokens_found_or true tokens with hsame | ⟨-, hdone, -⟩
        · exact h error (hsame ▸ herror)
        · rw [hdone] at herror
          cases herror
    have hlength : place < tokens.length := by
      obtain ⟨visibility, -, hvisibility, -⟩ := headerAt_words hheader
      exact (List.getElem?_eq_some_iff.mp hvisibility).1
    have hmem : place ∈ headerPlaces tokens :=
      List.mem_filter.mpr ⟨List.mem_range.mpr hlength, hdeclaring⟩
    have hall := (ofTokens_headers hfree).1
    obtain ⟨index, hindex, rfl⟩ := List.getElem_of_mem hmem
    exact ⟨_, hall.get hindex (hall.length_eq ▸ hindex)⟩
  · exact exists_declaredAt_of_closed hheader hdeclaring

/-- The header behind which an extraction got stuck has no declaration. -/
theorem exists_malformedAt {error : Malformed}
    (h : (ofTokens none found tokens).status = .failed (.malformed error)) :
    ∃ place, MalformedAt tokens place := by
  obtain ⟨reached, hpulls, hstops⟩ := ofTokens_isRun none found tokens (.ofTokens tokens) rfl
  rw [h, Status.Stops] at hstops
  have htokens : reached.tokens = tokens := hpulls.tokens_eq
  obtain ⟨front, begun, name, behind, expected, rest, hahead, hheader, hread, -⟩ :=
    Pull.ofTokens_error hstops
  have hdrop : tokens.drop (reached.position + front.length) = begun := by
    rw [← htokens, ← List.drop_drop]
    change reached.ahead.drop front.length = begun
    rw [hahead, List.drop_left]
  obtain ⟨-, hbegun, visibility, keyword, rfl⟩ := header?_eq_some hheader
  refine ⟨reached.position + front.length, ?_, ?_⟩
  · simpa [headerAt, ← hdrop, List.getElem?_drop] using hbegun
  · have hbehind : tokens.drop (reached.position + front.length + 2) = name :: behind := by
      rw [← List.drop_drop, hdrop]
      rfl
    exact not_declaredAt_of_stuck hbehind hread

theorem malformed_iff (tokens : List Token) :
    (∃ error, (ofTokens none false tokens).status = .failed (.malformed error)) ↔
      ∃ place, MalformedAt tokens place := by
  constructor
  · rintro ⟨error, herror⟩
    exact exists_malformedAt herror
  · rintro ⟨place, hheader, hnone⟩
    by_contra hfree
    obtain ⟨signature, hdeclared⟩ :=
      exists_declaredAt (fun error herror => hfree ⟨error, herror⟩) hheader
    exact hnone signature hdeclared

/-- Without a limit and without a fault there are two ends, told apart by what was found. -/
theorem ends_of_no_fault {tokens : List Token}
    (h : ¬∃ error, (ofTokens none false tokens).status = .failed (.malformed error)) :
    ((ofTokens none false tokens).status = .done ∧
        (ofTokens none false tokens).signatures ≠ []) ∨
      ((ofTokens none false tokens).status = .failed .noDeclarations ∧
        (ofTokens none false tokens).signatures = []) := by
  cases hstatus : (ofTokens none false tokens).status with
  | paused => exact absurd hstatus (not_paused false tokens)
  | done => exact .inl ⟨rfl, (found_of_done hstatus).resolve_left Bool.false_ne_true⟩
  | failed error =>
      cases error with
      | noDeclarations => exact .inr ⟨rfl, (of_noDeclarations hstatus).2⟩
      | malformed error => exact absurd ⟨error, hstatus⟩ h

theorem ofTokens_isWhole (tokens : List Token) : IsWhole tokens (ofTokens none false tokens) := by
  refine ⟨malformed_iff tokens, ?_, ?_⟩
  · rw [← malformed_iff]
    constructor
    · intro hnone
      exact ⟨(of_noDeclarations hnone).2, by simp [hnone]⟩
    · rintro ⟨hnil, hfree⟩
      rcases ends_of_no_fault hfree with ⟨-, hsome⟩ | ⟨hnone, -⟩
      · exact absurd hnil hsome
      · exact hnone
  · rw [← malformed_iff]
    constructor
    · intro hdone
      exact ⟨(found_of_done hdone).resolve_left Bool.false_ne_true, by simp [hdone]⟩
    · rintro ⟨hsome, hfree⟩
      rcases ends_of_no_fault hfree with ⟨hdone, -⟩ | ⟨-, hnil⟩
      · exact hdone
      · exact absurd hnil hsome

end Extraction

/-- An extraction up to a limit yields the first signatures of the whole one and is paused if
these are enough; otherwise it ends as the whole one does. Both are runs of a cursor through
the tokens of the text. -/
theorem extract_limited (limit : Nat) (text : String) :
    Extraction.IsLimited limit (extract none text) (extract (some limit) text) ∧
      Extraction.IsWhole (Token.scan text) (extract none text) ∧
      (extract none text).IsRun (.ofTokens (Token.scan text)) ∧
      (extract (some limit) text).IsRun (.ofTokens (Token.scan text)) :=
  ⟨Extraction.ofTokens_isLimited limit false _, Extraction.ofTokens_isWhole _,
    Extraction.ofTokens_isRun _ _ _ _ rfl, Extraction.ofTokens_isRun _ _ _ _ rfl⟩

end IndicatorWrap
