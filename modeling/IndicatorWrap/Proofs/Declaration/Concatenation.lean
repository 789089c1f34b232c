import IndicatorWrap.Proofs.Declaration.Relocation
import IndicatorWrap.Proofs.Declaration.Runs
import IndicatorWrap.Proofs.Declaration.Unbroken
import IndicatorWrap.Proofs.Token.Seam

/-!
Declarations of texts put one behind the other. If the first text ends in a semicolon, each
pull ends in front of it or begins afresh behind it. So the declarations of both together are
those of the first and then those of the second, moved down by the lines of the first, up to
the first fault.
-/

namespace IndicatorWrap

open Text

variable {semicolon : Token}

/-- What a pull comes to from tokens with a semicolon behind them, whatever follows that:
it passes all of them, or it ends among them. -/
inductive Pull.Ends (semicolon : Token) (function : String) (tokens : List Token) : Prop where
  | passed (last : String)
    (h : ∀ back, ofTokens function (tokens ++ semicolon :: back) = ofTokens last back)
  | found (last : String) (more : List Token) (signature : Signature)
    (h : ∀ back, ofTokens function (tokens ++ semicolon :: back) =
      ⟨last, more ++ semicolon :: back, .ok (some signature)⟩)
  | failed (last : String) (more : List Token) (error : Malformed)
    (h : ∀ back, ofTokens function (tokens ++ semicolon :: back) =
      ⟨last, more ++ semicolon :: back, .error error⟩)

namespace Pull

theorem Ends.of_eq {function other : String} {tokens others : List Token}
    (h : Ends semicolon other others)
    (heq : ∀ back, ofTokens function (tokens ++ semicolon :: back) =
      ofTokens other (others ++ semicolon :: back)) : Ends semicolon function tokens := by
  cases h with
  | passed last h => exact .passed last fun back => (heq back).trans (h back)
  | found last more signature h =>
      exact .found last more signature fun back => (heq back).trans (h back)
  | failed last more error h => exact .failed last more error fun back => (heq back).trans (h back)

theorem ends (hkind : semicolon.kind = .semicolon) (function : String) (tokens : List Token) :
    Ends semicolon function tokens := by
  induction hlength : tokens.length using Nat.strong_induction_on generalizing function tokens with
  | _ length ih =>
      subst hlength
      rcases Signature.header?_seam hkind tokens with hnone | ⟨name, behind, hheader⟩
      · cases tokens with
        | nil => exact .passed function fun back => ofTokens_skip (hnone back) function
        | cons token rest =>
            have hrest := ih rest.length (Nat.lt_succ_self _) function rest rfl
            exact hrest.of_eq fun back => ofTokens_skip (hnone back) function
      · have hbehind : behind.length < tokens.length := by
          simpa using Signature.header?_length (hheader [])
        have hname := (Signature.header?_eq_some (hheader [])).1
        rcases Signature.readAfter_seam hkind hname behind with
          ⟨signature, more, hread⟩ | ⟨expected, more, hread⟩
        · have hpull : ∀ back, ofTokens function (tokens ++ semicolon :: back) =
              if signature.parameters.isEmpty then
                ofTokens name.value (more ++ semicolon :: back)
              else ⟨name.value, more ++ semicolon :: back, .ok (some signature)⟩ := by
            intro back
            rw [ofTokens_header (hheader back), hread]
          by_cases hempty : signature.parameters.isEmpty
          · have hmore := (Signature.readAfter_suffix name (behind ++ [semicolon])).length_le
            rw [hread, Reading.rest, List.length_append, List.length_append] at hmore
            have hrest := ih more.length (by omega) name.value more rfl
            exact hrest.of_eq fun back => (hpull back).trans (if_pos hempty)
          · exact .found name.value more signature fun back => (hpull back).trans (if_neg hempty)
        · refine .failed name.value more ⟨name.value, expected, (more ++ [semicolon]).head?⟩
            fun back => ?_
          rw [ofTokens_header (hheader back), hread]
          cases more with
          | nil => rfl
          | cons first more => rfl

end Pull

/-- What an extraction comes to from tokens with a semicolon behind them, whatever follows
that: it meets a fault among them, or it goes on behind them. -/
inductive Extraction.Ends (semicolon : Token) (tokens : List Token) : Prop where
  | failed (signatures : List Signature) (error : Malformed)
    (h : ∀ found back, ofTokens none found (tokens ++ semicolon :: back) =
      ⟨signatures, .failed (.malformed error)⟩)
  | passed (signatures : List Signature)
    (h : ∀ found back, ofTokens none found (tokens ++ semicolon :: back) =
      ⟨signatures ++ (ofTokens none (found || !signatures.isEmpty) back).signatures,
        (ofTokens none (found || !signatures.isEmpty) back).status⟩)

namespace Extraction

theorem ends (hkind : semicolon.kind = .semicolon) (tokens : List Token) :
    Ends semicolon tokens := by
  induction hlength : tokens.length using Nat.strong_induction_on generalizing tokens with
  | _ length ih =>
      subst hlength
      have hall : (none : Option Nat) ≠ some 0 := by simp
      cases Pull.ends hkind "" tokens with
      | passed last hpull =>
          refine .passed [] fun found back => ?_
          have hresult := Pull.ofTokens_congr last "" back
          have hskip : ofTokens none found (tokens ++ semicolon :: back) =
              ofTokens none found back := by
            rw [ofTokens_pull hall, hpull, hresult.1, hresult.2]
            exact (ofTokens_pull hall found back).symm
          simp [hskip]
      | found last more signature hpull =>
          have hmore : more.length < tokens.length := by
            have hfound : (Pull.ofTokens "" (tokens ++ [semicolon])).result =
                .ok (some signature) := by rw [hpull]
            simpa [hpull] using Pull.ofTokens_length hfound
          cases ih more.length hmore more rfl with
          | failed signatures error h =>
              refine .failed (signature :: signatures) error fun found back => ?_
              rw [ofTokens_pull hall, hpull]
              simp [h]
          | passed signatures h =>
              refine .passed (signature :: signatures) fun found back => ?_
              rw [ofTokens_pull hall, hpull]
              simp [h]
      | failed last more error hpull =>
          refine .failed [] error fun found back => ?_
          rw [ofTokens_pull hall, hpull]

theorem ofTokens_found_or (found : Bool) (tokens : List Token) :
    ofTokens none found tokens = ofTokens none false tokens ∨
      found ∧ ofTokens none found tokens = ⟨[], .done⟩ ∧
        ofTokens none false tokens = ⟨[], .failed .noDeclarations⟩ := by
  have hall : (none : Option Nat) ≠ some 0 := by simp
  rw [ofTokens_pull hall, ofTokens_pull hall]
  rcases hpull : (Pull.ofTokens "" tokens).result with error | _ | signature
  · exact .inl rfl
  · cases found with
    | false => exact .inl rfl
    | true => exact .inr ⟨rfl, rfl, rfl⟩
  · exact .inl rfl

theorem of_noDeclarations {limit : Option Nat} {found : Bool} {tokens : List Token}
    (h : (ofTokens limit found tokens).status = .failed .noDeclarations) :
    found = false ∧ (ofTokens limit found tokens).signatures = [] := by
  fun_induction ofTokens limit found tokens with
  | case1 => cases h
  | case2 => cases h
  | case3 limit found tokens _ hpull =>
      cases found with
      | false => exact ⟨rfl, rfl⟩
      | true => cases h
  | case4 limit found tokens _ signature hpull more ih => cases (ih h).1

/-- One extraction and, unless it met a fault, the other behind it. -/
def andThen (first next : Extraction) : Extraction :=
  match first.status with
  | .failed (.malformed _) => first
  | .failed .noDeclarations => next
  | _ =>
    ⟨first.signatures ++ next.signatures,
      if next.status = .failed .noDeclarations then first.status else next.status⟩

/-- The fault at which an extraction ended, if it met one. -/
def fault? (extraction : Extraction) : Option Malformed :=
  match extraction.status with
  | .failed (.malformed error) => some error
  | _ => none

theorem andThen_of_fault {first : Extraction} {error : Malformed} (h : first.fault? = some error)
    (next : Extraction) : first.andThen next = first := by
  unfold fault? at h
  split at h
  · next heq => simp [andThen, heq]
  · cases h

theorem fault?_andThen {first : Extraction} (h : first.fault? = none) (next : Extraction) :
    (first.andThen next).fault? = next.fault? := by
  unfold andThen
  split
  · next error hstatus => simp [fault?, hstatus] at h
  · rfl
  · by_cases hnext : next.status = .failed .noDeclarations
    · simp [fault?, hnext]
    · simp only [fault?, hnext, if_false]

theorem signatures_andThen {first : Extraction} (h : first.fault? = none)
    (hnil : first.status = .failed .noDeclarations → first.signatures = []) (next : Extraction) :
    (first.andThen next).signatures = first.signatures ++ next.signatures := by
  unfold andThen
  split
  · next error hstatus => simp [fault?, hstatus] at h
  · next hstatus => rw [hnil hstatus, List.nil_append]
  · rfl

theorem andThen_noDeclarations {first next : Extraction} :
    (first.andThen next).status = .failed .noDeclarations ↔
      first.status = .failed .noDeclarations ∧ next.status = .failed .noDeclarations := by
  unfold andThen
  split
  · next error hstatus => simp [hstatus]
  · next hstatus => simp [hstatus]
  · next hother =>
      have hfirst : first.status ≠ .failed .noDeclarations := by simpa using hother
      by_cases hnext : next.status = .failed .noDeclarations
      · simp [hfirst, hnext]
      · simp [hfirst, hnext]

theorem ofTokens_append (hkind : semicolon.kind = .semicolon) (tokens back : List Token) :
    ofTokens none false (tokens ++ semicolon :: back) =
      (ofTokens none false (tokens ++ [semicolon])).andThen (ofTokens none false back) := by
  have hend : ∀ found, ofTokens none found [] =
      ⟨[], if found then .done else .failed .noDeclarations⟩ := by
    intro found
    rw [ofTokens_pull (by simp), Pull.ofTokens_nil]
  cases ends hkind tokens with
  | failed signatures error h => simp [h, andThen]
  | passed signatures h =>
      cases signatures with
      | nil => simp [h, hend, andThen]
      | cons signature signatures =>
          rcases ofTokens_found_or true back with heq | ⟨-, hdone, hnone⟩
          · have hstatus : (ofTokens none false back).status ≠ .failed .noDeclarations := by
              intro hnone
              cases (of_noDeclarations ((congrArg status heq).trans hnone)).1
            simp [h, hend, andThen, heq, hstatus]
          · simp [h, hend, andThen, hdone, hnone]

end Extraction

theorem Token.scanFrom_relocate (line count : Nat) (text : List Char) :
    scanFrom (line + count) text = (scanFrom line text).map (relocate (· + count)) := by
  induction text using Lexeme.all.induct generalizing line with
  | case1 =>
      rw [scanFrom, scanFrom]
      rfl
  | case2 c rest ih =>
      have hbehind := ih (line + countLines (Lexeme.first c rest).value)
      rw [Nat.add_right_comm] at hbehind
      rw [scanFrom, scanFrom]
      rw [hbehind]
      split
      · rfl
      · simp [relocate]

/-- Whether a text ends in a seam whose semicolon is a token. -/
def Token.Sealed (text : String) : Prop :=
  ∃ inner semicolon, text = inner ++ ";\n" ∧ semicolon.kind = .semicolon ∧
    scan text = scan inner ++ [semicolon]

theorem Token.Sealed.scan_append {front : String} (h : Sealed front) :
    ∃ tokens semicolon, semicolon.kind = .semicolon ∧ ∀ back : String,
      scan (front ++ back) = tokens ++ semicolon ::
        (scan back).map (relocate (· + countLines front.toList)) := by
  obtain ⟨inner, semicolon, rfl, hkind, hscan⟩ := h
  refine ⟨scan inner, semicolon, hkind, fun back => ?_⟩
  have htext : (inner ++ ";\n").toList = inner.toList ++ seam := String.toList_append
  rw [scan, htext, scan] at hscan
  rw [scan, String.toList_append, htext, scanFrom_append hscan, hscan, scanFrom_relocate,
    List.append_assoc]
  rfl

/-- The extraction with everything moved down by the lines of the text in front of it. -/
def Extraction.below (extraction : Extraction) (front : String) : Extraction :=
  extraction.relocate (· + countLines front.toList)

theorem Extraction.below_noDeclarations (extraction : Extraction) (front : String) :
    (extraction.below front).status = .failed .noDeclarations ↔
      extraction.status = .failed .noDeclarations := by
  obtain ⟨signatures, status⟩ := extraction
  rcases status with _ | _ | _ | _ <;> simp [below, relocate, Status.relocate]

theorem extract_append_eq {front : String} (h : Token.Sealed front) (back : String) :
    extract none (front ++ back) =
      (extract none front).andThen ((extract none back).below front) := by
  obtain ⟨tokens, semicolon, hkind, hscan⟩ := h.scan_append
  have hfront : Token.scan front = tokens ++ [semicolon] := by
    have hempty := hscan ""
    rwa [String.append_empty, show Token.scan "" = [] from Token.scanFrom.eq_1 1] at hempty
  rw [extract, hscan, Extraction.ofTokens_append hkind, ← hfront, Extraction.ofTokens_relocate]
  rfl

theorem signaturesOf_noDeclarations {text : String} :
    signaturesOf text = .error .noDeclarations ↔
      (extract none text).status = .failed .noDeclarations := by
  unfold signaturesOf
  dsimp only
  split
  · next heq => simp [heq]
  · next heq => simpa using heq .noDeclarations

/-- If the first of two texts is sealed, extracting from both together stops at a fault of the
first, and otherwise goes on to what the second has, moved down by the lines of the first. No
declarations are found in both together if there are none in either. -/
theorem extract_append {front : String} (h : Token.Sealed front) (back : String) :
    ((extract none front).fault? = none →
      (extract none (front ++ back)).signatures =
          (extract none front).signatures ++ ((extract none back).below front).signatures ∧
        (extract none (front ++ back)).fault? = ((extract none back).below front).fault?) ∧
      (∀ error, (extract none front).fault? = some error →
        (extract none (front ++ back)).signatures = (extract none front).signatures ∧
          (extract none (front ++ back)).fault? = some error) ∧
      (signaturesOf (front ++ back) = .error .noDeclarations ↔
        signaturesOf front = .error .noDeclarations ∧
          signaturesOf back = .error .noDeclarations) := by
  rw [extract_append_eq h, signaturesOf_noDeclarations, signaturesOf_noDeclarations,
    signaturesOf_noDeclarations, extract_append_eq h]
  refine ⟨fun hnone => ⟨?_, ?_⟩, fun error hfault => ?_, ?_⟩
  · apply Extraction.signatures_andThen hnone
    intro hstatus
    exact (Extraction.of_noDeclarations hstatus).2
  · exact Extraction.fault?_andThen hnone _
  · rw [Extraction.andThen_of_fault hfault]
    exact ⟨rfl, hfault⟩
  · rw [Extraction.andThen_noDeclarations, Extraction.below_noDeclarations]

/-- A declaration on one line with the beginning of another in a comment. -/
def declared : String :=
  "/* pub fn */ pub fn TA_A(x: *const f64);\n"

/-- The fault in the text behind it stands on its third line, which is the fourth of both. -/
theorem extract_declared_append :
    Token.Sealed declared ∧ (extract none declared).fault? = none ∧
      (extract none (declared ++ "/\npub fn TA_B(y: f64);\npub fn TA_C(z f64)")).signatures =
        [⟨"TA_A", [⟨"x", "*const f64"⟩], 1⟩, ⟨"TA_B", [⟨"y", "f64"⟩], 3⟩] ∧
      (extract none (declared ++ "/\npub fn TA_B(y: f64);\npub fn TA_C(z f64)")).fault? =
        some ⟨"TA_C", .colonAfter "z", some ⟨.ident, "f64", 4⟩⟩ := by
  have hsealed : Token.Sealed declared :=
    ⟨"/* pub fn */ pub fn TA_A(x: *const f64)", ⟨.semicolon, ";", 1⟩, by decide +kernel, rfl,
      by decide +kernel⟩
  have hnone : (extract none declared).fault? = none := by decide +kernel
  obtain ⟨hsignatures, hfault⟩ :=
    (extract_append hsealed "/\npub fn TA_B(y: f64);\npub fn TA_C(z f64)").1 hnone
  refine ⟨hsealed, hnone, hsignatures.trans ?_, hfault.trans ?_⟩
  · decide +kernel
  · decide +kernel

end IndicatorWrap
