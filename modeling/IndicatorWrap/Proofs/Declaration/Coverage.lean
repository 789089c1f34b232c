import Mathlib.Data.List.Forall2
import IndicatorWrap.Proofs.Declaration.Headers
import IndicatorWrap.Proofs.Declaration.Scanning
import IndicatorWrap.Proofs.Token.Lexemes

/-!
Extraction finds every declaration once. A pull passes over places without a
header and over headers that close at once, and stops behind the first other
one; what it takes hides no further header. So the signatures of a text are
those of its headers, in their order.
-/

namespace IndicatorWrap

namespace Signature

/-- Whether two tokens behind the place a declaration is derived. -/
def DeclaredAt (tokens : List Token) (place : Nat) (signature : Signature) : Prop :=
  ∃ taken rest, tokens.drop (place + 2) = taken ++ rest ∧ Derives.Declaration taken signature

theorem DeclaredAt.append {tokens : List Token} {place : Nat} {signature : Signature}
    (h : DeclaredAt tokens place signature) (front : List Token) :
    DeclaredAt (front ++ tokens) (front.length + place) signature := by
  obtain ⟨taken, rest, hdrop, hderives⟩ := h
  refine ⟨taken, rest, ?_, hderives⟩
  rw [Nat.add_assoc, List.drop_append, List.drop_of_length_le (by omega), List.nil_append,
    Nat.add_sub_cancel_left, hdrop]

theorem header?_eq_some {tokens behind : List Token} {name : Token}
    (h : header? tokens = some (name, behind)) :
    name.kind = .ident ∧ headerAt tokens 0 ∧
      ∃ visibility keyword, tokens = visibility :: keyword :: name :: behind := by
  unfold header? at h
  split at h
  · split at h
    · next visibility keyword name paren rest hwords =>
        cases h
        simp only [Bool.and_eq_true, beq_iff_eq] at hwords
        obtain ⟨⟨⟨⟨hpub, hfn⟩, hident⟩, hparen⟩, hname⟩ := hwords
        exact ⟨hident, by simp [headerAt, hpub, hfn, hident, hparen, hname], _, _, rfl⟩
    · cases h
  · cases h

theorem header?_eq_none {tokens : List Token} (h : header? tokens = none) :
    ¬headerAt tokens 0 := by
  unfold header? at h
  split at h
  · split at h
    · cases h
    · next visibility keyword name paren rest hwords =>
        intro hheader
        have hparts : ((visibility.isWord "pub" ∧ keyword.isWord "fn") ∧
            name.kind = .ident ∧ isIndicatorName name.value) ∧ paren.kind = .openParen := by
          simpa [headerAt] using hheader
        obtain ⟨⟨⟨hpub, hfn⟩, hident, hname⟩, hparen⟩ := hparts
        exact hwords (by simp [hpub, hfn, hident, hname, hparen])
  · next hshort =>
      intro hheader
      rcases tokens with _ | ⟨visibility, _ | ⟨keyword, _ | ⟨name, _ | ⟨paren, rest⟩⟩⟩⟩
      · simp [headerAt] at hheader
      · simp [headerAt] at hheader
      · simp [headerAt] at hheader
      · simp [headerAt] at hheader
      · exact hshort visibility keyword name paren rest rfl

theorem not_declaringAt {tokens : List Token} {place : Nat} (h : ¬headerAt tokens place) :
    ¬declaringAt tokens place := by
  simp [declaringAt, h]

theorem headerPlaces_of_no_header {token : Token} {rest : List Token}
    (h : header? (token :: rest) = none) :
    headerPlaces (token :: rest) = (headerPlaces rest).map ([token].length + ·) := by
  rw [← List.singleton_append] at h ⊢
  apply headerPlaces_of_passed
  intro place hplace
  obtain rfl : place = 0 := Nat.lt_one_iff.mp hplace
  exact not_declaringAt (header?_eq_none h)

/-- What a header and the declaration behind it take of the tokens: no further
header begins there, and the one that does counts if there are parameters. -/
theorem header?_read {tokens behind left : List Token} {name : Token} {signature : Signature}
    (h : header? tokens = some (name, behind)) (hread : readAfter name behind = .done signature left) :
    ∃ front, tokens = front ++ left ∧ 0 < front.length ∧ DeclaredAt tokens 0 signature ∧
      (declaringAt tokens 0 ↔ signature.parameters ≠ []) ∧
      ∀ place < front.length, 0 < place → ¬declaringAt tokens place := by
  obtain ⟨hident, hheader, visibility, keyword, rfl⟩ := header?_eq_some h
  obtain ⟨taken, rfl, hderives⟩ := readAfter_sound hident hread
  refine ⟨visibility :: keyword :: name :: taken, rfl, Nat.succ_pos _,
    ⟨name :: taken, left, rfl, hderives⟩, ?_, ?_⟩
  · rw [declaringAt, hheader, Bool.true_and]
    obtain @⟨_, paren, close, inner, parameters, _, hparen, hparameters, hclose⟩ := hderives
    cases hparameters with
    | none => simp [hclose]
    | some hfirst =>
        obtain ⟨hname, _, _⟩ := hfirst
        simp [hname]
  · intro place hplace hpos
    rcases Nat.lt_or_ge place 2 with hone | hinside
    · obtain rfl : place = 0 + 1 := by omega
      exact not_declaringAt (not_headerAt_succ hheader)
    · have htokens : visibility :: keyword :: name :: (taken ++ left) =
          [visibility, keyword] ++ (name :: taken ++ left) := rfl
      refine not_declaringAt (not_headerAt_of_derives htokens hderives hinside ?_)
      simp only [List.length_cons, List.length_nil] at hplace ⊢
      omega

end Signature

theorem Signature.headerPlaces_of_empty {tokens behind left : List Token} {name : Token}
    {signature : Signature} (h : header? tokens = some (name, behind))
    (hread : readAfter name behind = .done signature left) (hempty : signature.parameters = []) :
    ∃ front, tokens = front ++ left ∧
      headerPlaces tokens = (headerPlaces left).map (front.length + ·) := by
  obtain ⟨front, rfl, hpos, -, hfirst, hinside⟩ := header?_read h hread
  refine ⟨front, rfl, headerPlaces_of_passed ?_⟩
  intro place hplace
  rcases Nat.eq_zero_or_pos place with rfl | hlater
  · intro hdeclaring
    exact hfirst.mp hdeclaring hempty
  · exact hinside place hplace hlater

/-- The first header with parameters declares the signature, and the next ones
are those of the rest. -/
def Pull.Finds (tokens rest : List Token) (signature : Signature) : Prop :=
  ∃ front place, tokens = front ++ rest ∧ signature.DeclaredAt tokens place ∧
    Signature.headerPlaces tokens =
      place :: (Signature.headerPlaces rest).map (front.length + ·)

namespace Pull

open Signature

theorem finds_of_read {tokens behind left : List Token} {name : Token} {signature : Signature}
    (h : header? tokens = some (name, behind)) (hread : readAfter name behind = .done signature left)
    (hparameters : signature.parameters ≠ []) : Finds tokens left signature := by
  obtain ⟨front, rfl, hpos, hdeclared, hfirst, hinside⟩ := header?_read h hread
  exact ⟨front, 0, rfl, hdeclared,
    headerPlaces_of_found hpos (hfirst.mpr hparameters) hinside⟩

theorem Finds.append {front tokens rest : List Token} {signature : Signature}
    (h : Finds tokens rest signature)
    (hpassed : headerPlaces (front ++ tokens) = (headerPlaces tokens).map (front.length + ·)) :
    Finds (front ++ tokens) rest signature := by
  obtain ⟨more, place, rfl, hdeclared, hplaces⟩ := h
  refine ⟨front ++ more, front.length + place, (List.append_assoc _ _ _).symm,
    hdeclared.append front, ?_⟩
  rw [hpassed, hplaces, List.map_cons, List.map_map, List.length_append]
  congr 2
  funext place
  exact (Nat.add_assoc _ _ _).symm

theorem ofTokens_none {function : String} {tokens : List Token}
    (h : (ofTokens function tokens).result = .ok none) : headerPlaces tokens = [] := by
  fun_induction ofTokens function tokens with
  | case1 => rfl
  | case2 function token rest hheader ih =>
      rw [headerPlaces_of_no_header hheader, ih h, List.map_nil]
  | case3 => cases h
  | case4 function token rest name behind hheader signature left hread hempty ih =>
      obtain ⟨front, -, hplaces⟩ :=
        headerPlaces_of_empty hheader hread (List.isEmpty_iff.mp hempty)
      rw [hplaces, ih h, List.map_nil]
  | case5 => cases h

theorem ofTokens_some {function : String} {tokens : List Token} {signature : Signature}
    (h : (ofTokens function tokens).result = .ok (some signature)) :
    Finds tokens (ofTokens function tokens).rest signature := by
  fun_induction ofTokens function tokens with
  | case1 => cases h
  | case2 function token rest hheader ih =>
      have hplaces := headerPlaces_of_no_header hheader
      rw [← List.singleton_append] at hplaces ⊢
      exact (ih h).append hplaces
  | case3 => cases h
  | case4 function token rest name behind hheader found left hread hempty ih =>
      obtain ⟨front, htokens, hplaces⟩ :=
        headerPlaces_of_empty hheader hread (List.isEmpty_iff.mp hempty)
      rw [htokens] at hplaces ⊢
      exact (ih h).append hplaces
  | case5 function token rest name behind hheader found left hread hempty =>
      cases h
      apply finds_of_read hheader hread
      intro hnil
      exact hempty (List.isEmpty_iff.mpr hnil)

end Pull

open Signature in
/-- What an extraction yields that meets no fault: a signature for each header,
and at least one unless some were found before. -/
theorem Extraction.ofTokens_headers {found : Bool} {tokens : List Token}
    (h : ∀ error, (ofTokens none found tokens).status ≠ .failed error) :
    List.Forall₂ (fun place signature => signature.DeclaredAt tokens place) (headerPlaces tokens)
        (ofTokens none found tokens).signatures ∧
      (found = false → (ofTokens none found tokens).signatures ≠ []) := by
  generalize hlimit : none = limit at h ⊢
  fun_induction ofTokens limit found tokens with
  | case1 => cases hlimit
  | case2 limit found tokens _ error hpull => exact absurd rfl (h _)
  | case3 limit found tokens _ hpull =>
      rw [Pull.ofTokens_none hpull]
      refine ⟨.nil, ?_⟩
      rintro rfl
      exact absurd rfl (h _)
  | case4 limit found tokens _ signature hpull more ih =>
      subst hlimit
      obtain ⟨hmore, -⟩ := ih rfl h
      obtain ⟨front, place, htokens, hdeclared, hplaces⟩ := Pull.ofTokens_some hpull
      refine ⟨?_, fun _ => List.cons_ne_nil _ _⟩
      rw [hplaces]
      refine .cons hdeclared (List.forall₂_map_left_iff.mpr (hmore.imp ?_))
      intro later next hnext
      rw [htokens]
      exact hnext.append front

/-- What the signature for the header at a place of a text has to be: the name is
that of the header, the line is the one that it stands on, and the declaration
is the one that its tokens derive. -/
structure Signature.StandsAt (text : String) (place : Nat) (signature : Signature) : Prop where
  name : ∃ token ∈ (Token.scan text)[place + 2]?, signature.name = token.value
  before : Token.textBefore text (place + 2) ++ signature.name.toList <+: text.toList
  line : signature.line = 1 + Text.countLines (Token.textBefore text (place + 2))
  declared : ∃ stop, (Cursor.mk (Token.scan text) place "").Declares stop signature

theorem Signature.StandsAt.of_declaredAt {text : String} {place : Nat} {signature : Signature}
    (h : signature.DeclaredAt (Token.scan text) place) : StandsAt text place signature := by
  obtain ⟨taken, rest, hdrop, hderives⟩ := h
  have hdeclared : (Cursor.mk (Token.scan text) place "").Declares _ signature :=
    Cursor.declares_iff.mpr ⟨taken, rest, hdrop, hderives, rfl⟩
  obtain @⟨token, paren, close, inner, parameters, hname, hparen, hparameters, hclose⟩ := hderives
  have htoken : (Token.scan text)[place + 2]? = some token := by
    rw [← List.head?_drop, hdrop]
    rfl
  obtain ⟨hbefore, hline⟩ := Token.scanFrom_place htoken
  exact ⟨⟨token, htoken, rfl⟩, hbefore, hline, _, hdeclared⟩

/-- The signatures of a text, where there are any, are all that are extracted. -/
theorem extract_of_signaturesOf {text : String} {signatures : List Signature}
    (h : signaturesOf text = .ok signatures) :
    (∀ error, (extract none text).status ≠ .failed error) ∧
      (extract none text).signatures = signatures := by
  simp only [signaturesOf] at h
  split at h
  · cases h
  · next hstatus => exact ⟨hstatus, Except.ok.inj h⟩

open Signature in
/-- If the signatures of a text are found, they are those of its headers with
parameters, one for each and in the same order, and there are some. No header
begins inside a declaration, nor in the two tokens in front of one's name. -/
theorem signaturesOf_headers {text : String} {signatures : List Signature}
    (h : signaturesOf text = .ok signatures) :
    List.Forall₂ (StandsAt text) (headerPlaces (Token.scan text)) signatures ∧ signatures ≠ [] ∧
      (∀ place stop signature, (Cursor.mk (Token.scan text) place "").Declares stop signature →
        ∀ other, headerAt (Token.scan text) other → place + 2 ≤ other → stop ≤ other) ∧
      (∀ place, headerAt (Token.scan text) place → ¬headerAt (Token.scan text) (place + 1)) := by
  obtain ⟨hstatus, rfl⟩ := extract_of_signaturesOf h
  obtain ⟨hheaders, hsome⟩ := Extraction.ofTokens_headers hstatus
  refine ⟨hheaders.imp fun _ _ => .of_declaredAt, hsome rfl, ?_, fun _ => not_headerAt_succ⟩
  intro place stop signature hdeclares other hother hbehind
  obtain ⟨taken, rest, hdrop, hderives, rfl⟩ := Cursor.declares_iff.mp hdeclares
  simp only at hdrop ⊢
  have htokens : Token.scan text = (Token.scan text).take (place + 2) ++ (taken ++ rest) := by
    rw [← hdrop, List.take_append_drop]
  have hlength : ((Token.scan text).take (place + 2)).length = place + 2 := by
    have hpos := List.length_pos_iff.mpr hderives.ne_nil
    have htotal := congrArg List.length hdrop
    rw [List.length_drop, List.length_append] at htotal
    rw [List.length_take]
    omega
  by_contra hlt
  exact not_headerAt_of_derives htokens hderives (by omega) (by omega) hother

/-- Of four headers one is no indicator's, one closes at once and two count. -/
def interleaved : String :=
  "pub fn TA_A();\npub fn TA_S_B(x: f64);\nfn pub fn TA_B(x: *const pub, y: f64,) fn\n" ++
    "/* pub fn TA_C(x: f64)\n */ pub\nfn TA_B(z: ::a::f64)"

theorem signaturesOf_interleaved :
    signaturesOf interleaved =
        .ok [⟨"TA_B", [⟨"x", "*const pub"⟩, ⟨"y", "f64"⟩], 3⟩, ⟨"TA_B", [⟨"z", "::a::f64"⟩], 6⟩] ∧
      List.Forall₂ (Signature.StandsAt interleaved) [16, 32]
        [⟨"TA_B", [⟨"x", "*const pub"⟩, ⟨"y", "f64"⟩], 3⟩, ⟨"TA_B", [⟨"z", "::a::f64"⟩], 6⟩] := by
  have hfound : signaturesOf interleaved =
      .ok [⟨"TA_B", [⟨"x", "*const pub"⟩, ⟨"y", "f64"⟩], 3⟩, ⟨"TA_B", [⟨"z", "::a::f64"⟩], 6⟩] := by
    decide +kernel
  have hplaces : Signature.headerPlaces (Token.scan interleaved) = [16, 32] := by
    decide +kernel
  exact ⟨hfound, hplaces ▸ (signaturesOf_headers hfound).1⟩

end IndicatorWrap
