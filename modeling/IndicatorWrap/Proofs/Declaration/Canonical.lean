import IndicatorWrap.Proofs.Declaration.IndicatorNames
import IndicatorWrap.Proofs.Token.Spelling

/-!
The canonical form of signatures. The raw type of an extracted parameter, written
out, is scanned as tokens that derive the same raw type; so a signature that is
written out as a declaration is extracted again.
-/

namespace IndicatorWrap

open Lexeme (IsIdentifier)

def Parameter.render (parameter : Parameter) : String :=
  parameter.name ++ ": " ++ parameter.rawType

/-- The declaration of a signature. -/
def Signature.render (signature : Signature) : String :=
  "pub fn " ++ signature.name ++ "(" ++
    ", ".intercalate (signature.parameters.map Parameter.render) ++ ")"

/-- Whether a text, written on any line, is read as the type that it is the text of. -/
def CanonicalType (text : String) : Prop :=
  ∀ line, ∃ tokens, Derives.RawType tokens text ∧ Token.Written line text tokens

namespace Derives

open Token (Identified Written)

variable {tokens : List Token}

theorem Segments.identifiers {names : List String} (h : Segments tokens names)
    (hnames : Identified tokens) : ∀ name ∈ names, IsIdentifier name.toList := by
  induction h with
  | nil => simp
  | cons hseparator hname _ ih =>
      simp only [Token.identified_cons_iff] at hnames
      obtain ⟨-, hfirst, hmore⟩ := hnames
      exact List.forall_mem_cons.mpr ⟨hfirst hname, ih hmore⟩

theorem exists_segments {names : List String} (hnames : ∀ name ∈ names, IsIdentifier name.toList)
    (line : Nat) :
    ∃ tokens, Segments tokens names ∧
      Written line (String.join (names.map ("::" ++ ·))) tokens := by
  induction names with
  | nil => exact ⟨[], .nil, .nil⟩
  | cons name names ih =>
      obtain ⟨hname, hnames⟩ := List.forall_mem_cons.mp hnames
      obtain ⟨tokens, hmore, hwritten⟩ := ih hnames
      refine ⟨⟨.pathSep, "::", line⟩ :: ⟨.ident, name, line⟩ :: tokens, .cons rfl rfl hmore, ?_⟩
      rw [List.map_cons, String.join_cons, String.append_assoc]
      exact ((Written.word hname).append hwritten (Token.head_of_join rfl rfl _)).separator

/-- A path as it is written, which begins with a name as before. -/
theorem Path.exists_written {text : String} (h : Path tokens text) (hnames : Identified tokens)
    (line : Nat) :
    ∃ written, Path written text ∧ Written line text written ∧
      ((∀ word ∈ tokens.head?, word.NoQualifier) → ∀ word ∈ written.head?, word.NoQualifier) := by
  cases h with
  | @plain name more names hname hmore =>
      obtain ⟨hfirst, hothers⟩ := Token.identified_cons_iff.mp hnames
      obtain ⟨tokens, hsegments, hwritten⟩ := exists_segments (hmore.identifiers hothers) line
      rw [intercalate_cons_eq]
      refine ⟨⟨.ident, name.value, line⟩ :: tokens, ?_, ?_, ?_⟩
      · rw [← intercalate_cons_eq]
        exact .plain rfl hsegments
      · exact (Written.word (hfirst hname)).append hwritten (Token.head_of_join rfl rfl _)
      · rintro hword _ ⟨⟩ qualifier hqualifier
        exact hword name rfl qualifier
          (Token.isWord_iff.mpr ⟨hname, (Token.isWord_iff.mp hqualifier).2⟩)
  | @rooted separator name more names hseparator hname hmore =>
      simp only [Token.identified_cons_iff] at hnames
      obtain ⟨-, hfirst, hothers⟩ := hnames
      obtain ⟨tokens, hsegments, hwritten⟩ := exists_segments (hmore.identifiers hothers) line
      refine ⟨⟨.pathSep, "::", line⟩ :: ⟨.ident, name.value, line⟩ :: tokens,
        .rooted rfl rfl hsegments, ?_, ?_⟩
      · have hword : Written line name.value _ := Written.word (hfirst hname)
        rw [intercalate_cons_eq]
        exact (hword.append hwritten (Token.head_of_join rfl rfl _)).separator
      · rintro - _ ⟨⟩
        exact Token.noQualifier_of_kind (by simp)

theorem RawType.exists_written {text : String} (h : RawType tokens text)
    (hnames : Identified tokens) (line : Nat) :
    ∃ written, RawType written text ∧ Written line text written ∧
      ((∀ word ∈ tokens.head?, word.NoQualifier) → ∀ word ∈ written.head?, word.NoQualifier) := by
  induction h with
  | path hpath =>
      obtain ⟨written, hderives, hwritten, hhead⟩ := hpath.exists_written hnames line
      exact ⟨written, .path hderives, hwritten, hhead⟩
  | @qualified star word qualifier tokens text hstar hword _ ih =>
      simp only [Token.identified_cons_iff] at hnames
      obtain ⟨-, hfirst, hothers⟩ := hnames
      obtain ⟨written, hderives, hwritten, -⟩ := ih hothers
      obtain ⟨hkind, hvalue⟩ := Token.isWord_iff.mp hword
      have hqualifier : IsIdentifier qualifier.word.toList := hvalue ▸ hfirst hkind
      have hbehind := Token.head_of_mark (show " ".toList = [' '] from rfl) rfl text
      refine ⟨⟨.star, "*", line⟩ :: ⟨.ident, qualifier.word, line⟩ :: written,
        .qualified rfl (by simp [Token.isWord]) hderives, ?_, ?_⟩
      · rw [String.append_assoc, String.append_assoc]
        exact ((Written.word hqualifier).append hwritten.blank hbehind).mark (c := '*') (by decide)
      · rintro - _ ⟨⟩
        exact Token.noQualifier_of_kind (by simp)
  | @bare star tokens text hstar hword _ ih =>
      obtain ⟨written, hderives, hwritten, hhead⟩ := ih (Token.identified_cons_iff.mp hnames).2
      refine ⟨⟨.star, "*", line⟩ :: written, .bare rfl (hhead hword) hderives,
        hwritten.mark (c := '*') (by decide), ?_⟩
      rintro - _ ⟨⟩
      exact Token.noQualifier_of_kind (by simp)

theorem RawType.canonical {text : String} (h : RawType tokens text) (hnames : Identified tokens) :
    CanonicalType text := by
  intro line
  obtain ⟨written, hderives, hwritten, -⟩ := h.exists_written hnames line
  exact ⟨written, hderives, hwritten⟩

end Derives

structure Parameter.Canonical (parameter : Parameter) : Prop where
  name : IsIdentifier parameter.name.toList
  rawType : CanonicalType parameter.rawType

structure Signature.Canonical (signature : Signature) : Prop where
  name : IsIdentifier signature.name.toList
  parameters : ∀ parameter ∈ signature.parameters, parameter.Canonical

namespace Derives

open Token (Written)

theorem exists_oneParameter {parameter : Parameter} (h : parameter.Canonical) (line : Nat) :
    ∃ tokens, OneParameter tokens parameter ∧ Written line parameter.render tokens := by
  obtain ⟨tokens, htype, hwritten⟩ := h.rawType line
  have hbehind := Token.head_of_mark (show ": ".toList = [':', ' '] from rfl) rfl parameter.rawType
  refine ⟨⟨.ident, parameter.name, line⟩ :: ⟨.colon, ":", line⟩ :: tokens, .mk rfl rfl htype, ?_⟩
  rw [Parameter.render, String.append_assoc]
  exact (Written.word h.name).append hwritten.colon hbehind

theorem exists_moreParameters {parameters : List Parameter}
    (h : ∀ parameter ∈ parameters, parameter.Canonical) (line : Nat) :
    ∃ tokens, MoreParameters tokens parameters ∧
      Written line (String.join ((parameters.map Parameter.render).map (", " ++ ·))) tokens := by
  induction parameters with
  | nil => exact ⟨[], .nil, .nil⟩
  | cons parameter parameters ih =>
      obtain ⟨hparameter, hparameters⟩ := List.forall_mem_cons.mp h
      obtain ⟨first, hfirst, hwritten⟩ := exists_oneParameter hparameter line
      obtain ⟨more, hmore, hothers⟩ := ih hparameters
      refine ⟨⟨.comma, ",", line⟩ :: (first ++ more), .cons rfl hfirst hmore, ?_⟩
      rw [List.map_cons, List.map_cons, String.join_cons, String.append_assoc]
      exact (hwritten.append hothers (Token.head_of_join rfl rfl _)).comma

theorem exists_parameters {parameters : List Parameter}
    (h : ∀ parameter ∈ parameters, parameter.Canonical) (line : Nat) :
    ∃ tokens, Parameters tokens parameters ∧
      Written line (", ".intercalate (parameters.map Parameter.render)) tokens := by
  cases parameters with
  | nil => exact ⟨[], .none, .nil⟩
  | cons parameter parameters =>
      obtain ⟨hparameter, hparameters⟩ := List.forall_mem_cons.mp h
      obtain ⟨first, hfirst, hwritten⟩ := exists_oneParameter hparameter line
      obtain ⟨more, hmore, hothers⟩ := exists_moreParameters hparameters line
      refine ⟨first ++ more, .some hfirst hmore, ?_⟩
      rw [List.map_cons, intercalate_cons_eq]
      exact hwritten.append hothers (Token.head_of_join rfl rfl _)

end Derives

namespace Signature

open Token (Written)

variable {signature : Signature}

/-- A declaration that is written out is scanned as itself. -/
theorem scan_render (h : signature.Canonical) :
    ∃ visibility keyword taken, Token.scan signature.render = visibility :: keyword :: taken ∧
      visibility.isWord "pub" ∧ keyword.isWord "fn" ∧
      Derives.Declaration taken { signature with line := 1 } := by
  obtain ⟨tokens, hparameters, hwritten⟩ := Derives.exists_parameters h.parameters 1
  have hpub : IsIdentifier "pub".toList := ⟨'p', ['u', 'b'], rfl, rfl, List.all_eq_true.mp rfl⟩
  have hfn : IsIdentifier "fn".toList := ⟨'f', ['n'], rfl, rfl, List.all_eq_true.mp rfl⟩
  have htext : signature.render = "pub" ++ (" " ++ ("fn" ++ (" " ++ (signature.name ++ ("(" ++
      (", ".intercalate (signature.parameters.map Parameter.render) ++ (")" ++ ""))))))) := by
    have hfront : "pub fn " = "pub" ++ " " ++ "fn" ++ " " := rfl
    simp only [render, hfront, String.append_assoc, String.append_empty]
  have hclose : Written 1 (")" ++ "") [⟨.closeParen, ")", 1⟩] := .mark (c := ')') (by decide) .nil
  have hclosed := hwritten.append hclose (Token.head_of_mark rfl rfl "")
  have hopened := hclosed.mark (c := '(') (by decide)
  have hnamed := (Written.word h.name).append hopened (Token.head_of_mark rfl rfl _)
  have hkeyword := (Written.word hfn).append hnamed.blank (Token.head_of_mark rfl rfl _)
  have hwhole := (Written.word hpub).append hkeyword.blank (Token.head_of_mark rfl rfl _)
  refine ⟨⟨.ident, "pub", 1⟩, ⟨.ident, "fn", 1⟩, ⟨.ident, signature.name, 1⟩ ::
    ⟨.openParen, "(", 1⟩ :: (tokens ++ [⟨.closeParen, ")", 1⟩]), ?_, rfl, rfl,
    .mk rfl rfl hparameters rfl⟩
  rw [htext]
  exact hwhole.scan_eq

theorem DeclaredAt.canonical {line : Nat} {text : List Char} {place : Nat}
    (h : signature.DeclaredAt (Token.scanFrom line text) place) : signature.Canonical := by
  have hidentified := h.identified
  refine ⟨hidentified.name, ?_⟩
  intro parameter hparameter
  refine ⟨hidentified.parameters parameter hparameter, ?_⟩
  obtain ⟨taken, rest, hdrop, hderives⟩ := h
  have hnames := Token.identified_of_drop hdrop
  obtain @⟨name, paren, close, inner, parameters, hname, hparen, hparameters, hclose⟩ := hderives
  obtain ⟨tokens, htokens, hone⟩ := hparameters.exists_one parameter hparameter
  obtain ⟨-, -, htype⟩ := hone
  apply htype.canonical
  intro token htoken
  have hmem := htokens (List.mem_cons_of_mem _ (List.mem_cons_of_mem _ htoken))
  exact hnames token (by simp [hmem])

theorem DeclaredAt.parameters_ne_nil {tokens : List Token} {place : Nat}
    (h : signature.DeclaredAt tokens place) (hplace : declaringAt tokens place) :
    signature.parameters ≠ [] := by
  rintro hnone
  obtain ⟨taken, rest, hdrop, hderives⟩ := h
  obtain @⟨name, paren, close, inner, parameters, hname, hparen, hparameters, hclose⟩ := hderives
  cases hnone
  cases hparameters
  have hlast : tokens[place + 4]? = some close := by
    rw [show place + 4 = place + 2 + 2 from rfl, ← List.getElem?_drop, hdrop]
    rfl
  simp [declaringAt, hlast, hclose] at hplace

end Signature

/-- Tokens that are one declaration of an indicator have its signature. -/
theorem Extraction.ofTokens_declaration {visibility keyword : Token} {taken : List Token}
    {signature : Signature} (hpub : visibility.isWord "pub") (hfn : keyword.isWord "fn")
    (h : Derives.Declaration taken signature) (hname : isIndicatorName signature.name)
    (hparameters : signature.parameters ≠ []) :
    ofTokens none false (visibility :: keyword :: taken) = ⟨[signature], .done⟩ := by
  have hread : ∀ {name behind}, taken = name :: behind →
      Signature.readAfter name behind = .done signature [] := by
    rintro name behind rfl
    rw [← List.append_nil behind]
    exact Signature.readAfter_complete h []
  obtain @⟨name, paren, close, inner, parameters, hident, hparen, hlist, hclose⟩ := h
  have hheader : Signature.header? (visibility :: keyword :: name :: paren :: (inner ++ [close])) =
      some (name, paren :: (inner ++ [close])) := by
    have hindicator : isIndicatorName name.value := hname
    simp [Signature.header?, hpub, hfn, hident, hparen, hindicator]
  have hsome : ¬parameters.isEmpty := by simpa using hparameters
  have hpull := Pull.ofTokens_header hheader ""
  rw [hread rfl] at hpull
  simp only [if_neg hsome] at hpull
  have hend : ofTokens none true [] = ⟨[], .done⟩ := by
    rw [ofTokens_pull (by simp), Pull.ofTokens_nil]
    rfl
  rw [ofTokens_pull (by simp), hpull]
  simp [hend]

theorem extract_render_of_canonical {signature : Signature} (h : signature.Canonical)
    (hname : isIndicatorName signature.name) (hparameters : signature.parameters ≠ []) :
    extract none signature.render = ⟨[{ signature with line := 1 }], .done⟩ := by
  obtain ⟨visibility, keyword, taken, hscan, hpub, hfn, hderives⟩ := Signature.scan_render h
  rw [extract, hscan]
  exact Extraction.ofTokens_declaration hpub hfn hderives hname hparameters

/-- A canonical type is read to the end of its text. -/
theorem Cursor.readType_of_canonical {text : String} (h : CanonicalType text) :
    ∃ type, (Cursor.ofTokens (Token.scan text)).readType =
        (.ok type, ⟨Token.scan text, (Token.scan text).length, ""⟩) ∧ type.render = text := by
  obtain ⟨tokens, hderives, hwritten⟩ := h 1
  have hends : EndsPath [] := by simp [EndsPath]
  obtain ⟨type, hread, htext⟩ := TypeExpr.read_complete hderives hends
  rw [List.append_nil] at hread
  have hahead : (Cursor.ofTokens tokens).ahead = tokens ++ [] := (List.append_nil tokens).symm
  refine ⟨type, ?_, htext⟩
  rw [hwritten.scan_eq, readType, read_of_done hread, advanceTo_of_append hahead]
  simp [ofTokens]

/-- An extracted signature that is written out as a declaration is extracted again,
and each of its types is read from its own text. -/
theorem extract_render {limit : Option Nat} {text : String} {signature : Signature}
    (h : signature ∈ (extract limit text).signatures) :
    extract none signature.render = ⟨[{ signature with line := 1 }], .done⟩ ∧
      ∀ parameter ∈ signature.parameters, ∃ type,
        (Cursor.ofTokens (Token.scan parameter.rawType)).readType =
          (.ok type, ⟨Token.scan parameter.rawType, (Token.scan parameter.rawType).length, ""⟩) ∧
        type.render = parameter.rawType := by
  obtain ⟨place, hplace, hdeclared⟩ := Extraction.declaredAt_of_mem h
  have hdeclaring := (List.mem_filter.mp hplace).2
  have hheader : Signature.headerAt (Token.scan text) place :=
    (Bool.and_eq_true_iff.mp hdeclaring).1
  have hcanonical := hdeclared.canonical
  refine ⟨?_, ?_⟩
  · exact extract_render_of_canonical hcanonical (hdeclared.isIndicatorName hheader)
      (hdeclared.parameters_ne_nil hdeclaring)
  · intro parameter hparameter
    exact Cursor.readType_of_canonical (hcanonical.parameters parameter hparameter).rawType

def scattered : String :=
  "pub fn TA_X ( a : * const* mut ::std :: f64 , b: * /* mut */ constant::mut,\n c:/**/::x, )"

theorem scattered_render :
    ⟨"TA_X", [⟨"a", "*const *mut ::std::f64"⟩, ⟨"b", "*constant::mut"⟩, ⟨"c", "::x"⟩], 1⟩ ∈
        (extract none scattered).signatures ∧
      extract none "pub fn TA_X(a: *const *mut ::std::f64, b: *constant::mut, c: ::x)" =
        ⟨[⟨"TA_X", [⟨"a", "*const *mut ::std::f64"⟩, ⟨"b", "*constant::mut"⟩, ⟨"c", "::x"⟩], 1⟩],
          .done⟩ := by
  have hmem : ⟨"TA_X", [⟨"a", "*const *mut ::std::f64"⟩, ⟨"b", "*constant::mut"⟩, ⟨"c", "::x"⟩],
      1⟩ ∈ (extract none scattered).signatures := by
    decide +kernel
  exact ⟨hmem, (extract_render hmem).1⟩

end IndicatorWrap
