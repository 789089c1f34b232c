import IndicatorWrap.Proofs.Declaration.Derivation
import Mathlib.Data.List.Basic

/-!
The readings accept exactly the grammar. A reading that is done has taken tokens
that derive its value and leaves the others as they were; tokens that derive a
value are read as that value, whatever follows, as long as what follows does not
continue a path. Hence a list of tokens begins with at most one declaration.
-/

namespace IndicatorWrap

namespace Reading

variable {α β : Type}

theorem map_eq_done_iff {f : α → β} {reading : Reading α} {value : β} {rest : List Token} :
    reading.map f = .done value rest ↔ ∃ inner, reading = .done inner rest ∧ f inner = value := by
  constructor
  · intro h
    cases reading with
    | done inner left =>
        cases h
        exact ⟨inner, rfl, rfl⟩
    | stuck => cases h
  · rintro ⟨inner, rfl, rfl⟩
    rfl

theorem bind_eq_done_iff {reading : Reading α} {next : α → List Token → Reading β} {value : β}
    {rest : List Token} :
    reading.bind next = .done value rest ↔
      ∃ inner between, reading = .done inner between ∧ next inner between = .done value rest := by
  constructor
  · intro h
    cases reading with
    | done inner between => exact ⟨inner, between, rfl, h⟩
    | stuck => cases h
  · rintro ⟨inner, between, rfl, h⟩
    exact h

theorem expect_eq_done_iff {kind : Token.Kind} {expected : Expected} {tokens rest : List Token}
    {token : Token} :
    expect kind expected tokens = .done token rest ↔
      tokens = token :: rest ∧ token.kind = kind := by
  cases tokens with
  | nil => simp [expect]
  | cons first tail =>
      by_cases hkind : first.kind = kind
      · simp only [expect, hkind, if_true, done.injEq, List.cons.injEq]
        constructor
        · rintro ⟨rfl, rfl⟩
          exact ⟨⟨rfl, rfl⟩, hkind⟩
        · rintro ⟨⟨rfl, rfl⟩, -⟩
          exact ⟨rfl, rfl⟩
      · simp only [expect, hkind, if_false, reduceCtorEq, List.cons.injEq, false_iff, not_and]
        rintro ⟨rfl, -⟩
        exact hkind

end Reading

/-- What follows a path: tokens that do not continue it. -/
def EndsPath (tokens : List Token) : Prop :=
  ∀ token ∈ tokens.head?, token.kind ≠ .pathSep

theorem intercalate_cons_eq (separator text : String) (texts : List String) :
    separator.intercalate (text :: texts) = text ++ String.join (texts.map (separator ++ ·)) := by
  induction texts generalizing text with
  | nil => simp
  | cons next texts ih =>
      rw [String.intercalate_cons_cons, ih next, List.map_cons, String.join_cons,
        String.append_assoc, String.append_assoc]

theorem TypePath.render_eq (path : TypePath) :
    path.render =
      (if path.rooted then "::" else "") ++ "::".intercalate (path.first :: path.more) := by
  rw [render, intercalate_cons_eq, String.append_assoc]

theorem TypePath.readMore_sound {tokens rest : List Token} {names : List String}
    (h : readMore tokens = .done names rest) :
    ∃ taken, tokens = taken ++ rest ∧ Derives.Segments taken names := by
  fun_induction readMore tokens generalizing names with
  | case1 =>
      cases h
      exact ⟨[], rfl, .nil⟩
  | case2 => cases h
  | case3 =>
      cases h
      exact ⟨[], rfl, .nil⟩
  | case4 separator name tokens hseparator hname ih =>
      obtain ⟨inner, hinner, rfl⟩ := Reading.map_eq_done_iff.mp h
      obtain ⟨taken, rfl, hmore⟩ := ih hinner
      exact ⟨separator :: name :: taken, rfl, .cons hseparator hname hmore⟩
  | case5 => cases h
  | case6 =>
      cases h
      exact ⟨[], rfl, .nil⟩

theorem TypePath.readMore_complete {taken rest : List Token} {names : List String}
    (h : Derives.Segments taken names) (hrest : EndsPath rest) :
    readMore (taken ++ rest) = .done names rest := by
  induction h with
  | nil =>
      match rest with
      | [] => rfl
      | [token] =>
          have htoken : token.kind ≠ .pathSep := hrest token rfl
          simp [readMore, htoken]
      | token :: next :: rest =>
          have htoken : token.kind ≠ .pathSep := hrest token rfl
          simp [readMore, htoken]
  | cons hseparator hname _ ih =>
      simp [readMore, hseparator, hname, ih, Reading.map]

theorem TypePath.read_sound {tokens rest : List Token} {path : TypePath}
    (h : read tokens = .done path rest) :
    ∃ taken, tokens = taken ++ rest ∧ Derives.Path taken path.render := by
  obtain ⟨name, between, hname, hmore⟩ := Reading.bind_eq_done_iff.mp h
  obtain ⟨hroot, hkind⟩ := Reading.expect_eq_done_iff.mp hname
  obtain ⟨names, hnames, rfl⟩ := Reading.map_eq_done_iff.mp hmore
  obtain ⟨taken, rfl, hsegments⟩ := readMore_sound hnames
  rw [render_eq]
  match tokens with
  | [] => cases hroot
  | token :: tokens =>
      by_cases hseparator : token.kind = .pathSep
      · simp only [hseparator, if_true] at hroot
        subst hroot
        refine ⟨token :: name :: taken, rfl, ?_⟩
        simpa [readRoot, hseparator] using Derives.Path.rooted hseparator hkind hsegments
      · simp only [hseparator, if_false] at hroot
        obtain ⟨rfl, rfl⟩ := List.cons.inj hroot
        refine ⟨token :: taken, rfl, ?_⟩
        simpa [readRoot, hseparator] using Derives.Path.plain hkind hsegments

theorem TypePath.read_complete {taken rest : List Token} {text : String}
    (h : Derives.Path taken text) (hrest : EndsPath rest) :
    ∃ path, read (taken ++ rest) = .done path rest ∧ path.render = text := by
  cases h with
  | @plain name tokens names hname hmore =>
      have hread := readMore_complete hmore hrest
      refine ⟨⟨false, name.value, names⟩, ?_, by simp [render_eq]⟩
      simp [read, readRoot, Reading.expect, Reading.bind, Reading.map, hname, hread]
  | @rooted separator name tokens names hseparator hname hmore =>
      have hread := readMore_complete hmore hrest
      refine ⟨⟨true, name.value, names⟩, ?_, by simp [render_eq]⟩
      simp [read, readRoot, Reading.expect, Reading.bind, Reading.map, hseparator, hname, hread]

theorem Qualifier.ofWord?_eq_some_iff {word : String} {qualifier : Qualifier} :
    ofWord? word = some qualifier ↔ word = qualifier.word := by
  constructor
  · intro h
    unfold ofWord? at h
    split at h
    · cases h
      rfl
    · cases h
      rfl
    · cases h
  · rintro rfl
    cases qualifier <;> rfl

theorem Token.isWord_iff {token : Token} {word : String} :
    token.isWord word ↔ token.kind = .ident ∧ token.value = word := by
  simp [isWord]

/-- Whether a token is no qualifier, wherever it stands. -/
def Token.NoQualifier (token : Token) : Prop :=
  ∀ qualifier : Qualifier, ¬token.isWord qualifier.word

theorem Token.noQualifier_of_kind {token : Token} (h : token.kind ≠ .ident) :
    token.NoQualifier :=
  fun _ hword => h (isWord_iff.mp hword).1

theorem Qualifier.read_of_word {word : Token} {qualifier : Qualifier} (rest : List Token)
    (hword : word.isWord qualifier.word) : read (word :: rest) = (some qualifier, rest) := by
  obtain ⟨hkind, hvalue⟩ := Token.isWord_iff.mp hword
  simp [read, hkind, ofWord?_eq_some_iff.mpr hvalue]

theorem Qualifier.read_of_other {tokens : List Token}
    (hword : ∀ word ∈ tokens.head?, ∀ qualifier : Qualifier, ¬word.isWord qualifier.word) :
    read tokens = (none, tokens) := by
  match tokens with
  | [] => rfl
  | token :: rest =>
      have hother : (if token.kind = .ident then ofWord? token.value else none) = none := by
        rw [Option.eq_none_iff_forall_ne_some]
        intro qualifier hqualifier
        obtain ⟨hkind, hvalue⟩ := Option.ite_none_right_eq_some.mp hqualifier
        exact hword token rfl qualifier
          (Token.isWord_iff.mpr ⟨hkind, ofWord?_eq_some_iff.mp hvalue⟩)
      simp [read, hother]

theorem Qualifier.other_or_word (tokens : List Token) :
    (∀ word ∈ tokens.head?, ∀ qualifier : Qualifier, ¬word.isWord qualifier.word) ∨
    ∃ word, ∃ qualifier : Qualifier, ∃ rest,
      tokens = word :: rest ∧ word.isWord qualifier.word := by
  match tokens with
  | [] => exact Or.inl (by simp)
  | token :: rest =>
      by_cases hconst : token.isWord Qualifier.const.word
      · exact Or.inr ⟨token, .const, rest, rfl, hconst⟩
      by_cases hmut : token.isWord Qualifier.mut.word
      · exact Or.inr ⟨token, .mut, rest, rfl, hmut⟩
      refine Or.inl ?_
      rintro word ⟨⟩ qualifier
      cases qualifier with
      | const => exact hconst
      | «mut» => exact hmut

theorem TypeExpr.read_of_path {tokens : List Token}
    (h : ∀ token ∈ tokens.head?, token.kind ≠ .star) :
    read tokens = (TypePath.read tokens).map .named := by
  cases tokens with
  | nil => rw [read]
  | cons token rest => rw [read, if_neg (h token rfl)]

/-- What stands behind a star that has no qualifier. -/
theorem TypeExpr.read_of_bare {star : Token} (hstar : star.kind = .star) {rest : List Token}
    (h : ∀ word ∈ rest.head?, word.NoQualifier) :
    read (star :: rest) = (read rest).map (.pointer none) := by
  rw [read, if_pos hstar, Qualifier.read_of_other h]

theorem TypeExpr.read_of_qualified {star word : Token} (hstar : star.kind = .star)
    {qualifier : Qualifier} (hword : word.isWord qualifier.word) (rest : List Token) :
    read (star :: word :: rest) = (read rest).map (.pointer (some qualifier)) := by
  rw [read, if_pos hstar, Qualifier.read_of_word rest hword]

theorem TypeExpr.read_sound {tokens rest : List Token} {type : TypeExpr}
    (h : read tokens = .done type rest) :
    ∃ taken, tokens = taken ++ rest ∧ Derives.RawType taken type.render := by
  fun_induction read tokens generalizing type with
  | case1 =>
      obtain ⟨path, hpath, rfl⟩ := Reading.map_eq_done_iff.mp h
      obtain ⟨taken, htaken, hderives⟩ := TypePath.read_sound hpath
      exact ⟨taken, htaken, .path hderives⟩
  | case2 star tokens hstar ih =>
      obtain ⟨target, htarget, rfl⟩ := Reading.map_eq_done_iff.mp h
      obtain ⟨taken, htaken, hderives⟩ := ih htarget
      -- The token behind the star alone decides whether there is a qualifier.
      rcases Qualifier.other_or_word tokens with hword | ⟨word, qualifier, after, rfl, hword⟩
      · rw [Qualifier.read_of_other hword] at htaken ⊢
        subst htaken
        refine ⟨star :: taken, rfl, .bare hstar ?_ hderives⟩
        rwa [List.head?_append_of_ne_nil taken hderives.ne_nil] at hword
      · rw [Qualifier.read_of_word after hword] at htaken ⊢
        subst htaken
        exact ⟨star :: word :: taken, rfl, .qualified hstar hword hderives⟩
  | case3 token tokens _ =>
      obtain ⟨path, hpath, rfl⟩ := Reading.map_eq_done_iff.mp h
      obtain ⟨taken, htaken, hderives⟩ := TypePath.read_sound hpath
      exact ⟨taken, htaken, .path hderives⟩

theorem Derives.Path.head_not_star {tokens : List Token} {text : String} (h : Path tokens text) :
    ∃ token rest, tokens = token :: rest ∧ token.kind ≠ .star := by
  cases h with
  | plain hname => exact ⟨_, _, rfl, by simp [hname]⟩
  | rooted hseparator => exact ⟨_, _, rfl, by simp [hseparator]⟩

theorem TypeExpr.read_complete {taken rest : List Token} {text : String}
    (h : Derives.RawType taken text) (hrest : EndsPath rest) :
    ∃ type, read (taken ++ rest) = .done type rest ∧ type.render = text := by
  induction h with
  | path hpath =>
      obtain ⟨path, hread, htext⟩ := TypePath.read_complete hpath hrest
      obtain ⟨token, tokens, rfl, htoken⟩ := hpath.head_not_star
      refine ⟨.named path, ?_, htext⟩
      rw [read_of_path (by simpa using htoken), hread]
      rfl
  | @qualified star word qualifier tokens text hstar hword _ ih =>
      obtain ⟨target, hread, htext⟩ := ih
      refine ⟨.pointer (some qualifier) target, ?_, by rw [render, htext]⟩
      rw [List.cons_append, List.cons_append, read_of_qualified hstar hword, hread]
      rfl
  | @bare star tokens text hstar hword htarget ih =>
      obtain ⟨target, hread, htext⟩ := ih
      refine ⟨.pointer none target, ?_, by rw [render, htext]⟩
      have hother : ∀ word ∈ (tokens ++ rest).head?, word.NoQualifier := by
        rwa [List.head?_append_of_ne_nil tokens htarget.ne_nil]
      rw [List.cons_append, read_of_bare hstar hother, hread]
      rfl

theorem Parameter.read_sound {tokens rest : List Token} {parameter : Parameter}
    (h : read tokens = .done parameter rest) :
    ∃ taken, tokens = taken ++ rest ∧ Derives.OneParameter taken parameter := by
  obtain ⟨name, afterName, hname, hmore⟩ := Reading.bind_eq_done_iff.mp h
  obtain ⟨colon, afterColon, hcolon, htail⟩ := Reading.bind_eq_done_iff.mp hmore
  obtain ⟨type, htype, rfl⟩ := Reading.map_eq_done_iff.mp htail
  obtain ⟨rfl, hident⟩ := Reading.expect_eq_done_iff.mp hname
  obtain ⟨rfl, hcolonKind⟩ := Reading.expect_eq_done_iff.mp hcolon
  obtain ⟨taken, rfl, hderives⟩ := TypeExpr.read_sound htype
  exact ⟨name :: colon :: taken, rfl, .mk hident hcolonKind hderives⟩

theorem Parameter.read_complete {taken rest : List Token} {parameter : Parameter}
    (h : Derives.OneParameter taken parameter) (hrest : EndsPath rest) :
    read (taken ++ rest) = .done parameter rest := by
  obtain @⟨name, colon, tokens, text, hname, hcolon, htype⟩ := h
  obtain ⟨type, hread, rfl⟩ := TypeExpr.read_complete htype hrest
  simp [read, Reading.expect, Reading.bind, Reading.map, hname, hcolon, hread]

theorem EndsPath.of_kind {token : Token} (rest : List Token) (h : token.kind ≠ .pathSep) :
    EndsPath (token :: rest) := by
  rintro first ⟨⟩
  exact h

/-- The parenthesis that closes the parameters is the first token that derives
no further one. -/
theorem Parameter.readList_sound {tokens rest : List Token} {parameters : List Parameter}
    (h : readList tokens = .done parameters rest) :
    ∃ taken close, tokens = taken ++ close :: rest ∧ close.kind = .closeParen ∧
      Derives.Parameters taken parameters := by
  fun_induction readList tokens generalizing parameters with
  | case1 tokens hhead =>
      obtain ⟨close, hclose, hkind⟩ := Option.map_eq_some_iff.mp hhead
      obtain ⟨tail, rfl⟩ := List.head?_eq_some_iff.mp hclose
      cases h
      exact ⟨[], close, rfl, hkind, .none⟩
  | case2 => cases h
  | case3 => cases h
  | case4 tokens parameter comma tail hread hcomma _ ih =>
      obtain ⟨more, hmore, rfl⟩ := Reading.map_eq_done_iff.mp h
      obtain ⟨first, rfl, hfirst⟩ := read_sound hread
      obtain ⟨taken, close, rfl, hclose, hderives⟩ := ih hmore
      exact ⟨first ++ comma :: taken, close, by simp, hclose, hderives.behind hfirst hcomma⟩
  | case5 tokens parameter close tail hread _ hclose =>
      cases h
      obtain ⟨first, rfl, hfirst⟩ := read_sound hread
      exact ⟨first, close, rfl, hclose, by simpa using Derives.Parameters.some hfirst .nil⟩
  | case6 => cases h

theorem Parameter.readList_close {close : Token} (rest : List Token)
    (hclose : close.kind = .closeParen) : readList (close :: rest) = .done [] rest := by
  simp [readList, hclose]

theorem Parameter.readList_parameter {first : List Token} {parameter : Parameter}
    (hfirst : Derives.OneParameter first parameter) {token : Token} (rest : List Token)
    (htoken : token.kind ≠ .pathSep) :
    readList (first ++ token :: rest) =
      if token.kind = .comma then (readList rest).map (parameter :: ·)
      else if token.kind = .closeParen then .done [parameter] rest
      else .stuck .commaOrClose (token :: rest) := by
  have hread := read_complete hfirst (EndsPath.of_kind rest htoken)
  obtain @⟨name, colon, tokens, text, hname, hcolon, htype⟩ := hfirst
  rw [readList]
  split
  · next hhead => simp [hname] at hhead
  split
  · next hstuck => cases hread.symm.trans hstuck
  · next hend => cases hread.symm.trans hend
  · next hdone =>
      cases hread.symm.trans hdone
      rfl

theorem Parameter.readList_complete {taken : List Token} {parameters : List Parameter}
    (h : Derives.Parameters taken parameters) {close : Token} (hclose : close.kind = .closeParen)
    (rest : List Token) :
    readList (taken ++ close :: rest) = .done parameters rest := by
  cases h with
  | none => exact readList_close rest hclose
  | @some first more parameter parameters hfirst hmore =>
      rw [List.append_assoc]
      -- The parameter in front of a comma is read in the step of that comma.
      induction hmore generalizing first parameter with
      | nil =>
          rw [List.nil_append, readList_parameter hfirst rest (by simp [hclose])]
          simp [hclose]
      | trailing hcomma =>
          rw [List.singleton_append, readList_parameter hfirst _ (by simp [hcomma]),
            if_pos hcomma, readList_close rest hclose]
          rfl
      | cons hcomma hsecond _ ih =>
          rw [List.cons_append, readList_parameter hfirst _ (by simp [hcomma]), if_pos hcomma,
            List.append_assoc, ih hsecond]
          rfl

theorem Signature.readAfter_sound {name : Token} {tokens rest : List Token}
    {signature : Signature} (hname : name.kind = .ident)
    (h : readAfter name tokens = .done signature rest) :
    ∃ taken, tokens = taken ++ rest ∧ Derives.Declaration (name :: taken) signature := by
  obtain ⟨paren, behind, hparen, hmore⟩ := Reading.bind_eq_done_iff.mp h
  obtain ⟨rfl, hopen⟩ := Reading.expect_eq_done_iff.mp hparen
  obtain ⟨parameters, hread, rfl⟩ := Reading.map_eq_done_iff.mp hmore
  obtain ⟨taken, close, rfl, hclose, hderives⟩ := Parameter.readList_sound hread
  exact ⟨paren :: (taken ++ [close]), by simp, .mk hname hopen hderives hclose⟩

theorem Signature.readAfter_complete {name : Token} {taken : List Token} {signature : Signature}
    (h : Derives.Declaration (name :: taken) signature) (rest : List Token) :
    readAfter name (taken ++ rest) = .done signature rest := by
  obtain @⟨_, paren, close, tokens, parameters, hname, hopen, hparameters, hclose⟩ := h
  have hread := Parameter.readList_complete hparameters hclose rest
  simp [readAfter, Reading.expect, Reading.bind, Reading.map, hopen, hread]

/-- Tokens begin with at most one declaration, which stands for one signature. -/
theorem Derives.Declaration.unique {first second rest rest' : List Token}
    {signature signature' : Signature} (h : Declaration first signature)
    (h' : Declaration second signature') (heq : first ++ rest = second ++ rest') :
    first = second ∧ rest = rest' ∧ signature = signature' := by
  obtain ⟨name, taken, rfl, _⟩ := h.exists_name
  obtain ⟨name', taken', rfl, _⟩ := h'.exists_name
  simp only [List.cons_append, List.cons.injEq] at heq
  obtain ⟨rfl, htail⟩ := heq
  have hread := Signature.readAfter_complete h rest
  have hread' := Signature.readAfter_complete h' rest'
  rw [← htail, hread] at hread'
  obtain ⟨rfl, rfl⟩ := Reading.done.inj hread'
  exact ⟨by rw [List.append_cancel_right htail], rfl, rfl⟩

end IndicatorWrap
