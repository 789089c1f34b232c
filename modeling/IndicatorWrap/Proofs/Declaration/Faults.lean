import IndicatorWrap.Proofs.Declaration.Recognition

/-!
Where the readings get stuck. What a reading has taken by then begins something
that is derived, and it gets stuck behind the same tokens whatever stands after
the next one. So the token at which it is stuck is the first that no derivation
has there.
-/

namespace IndicatorWrap

/-- Tokens with which a declaration can go on. -/
def Token.someName : Token := ⟨.ident, "x", 0⟩

def Token.someColon : Token := ⟨.colon, ":", 0⟩

def Token.someClose : Token := ⟨.closeParen, ")", 0⟩

theorem Token.noQualifier_someName : someName.NoQualifier := by
  intro qualifier
  cases qualifier with
  | const => decide
  | «mut» => decide

namespace Reading

variable {α β : Type}

theorem head?_append_congr {front back back' : List α} (h : back.head? = back'.head?) :
    (front ++ back).head? = (front ++ back').head? := by
  rw [List.head?_append, List.head?_append, h]

/-- A reading that has taken tokens and is stuck at the next one, or at the end. -/
structure Halts (reader : List Token → Reading α) (derived : List Token → Prop)
    (expected : Expected) (taken : List Token) (found : Option Token) : Prop where
  stuck : ∀ rest, rest.head? = found → reader (taken ++ rest) = .stuck expected rest
  /-- With another token in that place, what was taken can be completed. -/
  viable : ∃ next more, next.NoQualifier ∧ derived (taken ++ next :: more)

/-- Whether a reading gets stuck only where no derivation goes on. -/
def Prompt (reader : List Token → Reading α) (derived : List Token → Prop) : Prop :=
  ∀ tokens expected rest, reader tokens = .stuck expected rest →
    ∃ taken, tokens = taken ++ rest ∧ Halts reader derived expected taken rest.head?

theorem map_eq_stuck_iff {f : α → β} {reading : Reading α} {expected : Expected}
    {rest : List Token} :
    reading.map f = .stuck expected rest ↔ reading = .stuck expected rest := by
  cases reading with
  | done value left =>
      constructor
      · intro h
        cases h
      · intro h
        cases h
  | stuck wanted left => simp [map]

theorem expect_of_missing {kind : Token.Kind} {tokens : List Token}
    (h : ∀ token ∈ tokens.head?, token.kind ≠ kind) (expected : Expected) :
    expect kind expected tokens = .stuck expected tokens := by
  cases tokens with
  | nil => rfl
  | cons token rest => rw [expect, if_neg (h token rfl)]

theorem expect_of_kind {kind : Token.Kind} {token : Token} (h : token.kind = kind)
    (expected : Expected) (rest : List Token) :
    expect kind expected (token :: rest) = .done token rest :=
  expect_eq_done_iff.mpr ⟨rfl, h⟩

section

variable {reader : List Token → Reading α} {reader' : List Token → Reading β}
  {derived derived' : List Token → Prop} {expected : Expected} {taken : List Token}
  {found : Option Token}

/-- A reading that goes over to another one gets stuck where that one does. -/
theorem Halts.behind (front : List Token) (h : Halts reader derived expected taken found)
    (hreader : ∀ rest, rest.head? = found → reader (taken ++ rest) = .stuck expected rest →
      reader' (front ++ (taken ++ rest)) = .stuck expected rest)
    (hderived : ∀ next more, next.NoQualifier → derived (taken ++ next :: more) →
      derived' (front ++ (taken ++ next :: more))) :
    Halts reader' derived' expected (front ++ taken) found where
  stuck := by
    intro rest hrest
    rw [List.append_assoc]
    exact hreader rest hrest (h.stuck rest hrest)
  viable := by
    obtain ⟨next, more, hnext, hmore⟩ := h.viable
    refine ⟨next, more, hnext, ?_⟩
    rw [List.append_assoc]
    exact hderived next more hnext hmore

theorem Prompt.map (h : Prompt reader derived) (f : α → β)
    (hderived : ∀ tokens, derived tokens → derived' tokens) :
    Prompt (fun tokens => (reader tokens).map f) derived' := by
  intro tokens expected rest hstuck
  obtain ⟨taken, htokens, hhalts⟩ := h tokens expected rest (map_eq_stuck_iff.mp hstuck)
  refine ⟨taken, htokens, hhalts.behind [] ?_ ?_⟩
  · intro rest _ hrest
    exact map_eq_stuck_iff.mpr hrest
  · intro next more _ hmore
    exact hderived _ hmore

/-- A reading that begins with one token is prompt if something is derived that
begins with no qualifier, and the rest of the reading is prompt. -/
theorem Prompt.expect {kind : Token.Kind} {wanted : Expected}
    {next : Token → List Token → Reading β}
    (hmissing : ∃ token more, token.NoQualifier ∧ derived (token :: more))
    (hnext : ∀ token, token.kind = kind →
      Prompt (next token) fun tokens => derived (token :: tokens)) :
    Prompt (fun tokens => (Reading.expect kind wanted tokens).bind next) derived := by
  intro tokens expected rest hstuck
  by_cases hkind : ∀ token ∈ tokens.head?, token.kind ≠ kind
  · simp only [expect_of_missing hkind, bind] at hstuck
    obtain ⟨rfl, rfl⟩ := Reading.stuck.inj hstuck
    refine ⟨[], rfl, ?_, hmissing⟩
    intro rest hrest
    rw [← hrest] at hkind
    simp only [List.nil_append, expect_of_missing hkind, bind]
  · cases tokens with
    | nil => simp at hkind
    | cons token after =>
        have htoken : token.kind = kind := by simpa using hkind
        have hexpect := expect_of_kind htoken wanted
        simp only [hexpect, bind] at hstuck
        obtain ⟨taken, rfl, hhalts⟩ := hnext token htoken after expected rest hstuck
        refine ⟨token :: taken, rfl, ?_, hhalts.viable⟩
        intro rest hrest
        simp only [List.cons_append, hexpect, bind]
        exact hhalts.stuck rest hrest

end

end Reading

open Reading

theorem TypePath.readMore_of_missing {separator : Token} {rest : List Token}
    (hseparator : separator.kind = .pathSep) (h : ∀ token ∈ rest.head?, token.kind ≠ .ident) :
    readMore (separator :: rest) = .stuck .pathSegment rest := by
  cases rest with
  | nil => rw [readMore, if_pos hseparator]
  | cons token rest => rw [readMore, if_pos hseparator, if_neg (h token rfl)]

theorem TypePath.readMore_prompt :
    Prompt readMore fun tokens => ∃ names, Derives.Segments tokens names := by
  have hlast : ∀ {separator : Token} {found : Option Token}, separator.kind = .pathSep →
      (∀ token ∈ found, token.kind ≠ .ident) →
      Halts readMore (fun tokens => ∃ names, Derives.Segments tokens names) .pathSegment
        [separator] found := by
    intro separator found hseparator hfound
    refine ⟨?_, Token.someName, [], Token.noQualifier_someName, _, .cons hseparator rfl .nil⟩
    rintro rest rfl
    exact readMore_of_missing hseparator hfound
  intro tokens expected rest h
  fun_induction readMore tokens with
  | case1 => cases h
  | case2 separator hseparator =>
      cases h
      exact ⟨[separator], rfl, hlast hseparator (by simp)⟩
  | case3 => cases h
  | case4 separator name tokens hseparator hname ih =>
      obtain ⟨taken, rfl, hhalts⟩ := ih (map_eq_stuck_iff.mp h)
      refine ⟨separator :: name :: taken, rfl, hhalts.behind [separator, name] ?_ ?_⟩
      · intro rest _ hrest
        simp [readMore, hseparator, hname, hrest, Reading.map]
      · rintro next more - ⟨names, hnames⟩
        exact ⟨_, .cons hseparator hname hnames⟩
  | case5 separator name tokens hseparator hname =>
      cases h
      exact ⟨[separator], rfl, hlast hseparator (by simpa using hname)⟩
  | case6 => cases h

/-- The names of a path, from the first one on. -/
def TypePath.readNames (rooted : Bool) (tokens : List Token) : Reading TypePath :=
  (Reading.expect .ident .typeName tokens).bind fun name rest =>
    (readMore rest).map fun more => ⟨rooted, name.value, more⟩

theorem TypePath.read_of_separator {separator : Token} (h : separator.kind = .pathSep)
    (rest : List Token) : read (separator :: rest) = readNames true rest := by
  rw [read, readRoot, if_pos h, readNames]

theorem TypePath.read_of_endsPath {tokens : List Token} (h : EndsPath tokens) :
    read tokens = readNames false tokens := by
  cases tokens with
  | nil => rfl
  | cons token rest => rw [read, readRoot, if_neg (h token rfl), readNames]

theorem TypePath.readNames_prompt (rooted : Bool) :
    Prompt (readNames rooted) fun tokens => ∃ name more names, tokens = name :: more ∧
      name.kind = .ident ∧ Derives.Segments more names := by
  apply Prompt.expect
  · exact ⟨Token.someName, [], Token.noQualifier_someName, _, _, _, rfl, rfl, .nil⟩
  · intro name hname
    apply readMore_prompt.map
    rintro tokens ⟨names, hnames⟩
    exact ⟨name, tokens, names, rfl, hname, hnames⟩

theorem TypePath.read_prompt : Prompt read fun tokens => ∃ text, Derives.Path tokens text := by
  intro tokens expected rest h
  by_cases hends : EndsPath tokens
  · rw [read_of_endsPath hends] at h
    obtain ⟨taken, rfl, hhalts⟩ := readNames_prompt false tokens expected rest h
    refine ⟨taken, rfl, hhalts.behind [] ?_ ?_⟩
    · intro other hother hstuck
      rw [EndsPath, ← head?_append_congr hother] at hends
      rw [List.nil_append, read_of_endsPath hends, hstuck]
    · rintro next more - ⟨name, tokens, names, heq, hname, hnames⟩
      rw [List.nil_append, heq]
      exact ⟨_, .plain hname hnames⟩
  · cases tokens with
    | nil => exact absurd (by simp [EndsPath]) hends
    | cons separator tokens =>
        have hseparator : separator.kind = .pathSep := by simpa [EndsPath] using hends
        rw [read_of_separator hseparator] at h
        obtain ⟨taken, rfl, hhalts⟩ := readNames_prompt true tokens expected rest h
        refine ⟨separator :: taken, rfl, hhalts.behind [separator] ?_ ?_⟩
        · intro other _ hstuck
          rw [List.singleton_append, read_of_separator hseparator, hstuck]
        · rintro next more - ⟨name, tokens, names, heq, hname, hnames⟩
          rw [heq]
          exact ⟨_, .rooted hseparator hname hnames⟩

theorem TypeExpr.read_prompt : Prompt read fun tokens => ∃ text, Derives.RawType tokens text := by
  have hpath : ∀ tokens expected rest, (∀ token ∈ tokens.head?, token.kind ≠ .star) →
      read tokens = .stuck expected rest → ∃ taken, tokens = taken ++ rest ∧
        Halts read (fun tokens => ∃ text, Derives.RawType tokens text) expected taken
          rest.head? := by
    intro tokens expected rest hhead h
    rw [read_of_path hhead, map_eq_stuck_iff] at h
    obtain ⟨taken, rfl, hhalts⟩ := TypePath.read_prompt tokens expected rest h
    refine ⟨taken, rfl, hhalts.behind [] ?_ ?_⟩
    · intro other hother hstuck
      rw [← head?_append_congr hother] at hhead
      rw [List.nil_append, read_of_path hhead, map_eq_stuck_iff, hstuck]
    · rintro next more - ⟨text, hderives⟩
      exact ⟨text, .path hderives⟩
  intro tokens expected rest h
  fun_induction read tokens with
  | case1 => exact hpath [] expected rest (by simp) (by rwa [read])
  | case2 star tokens hstar ih =>
      obtain ⟨taken, htaken, hhalts⟩ := ih (map_eq_stuck_iff.mp h)
      rcases Qualifier.other_or_word tokens with hword | ⟨word, qualifier, after, rfl, hword⟩
      · rw [Qualifier.read_of_other hword] at htaken
        subst htaken
        refine ⟨star :: taken, rfl, hhalts.behind [star] ?_ ?_⟩
        · intro other hother hstuck
          rw [← head?_append_congr hother] at hword
          rw [List.singleton_append, read_of_bare hstar hword, hstuck, Reading.map]
        · rintro next more hnext ⟨text, hderives⟩
          -- If nothing was taken behind the star, the token that completes the type stands there.
          have hhead : ∀ word ∈ (taken ++ next :: more).head?, word.NoQualifier := by
            cases taken with
            | nil => simpa using hnext
            | cons first taken => exact hword
          exact ⟨_, .bare hstar hhead hderives⟩
      · rw [Qualifier.read_of_word after hword] at htaken
        subst htaken
        refine ⟨star :: word :: taken, rfl, hhalts.behind [star, word] ?_ ?_⟩
        · intro other _ hstuck
          rw [List.cons_append, List.singleton_append, read_of_qualified hstar hword, hstuck,
            Reading.map]
        · rintro next more - ⟨text, hderives⟩
          exact ⟨_, .qualified hstar hword hderives⟩
  | case3 token tokens hstar =>
      exact hpath (token :: tokens) expected rest (by simpa using hstar)
        (by rwa [read, if_neg hstar])

theorem Parameter.read_prompt :
    Prompt read fun tokens => ∃ parameter, Derives.OneParameter tokens parameter := by
  have hname : Derives.RawType [Token.someName] _ := .path (.plain rfl .nil)
  apply Prompt.expect
  · exact ⟨Token.someName, [Token.someColon, Token.someName], Token.noQualifier_someName,
      _, .mk rfl rfl hname⟩
  intro name hident
  apply Prompt.expect
  · exact ⟨Token.someColon, [Token.someName], Token.noQualifier_of_kind (by decide),
      _, .mk hident rfl hname⟩
  intro colon hcolon
  apply TypeExpr.read_prompt.map
  rintro tokens ⟨text, htype⟩
  exact ⟨_, .mk hident hcolon htype⟩

theorem TypePath.readMore_endsPath {tokens rest : List Token} {names : List String}
    (h : readMore tokens = .done names rest) : EndsPath rest := by
  fun_induction readMore tokens generalizing names with
  | case1 =>
      cases h
      simp [EndsPath]
  | case2 => cases h
  | case3 separator hother =>
      cases h
      exact EndsPath.of_kind [] hother
  | case4 separator name tokens _ _ ih =>
      obtain ⟨inner, hinner, -⟩ := map_eq_done_iff.mp h
      exact ih hinner
  | case5 => cases h
  | case6 separator name tokens hother =>
      cases h
      exact EndsPath.of_kind _ hother

theorem TypePath.read_endsPath {tokens rest : List Token} {path : TypePath}
    (h : read tokens = .done path rest) : EndsPath rest := by
  obtain ⟨name, between, -, hmore⟩ := bind_eq_done_iff.mp h
  obtain ⟨names, hnames, -⟩ := map_eq_done_iff.mp hmore
  exact readMore_endsPath hnames

theorem TypeExpr.read_endsPath {tokens rest : List Token} {type : TypeExpr}
    (h : read tokens = .done type rest) : EndsPath rest := by
  fun_induction read tokens generalizing type with
  | case1 =>
      obtain ⟨path, hpath, -⟩ := map_eq_done_iff.mp h
      exact TypePath.read_endsPath hpath
  | case2 star tokens _ ih =>
      obtain ⟨target, htarget, -⟩ := map_eq_done_iff.mp h
      exact ih htarget
  | case3 =>
      obtain ⟨path, hpath, -⟩ := map_eq_done_iff.mp h
      exact TypePath.read_endsPath hpath

namespace Parameter

theorem read_endsPath {tokens rest : List Token} {parameter : Parameter}
    (h : read tokens = .done parameter rest) : EndsPath rest := by
  obtain ⟨name, behind, -, hmore⟩ := bind_eq_done_iff.mp h
  obtain ⟨colon, after, -, htype⟩ := bind_eq_done_iff.mp hmore
  obtain ⟨type, hread, -⟩ := map_eq_done_iff.mp htype
  exact TypeExpr.read_endsPath hread

theorem readList_of_stuck {tokens rest : List Token} {expected : Expected}
    (hhead : ∀ token ∈ tokens.head?, token.kind ≠ .closeParen)
    (h : read tokens = .stuck expected rest) : readList tokens = .stuck expected rest := by
  rw [readList]
  split
  · next hclose =>
      obtain ⟨token, htoken, hkind⟩ := Option.map_eq_some_iff.mp hclose
      exact absurd hkind (hhead token htoken)
  split
  · next hstuck =>
      obtain ⟨rfl, rfl⟩ := Reading.stuck.inj (hstuck.symm.trans h)
      rfl
  · next hdone => cases hdone.symm.trans h
  · next hdone => cases hdone.symm.trans h

/-- Behind a parameter that neither goes on nor is followed by another one, there is
neither a comma nor a parenthesis. -/
theorem readList_of_neither {first rest : List Token} {parameter : Parameter}
    (hfirst : Derives.OneParameter first parameter) (hends : EndsPath rest)
    (hcomma : ∀ token ∈ rest.head?, token.kind ≠ .comma)
    (hclose : ∀ token ∈ rest.head?, token.kind ≠ .closeParen) :
    readList (first ++ rest) = .stuck .commaOrClose rest := by
  cases rest with
  | nil =>
      have hread := read_complete hfirst hends
      obtain ⟨hname, hcolon, htype⟩ := hfirst
      rw [readList]
      split
      · next hhead => simp [hname] at hhead
      split
      · next hstuck => cases hread.symm.trans hstuck
      · rfl
      · next hdone => cases hread.symm.trans hdone
  | cons token rest =>
      rw [readList_parameter hfirst rest (hends token rfl), if_neg (hcomma token rfl),
        if_neg (hclose token rfl)]

end Parameter

/-- Parameters and the parenthesis that closes them. -/
def Derives.Closed (tokens : List Token) (parameters : List Parameter) : Prop :=
  ∃ inner close, tokens = inner ++ [close] ∧ close.kind = .closeParen ∧ Parameters inner parameters

namespace Derives

theorem Closed.behind {first tokens : List Token} {comma : Token} {parameter : Parameter}
    {parameters : List Parameter} (hfirst : OneParameter first parameter)
    (hcomma : comma.kind = .comma) (h : Closed tokens parameters) :
    Closed (first ++ comma :: tokens) (parameter :: parameters) := by
  obtain ⟨inner, close, rfl, hclose, hinner⟩ := h
  exact ⟨first ++ comma :: inner, close, by simp, hclose, hinner.behind hfirst hcomma⟩

theorem OneParameter.closed {tokens : List Token} {parameter : Parameter}
    (h : OneParameter tokens parameter) : Closed (tokens ++ [Token.someClose]) [parameter] :=
  ⟨tokens, Token.someClose, rfl, rfl, by simpa using Parameters.some h .nil⟩

end Derives

theorem Parameter.readList_prompt :
    Prompt readList fun tokens => ∃ parameters, Derives.Closed tokens parameters := by
  have hlast : ∀ {first rest : List Token} {parameter : Parameter},
      Derives.OneParameter first parameter → EndsPath rest →
      (∀ token ∈ rest.head?, token.kind ≠ .comma) →
      (∀ token ∈ rest.head?, token.kind ≠ .closeParen) →
      Halts readList (fun tokens => ∃ parameters, Derives.Closed tokens parameters) .commaOrClose
        first rest.head? := by
    intro first rest parameter hfirst hends hcomma hclose
    refine ⟨?_, Token.someClose, [], Token.noQualifier_of_kind (by decide), _, hfirst.closed⟩
    intro other hother
    rw [EndsPath, ← hother] at hends
    rw [← hother] at hcomma hclose
    exact readList_of_neither hfirst hends hcomma hclose
  intro tokens expected rest h
  fun_induction readList tokens with
  | case1 => cases h
  | case2 tokens wanted left hread hhead =>
      cases h
      have hopen : ∀ token ∈ tokens.head?, token.kind ≠ .closeParen := by
        intro token htoken hkind
        exact hhead (Option.map_eq_some_iff.mpr ⟨token, htoken, hkind⟩)
      obtain ⟨taken, rfl, hhalts⟩ := read_prompt tokens expected rest hread
      refine ⟨taken, rfl, ?_, ?_⟩
      · intro other hother
        rw [← head?_append_congr hother] at hopen
        exact readList_of_stuck hopen (hhalts.stuck other hother)
      · obtain ⟨next, more, hnext, parameter, hderives⟩ := hhalts.viable
        exact ⟨next, more ++ [Token.someClose], hnext, _, by simpa using hderives.closed⟩
  | case3 tokens parameter hread =>
      cases h
      obtain ⟨first, rfl, hfirst⟩ := read_sound hread
      exact ⟨first, rfl, hlast hfirst (read_endsPath hread) (by simp) (by simp)⟩
  | case4 tokens parameter comma tail hread hcomma _ ih =>
      obtain ⟨first, rfl, hfirst⟩ := read_sound hread
      obtain ⟨taken, rfl, hhalts⟩ := ih (map_eq_stuck_iff.mp h)
      refine ⟨first ++ [comma] ++ taken, by simp, hhalts.behind (first ++ [comma]) ?_ ?_⟩
      · intro other _ hstuck
        rw [List.append_assoc, List.singleton_append,
          readList_parameter hfirst _ (by simp [hcomma]), if_pos hcomma, hstuck, Reading.map]
      · rintro next more - ⟨parameters, hclosed⟩
        exact ⟨_, by simpa using hclosed.behind hfirst hcomma⟩
  | case5 => cases h
  | case6 tokens parameter token tail hread hcomma hclose =>
      cases h
      obtain ⟨first, rfl, hfirst⟩ := read_sound hread
      exact ⟨first, rfl, hlast hfirst (read_endsPath hread) (by simpa using hcomma)
        (by simpa using hclose)⟩

/-- A declaration that does not parse is stuck where none goes on. -/
theorem Signature.readAfter_prompt {name : Token} (hname : name.kind = .ident) :
    Prompt (readAfter name) fun tokens =>
      ∃ signature, Derives.Declaration (name :: tokens) signature := by
  apply Prompt.expect
  · exact ⟨⟨.openParen, "(", 0⟩, [Token.someClose], Token.noQualifier_of_kind (by decide), _,
      .mk hname rfl .none rfl⟩
  intro paren hparen
  apply Parameter.readList_prompt.map
  rintro tokens ⟨parameters, inner, close, rfl, hclose, hparameters⟩
  exact ⟨_, .mk hname hparen hparameters hclose⟩

/-- No declaration has the token there at which the reading of one is stuck. -/
theorem Signature.not_derives_of_halts {name : Token} {derived : List Token → Prop}
    {expected : Expected} {taken : List Token} {found : Token}
    (h : Halts (readAfter name) derived expected taken (some found)) (more : List Token)
    (signature : Signature) :
    ¬Derives.Declaration (name :: (taken ++ found :: more)) signature := by
  intro hderives
  have hread := readAfter_complete hderives []
  rw [List.append_nil, h.stuck (found :: more) rfl] at hread
  cases hread

end IndicatorWrap
