import IndicatorWrap.Declaration.Grammar

/-!
The grammar of declarations as derivations, without a reader. A derivation
relates the tokens it takes, all of them and no others, to what they stand for;
a type stands for its canonical text.
-/

namespace IndicatorWrap

/-- `("::" name)*` -/
inductive Derives.Segments : List Token → List String → Prop where
  | nil : Segments [] []
  | cons {separator name : Token} {tokens : List Token} {names : List String}
      (hseparator : separator.kind = .pathSep) (hname : name.kind = .ident)
      (hmore : Segments tokens names) :
      Segments (separator :: name :: tokens) (name.value :: names)

/-- `["::"] name ("::" name)*` -/
inductive Derives.Path : List Token → String → Prop where
  | plain {name : Token} {tokens : List Token} {names : List String}
      (hname : name.kind = .ident) (hmore : Segments tokens names) :
      Path (name :: tokens) ("::".intercalate (name.value :: names))
  | rooted {separator name : Token} {tokens : List Token} {names : List String}
      (hseparator : separator.kind = .pathSep) (hname : name.kind = .ident)
      (hmore : Segments tokens names) :
      Path (separator :: name :: tokens) ("::" ++ "::".intercalate (name.value :: names))

/-- `"*" ["const" | "mut"] type | path`, where a word `const` or `mut` right
behind a star is the qualifier. -/
inductive Derives.RawType : List Token → String → Prop where
  | path {tokens : List Token} {text : String} (hpath : Path tokens text) : RawType tokens text
  | qualified {star word : Token} {qualifier : Qualifier} {tokens : List Token} {text : String}
      (hstar : star.kind = .star) (hword : word.isWord qualifier.word)
      (htarget : RawType tokens text) :
      RawType (star :: word :: tokens) ("*" ++ qualifier.word ++ " " ++ text)
  | bare {star : Token} {tokens : List Token} {text : String} (hstar : star.kind = .star)
      (hword : ∀ word ∈ tokens.head?, ∀ qualifier : Qualifier, ¬word.isWord qualifier.word)
      (htarget : RawType tokens text) :
      RawType (star :: tokens) ("*" ++ text)

/-- `name ":" type` -/
inductive Derives.OneParameter : List Token → Parameter → Prop where
  | mk {name colon : Token} {tokens : List Token} {text : String}
      (hname : name.kind = .ident) (hcolon : colon.kind = .colon) (htype : RawType tokens text) :
      OneParameter (name :: colon :: tokens) ⟨name.value, text⟩

/-- `("," parameter)* [","]` -/
inductive Derives.MoreParameters : List Token → List Parameter → Prop where
  | nil : MoreParameters [] []
  | trailing {comma : Token} (hcomma : comma.kind = .comma) : MoreParameters [comma] []
  | cons {comma : Token} {first more : List Token} {parameter : Parameter}
      {parameters : List Parameter} (hcomma : comma.kind = .comma)
      (hfirst : OneParameter first parameter) (hmore : MoreParameters more parameters) :
      MoreParameters (comma :: (first ++ more)) (parameter :: parameters)

/-- `[parameter ("," parameter)* [","]]` -/
inductive Derives.Parameters : List Token → List Parameter → Prop where
  | none : Parameters [] []
  | some {first more : List Token} {parameter : Parameter} {parameters : List Parameter}
      (hfirst : OneParameter first parameter) (hmore : MoreParameters more parameters) :
      Parameters (first ++ more) (parameter :: parameters)

/-- `name "(" [parameter ("," parameter)* [","]] ")"`, on the line of the name -/
inductive Derives.Declaration : List Token → Signature → Prop where
  | mk {name paren close : Token} {tokens : List Token} {parameters : List Parameter}
      (hname : name.kind = .ident) (hparen : paren.kind = .openParen)
      (hparameters : Parameters tokens parameters) (hclose : close.kind = .closeParen) :
      Declaration (name :: paren :: (tokens ++ [close])) ⟨name.value, parameters, name.line⟩

namespace Derives

theorem Path.ne_nil {tokens : List Token} {text : String} (h : Path tokens text) :
    tokens ≠ [] := by
  cases h <;> exact List.cons_ne_nil _ _

theorem RawType.ne_nil {tokens : List Token} {text : String} (h : RawType tokens text) :
    tokens ≠ [] := by
  cases h with
  | path hpath => exact hpath.ne_nil
  | qualified => exact List.cons_ne_nil _ _
  | bare => exact List.cons_ne_nil _ _

/-- A parameter in front of others, with a comma behind it. -/
theorem Parameters.behind {first tokens : List Token} {comma : Token} {parameter : Parameter}
    {parameters : List Parameter} (hfirst : OneParameter first parameter)
    (hcomma : comma.kind = .comma) (h : Parameters tokens parameters) :
    Parameters (first ++ comma :: tokens) (parameter :: parameters) := by
  cases h with
  | none => exact .some hfirst (.trailing hcomma)
  | some hsecond hmore => exact .some hfirst (.cons hcomma hsecond hmore)

/-- A declaration begins with its name. -/
theorem Declaration.exists_name {tokens : List Token} {signature : Signature}
    (h : Declaration tokens signature) :
    ∃ name behind, tokens = name :: behind ∧ name.kind = .ident := by
  obtain ⟨hname, hparen, hparameters, hclose⟩ := h
  exact ⟨_, _, rfl, hname⟩

theorem Declaration.ne_nil {tokens : List Token} {signature : Signature}
    (h : Declaration tokens signature) : tokens ≠ [] := by
  obtain ⟨name, behind, rfl, _⟩ := h.exists_name
  exact List.cons_ne_nil name behind

end Derives

end IndicatorWrap
