import IndicatorWrap.Declaration.Reading
import IndicatorWrap.Declaration.Signature
import IndicatorWrap.Declaration.TypeExpr

/-!
Reading declarations:

    declaration := name "(" [parameter ("," parameter)* [","]] ")"
    parameter   := name ":" type
    type        := "*" ["const" | "mut"] type | path
    path        := ["::"] name ("::" name)*

A word `const` or `mut` right behind a star is the qualifier. Every reading
keeps a suffix of the tokens it was given.
-/

namespace IndicatorWrap

/-- The names after the first one of a path, each behind a separator. -/
def TypePath.readMore : List Token → Reading (List String)
  | [] => .done [] []
  | [separator] =>
    if separator.kind = .pathSep then .stuck .pathSegment [] else .done [] [separator]
  | separator :: name :: rest =>
    if separator.kind = .pathSep then
      if name.kind = .ident then
        (readMore rest).map (name.value :: ·)
      else
        .stuck .pathSegment (name :: rest)
    else
      .done [] (separator :: name :: rest)

/-- The separator in front of a path, if there is one. -/
def TypePath.readRoot : List Token → Bool × List Token
  | [] => (false, [])
  | token :: rest => if token.kind = .pathSep then (true, rest) else (false, token :: rest)

def TypePath.read (tokens : List Token) : Reading TypePath :=
  let (rooted, rest) := readRoot tokens
  (Reading.expect .ident .typeName rest).bind fun name rest =>
    (readMore rest).map fun more => ⟨rooted, name.value, more⟩

/-- The qualifier at the front of the tokens, if there is one. -/
def Qualifier.read : List Token → Option Qualifier × List Token
  | [] => (none, [])
  | token :: rest =>
    match if token.kind = .ident then Qualifier.ofWord? token.value else none with
    | some qualifier => (some qualifier, rest)
    | none => (none, token :: rest)

theorem Qualifier.read_suffix (tokens : List Token) : (read tokens).2 <:+ tokens := by
  unfold read
  split
  · exact List.suffix_refl _
  · split
    · exact List.suffix_cons _ _
    · exact List.suffix_refl _

def TypeExpr.read (tokens : List Token) : Reading TypeExpr :=
  match tokens with
  | [] => (TypePath.read []).map .named
  | token :: rest =>
    if token.kind = .star then
      (read (Qualifier.read rest).2).map (.pointer (Qualifier.read rest).1)
    else
      (TypePath.read (token :: rest)).map .named
termination_by tokens.length
decreasing_by exact Nat.lt_succ_of_le (Qualifier.read_suffix rest).length_le

def Parameter.read (tokens : List Token) : Reading Parameter :=
  (Reading.expect .ident .parameterName tokens).bind fun name rest =>
    (Reading.expect .colon (.colonAfter name.value) rest).bind fun _ rest =>
      (TypeExpr.read rest).map fun type => ⟨name.value, type.render⟩

theorem TypePath.readMore_suffix (tokens : List Token) : (readMore tokens).rest <:+ tokens := by
  fun_induction readMore tokens with
  | case1 => exact List.suffix_refl _
  | case2 => exact List.nil_suffix
  | case3 => exact List.suffix_refl _
  | case4 separator name rest _ _ ih =>
      rw [Reading.map_rest]
      exact (ih.trans (List.suffix_cons _ _)).trans (List.suffix_cons _ _)
  | case5 => exact List.suffix_cons _ _
  | case6 => exact List.suffix_refl _

theorem TypePath.readRoot_suffix (tokens : List Token) : (readRoot tokens).2 <:+ tokens := by
  unfold readRoot
  split
  · exact List.suffix_refl _
  · split
    · exact List.suffix_cons _ _
    · exact List.suffix_refl _

theorem TypePath.read_suffix (tokens : List Token) : (read tokens).rest <:+ tokens := by
  refine Reading.bind_rest_suffix ((Reading.expect_rest_suffix _ _ _).trans (readRoot_suffix tokens))
    fun name rest => ?_
  rw [Reading.map_rest]
  exact readMore_suffix rest

theorem TypeExpr.read_suffix (tokens : List Token) : (read tokens).rest <:+ tokens := by
  fun_induction read tokens with
  | case1 =>
      rw [Reading.map_rest]
      exact TypePath.read_suffix []
  | case2 token rest _ ih =>
      rw [Reading.map_rest]
      exact (ih.trans (Qualifier.read_suffix rest)).trans (List.suffix_cons _ _)
  | case3 token rest _ =>
      rw [Reading.map_rest]
      exact TypePath.read_suffix _

theorem Parameter.read_suffix (tokens : List Token) : (read tokens).rest <:+ tokens := by
  refine Reading.bind_rest_suffix (Reading.expect_rest_suffix _ _ _) fun name rest => ?_
  refine Reading.bind_rest_suffix (Reading.expect_rest_suffix _ _ _) fun _ rest => ?_
  rw [Reading.map_rest]
  exact TypeExpr.read_suffix rest

/-- The parameters of a declaration and the parenthesis that closes them. -/
def Parameter.readList (tokens : List Token) : Reading (List Parameter) :=
  match tokens.head?.map Token.kind with
  | some .closeParen => .done [] tokens.tail
  | _ =>
    match _h : Parameter.read tokens with
    | .stuck expected rest => .stuck expected rest
    | .done _ [] => .stuck .commaOrClose []
    | .done parameter (token :: rest) =>
      if token.kind = .comma then
        (readList rest).map (parameter :: ·)
      else if token.kind = .closeParen then
        .done [parameter] rest
      else
        .stuck .commaOrClose (token :: rest)
termination_by tokens.length
decreasing_by
  have hrest := (Parameter.read_suffix tokens).length_le
  rw [_h] at hrest
  exact hrest

theorem Parameter.readList_suffix (tokens : List Token) : (readList tokens).rest <:+ tokens := by
  fun_induction readList tokens with
  | case1 => exact List.tail_suffix _
  | case2 tokens expected rest h =>
      have hrest := read_suffix tokens
      rw [h] at hrest
      exact hrest
  | case3 => exact List.nil_suffix
  | case4 tokens parameter token rest h _ _ ih =>
      have hrest := read_suffix tokens
      rw [h] at hrest
      rw [Reading.map_rest]
      exact (ih.trans (List.suffix_cons _ _)).trans hrest
  | case5 tokens parameter token rest h =>
      have hrest := read_suffix tokens
      rw [h] at hrest
      exact (List.suffix_cons _ _).trans hrest
  | case6 tokens parameter token rest h =>
      have hrest := read_suffix tokens
      rw [h] at hrest
      exact hrest

/-- What follows the name of a declaration. -/
def Signature.readAfter (name : Token) (tokens : List Token) : Reading Signature :=
  (Reading.expect .openParen (.kind .openParen) tokens).bind fun _ rest =>
    (Parameter.readList rest).map fun parameters => ⟨name.value, parameters, name.line⟩

theorem Signature.readAfter_suffix (name : Token) (tokens : List Token) :
    (readAfter name tokens).rest <:+ tokens := by
  refine Reading.bind_rest_suffix (Reading.expect_rest_suffix _ _ _) fun _ rest => ?_
  rw [Reading.map_rest]
  exact Parameter.readList_suffix rest

end IndicatorWrap
