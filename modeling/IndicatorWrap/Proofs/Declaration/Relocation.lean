import IndicatorWrap.Proofs.Declaration.Recognition
import IndicatorWrap.Proofs.Declaration.Scanning

/-!
Extraction looks at the kinds and the values of tokens. If all tokens are moved
to other lines, the same declarations are found and the same faults are met,
moved to those lines.
-/

namespace IndicatorWrap

/-- The token moved from each line to another. -/
def Token.relocate (f : Int → Int) (token : Token) : Token :=
  { token with line := f token.line }

def Signature.relocate (f : Int → Int) (signature : Signature) : Signature :=
  { signature with line := f signature.line }

def Malformed.relocate (f : Int → Int) (error : Malformed) : Malformed :=
  { error with found := error.found.map (Token.relocate f) }

def Pull.relocate (f : Int → Int) (pull : Pull) : Pull where
  function := pull.function
  rest := pull.rest.map (Token.relocate f)
  result :=
    match pull.result with
    | .error error => .error (error.relocate f)
    | .ok signature => .ok (signature.map (Signature.relocate f))

def Extraction.Status.relocate (f : Int → Int) : Extraction.Status → Extraction.Status
  | .failed (.malformed error) => .failed (.malformed (error.relocate f))
  | status => status

def Extraction.relocate (f : Int → Int) (extraction : Extraction) : Extraction :=
  ⟨extraction.signatures.map (Signature.relocate f), extraction.status.relocate f⟩

variable {α β : Type} (f : Int → Int)

@[simp]
theorem Token.relocate_kind (token : Token) : (token.relocate f).kind = token.kind := rfl

@[simp]
theorem Token.relocate_value (token : Token) : (token.relocate f).value = token.value := rfl

@[simp]
theorem Token.relocate_isWord (token : Token) (word : String) :
    (token.relocate f).isWord word = token.isWord word := rfl

/-- A reading of moved tokens, where `g` says what becomes of its value. -/
def Reading.relocate (g : α → α) : Reading α → Reading α
  | done value rest => done (g value) (rest.map (Token.relocate f))
  | stuck expected rest => stuck expected (rest.map (Token.relocate f))

theorem Reading.map_relocate {g : α → α} {g' : β → β} {h h' : α → β} (reading : Reading α)
    (hvalue : ∀ value, h' (g value) = g' (h value)) :
    (reading.relocate f g).map h' = (reading.map h).relocate f g' := by
  cases reading with
  | done value rest => simp [relocate, map, hvalue]
  | stuck => rfl

theorem Reading.bind_relocate {g : α → α} {g' : β → β} {next next' : α → List Token → Reading β}
    (reading : Reading α)
    (hnext : ∀ value rest,
      next' (g value) (rest.map (Token.relocate f)) = (next value rest).relocate f g') :
    (reading.relocate f g).bind next' = (reading.bind next).relocate f g' := by
  cases reading with
  | done value rest => exact hnext value rest
  | stuck => rfl

theorem Reading.expect_relocate (kind : Token.Kind) (expected : Expected) (tokens : List Token) :
    expect kind expected (tokens.map (Token.relocate f)) =
      (expect kind expected tokens).relocate f (Token.relocate f) := by
  cases tokens with
  | nil => rfl
  | cons token rest =>
      by_cases h : token.kind = kind
      · simp [expect, relocate, h]
      · simp [expect, relocate, h]

theorem TypePath.readMore_relocate (tokens : List Token) :
    readMore (tokens.map (Token.relocate f)) = (readMore tokens).relocate f id := by
  fun_induction readMore tokens with
  | case1 => rfl
  | case2 separator h => simp [readMore, Reading.relocate, h]
  | case3 separator h => simp [readMore, Reading.relocate, h]
  | case4 separator name rest h hname ih =>
      simp only [List.map_cons, readMore, Token.relocate_kind, Token.relocate_value, h, hname,
        if_true, ih]
      apply Reading.map_relocate
      intro value
      rfl
  | case5 separator name rest h hname => simp [readMore, Reading.relocate, h, hname]
  | case6 separator name rest h => simp [readMore, Reading.relocate, h]

theorem TypePath.readRoot_relocate (tokens : List Token) :
    readRoot (tokens.map (Token.relocate f)) =
      ((readRoot tokens).1, (readRoot tokens).2.map (Token.relocate f)) := by
  cases tokens with
  | nil => rfl
  | cons token rest =>
      by_cases h : token.kind = .pathSep
      · simp [readRoot, h]
      · simp [readRoot, h]

theorem TypePath.read_relocate (tokens : List Token) :
    read (tokens.map (Token.relocate f)) = (read tokens).relocate f id := by
  unfold read
  rw [readRoot_relocate]
  simp only [Reading.expect_relocate]
  apply Reading.bind_relocate
  intro name rest
  rw [readMore_relocate]
  apply Reading.map_relocate
  intro value
  rfl

theorem Qualifier.read_relocate (tokens : List Token) :
    read (tokens.map (Token.relocate f)) =
      ((read tokens).1, (read tokens).2.map (Token.relocate f)) := by
  rcases other_or_word tokens with h | ⟨word, qualifier, rest, rfl, h⟩
  · rw [read_of_other h, read_of_other]
    intro moved hmoved
    rw [List.head?_map] at hmoved
    obtain ⟨token, htoken, rfl⟩ := Option.map_eq_some_iff.mp hmoved
    exact h token htoken
  · have hmoved : (word.relocate f).isWord qualifier.word := h
    rw [read_of_word rest h, List.map_cons, read_of_word _ hmoved]

theorem TypeExpr.read_relocate (tokens : List Token) :
    read (tokens.map (Token.relocate f)) = (read tokens).relocate f id := by
  fun_induction read tokens with
  | case1 =>
      rw [List.map_nil, read]
      rfl
  | case2 star rest hstar ih =>
      rw [List.map_cons, read]
      simp only [Token.relocate_kind, hstar, if_true, Qualifier.read_relocate, ih]
      apply Reading.map_relocate
      intro value
      rfl
  | case3 token rest hstar =>
      rw [List.map_cons, read]
      simp only [Token.relocate_kind, hstar, if_false, ← List.map_cons, TypePath.read_relocate]
      apply Reading.map_relocate
      intro value
      rfl

theorem Parameter.read_relocate (tokens : List Token) :
    read (tokens.map (Token.relocate f)) = (read tokens).relocate f id := by
  rw [read, Reading.expect_relocate]
  apply Reading.bind_relocate
  intro name rest
  rw [Reading.expect_relocate]
  apply Reading.bind_relocate
  intro colon rest
  rw [TypeExpr.read_relocate]
  apply Reading.map_relocate
  intro value
  rfl

/-- One parameter and what stands behind it, unless the parentheses close first. -/
theorem Parameter.readList_step {tokens : List Token}
    (h : tokens.head?.map Token.kind ≠ some .closeParen) :
    readList tokens = (read tokens).bind fun parameter behind =>
      match behind with
      | [] => .stuck .commaOrClose []
      | token :: rest =>
        if token.kind = .comma then (readList rest).map (parameter :: ·)
        else if token.kind = .closeParen then .done [parameter] rest
        else .stuck .commaOrClose (token :: rest) := by
  rw [readList]
  split
  · next hhead => exact absurd hhead h
  split
  · next hread => rw [hread, Reading.bind]
  · next hread => rw [hread, Reading.bind]
  · next hread => rw [hread, Reading.bind]

theorem Parameter.readList_relocate (tokens : List Token) :
    readList (tokens.map (Token.relocate f)) = (readList tokens).relocate f id := by
  have hstep : ∀ {tokens : List Token}, tokens.head?.map Token.kind ≠ some .closeParen →
      (tokens.map (Token.relocate f)).head?.map Token.kind ≠ some .closeParen := by
    intro tokens h
    rw [List.head?_map, Option.map_map]
    exact h
  fun_induction readList tokens with
  | case1 tokens hhead =>
      obtain ⟨close, hclose, hkind⟩ := Option.map_eq_some_iff.mp hhead
      obtain ⟨rest, rfl⟩ := List.head?_eq_some_iff.mp hclose
      have hmoved : (close.relocate f).kind = .closeParen := hkind
      exact readList_close _ hmoved
  | case2 tokens expected rest hread hhead =>
      rw [readList_step (hstep hhead), read_relocate, hread]
      rfl
  | case3 tokens parameter hread hhead =>
      rw [readList_step (hstep hhead), read_relocate, hread]
      rfl
  | case4 tokens parameter comma rest hread hcomma hhead ih =>
      rw [readList_step (hstep hhead), read_relocate, hread]
      simp only [Reading.relocate, Reading.bind, List.map_cons, Token.relocate_kind, hcomma,
        if_true, ih]
      apply Reading.map_relocate
      intro value
      rfl
  | case5 tokens parameter close rest hread hcomma hclose hhead =>
      rw [readList_step (hstep hhead), read_relocate, hread]
      simp [Reading.relocate, Reading.bind, hclose]
  | case6 tokens parameter token rest hread hcomma hclose hhead =>
      rw [readList_step (hstep hhead), read_relocate, hread]
      simp [Reading.relocate, Reading.bind, hcomma, hclose]

theorem Signature.readAfter_relocate (name : Token) (tokens : List Token) :
    readAfter (name.relocate f) (tokens.map (Token.relocate f)) =
      (readAfter name tokens).relocate f (Signature.relocate f) := by
  rw [readAfter, readAfter, Reading.expect_relocate]
  apply Reading.bind_relocate
  intro paren rest
  rw [Parameter.readList_relocate]
  apply Reading.map_relocate
  intro value
  rfl

theorem Signature.header?_relocate (tokens : List Token) :
    header? (tokens.map (Token.relocate f)) =
      (header? tokens).map fun (name, behind) =>
        (name.relocate f, behind.map (Token.relocate f)) := by
  match tokens with
  | [] => rfl
  | [_] => rfl
  | [_, _] => rfl
  | [_, _, _] => rfl
  | visibility :: keyword :: name :: paren :: rest =>
      simp only [List.map_cons, header?, Token.relocate_isWord, Token.relocate_kind,
        Token.relocate_value]
      rw [apply_ite (Option.map _)]
      rfl

theorem Pull.ofTokens_relocate (function : String) (tokens : List Token) :
    ofTokens function (tokens.map (Token.relocate f)) = (ofTokens function tokens).relocate f := by
  have hheader : ∀ {tokens behind : List Token} {name : Token},
      Signature.header? tokens = some (name, behind) →
      Signature.header? (tokens.map (Token.relocate f)) =
        some (name.relocate f, behind.map (Token.relocate f)) := by
    intro tokens behind name h
    rw [Signature.header?_relocate, h]
    rfl
  fun_induction ofTokens function tokens with
  | case1 function =>
      rw [List.map_nil, ofTokens_nil]
      rfl
  | case2 function token rest h ih =>
      have hnone : Signature.header? ((token :: rest).map (Token.relocate f)) = none := by
        rw [Signature.header?_relocate, h]
        rfl
      exact (ofTokens_skip hnone function).trans ih
  | case3 function token rest name behind h expected left hread =>
      rw [ofTokens_header (hheader h), Signature.readAfter_relocate, hread]
      simp [Reading.relocate, relocate, Malformed.relocate]
  | case4 function token rest name behind h signature left hread hempty ih =>
      rw [ofTokens_header (hheader h), Signature.readAfter_relocate, hread]
      simp only [Reading.relocate, Signature.relocate, hempty, if_true, Token.relocate_value, ih]
  | case5 function token rest name behind h signature left hread hempty =>
      rw [ofTokens_header (hheader h), Signature.readAfter_relocate, hread]
      simp [Reading.relocate, Signature.relocate, relocate, hempty]

/-- An extraction of moved tokens is the extraction moved. -/
theorem Extraction.ofTokens_relocate (limit : Option Nat) (found : Bool) (tokens : List Token) :
    ofTokens limit found (tokens.map (Token.relocate f)) =
      (ofTokens limit found tokens).relocate f := by
  fun_induction ofTokens limit found tokens with
  | case1 found tokens =>
      rw [ofTokens_zero]
      rfl
  | case2 limit found tokens hlimit error hpull =>
      rw [ofTokens_pull hlimit, Pull.ofTokens_relocate, Pull.relocate, hpull]
      rfl
  | case3 limit found tokens hlimit hpull =>
      rw [ofTokens_pull hlimit, Pull.ofTokens_relocate, Pull.relocate, hpull]
      cases found with
      | false => rfl
      | true => rfl
  | case4 limit found tokens hlimit signature hpull more ih =>
      rw [ofTokens_pull hlimit, Pull.ofTokens_relocate]
      simp only [Pull.relocate, hpull, Option.map_some, ih]
      rfl

end IndicatorWrap
