import IndicatorWrap.Proofs.Declaration.Runs

/-!
Progress of a cursor. No reading takes a cursor back: it goes over tokens that were ahead, and
one that gets stuck leaves the cursor at the token it is stuck at. Looking for the next
declaration takes a token wherever one is left, so that whoever goes on after every fault comes
to the end.
-/

namespace IndicatorWrap

/-- A header and what is read behind it are taken off the front. -/
theorem Signature.exists_taken_of_header {tokens behind : List Token} {name : Token}
    (h : header? tokens = some (name, behind)) :
    ∃ taken, tokens = taken ++ (readAfter name behind).rest ∧ 0 < taken.length := by
  obtain ⟨-, -, visibility, keyword, rfl⟩ := header?_eq_some h
  obtain ⟨taken, htaken⟩ := readAfter_suffix name behind
  refine ⟨visibility :: keyword :: name :: taken, ?_, Nat.succ_pos _⟩
  simp only [List.cons_append, htaken]

namespace Pull

/-- What a pull leaves is the end of its tokens, and it takes one unless there is none. -/
theorem exists_taken (function : String) (tokens : List Token) :
    ∃ taken, tokens = taken ++ (ofTokens function tokens).rest ∧
      (tokens ≠ [] → 0 < taken.length) := by
  fun_induction ofTokens function tokens with
  | case1 => exact ⟨[], rfl, by simp⟩
  | case2 function token rest hheader ih =>
      obtain ⟨taken, htaken, -⟩ := ih
      refine ⟨token :: taken, ?_, fun _ => Nat.succ_pos _⟩
      rw [List.cons_append, ← htaken]
  | case3 function token rest name behind hheader expected left hread =>
      obtain ⟨taken, htaken, hpos⟩ := Signature.exists_taken_of_header hheader
      rw [hread] at htaken
      exact ⟨taken, htaken, fun _ => hpos⟩
  | case4 function token rest name behind hheader signature left hread _ ih =>
      obtain ⟨taken, htaken, hpos⟩ := Signature.exists_taken_of_header hheader
      rw [hread] at htaken
      obtain ⟨more, hmore, -⟩ := ih
      refine ⟨taken ++ more, ?_, fun _ => ?_⟩
      · rw [List.append_assoc, ← hmore]
        exact htaken
      · rw [List.length_append]
        omega
  | case5 function token rest name behind hheader signature left hread _ =>
      obtain ⟨taken, htaken, hpos⟩ := Signature.exists_taken_of_header hheader
      rw [hread] at htaken
      exact ⟨taken, htaken, fun _ => hpos⟩

/-- What a pull reports as found instead is the first token it leaves. -/
theorem found_of_error {function : String} {tokens : List Token} {error : Malformed}
    (h : (ofTokens function tokens).result = .error error) :
    error.found = (ofTokens function tokens).rest.head? := by
  obtain ⟨-, -, name, -, expected, rest, -, -, -, rfl, hpull⟩ := ofTokens_error h
  rw [hpull]

end Pull

namespace Cursor

variable {α : Type} {cursor : Cursor}

/-- Whether something done with a cursor has taken it forward, over tokens that were ahead and
nothing else. If it went wrong, the cursor is left at the token that was found instead. -/
structure Advances (cursor : Cursor) (outcome : Except Malformed α × Cursor) : Prop where
  tokens_eq : outcome.2.tokens = cursor.tokens
  position_le : cursor.position ≤ outcome.2.position
  position_le_max : outcome.2.position ≤ max cursor.position cursor.tokens.length
  found_eq : ∀ error, outcome.1 = .error error → error.found = outcome.2.peek 0

theorem peek_zero (cursor : Cursor) : cursor.peek 0 = cursor.ahead.head? := by
  rw [ahead, List.head?_drop]
  rfl

theorem ahead_length (cursor : Cursor) :
    cursor.ahead.length = cursor.tokens.length - cursor.position :=
  List.length_drop

/-- Moving to the end of the tokens ahead is moving forward. -/
theorem advances_of_append {taken rest : List Token} (h : cursor.ahead = taken ++ rest)
    {result : Except Malformed α} (function : String)
    (hfound : ∀ error, result = .error error → error.found = rest.head?) :
    cursor.Advances (result, { cursor.advanceTo rest with function }) := by
  have hmoved := advanceTo_of_append h
  have hlength := congrArg List.length h
  rw [ahead_length, List.length_append] at hlength
  constructor
  case tokens_eq => rfl
  case position_le => exact Nat.le_add_right _ _
  case position_le_max =>
    simp only [hmoved]
    omega
  case found_eq =>
    intro error herror
    rw [hfound error herror, peek_zero]
    exact congrArg List.head? (ahead_advanceTo h).symm

/-- A reading that keeps a suffix of its tokens takes a cursor forward. -/
theorem advances_read {reader : List Token → Reading α}
    (hreader : ∀ tokens, (reader tokens).rest <:+ tokens) (cursor : Cursor) :
    cursor.Advances (cursor.read reader) := by
  obtain ⟨taken, htaken⟩ := hreader cursor.ahead
  unfold read
  split
  · next value rest hread =>
      rw [hread] at htaken
      exact advances_of_append htaken.symm _ (by simp)
  · next expected rest hread =>
      rw [hread] at htaken
      refine advances_of_append htaken.symm _ ?_
      rintro error ⟨⟩
      rfl

/-- What goes on from where a cursor was taken goes forward too, whatever function is noted in
between. -/
theorem Advances.trans {β : Type} {first : Except Malformed α} {middle : Cursor} {function : String}
    {outcome : Except Malformed β × Cursor} (h : cursor.Advances (first, middle))
    (hmore : Advances { middle with function } outcome) : cursor.Advances outcome where
  tokens_eq := hmore.tokens_eq.trans h.tokens_eq
  position_le := h.position_le.trans hmore.position_le
  position_le_max := by
    have hfirst := h.position_le_max
    have hlast := hmore.position_le_max
    have htokens : middle.tokens = cursor.tokens := h.tokens_eq
    rw [htokens] at hlast
    dsimp only at hfirst hlast
    omega
  found_eq := hmore.found_eq

/-- Reading a declaration goes forward from behind the two tokens that it passes over, even if
there are no such tokens. -/
theorem advances_readDeclaration (cursor : Cursor) :
    Advances { cursor with position := cursor.position + 2 } cursor.readDeclaration := by
  let start : Cursor := { cursor with position := cursor.position + 2 }
  change start.Advances cursor.readDeclaration
  have hexpect : start.Advances (start.expect .ident .functionName) :=
    advances_read (Reading.expect_rest_suffix _ _) start
  rw [readDeclaration]
  rcases heq : start.expect .ident .functionName with ⟨error | name, after⟩
  · rw [heq] at hexpect
    refine ⟨hexpect.tokens_eq, hexpect.position_le, hexpect.position_le_max, ?_⟩
    rintro _ ⟨⟩
    exact hexpect.found_eq error rfl
  · rw [heq] at hexpect
    exact hexpect.trans (advances_read (Signature.readAfter_suffix name) _)

theorem advances_next (cursor : Cursor) :
    cursor.Advances cursor.next ∧
      (cursor.position < cursor.tokens.length → cursor.position < cursor.next.2.position) := by
  obtain ⟨taken, htaken, hpos⟩ := Pull.exists_taken cursor.function cursor.ahead
  refine ⟨advances_of_append htaken _ fun error => Pull.found_of_error, fun hinside => ?_⟩
  have hsome : cursor.ahead ≠ [] := by
    rw [← List.length_pos_iff, ahead_length]
    omega
  rw [next, advanceTo_of_append htaken]
  exact Nat.lt_add_of_pos_right (hpos hsome)

/-- At the end of the tokens there is nothing to look for. -/
theorem next_of_end (h : cursor.tokens.length ≤ cursor.position) :
    cursor.next = (.ok none, cursor) := by
  have hnone : cursor.ahead = [] := List.drop_of_length_le h
  rw [next, hnone, Pull.ofTokens_nil, advanceTo, hnone]
  rfl

/-- The cursor after so many calls for the next declaration, each made where the one before has
ended, also if that one has met a fault. -/
def resumed (cursor : Cursor) : Nat → Cursor
  | 0 => cursor
  | calls + 1 => (cursor.resumed calls).next.2

theorem tokens_resumed (cursor : Cursor) (calls : Nat) :
    (cursor.resumed calls).tokens = cursor.tokens := by
  induction calls with
  | zero => rfl
  | succ calls ih => exact (advances_next _).1.tokens_eq.trans ih

/-- Each call has passed a token at least, up to the end. -/
theorem le_position_resumed (cursor : Cursor) (calls : Nat) :
    min (cursor.position + calls) cursor.tokens.length ≤ (cursor.resumed calls).position := by
  induction calls with
  | zero => exact Nat.min_le_left _ _
  | succ calls ih =>
      obtain ⟨hforward, hstep⟩ := advances_next (cursor.resumed calls)
      rw [tokens_resumed] at hstep
      have hle := hforward.position_le
      rw [resumed]
      -- behind the last token no call passes one, and none has to
      by_cases hinside : (cursor.resumed calls).position < cursor.tokens.length
      · have hlt := hstep hinside
        omega
      · omega

/-- A cursor makes progress. Looking for the next declaration goes forward by a token at least
where one is left, and otherwise ends at once; no reading goes back, whether it is done or gets
stuck; so the call that comes after as many calls as tokens are left, and every later one, is at
the end. -/
theorem progresses (cursor : Cursor) :
    (cursor.Advances cursor.next ∧
      (cursor.position < cursor.tokens.length →
        cursor.position < cursor.next.2.position ∧
          cursor.next.2.position ≤ cursor.tokens.length) ∧
      (cursor.tokens.length ≤ cursor.position → cursor.next = (.ok none, cursor))) ∧
    ((∀ kind expected, cursor.Advances (cursor.expect kind expected)) ∧
      cursor.Advances cursor.readPath ∧ cursor.Advances cursor.readType ∧
      cursor.Advances cursor.readParameter ∧
      Advances { cursor with position := cursor.position + 2 } cursor.readDeclaration) ∧
    ∀ calls, cursor.tokens.length - cursor.position ≤ calls →
      (cursor.resumed calls).next = (.ok none, cursor.resumed calls) := by
  obtain ⟨hforward, hstep⟩ := advances_next cursor
  refine ⟨⟨hforward, fun hinside => ⟨hstep hinside, ?_⟩, next_of_end⟩, ⟨?_, ?_, ?_, ?_, ?_⟩, ?_⟩
  · have hmax := hforward.position_le_max
    omega
  · exact fun kind expected => advances_read (Reading.expect_rest_suffix kind expected) cursor
  · exact advances_read TypePath.read_suffix cursor
  · exact advances_read TypeExpr.read_suffix cursor
  · exact advances_read Parameter.read_suffix cursor
  · exact advances_readDeclaration cursor
  · intro calls hcalls
    have hreached := le_position_resumed cursor calls
    apply next_of_end
    rw [tokens_resumed]
    omega

/-- Two headers with a fault behind each. The second declaration gets stuck inside the third
header, which is passed over for that reason. -/
def faulty : String :=
  "pub fn TA_A(x) pub fn TA_B( pub fn TA_C(y: f64)"

/-- Both faults are met in turn, and the call behind them is at the end. -/
theorem faulty_progresses :
    let cursor := Cursor.ofTokens (Token.scan faulty)
    (cursor.next.1 = .error ⟨"TA_A", .colonAfter "x", some ⟨.closeParen, ")", 1⟩⟩ ∧
      (cursor.resumed 1).next.1 = .error ⟨"TA_B", .colonAfter "pub", some ⟨.ident, "fn", 1⟩⟩) ∧
    (cursor.position < cursor.tokens.length ∧ cursor.position < cursor.next.2.position) ∧
    cursor.tokens.length - cursor.position ≤ 18 ∧
      (cursor.resumed 18).next = (.ok none, cursor.resumed 18) := by
  intro cursor
  have hfaults : cursor.next.1 = .error ⟨"TA_A", .colonAfter "x", some ⟨.closeParen, ")", 1⟩⟩ ∧
      (cursor.resumed 1).next.1 =
        .error ⟨"TA_B", .colonAfter "pub", some ⟨.ident, "fn", 1⟩⟩ := by
    decide +kernel
  have hinside : cursor.position < cursor.tokens.length := by decide +kernel
  have hcalls : cursor.tokens.length - cursor.position ≤ 18 := by decide +kernel
  obtain ⟨⟨-, hstep, -⟩, -, hend⟩ := progresses cursor
  exact ⟨hfaults, ⟨hinside, (hstep hinside).1⟩, hcalls, hend 18 hcalls⟩

end Cursor

end IndicatorWrap
