import IndicatorWrap.Declaration.Cursor
import IndicatorWrap.Proofs.Declaration.Recognition
import IndicatorWrap.Wrapper.Failure

/-!
What a cursor reads as a declaration. Two tokens behind the cursor are passed
over; the reading succeeds exactly if the tokens from there to some place derive
a declaration. That place is unique, and nothing behind it has any influence.
-/

namespace IndicatorWrap

/-- The tokens from `start` up to `stop`. -/
def Token.slice (tokens : List Token) (start stop : Nat) : List Token :=
  (tokens.take stop).drop start

theorem Token.slice_eq_iff {tokens taken : List Token} {start stop : Nat} (htaken : taken ≠ []) :
    stop ≤ tokens.length ∧ slice tokens start stop = taken ↔
      ∃ rest, tokens.drop start = taken ++ rest ∧ stop = start + taken.length := by
  constructor
  · rintro ⟨hstop, rfl⟩
    have hlength := List.length_pos_iff.mpr htaken
    simp only [slice, List.length_drop, List.length_take] at hlength ⊢
    refine ⟨tokens.drop stop, ?_, by omega⟩
    conv_lhs => rw [← List.take_append_drop stop tokens]
    exact List.drop_append_of_le_length (by rw [List.length_take]; omega)
  · rintro ⟨rest, hdrop, rfl⟩
    have hlength := congrArg List.length hdrop
    have hpos := List.length_pos_iff.mpr htaken
    rw [List.length_drop, List.length_append] at hlength
    refine ⟨by omega, ?_⟩
    rw [slice, List.drop_take, hdrop, Nat.add_sub_cancel_left, List.take_left]

namespace Cursor

variable {α : Type}

theorem advanceTo_of_append {cursor : Cursor} {taken rest : List Token}
    (h : cursor.ahead = taken ++ rest) :
    cursor.advanceTo rest = { cursor with position := cursor.position + taken.length } := by
  simp [advanceTo, h]

theorem ahead_advanceTo {cursor : Cursor} {taken rest : List Token}
    (h : cursor.ahead = taken ++ rest) : (cursor.advanceTo rest).ahead = rest := by
  rw [advanceTo_of_append h]
  change cursor.tokens.drop (cursor.position + taken.length) = rest
  rw [← List.drop_drop]
  change cursor.ahead.drop taken.length = rest
  rw [h, List.drop_left]

/-- Whether the tokens from two behind the cursor up to `stop` derive a
declaration. -/
def Declares (cursor : Cursor) (stop : Nat) (signature : Signature) : Prop :=
  stop ≤ cursor.tokens.length ∧
    Derives.Declaration (Token.slice cursor.tokens (cursor.position + 2) stop) signature

theorem declares_iff {cursor : Cursor} {stop : Nat} {signature : Signature} :
    cursor.Declares stop signature ↔
      ∃ taken rest, cursor.tokens.drop (cursor.position + 2) = taken ++ rest ∧
        Derives.Declaration taken signature ∧ stop = cursor.position + 2 + taken.length := by
  constructor
  · rintro ⟨hstop, hderives⟩
    obtain ⟨rest, hdrop, hlength⟩ := (Token.slice_eq_iff hderives.ne_nil).mp ⟨hstop, rfl⟩
    exact ⟨_, rest, hdrop, hderives, hlength⟩
  · rintro ⟨taken, rest, hdrop, hderives, hlength⟩
    obtain ⟨hstop, hslice⟩ := (Token.slice_eq_iff hderives.ne_nil).mpr ⟨rest, hdrop, hlength⟩
    exact ⟨hstop, hslice ▸ hderives⟩

theorem read_of_done {reader : List Token → Reading α} {cursor : Cursor} {value : α}
    {rest : List Token} (h : reader cursor.ahead = .done value rest) :
    cursor.read reader = (.ok value, cursor.advanceTo rest) := by
  simp [read, h]

theorem read_eq_ok {reader : List Token → Reading α} {cursor : Cursor} {value : α}
    (h : (cursor.read reader).1 = .ok value) : ∃ rest, reader cursor.ahead = .done value rest := by
  unfold read at h
  split at h
  · next value' rest hdone =>
      cases h
      exact ⟨rest, hdone⟩
  · cases h

/-- Reading a declaration whose name is there goes on behind the name. -/
theorem readDeclaration_of_name {cursor : Cursor} {name : Token} {behind : List Token}
    (h : cursor.tokens.drop (cursor.position + 2) = name :: behind) (hname : name.kind = .ident) :
    cursor.readDeclaration =
      Cursor.read (Signature.readAfter name) ⟨cursor.tokens, cursor.position + 3, name.value⟩ := by
  have hstart : (Cursor.mk cursor.tokens (cursor.position + 2) cursor.function).ahead =
      [name] ++ behind := h
  have hexpect : (Cursor.mk cursor.tokens (cursor.position + 2) cursor.function).expect .ident
      .functionName = (.ok name, ⟨cursor.tokens, cursor.position + 3, cursor.function⟩) := by
    have hdone : Reading.expect .ident .functionName _ = .done name behind :=
      Reading.expect_eq_done_iff.mpr ⟨hstart, hname⟩
    exact (read_of_done hdone).trans (congrArg _ (advanceTo_of_append hstart))
  rw [readDeclaration, hexpect]

/-- A declaration two tokens behind the cursor is read, and the cursor moves to
its end. -/
theorem readDeclaration_of_derives {cursor : Cursor} {taken rest : List Token}
    {signature : Signature} (hahead : cursor.tokens.drop (cursor.position + 2) = taken ++ rest)
    (hderives : Derives.Declaration taken signature) :
    cursor.readDeclaration =
      (.ok signature, ⟨cursor.tokens, cursor.position + 2 + taken.length, signature.name⟩) := by
  obtain ⟨name, behind, rfl, hname⟩ := hderives.exists_name
  let named : Cursor := ⟨cursor.tokens, cursor.position + 3, name.value⟩
  have hnamed : named.ahead = behind ++ rest := by
    change cursor.tokens.drop (cursor.position + 2 + 1) = behind ++ rest
    rw [← List.drop_drop, hahead]
    rfl
  have hread : Signature.readAfter name named.ahead = .done signature rest := by
    rw [hnamed]
    exact Signature.readAfter_complete hderives rest
  have hvalue : signature.name = name.value := by
    cases hderives
    rfl
  calc cursor.readDeclaration = named.read (Signature.readAfter name) :=
        readDeclaration_of_name hahead hname
    _ = (.ok signature, named.advanceTo rest) := read_of_done hread
    _ = _ := by
        rw [advanceTo_of_append hnamed, hvalue, List.length_cons]
        simp only [named]
        congr 2
        omega

theorem derives_of_readDeclaration {cursor : Cursor} {signature : Signature}
    (h : cursor.readDeclaration.1 = .ok signature) :
    ∃ taken rest, cursor.tokens.drop (cursor.position + 2) = taken ++ rest ∧
      Derives.Declaration taken signature := by
  let start : Cursor := { cursor with position := cursor.position + 2 }
  simp only [readDeclaration] at h
  split at h
  · cases h
  · next name after hexpect =>
      change start.expect .ident .functionName = (.ok name, after) at hexpect
      obtain ⟨behind, hdone⟩ := read_eq_ok (congrArg Prod.fst hexpect)
      obtain ⟨hstart, hname⟩ := Reading.expect_eq_done_iff.mp hdone
      have hafter : after.ahead = behind := by
        have hmoved := (read_of_done hdone).symm.trans hexpect
        rw [← (Prod.mk.inj hmoved).2]
        exact ahead_advanceTo (List.singleton_append.symm ▸ hstart)
      obtain ⟨rest, hread⟩ := read_eq_ok h
      change Signature.readAfter name after.ahead = .done signature rest at hread
      rw [hafter] at hread
      obtain ⟨taken, rfl, hderives⟩ := Signature.readAfter_sound hname hread
      exact ⟨name :: taken, rest, hstart, hderives⟩

/-- A cursor reads exactly the declarations of the grammar, each up to its own
end and without regard to what follows; every other reading is reported as
malformed. -/
theorem readDeclaration_iff_declares (cursor : Cursor) :
    (∀ signature stop,
      cursor.readDeclaration.1 = .ok signature ∧ cursor.readDeclaration.2.position = stop ↔
        cursor.Declares stop signature) ∧
    (∀ signature signature' stop stop', cursor.Declares stop signature →
      cursor.Declares stop' signature' → stop = stop' ∧ signature = signature') ∧
    (∀ signature stop (other : Cursor), cursor.Declares stop signature →
      other.position = cursor.position → other.tokens.take stop = cursor.tokens.take stop →
      other.readDeclaration.1 = .ok signature ∧ other.readDeclaration.2.position = stop) ∧
    ((∀ signature stop, ¬cursor.Declares stop signature) →
      ∃ error, cursor.readDeclaration.1 = .error error ∧
        (ExtractionError.malformed error).report.code = "MALFORMED_DECLARATION") := by
  have hreads : ∀ (cursor : Cursor) signature stop, cursor.Declares stop signature →
      cursor.readDeclaration.1 = .ok signature ∧ cursor.readDeclaration.2.position = stop := by
    intro cursor signature stop h
    obtain ⟨taken, rest, hahead, hderives, rfl⟩ := declares_iff.mp h
    rw [readDeclaration_of_derives hahead hderives]
    exact ⟨rfl, rfl⟩
  have hderives : ∀ signature, cursor.readDeclaration.1 = .ok signature →
      cursor.Declares cursor.readDeclaration.2.position signature := by
    intro signature h
    obtain ⟨taken, rest, hahead, hderives⟩ := derives_of_readDeclaration h
    refine declares_iff.mpr ⟨taken, rest, hahead, hderives, ?_⟩
    rw [readDeclaration_of_derives hahead hderives]
  refine ⟨?_, ?_, ?_, ?_⟩
  · intro signature stop
    constructor
    · rintro ⟨hok, rfl⟩
      exact hderives signature hok
    · exact hreads cursor signature stop
  · intro signature signature' stop stop' h h'
    obtain ⟨taken, rest, hahead, hfirst, rfl⟩ := declares_iff.mp h
    obtain ⟨taken', rest', hahead', hsecond, rfl⟩ := declares_iff.mp h'
    obtain ⟨rfl, -, rfl⟩ := hfirst.unique hsecond (hahead.symm.trans hahead')
    exact ⟨rfl, rfl⟩
  · intro signature stop other h hposition htake
    refine hreads other signature stop ⟨?_, ?_⟩
    · have hlength := congrArg List.length htake
      have hstop := h.1
      simp only [List.length_take] at hlength
      omega
    · rw [Token.slice, htake, hposition]
      exact h.2
  · intro hnone
    cases hresult : cursor.readDeclaration.1 with
    | ok signature => exact absurd (hderives signature hresult) (hnone _ _)
    | error error => exact ⟨error, rfl, rfl⟩

end Cursor

end IndicatorWrap
