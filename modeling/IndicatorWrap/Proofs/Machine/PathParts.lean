import IndicatorWrap.Machine.Path

/-!
Names as parts of paths. A name is one part exactly if it is not empty, not a single
dot and has no slash in it; joining such a name to a path adds it behind the others.
-/

namespace IndicatorWrap.Path

/-- The path with one more part. -/
def child (directory : Path) (name : String) : Path :=
  { directory with parts := directory.parts ++ [name] }

/-- Whether a text is one part of a path: read as a path, it is just that part. -/
def IsPart (name : String) : Prop :=
  ofText name = ⟨.current, [name]⟩

instance (name : String) : Decidable (IsPart name) :=
  inferInstanceAs (Decidable (_ = _))

theorem join_of_isPart {name : String} (h : IsPart name) (directory : Path) :
    directory.join name = directory.child name := by
  rw [join, h]
  rfl

theorem slash_not_mem_of_mem_pieces {text piece : List Char} (h : piece ∈ pieces text) :
    '/' ∉ piece := by
  induction text generalizing piece with
  | nil =>
      rw [List.mem_singleton.mp h]
      exact List.not_mem_nil
  | cons c rest ih =>
      unfold pieces at h
      split at h
      · rcases List.mem_cons.mp h with rfl | hrest
        · exact List.not_mem_nil
        · exact ih hrest
      · next hc =>
          split at h
          · rw [List.mem_singleton.mp h]
            simpa using Ne.symm hc
          · next first more hrest =>
              rcases List.mem_cons.mp h with rfl | hmore
              · have hfirst := ih (hrest ▸ List.mem_cons_self)
                simp [Ne.symm hc, hfirst]
              · exact ih (hrest ▸ List.mem_cons_of_mem _ hmore)

theorem pieces_of_slash_not_mem {text : List Char} (h : '/' ∉ text) : pieces text = [text] := by
  induction text with
  | nil => rfl
  | cons c rest ih =>
      obtain ⟨hc, hrest⟩ := not_or.mp (mt List.mem_cons.mpr h)
      rw [pieces, if_neg (Ne.symm hc), ih hrest]

theorem ofText_of_slash_not_mem {name : String} (h : '/' ∉ name.toList) :
    ofText name = ⟨.current, if name = "" ∨ name = "." then [] else [name]⟩ := by
  have hroot : rootOf name.toList = .current := by
    have hfront : name.toList.takeWhile (· == '/') = [] := by
      cases hlist : name.toList with
      | nil => rfl
      | cons c rest =>
          rw [List.takeWhile_cons_of_neg]
          rintro hc
          exact h (hlist ▸ (beq_iff_eq.mp hc) ▸ List.mem_cons_self)
    rw [rootOf, hfront]
    rfl
  rw [ofText, hroot, pieces_of_slash_not_mem h]
  by_cases hblank : name = "" ∨ name = "."
  · rcases hblank with rfl | rfl
    · rfl
    · rfl
  · have hempty : name.toList ≠ [] := fun htext => hblank (.inl (String.toList_inj.mp htext))
    have hdot : name.toList ≠ ['.'] := fun htext => hblank (.inr (String.toList_inj.mp htext))
    simp [hempty, hdot, hblank]

theorem isPart_iff {name : String} :
    IsPart name ↔ name ≠ "" ∧ name ≠ "." ∧ '/' ∉ name.toList := by
  constructor
  · intro h
    have hslash : '/' ∉ name.toList := by
      have hmem : name ∈ (ofText name).parts := by
        rw [show ofText name = _ from h]
        exact List.mem_singleton_self name
      obtain ⟨piece, hpiece, rfl⟩ := List.mem_map.mp hmem
      simpa using slash_not_mem_of_mem_pieces (List.mem_filter.mp hpiece).1
    have hparts := congrArg Path.parts h
    rw [ofText_of_slash_not_mem hslash] at hparts
    grind
  · rintro ⟨hempty, hdot, hslash⟩
    rw [IsPart, ofText_of_slash_not_mem hslash, if_neg (by simp [hempty, hdot])]

end IndicatorWrap.Path
