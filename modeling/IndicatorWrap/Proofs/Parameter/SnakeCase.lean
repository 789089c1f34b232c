import Mathlib.Data.List.Infix
import IndicatorWrap.Proofs.Parameter.CleanName

/-!
Snake case. It keeps the letters of a text, in lower case, and decides between any
two successive ones whether an underscore stands there. The letters and these
decisions determine the result, because no underscore stands at its ends and none
beside another. So a text that is in snake case already stays as it is.
-/

namespace IndicatorWrap

/-- The characters of a text that are no underscores. -/
def letters (text : List Char) : List Char :=
  text.filter (· ≠ '_')

/-- Two letters of a text with nothing but underscores between them. -/
structure Joint where
  front : List Char
  left : Char
  gap : List Char
  right : Char
  back : List Char

/-- Whether the two letters stand in a text, with so many letters in front of them. -/
structure Joint.At (joint : Joint) (place : Nat) (text : List Char) : Prop where
  text_eq : text = joint.front ++ joint.left :: (joint.gap ++ joint.right :: joint.back)
  place_eq : (letters joint.front).length = place
  left : joint.left ≠ '_'
  right : joint.right ≠ '_'
  gap : ∀ c ∈ joint.gap, c = '_'

/-- Whether a word ends between the two letters: at an underscore, in front of a
capital behind a small letter or digit, and in front of the last of several capitals
if a small letter follows. -/
def Joint.Breaks (joint : Joint) : Prop :=
  joint.gap ≠ [] ∨
    ((joint.left.isLower ∨ joint.left.isDigit) ∧ joint.right.isUpper) ∨
    (joint.left.isUpper ∧ joint.right.isUpper ∧ joint.back.head?.any Char.isLower)

/-- What the snake case of a text has to be. -/
structure SnakeCased (text result : List Char) : Prop where
  letters_eq : letters result = (letters text).map Char.toLower
  head : result.head? ≠ some '_'
  last : result.getLast? ≠ some '_'
  single : ¬['_', '_'] <:+: result
  joints : ∀ place joint, Joint.At joint place text →
    ∃ joined, Joint.At joined place result ∧ (joined.gap ≠ [] ↔ joint.Breaks)

@[simp]
theorem letters_underscore (text : List Char) : letters ('_' :: text) = letters text := by
  simp [letters]

@[simp]
theorem letters_cons {c : Char} (h : c ≠ '_') (text : List Char) :
    letters (c :: text) = c :: letters text := by
  simp [letters, h]

@[simp]
theorem letters_append (front back : List Char) :
    letters (front ++ back) = letters front ++ letters back :=
  List.filter_append ..

theorem letters_cons_eq (c : Char) (text : List Char) :
    letters (c :: text) = letters [c] ++ letters text :=
  letters_append [c] text

theorem letters_eq_nil_iff {text : List Char} : letters text = [] ↔ ∀ c ∈ text, c = '_' := by
  simp [letters]

theorem letters_eq_cons_iff {text more : List Char} {c : Char} :
    letters text = c :: more ↔
      ∃ gap back, text = gap ++ c :: back ∧ (∀ x ∈ gap, x = '_') ∧ c ≠ '_' ∧
        letters back = more := by
  simp [letters, List.filter_eq_cons_iff]

/-- The letters in front of a letter tell where it stands. -/
theorem eq_of_length_letters {front front' rest rest' : List Char} {c c' : Char}
    (h : front ++ c :: rest = front' ++ c' :: rest') (hc : c ≠ '_') (hc' : c' ≠ '_')
    (hlength : (letters front).length = (letters front').length) :
    front = front' ∧ c = c' ∧ rest = rest' := by
  induction front generalizing front' with
  | nil =>
      cases front' with
      | nil =>
          obtain ⟨rfl, rfl⟩ := List.cons.inj h
          exact ⟨rfl, rfl, rfl⟩
      | cons x front' =>
          obtain ⟨rfl, -⟩ := List.cons.inj h
          simp [hc, letters] at hlength
  | cons x front ih =>
      cases front' with
      | nil =>
          obtain ⟨rfl, -⟩ := List.cons.inj h
          simp [hc', letters] at hlength
      | cons y front' =>
          obtain ⟨rfl, hrest⟩ := List.cons.inj h
          have hless : (letters front).length = (letters front').length := by
            by_cases hx : x = '_'
            · simpa [hx] using hlength
            · simpa [hx] using hlength
          obtain ⟨rfl, rfl, rfl⟩ := ih hrest hless
          exact ⟨rfl, rfl, rfl⟩

namespace Joint

variable {joint other : Joint} {place : Nat} {text : List Char}

theorem At.unique (h : joint.At place text) (h' : other.At place text) : other = joint := by
  obtain ⟨front, left, gap, right, back⟩ := joint
  obtain ⟨front', left', gap', right', back'⟩ := other
  obtain ⟨hfront, hleft, hmore⟩ := eq_of_length_letters (h.text_eq.symm.trans h'.text_eq) h.left
    h'.left (h.place_eq.trans h'.place_eq.symm)
  have hgap := letters_eq_nil_iff.mpr h.gap
  have hgap' := letters_eq_nil_iff.mpr h'.gap
  obtain ⟨hgaps, hright, hback⟩ := eq_of_length_letters hmore h.right h'.right
    (by rw [hgap, hgap'])
  simp_all

/-- Between any two successive letters there is a joint. -/
theorem exists_at {front back : List Char} {left right : Char}
    (h : letters text = front ++ left :: right :: back) :
    ∃ joint : Joint, joint.At front.length text := by
  obtain ⟨before, behind, rfl, rfl, hbehind⟩ := List.filter_eq_append_iff.mp h
  obtain ⟨more, rest, rfl, hmore, hleft, hrest⟩ := letters_eq_cons_iff.mp hbehind
  obtain ⟨gap, later, rfl, hgap, hright, -⟩ := letters_eq_cons_iff.mp hrest
  refine ⟨⟨before ++ more, left, gap, right, later⟩, ?_, ?_, hleft, hright, hgap⟩
  · simp
  · rw [letters_append, letters_eq_nil_iff.mpr hmore, List.append_nil]
    rfl

end Joint

namespace SnakeCased

variable {text result other : List Char}

/-- A gap of a text in snake case has at most one underscore. -/
theorem gap_eq (h : SnakeCased text result) {place : Nat} {joint : Joint}
    (hjoint : joint.At place result) : joint.gap = [] ∨ joint.gap = ['_'] := by
  cases hgap : joint.gap with
  | nil => exact .inl rfl
  | cons x more =>
      cases more with
      | nil =>
          have hx := hjoint.gap x (by simp [hgap])
          exact .inr (by rw [hx])
      | cons y more =>
          have hx := hjoint.gap x (by simp [hgap])
          have hy := hjoint.gap y (by simp [hgap])
          refine absurd ?_ h.single
          rw [hjoint.text_eq, hgap, hx, hy]
          exact ⟨joint.front ++ [joint.left], more ++ joint.right :: joint.back, by simp⟩

/-- Successive letters of the result come from successive letters of the text. -/
theorem exists_origin (h : SnakeCased text result) {front more : List Char} {left right : Char}
    (hresult : letters result = front ++ left :: right :: more) :
    ∃ origin : Joint, origin.At front.length text := by
  obtain ⟨before, behind, hsplit, hbefore, hbehind⟩ :=
    List.map_eq_append_iff.mp (h.letters_eq.symm.trans hresult)
  obtain ⟨first, later, rfl, -, hlater⟩ := List.map_eq_cons_iff.mp hbehind
  obtain ⟨second, last, rfl, -, -⟩ := List.map_eq_cons_iff.mp hlater
  rw [← hbefore, List.length_map]
  exact Joint.exists_at hsplit

/-- Two texts in the snake case of one text have the same gap at each place. -/
theorem gap_congr (h : SnakeCased text result) (h' : SnakeCased text other) {place : Nat}
    {joint joint' : Joint} (hjoint : joint.At place result) (hjoint' : joint'.At place other)
    (hplace : ∃ origin : Joint, origin.At place text) : joint.gap = joint'.gap := by
  obtain ⟨origin, horigin⟩ := hplace
  obtain ⟨found, hfound, hbreaks⟩ := h.joints place origin horigin
  obtain ⟨found', hfound', hbreaks'⟩ := h'.joints place origin horigin
  obtain rfl := hfound.unique hjoint
  obtain rfl := hfound'.unique hjoint'
  have hsame := hbreaks.trans hbreaks'.symm
  rcases h.gap_eq hjoint with hgap | hgap
  · rcases h'.gap_eq hjoint' with hgap' | hgap'
    · rw [hgap, hgap']
    · simp [hgap, hgap'] at hsame
  · rcases h'.gap_eq hjoint' with hgap' | hgap'
    · simp [hgap, hgap'] at hsame
    · rw [hgap, hgap']

/-- Behind a letter there is nothing, or no underscore ends the text. -/
theorem eq_nil_of_letters (h : SnakeCased text result) {front rest : List Char}
    (hresult : result = front ++ rest) (hrest : letters rest = []) : rest = [] := by
  by_contra hne
  apply h.last
  rw [hresult, List.getLast?_append_of_ne_nil _ hne, List.getLast?_eq_getLast_of_ne_nil hne,
    letters_eq_nil_iff.mp hrest _ (List.getLast_mem hne)]

/-- The texts agree behind a letter up to which they agree. The induction is on the
letters that follow. -/
theorem rest_eq (h : SnakeCased text result) (h' : SnakeCased text other)
    {front rest rest' : List Char} {c : Char} (hc : c ≠ '_')
    (hresult : result = front ++ c :: rest) (hother : other = front ++ c :: rest') :
    rest = rest' := by
  have hletters : letters rest = letters rest' := by
    have hsame := h.letters_eq.trans h'.letters_eq.symm
    simpa [hresult, hother, hc] using hsame
  induction hmore : letters rest generalizing front c rest rest' with
  | nil =>
      have hnil := h.eq_nil_of_letters (hresult.trans (List.append_cons front c rest)) hmore
      have hnil' := h'.eq_nil_of_letters (hother.trans (List.append_cons front c rest'))
        (hletters.symm.trans hmore)
      rw [hnil, hnil']
  | cons d more ih =>
      obtain ⟨gap, back, rfl, hgap, hd, hback⟩ := letters_eq_cons_iff.mp hmore
      obtain ⟨gap', back', rfl, hgap', -, hback'⟩ :=
        letters_eq_cons_iff.mp (hletters.symm.trans hmore)
      have hsuccessive : letters result = letters front ++ c :: d :: more := by
        rw [hresult, letters_append, letters_cons hc, hmore]
      have hplace := h.exists_origin hsuccessive
      have hjoint : (Joint.mk front c gap d back).At (letters front).length result :=
        ⟨hresult, rfl, hc, hd, hgap⟩
      have hjoint' : (Joint.mk front c gap' d back').At (letters front).length other :=
        ⟨hother, rfl, hc, hd, hgap'⟩
      obtain rfl : gap = gap' := h.gap_congr h' hjoint hjoint' hplace
      have hlonger : result = (front ++ c :: gap) ++ d :: back := by simpa using hresult
      have hlonger' : other = (front ++ c :: gap) ++ d :: back' := by simpa using hother
      have hrest := ih hd hlonger hlonger' (hback.trans hback'.symm) hback
      rw [hrest]

theorem unique (h : SnakeCased text result) (h' : SnakeCased text other) : result = other := by
  have hletters := h.letters_eq.trans h'.letters_eq.symm
  have hstart : ∀ {found gap back : List Char} {c : Char}, SnakeCased text found →
      found = gap ++ c :: back → (∀ x ∈ gap, x = '_') → gap = [] := by
    intro found gap back c hfound heq hgap
    cases gap with
    | nil => rfl
    | cons x gap =>
        refine absurd ?_ hfound.head
        rw [heq, hgap x List.mem_cons_self]
        rfl
  cases hresult : letters result with
  | nil =>
      rw [h.eq_nil_of_letters (List.nil_append result).symm hresult,
        h'.eq_nil_of_letters (List.nil_append other).symm (hletters.symm.trans hresult)]
  | cons c more =>
      obtain ⟨gap, back, heq, hgap, hc, -⟩ := letters_eq_cons_iff.mp hresult
      obtain ⟨gap', back', heq', hgap', -, -⟩ :=
        letters_eq_cons_iff.mp (hletters.symm.trans hresult)
      obtain rfl := hstart h heq hgap
      obtain rfl := hstart h' heq' hgap'
      have hrest := h.rest_eq h' hc heq heq'
      rw [heq, heq', hrest]

end SnakeCased

section Passes

variable {text : List Char}

theorem wordBegins_underscore_left (text : List Char) : wordBegins '_' text = false := by
  cases text <;> simp [wordBegins, isLowerOrDigit]

theorem wordBegins_underscore_right (c : Char) (text : List Char) :
    wordBegins c ('_' :: text) = false := by
  simp [wordBegins]

theorem letters_separateWords (text : List Char) : letters (separateWords text) = letters text := by
  induction text with
  | nil => rfl
  | cons c rest ih =>
      rw [separateWords]
      split
      · rw [letters_cons_eq, letters_underscore, ih, ← letters_cons_eq]
      · rw [letters_cons_eq, ih, ← letters_cons_eq]

/-- What follows is separated on its own; it counts only for what is put in front of it. -/
theorem exists_separateWords_append (front rest : List Char) :
    ∃ before, separateWords (front ++ rest) = before ++ separateWords rest ∧
      letters before = letters front := by
  induction front with
  | nil => exact ⟨[], rfl, rfl⟩
  | cons c front ih =>
      obtain ⟨before, heq, hbefore⟩ := ih
      rw [List.cons_append, separateWords, heq]
      by_cases hword : wordBegins c (front ++ rest)
      · refine ⟨c :: '_' :: before, by rw [if_pos hword]; rfl, ?_⟩
        rw [letters_cons_eq, letters_underscore, hbefore, ← letters_cons_eq]
      · refine ⟨c :: before, by rw [if_neg hword]; rfl, ?_⟩
        rw [letters_cons_eq, hbefore, ← letters_cons_eq]

theorem separateWords_gap {gap : List Char} (h : ∀ c ∈ gap, c = '_') (rest : List Char) :
    separateWords (gap ++ rest) = gap ++ separateWords rest := by
  induction gap with
  | nil => rfl
  | cons c gap ih =>
      obtain ⟨rfl, hgap⟩ := List.forall_mem_cons.mp h
      rw [List.cons_append, separateWords, wordBegins_underscore_left, if_neg Bool.false_ne_true,
        ih hgap]
      rfl

/-- Where no underscore stands between two letters, the second begins a word if they
break. -/
theorem Joint.breaks_iff_wordBegins {joint : Joint} (h : joint.gap = []) :
    joint.Breaks ↔ wordBegins joint.left (joint.right :: joint.back) := by
  simp [Joint.Breaks, h, wordBegins, isLowerOrDigit, and_or_left, and_comm, and_left_comm]

/-- Words are separated at the joints that break, and nowhere else. -/
theorem Joint.At.separateWords {place : Nat} {joint : Joint} (h : joint.At place text) :
    ∃ joined : Joint, joined.At place (separateWords text) ∧
      (joined.gap ≠ [] ↔ joint.Breaks) := by
  have hnone := @Joint.breaks_iff_wordBegins joint
  obtain ⟨front, left, gap, right, back⟩ := joint
  obtain ⟨htext, hplace, hleft, hright, hgap⟩ := h
  dsimp only at htext hplace hleft hright hgap hnone
  obtain ⟨before, hbefore, hletters⟩ :=
    exists_separateWords_append front (left :: (gap ++ right :: back))
  obtain ⟨behind, hbehind⟩ : ∃ behind, IndicatorWrap.separateWords (right :: back) =
      right :: behind := by
    rw [IndicatorWrap.separateWords]
    split <;> exact ⟨_, rfl⟩
  have hcount : (letters before).length = place := by rw [hletters, hplace]
  rw [htext, hbefore, IndicatorWrap.separateWords, separateWords_gap hgap, hbehind]
  cases gap with
  | nil =>
      rw [hnone rfl]
      by_cases hword : wordBegins left (right :: back)
      · rw [List.nil_append, if_pos hword]
        exact ⟨⟨before, left, ['_'], right, behind⟩, ⟨rfl, hcount, hleft, hright, by simp⟩,
          by simp [hword]⟩
      · rw [List.nil_append, if_neg hword]
        exact ⟨⟨before, left, [], right, behind⟩, ⟨rfl, hcount, hleft, hright, by simp⟩,
          by simp [hword]⟩
  | cons c gap =>
      -- the gap is there already, and no word begins in front of an underscore
      obtain ⟨rfl, -⟩ := List.forall_mem_cons.mp hgap
      rw [List.cons_append, wordBegins_underscore_right, if_neg Bool.false_ne_true]
      exact ⟨⟨before, left, '_' :: gap, right, behind⟩, ⟨rfl, hcount, hleft, hright, hgap⟩,
        by simp [Joint.Breaks]⟩

/-- Whether a text has a gap wherever another one has, and nowhere else. -/
def KeepsGaps (text result : List Char) : Prop :=
  ∀ place joint, Joint.At joint place text →
    ∃ joined, Joint.At joined place result ∧ (joined.gap ≠ [] ↔ joint.gap ≠ [])

theorem KeepsGaps.trans {middle result : List Char} (h : KeepsGaps text middle)
    (h' : KeepsGaps middle result) : KeepsGaps text result := by
  intro place joint hjoint
  obtain ⟨between, hbetween, hgap⟩ := h place joint hjoint
  obtain ⟨joined, hjoined, hgap'⟩ := h' place between hbetween
  exact ⟨joined, hjoined, hgap'.trans hgap⟩

theorem letters_mergeUnderscores (text : List Char) :
    letters (mergeUnderscores text) = letters text := by
  induction text with
  | nil => rfl
  | cons c rest ih =>
      rw [mergeUnderscores]
      split
      · next hdouble => rw [hdouble.1, letters_underscore, ih]
      · rw [letters_cons_eq, ih, ← letters_cons_eq]

theorem head?_mergeUnderscores (text : List Char) :
    (mergeUnderscores text).head? = text.head? := by
  induction text with
  | nil => rfl
  | cons c rest ih =>
      rw [mergeUnderscores]
      split
      · next hdouble => rw [ih, hdouble.2, hdouble.1, List.head?_cons]
      · rfl

theorem single_mergeUnderscores (text : List Char) :
    ¬['_', '_'] <:+: mergeUnderscores text := by
  induction text with
  | nil => simp [mergeUnderscores]
  | cons c rest ih =>
      rw [mergeUnderscores]
      split
      · exact ih
      · next hsingle =>
          rw [List.infix_cons_iff, not_or]
          refine ⟨?_, ih⟩
          rintro ⟨behind, heq⟩
          obtain ⟨rfl, hrest⟩ := List.cons.inj heq
          refine hsingle ⟨rfl, ?_⟩
          rw [← head?_mergeUnderscores, ← hrest]
          rfl

theorem mergeUnderscores_append {c : Char} (hc : c ≠ '_') (front rest : List Char) :
    mergeUnderscores (front ++ c :: rest) =
      mergeUnderscores front ++ c :: mergeUnderscores rest := by
  induction front with
  | nil => simp [mergeUnderscores, hc]
  | cons x front ih =>
      have hhead : (front ++ c :: rest).head? = some '_' ↔ front.head? = some '_' := by
        cases front <;> simp [hc]
      simp only [List.cons_append, mergeUnderscores, hhead, ih]
      split <;> rfl

theorem mergeUnderscores_eq_nil_iff : mergeUnderscores text = [] ↔ text = [] := by
  rw [← List.head?_eq_none_iff, head?_mergeUnderscores, List.head?_eq_none_iff]

theorem keepsGaps_mergeUnderscores (text : List Char) :
    KeepsGaps text (mergeUnderscores text) := by
  rintro place ⟨front, left, gap, right, back⟩ ⟨htext, hplace, hleft, hright, hgap⟩
  dsimp only at htext hplace hleft hright hgap
  refine ⟨⟨mergeUnderscores front, left, mergeUnderscores gap, right, mergeUnderscores back⟩,
    ⟨?_, ?_, hleft, hright, ?_⟩, not_congr mergeUnderscores_eq_nil_iff⟩
  · rw [htext, mergeUnderscores_append hleft, mergeUnderscores_append hright]
  · rw [letters_mergeUnderscores, hplace]
  · exact fun c hc => hgap c (mergeUnderscores_subset gap hc)

/-- The text without the underscores in front of it. -/
def dropUnderscores (text : List Char) : List Char :=
  text.dropWhile (· == '_')

theorem trimUnderscores_eq (text : List Char) :
    trimUnderscores text = (dropUnderscores (dropUnderscores text).reverse).reverse :=
  rfl

theorem letters_reverse (text : List Char) : letters text.reverse = (letters text).reverse :=
  List.filter_reverse ..

theorem letters_dropUnderscores (text : List Char) :
    letters (dropUnderscores text) = letters text := by
  induction text with
  | nil => rfl
  | cons c rest ih =>
      by_cases hc : c = '_'
      · subst hc
        rw [letters_underscore, ← ih]
        rfl
      · rw [dropUnderscores, List.dropWhile_cons_of_neg (by simpa using hc)]

theorem letters_trimUnderscores (text : List Char) :
    letters (trimUnderscores text) = letters text := by
  rw [trimUnderscores_eq, letters_reverse, letters_dropUnderscores, letters_reverse,
    List.reverse_reverse, letters_dropUnderscores]

theorem head?_dropUnderscores (text : List Char) :
    (dropUnderscores text).head? ≠ some '_' := by
  intro hhead
  have hstops := List.head?_dropWhile_not (· == '_') text
  rw [← dropUnderscores, hhead] at hstops
  cases hstops

theorem dropUnderscores_append {c : Char} (hc : c ≠ '_') (front rest : List Char) :
    dropUnderscores (front ++ c :: rest) = dropUnderscores front ++ c :: rest := by
  have hstop : (c == '_') = false := by simpa using hc
  rw [dropUnderscores, dropUnderscores, List.dropWhile_append]
  split
  · next hempty => simp [List.isEmpty_iff.mp hempty, hstop]
  · rfl

theorem prefix_trimUnderscores (text : List Char) :
    trimUnderscores text <+: dropUnderscores text := by
  rw [trimUnderscores_eq, ← List.reverse_suffix, List.reverse_reverse]
  exact List.dropWhile_suffix _

theorem infix_trimUnderscores (text : List Char) : trimUnderscores text <:+: text :=
  (prefix_trimUnderscores text).isInfix.trans (List.dropWhile_suffix _).isInfix

theorem head?_trimUnderscores_ne (text : List Char) :
    (trimUnderscores text).head? ≠ some '_' := by
  intro hhead
  obtain ⟨behind, hbehind⟩ := prefix_trimUnderscores text
  apply head?_dropUnderscores text
  rw [← hbehind, List.head?_append, hhead, Option.some_or]

theorem getLast?_trimUnderscores_ne (text : List Char) :
    (trimUnderscores text).getLast? ≠ some '_' := by
  rw [trimUnderscores_eq, List.getLast?_reverse]
  exact head?_dropUnderscores _

theorem keepsGaps_trimUnderscores (text : List Char) : KeepsGaps text (trimUnderscores text) := by
  rintro place ⟨front, left, gap, right, back⟩ ⟨htext, hplace, hleft, hright, hgap⟩
  dsimp only at htext hplace hleft hright hgap
  refine ⟨⟨dropUnderscores front, left, gap, right, (dropUnderscores back.reverse).reverse⟩,
    ⟨?_, ?_, hleft, hright, hgap⟩, Iff.rfl⟩
  · have hback := dropUnderscores_append hright back.reverse
      (dropUnderscores front ++ left :: gap).reverse
    rw [htext, trimUnderscores_eq, dropUnderscores_append hleft]
    simpa using congrArg List.reverse hback
  · rw [letters_dropUnderscores, hplace]

end Passes

/-- What lower case does inside ASCII: it makes no underscore, leaves no capital and
does nothing when repeated. -/
structure Lowers (c : Char) : Prop where
  ascii : c.toLower.toNat < 0x80
  underscore : c.toLower = '_' ↔ c = '_'
  not_upper : c.toLower.isUpper = false
  again : c.toLower.toLower = c.toLower

theorem lowers_of_ascii {c : Char} (h : c.toNat < 0x80) : Lowers c := by
  have hcodes : ∀ code < 0x80, (Char.ofNat code).toLower.toNat < 0x80 ∧
      ((Char.ofNat code).toLower = '_' ↔ Char.ofNat code = '_') ∧
      (Char.ofNat code).toLower.isUpper = false ∧
      (Char.ofNat code).toLower.toLower = (Char.ofNat code).toLower := by
    decide
  obtain ⟨hascii, hunderscore, hupper, hagain⟩ := Text.forall_ascii
    (motive := fun c => c.toLower.toNat < 0x80 ∧ (c.toLower = '_' ↔ c = '_') ∧
      c.toLower.isUpper = false ∧ c.toLower.toLower = c.toLower) hcodes h
  exact ⟨hascii, hunderscore, hupper, hagain⟩

/-- The letters tell whether a text is ASCII. -/
theorem ascii_iff_letters {text : List Char} :
    (∀ c ∈ text, c.toNat < 0x80) ↔ ∀ c ∈ letters text, c.toNat < 0x80 := by
  constructor
  · exact fun h c hc => h c (List.mem_of_mem_filter hc)
  · intro h c hc
    by_cases hunderscore : c = '_'
    · rw [hunderscore]
      decide
    · exact h c (List.mem_filter.mpr ⟨hc, by simpa using hunderscore⟩)

section Lowered

variable {text : List Char} (h : ∀ c ∈ text, Lowers c)

include h

theorem letters_map_toLower :
    letters (text.map Char.toLower) = (letters text).map Char.toLower := by
  induction text with
  | nil => rfl
  | cons c rest ih =>
      obtain ⟨hc, hrest⟩ := List.forall_mem_cons.mp h
      by_cases hunderscore : c = '_'
      · rw [List.map_cons, hc.underscore.mpr hunderscore, hunderscore, letters_underscore,
          letters_underscore, ih hrest]
      · rw [List.map_cons, letters_cons (mt hc.underscore.mp hunderscore),
          letters_cons hunderscore, ih hrest, List.map_cons]

theorem keepsGaps_map_toLower : KeepsGaps text (text.map Char.toLower) := by
  rintro place ⟨front, left, gap, right, back⟩ ⟨htext, hplace, hleft, hright, hgap⟩
  dsimp only at htext hplace hleft hright hgap
  subst htext
  obtain ⟨hfront, hmore⟩ := List.forall_mem_append.mp h
  obtain ⟨hlowers, hbehind⟩ := List.forall_mem_cons.mp hmore
  have hlowers' := (List.forall_mem_append.mp hbehind).2 right List.mem_cons_self
  refine ⟨⟨front.map Char.toLower, left.toLower, gap.map Char.toLower, right.toLower,
    back.map Char.toLower⟩, ⟨by simp, ?_, mt hlowers.underscore.mp hleft,
    mt hlowers'.underscore.mp hright, ?_⟩, by simp⟩
  · rw [letters_map_toLower hfront, List.length_map, hplace]
  · intro c hc
    obtain ⟨original, horiginal, rfl⟩ := List.mem_map.mp hc
    rw [hgap original horiginal]
    rfl

end Lowered

theorem underscore_of_map_toLower {found : Option Char} (h : ∀ c ∈ found, Lowers c)
    (hfound : found.map Char.toLower = some '_') : found = some '_' := by
  obtain ⟨c, rfl, hunderscore⟩ := Option.map_eq_some_iff.mp hfound
  rw [(h c rfl).underscore.mp hunderscore]

theorem toList_snakeCase {name : String} (h : ∀ c ∈ name.toList, c.toNat < 0x80) :
    (snakeCase name).toList =
      (trimUnderscores (mergeUnderscores (separateWords name.toList))).map Char.toLower ∧
    ∀ c ∈ trimUnderscores (mergeUnderscores (separateWords name.toList)), Lowers c := by
  have hascii : ∀ c ∈ trimUnderscores (mergeUnderscores (separateWords name.toList)),
      c.toNat < 0x80 := by
    rw [ascii_iff_letters, letters_trimUnderscores, letters_mergeUnderscores,
      letters_separateWords, ← ascii_iff_letters]
    exact h
  refine ⟨?_, fun c hc => lowers_of_ascii (hascii c hc)⟩
  rw [snakeCase, String.toList_ofList, Text.lower_ascii hascii]

theorem snakeCased_snakeCase {name : String} (h : ∀ c ∈ name.toList, c.toNat < 0x80) :
    SnakeCased name.toList (snakeCase name).toList := by
  obtain ⟨hresult, hlowers⟩ := toList_snakeCase h
  have hkeeps : KeepsGaps (separateWords name.toList) (snakeCase name).toList := by
    rw [hresult]
    exact ((keepsGaps_mergeUnderscores _).trans (keepsGaps_trimUnderscores _)).trans
      (keepsGaps_map_toLower hlowers)
  constructor
  case letters_eq =>
    rw [hresult, letters_map_toLower hlowers, letters_trimUnderscores, letters_mergeUnderscores,
      letters_separateWords]
  case head =>
    rw [hresult, List.head?_map]
    intro hhead
    have hunderscore :=
      underscore_of_map_toLower (fun c hc => hlowers c (List.mem_of_head? hc)) hhead
    exact head?_trimUnderscores_ne _ hunderscore
  case last =>
    rw [hresult, List.getLast?_map]
    intro hlast
    have hunderscore :=
      underscore_of_map_toLower (fun c hc => hlowers c (List.mem_of_getLast? hc)) hlast
    exact getLast?_trimUnderscores_ne _ hunderscore
  case single =>
    rw [hresult]
    intro hdouble
    obtain ⟨pair, hpair, hlower⟩ := List.infix_map_iff.mp hdouble
    obtain ⟨c, more, rfl, hc, hmore⟩ := List.map_eq_cons_iff.mp hlower.symm
    obtain ⟨d, last, rfl, hd, hlast⟩ := List.map_eq_cons_iff.mp hmore
    obtain rfl := List.map_eq_nil_iff.mp hlast
    obtain rfl := (hlowers c (hpair.subset (by simp))).underscore.mp hc
    obtain rfl := (hlowers d (hpair.subset (by simp))).underscore.mp hd
    exact single_mergeUnderscores _ (hpair.trans (infix_trimUnderscores _))
  case joints =>
    intro place joint hjoint
    obtain ⟨separated, hseparated, hbreaks⟩ := hjoint.separateWords
    obtain ⟨joined, hjoined, hgap⟩ := hkeeps place separated hseparated
    exact ⟨joined, hjoined, hgap.trans hbreaks⟩

/-- A text in snake case is its own: it has no capital at which a word could begin. -/
theorem SnakeCased.self {text result : List Char} (h : SnakeCased text result)
    (hascii : ∀ c ∈ text, c.toNat < 0x80) : SnakeCased result result := by
  have hlowered : ∀ c ∈ letters result, c.isUpper = false ∧ c.toLower = c := by
    rw [h.letters_eq]
    intro c hc
    obtain ⟨original, horiginal, rfl⟩ := List.mem_map.mp hc
    have hlowers := lowers_of_ascii (ascii_iff_letters.mp hascii original horiginal)
    exact ⟨hlowers.not_upper, hlowers.again⟩
  refine ⟨?_, h.head, h.last, h.single, ?_⟩
  · exact ((List.map_congr_left fun c hc => (hlowered c hc).2).trans (List.map_id _)).symm
  · intro place joint hjoint
    have hright : joint.right ∈ letters result := by
      rw [hjoint.text_eq]
      simp [letters, hjoint.right]
    have hupper := (hlowered joint.right hright).1
    refine ⟨joint, hjoint, ?_⟩
    simp [Joint.Breaks, hupper]

/-- The snake case of an ASCII text is the one text that keeps its letters in lower
case and has single underscores between them, exactly where a word ends. Its own snake
case is itself. -/
theorem snakeCase_characterized {name : String} (h : ∀ c ∈ name.toList, c.toNat < 0x80) :
    SnakeCased name.toList (snakeCase name).toList ∧
      (∀ result : String, SnakeCased name.toList result.toList → result = snakeCase name) ∧
      snakeCase (snakeCase name) = snakeCase name := by
  have hsnake := snakeCased_snakeCase h
  refine ⟨hsnake, ?_, ?_⟩
  · intro result hresult
    exact String.toList_inj.mp (hresult.unique hsnake)
  · have hascii : ∀ c ∈ (snakeCase name).toList, c.toNat < 0x80 := by
      obtain ⟨hresult, hlowers⟩ := toList_snakeCase h
      rw [hresult]
      exact List.forall_mem_map.mpr fun c hc => (hlowers c hc).ascii
    exact String.toList_inj.mp ((snakeCased_snakeCase hascii).unique (hsnake.self h))

/-- Acronyms, digits and underscores that are there already. -/
theorem snakeCase_acronyms :
    SnakeCased "_HTTPServer__v2XRay_".toList "http_server_v2_x_ray".toList ∧
      snakeCase "http_server_v2_x_ray" = "http_server_v2_x_ray" := by
  have hchars : IdentChars "_HTTPServer__v2XRay_".toList := by decide
  have hascii : ∀ c ∈ "_HTTPServer__v2XRay_".toList, c.toNat < 0x80 :=
    fun c hc => isIdentChar_ascii (hchars c hc)
  have hsnake : snakeCase "_HTTPServer__v2XRay_" = "http_server_v2_x_ray" := by decide +kernel
  obtain ⟨hcased, -, hagain⟩ := snakeCase_characterized hascii
  rw [hsnake] at hcased hagain
  exact ⟨hcased, hagain⟩

end IndicatorWrap
