import IndicatorWrap.CommandLine.Options
import Mathlib.Data.List.Basic

/-!
How one argument is read. What has no dash in front is a value. An option is read by its short
name or by any front of its long name that begins no other one, and a value may stand behind
either in the same argument.
-/

namespace IndicatorWrap.CommandLine

theorem exactOption?_eq_none {name : List Char}
    (h : ∀ opt : Opt, name ≠ opt.short.toList ∧ name ≠ opt.long.toList) :
    exactOption? name = none := by
  rw [exactOption?, List.findSome?_eq_none_iff]
  intro opt _
  rw [if_neg (h opt).1, if_neg (h opt).2]

theorem exactOption?_of_no_dash {name : List Char} (h : name.head? ≠ some '-') :
    exactOption? name = none := by
  have hdashes : ∀ opt : Opt,
      opt.short.toList.head? = some '-' ∧ opt.long.toList.head? = some '-' := by
    intro opt
    cases opt <;> decide
  refine exactOption?_eq_none fun opt => ⟨?_, ?_⟩
  · rintro rfl
    exact h (hdashes opt).1
  · rintro rfl
    exact h (hdashes opt).2

/-- An argument without a dash in front is a value. -/
theorem Word.ofArgument_of_no_dash {argument : List Char} (h : argument.head? ≠ some '-') :
    ofArgument argument = .ok (.value (String.ofList argument)) := by
  have hname : (splitAtEquals argument).1.head? ≠ some '-' := by
    cases argument with
    | nil => simp [splitAtEquals]
    | cons c rest =>
        by_cases hequals : c = '='
        · simp [splitAtEquals, hequals]
        · simpa [splitAtEquals, hequals] using h
  unfold ofArgument
  rw [exactOption?_of_no_dash h]
  rcases hsplit : splitAtEquals argument with ⟨name, attached⟩
  rw [hsplit] at hname
  dsimp only
  rw [exactOption?_of_no_dash hname]
  split
  · next heq => cases heq
  · simp at h
  · simp at h
  · rfl

theorem splitAtEquals_of_not_mem {text : List Char} (h : '=' ∉ text) :
    splitAtEquals text = (text, none) := by
  induction text with
  | nil => rfl
  | cons c rest ih =>
      obtain ⟨hc, hrest⟩ := List.ne_and_not_mem_of_not_mem_cons h
      rw [splitAtEquals, if_neg hc.symm, ih hrest]

theorem splitAtEquals_append {name : List Char} (h : '=' ∉ name) (value : List Char) :
    splitAtEquals (name ++ '=' :: value) = (name, some value) := by
  induction name with
  | nil => rfl
  | cons c rest ih =>
      obtain ⟨hc, hrest⟩ := List.ne_and_not_mem_of_not_mem_cons h
      rw [List.cons_append, splitAtEquals, if_neg hc.symm, ih hrest]

theorem Opt.no_equals (opt : Opt) : '=' ∉ opt.short.toList ∧ '=' ∉ opt.long.toList := by
  cases opt <;> decide

theorem exactOption?_of_equals {argument : List Char} (h : '=' ∈ argument) :
    exactOption? argument = none := by
  refine exactOption?_eq_none fun opt => ⟨?_, ?_⟩
  · rintro rfl
    exact opt.no_equals.1 h
  · rintro rfl
    exact opt.no_equals.2 h

theorem exactOption?_short (opt : Opt) : exactOption? opt.short.toList = some (opt, .short) := by
  cases opt <;> rfl

/-- The letter of an option with more behind it is no name. -/
theorem exactOption?_joined (opt : Opt) {rest : List Char} (h : rest ≠ []) :
    exactOption? ('-' :: opt.letter :: rest) = none := by
  refine exactOption?_eq_none fun other => ⟨fun heq => ?_, fun heq => ?_⟩
  · have hlength := congrArg List.length heq
    have hshort : other.short.toList.length = 2 := by cases other <;> rfl
    have hpos := List.length_pos_iff.mpr h
    simp only [List.length_cons, hshort] at hlength
    omega
  · have hsecond : other.long.toList[1]? = some '-' := by cases other <;> rfl
    rw [← heq] at hsecond
    cases opt <;> simp [Opt.letter] at hsecond

/-- Whether a name stands for an option by its long name: it is a front of that one and of no
other. -/
def Opt.Abbreviated (opt : Opt) (name : String) : Prop :=
  ∀ other : Opt, name.toList <+: other.long.toList ↔ other = opt

namespace Opt.Abbreviated

variable {opt : Opt} {name : String}

/-- There is more than the two dashes, since these begin every long name. -/
theorem exists_cons (h : opt.Abbreviated name) :
    ∃ c rest, name.toList = '-' :: '-' :: c :: rest := by
  have hdashes : ∀ opt : Opt, ['-', '-'] <+: opt.long.toList := by
    intro opt
    cases opt <;> decide
  obtain ⟨other, hother⟩ : ∃ other, other ≠ opt := by
    cases opt with
    | help => exact ⟨.input, by decide⟩
    | input => exact ⟨.output, by decide⟩
    | output => exact ⟨.help, by decide⟩
  have hlong : 2 < name.toList.length := by
    by_contra hshort
    have hfront : name.toList <+: ['-', '-'] :=
      List.prefix_of_prefix_length_le ((h opt).mpr rfl) (hdashes opt) (Nat.le_of_not_lt hshort)
    exact hother ((h other).mp (hfront.trans (hdashes other)))
  obtain ⟨rest, hrest⟩ : ['-', '-'] <+: name.toList :=
    List.prefix_of_prefix_length_le (hdashes opt) ((h opt).mpr rfl)
      (Nat.le_of_lt hlong)
  cases rest with
  | nil =>
      rw [← hrest] at hlong
      exact absurd hlong (by decide)
  | cons c rest => exact ⟨c, rest, hrest.symm⟩

theorem no_equals (h : opt.Abbreviated name) : '=' ∉ name.toList :=
  fun hmem => opt.no_equals.2 (((h opt).mpr rfl).subset hmem)

/-- A long name that is cut short is none of the names, unless nothing is cut off. -/
theorem exactOption?_cases (h : opt.Abbreviated name) :
    exactOption? name.toList = none ∨ exactOption? name.toList = some (opt, .long) := by
  by_cases hwhole : name.toList = opt.long.toList
  · right
    rw [hwhole]
    cases opt <;> rfl
  · left
    obtain ⟨c, rest, hname⟩ := h.exists_cons
    refine exactOption?_eq_none fun other => ⟨?_, fun heq => ?_⟩
    · rw [hname]
      cases other <;> simp [Opt.short]
    · obtain rfl := (h other).mp (heq ▸ List.prefix_refl _)
      exact hwhole heq

theorem filter_all (h : opt.Abbreviated name) :
    (Opt.all.filter fun other => name.toList.isPrefixOf other.long.toList) = [opt] := by
  have hsame : ∀ other ∈ Opt.all,
      name.toList.isPrefixOf other.long.toList = decide (other = opt) := by
    intro other _
    rw [Bool.eq_iff_iff, List.isPrefixOf_iff_prefix, decide_eq_true_iff]
    exact h other
  rw [List.filter_congr hsame]
  cases opt <;> rfl

end Opt.Abbreviated

namespace Word

theorem ofArgument_short (opt : Opt) :
    ofArgument opt.short.toList = .ok (.option opt .short none) := by
  cases opt <;> rfl

theorem ofArgument_shortEquals (opt : Opt) (value : List Char) :
    ofArgument (opt.short.toList ++ '=' :: value) =
      .ok (.option opt .short (some (String.ofList value))) := by
  rw [ofArgument, exactOption?_of_equals (by simp), splitAtEquals_append opt.no_equals.1]
  dsimp only
  rw [exactOption?_short]

theorem ofArgument_shortJoined (opt : Opt) {value : List Char} (hsome : value ≠ [])
    (hequals : value.head? ≠ some '=') :
    ofArgument ('-' :: opt.letter :: value) =
      .ok (.option opt .short (some (String.ofList value))) := by
  obtain ⟨c, rest, rfl⟩ := List.exists_cons_of_ne_nil hsome
  have hc : c ≠ '=' := by simpa using hequals
  have hletter : opt.letter ≠ '=' := by cases opt <;> decide
  have hsplit : splitAtEquals ('-' :: opt.letter :: c :: rest) =
      ('-' :: opt.letter :: c :: (splitAtEquals rest).1, (splitAtEquals rest).2) := by
    simp [splitAtEquals, hc, hletter]
  rw [ofArgument, exactOption?_joined opt hsome, hsplit]
  dsimp only
  rw [exactOption?_joined opt (List.cons_ne_nil _ _)]
  cases opt <;> rfl

variable {opt : Opt} {name : String}

/-- What begins with a short form of a long name is that option. -/
theorem ofLong_abbreviated (h : opt.Abbreviated name) {argument : List Char}
    {attached : Option (List Char)} (hsplit : splitAtEquals argument = (name.toList, attached)) :
    ofLong argument = .ok (.option opt .long (attached.map String.ofList)) := by
  rw [ofLong, hsplit]
  dsimp only
  rw [h.filter_all]

theorem ofArgument_long (h : opt.Abbreviated name) :
    ofArgument name.toList = .ok (.option opt .long none) := by
  have hsplit := splitAtEquals_of_not_mem h.no_equals
  have hlong := ofLong_abbreviated h hsplit
  obtain ⟨c, rest, hname⟩ := h.exists_cons
  rw [ofArgument, hsplit]
  -- an exact name is found before the fronts of names are looked at
  rcases h.exactOption?_cases with hexact | hexact
  · rw [hname] at hexact hlong ⊢
    simp only [hexact, hlong]
    rfl
  · rw [hexact]

theorem ofArgument_longEquals (h : opt.Abbreviated name) (value : List Char) :
    ofArgument (name.toList ++ '=' :: value) =
      .ok (.option opt .long (some (String.ofList value))) := by
  have hsplit := splitAtEquals_append h.no_equals value
  have hlong := ofLong_abbreviated h hsplit
  obtain ⟨c, rest, hname⟩ := h.exists_cons
  rw [ofArgument, exactOption?_of_equals (by simp), hsplit]
  rcases h.exactOption?_cases with hexact | hexact
  · rw [hname] at hexact hlong ⊢
    simp only [hexact, List.cons_append] at hlong ⊢
    simp only [hlong]
    rfl
  · simp only [hexact]

/-- The terminator by itself could be any option, so an argument that is read is another one. -/
theorem ofArguments_cons {argument : String} {arguments : List String} {word : Word}
    {words : List Word} (hword : ofArgument argument.toList = .ok word)
    (hmore : ofArguments arguments = .ok words) :
    ofArguments (argument :: arguments) = .ok (word :: words) := by
  have hother : argument ≠ terminatorText := by
    rintro rfl
    cases hword
  rw [ofArguments, if_neg hother, hword, hmore]
  rfl

end Word

end IndicatorWrap.CommandLine
