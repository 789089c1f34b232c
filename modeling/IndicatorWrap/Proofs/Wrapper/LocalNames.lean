import Mathlib
import IndicatorWrap.Proofs.Wrapper.Departure
import IndicatorWrap.Proofs.Wrapper.ModuleName

/-!
The names of variables inside a wrapper. What is cleaned out of a parameter's name
begins with the first letter behind its mark that is no underscore, and the empty
rest and the reserved words are seen to. A digit at that place is not: it begins the
name of an input, which the target language then does not take.
-/

namespace IndicatorWrap

open Lexeme (IsIdentifier isIdentChar isIdentStart)

/-- The first character of a text that is no underscore. -/
def firstLetter (text : List Char) : Option Char :=
  (text.dropWhile (· == '_')).head?

theorem firstLetter_underscore (text : List Char) : firstLetter ('_' :: text) = firstLetter text :=
  rfl

theorem firstLetter_cons {c : Char} (h : c ≠ '_') (rest : List Char) :
    firstLetter (c :: rest) = some c := by
  rw [firstLetter, List.dropWhile_cons_of_neg (by simpa using h), List.head?_cons]

theorem firstLetter_ne_underscore {text : List Char} {c : Char} (h : firstLetter text = some c) :
    c ≠ '_' := by
  rintro rfl
  have hstops := List.head?_dropWhile_not (· == '_') text
  rw [← firstLetter, h] at hstops
  cases hstops

theorem mem_of_firstLetter {text : List Char} {c : Char} (h : firstLetter text = some c) :
    c ∈ text :=
  List.dropWhile_subset _ (List.mem_of_head? h)

/-- No underscore is put in front of a text, only behind the first letter of a word. -/
theorem firstLetter_separateWords (text : List Char) :
    firstLetter (separateWords text) = firstLetter text := by
  induction text with
  | nil => rfl
  | cons c rest ih =>
      by_cases hc : c = '_'
      · -- behind an underscore no word begins, so that none is put behind it
        subst hc
        have hword : wordBegins '_' rest = false := by
          cases rest <;> simp [wordBegins, isLowerOrDigit]
        rw [separateWords, hword, if_neg (by simp)]
        exact ih
      · rw [separateWords, firstLetter_cons hc]
        split <;> exact firstLetter_cons hc _

theorem firstLetter_mergeUnderscores (text : List Char) :
    firstLetter (mergeUnderscores text) = firstLetter text := by
  induction text with
  | nil => rfl
  | cons c rest ih =>
      unfold mergeUnderscores
      by_cases hc : c = '_'
      · subst hc
        rw [firstLetter_underscore, ← ih]
        split <;> rfl
      · rw [if_neg (by simp [hc]), firstLetter_cons hc, firstLetter_cons hc]

theorem head?_trimUnderscores (text : List Char) :
    (trimUnderscores text).head? = firstLetter text := by
  cases hrest : text.dropWhile (· == '_') with
  | nil => simp [trimUnderscores, firstLetter, hrest]
  | cons c rest =>
      have hfirst : firstLetter text = some c := by rw [firstLetter, hrest, List.head?_cons]
      have hc := firstLetter_ne_underscore hfirst
      simp only [trimUnderscores, hrest, hfirst, List.reverse_cons, List.dropWhile_append]
      split
      · simp [hc]
      · simp

/-- A clean name begins with the first letter of what it is taken from. -/
theorem head?_snakeCase {name : String} (h : IdentChars name.toList) :
    (snakeCase name).toList.head? = (firstLetter name.toList).map Char.toLower := by
  have hascii := fun c hc => isIdentChar_ascii (h.trimmedWords c hc)
  rw [snakeCase, String.toList_ofList, Text.lower_ascii hascii, List.head?_map,
    head?_trimUnderscores, firstLetter_mergeUnderscores, firstLetter_separateWords]

/-- Small letters keep digits apart from what an identifier may begin with. -/
theorem isIdentStart_toLower_iff {c : Char} (h : isIdentChar c) :
    isIdentStart c.toLower ↔ ¬c.isDigit := by
  refine forall_isIdentChar (motive := fun c => isIdentStart c.toLower ↔ ¬c.isDigit) ?_ h
  decide

theorem toLower_eq_underscore_iff {c : Char} (h : isIdentChar c) : c.toLower = '_' ↔ c = '_' := by
  refine forall_isIdentChar (motive := fun c => c.toLower = '_' ↔ c = '_') ?_ h
  decide

/-- The escape of a reserved word is not reserved itself. -/
theorem escape_not_mem_reservedWords :
    ∀ word ∈ reservedWords, word ++ "_" ∉ reservedWords := by
  decide

theorem cleanName_not_mem_reservedWords (name : String) : cleanName name ∉ reservedWords := by
  simp only [cleanName]
  split
  · next hreserved => exact escape_not_mem_reservedWords _ hreserved
  · next hfree => exact hfree

/-- A clean name that is not empty begins with a letter or a digit. The escape leaves
it in place. -/
theorem exists_firstLetter {name : String} (h : IdentChars name.toList)
    (hne : cleanName name ≠ "") :
    ∃ c rest, firstLetter (splitRole name).2.toList = some c ∧ isIdentChar c ∧ c ≠ '_' ∧
      (cleanName name).toList = c.toLower :: rest := by
  have hbehind : IdentChars (splitRole name).2.toList := h.of_subset (splitRole_suffix name).subset
  have hhead := head?_snakeCase hbehind
  cases hfirst : firstLetter (splitRole name).2.toList with
  | none =>
      rw [hfirst, Option.map_none, List.head?_eq_none_iff, String.toList_eq_nil_iff] at hhead
      have hempty : cleanName name = "" := by
        simp only [cleanName, hhead]
        decide
      exact absurd hempty hne
  | some c =>
      rw [hfirst, Option.map_some] at hhead
      obtain ⟨rest, hsnake⟩ := List.head?_eq_some_iff.mp hhead
      have hc := hbehind c (mem_of_firstLetter hfirst)
      simp only [cleanName]
      split
      · exact ⟨c, rest ++ ['_'], rfl, hc, firstLetter_ne_underscore hfirst, by simp [hsnake]⟩
      · exact ⟨c, rest, rfl, hc, firstLetter_ne_underscore hfirst, hsnake⟩

namespace Parameter

/-- Whether a parameter becomes an input whose name begins with a digit. -/
def Numbered (parameter : Parameter) : Prop :=
  Role.ofParameter parameter.name = .input ∧
    (firstLetter (splitRole parameter.name).2.toList).any Char.isDigit

instance (parameter : Parameter) : Decidable parameter.Numbered :=
  inferInstanceAs (Decidable (_ ∧ _))

variable {parameter : Parameter}

theorem namesModule_of_output (h : IdentChars parameter.name.toList)
    (hrole : Role.ofParameter parameter.name = .output) : NamesModule parameter.localName := by
  have hmark : ∀ word ∈ reservedWords, ¬"out_".toList <+: word.toList := by decide
  rw [localName_of_output hrole]
  refine ⟨?_, ?_, ?_⟩
  · rw [String.toList_append]
    refine ⟨'o', _, rfl, by decide, ?_⟩
    exact IdentChars.append_iff.mpr ⟨by decide, identChars_cleanName h⟩
  · intro hunderscore
    simp [← String.toList_inj] at hunderscore
  · intro hreserved
    refine hmark _ hreserved ?_
    rw [String.toList_append]
    exact List.prefix_append _ _

theorem namesModule_iff_of_input (h : IdentChars parameter.name.toList)
    (hrole : Role.ofParameter parameter.name = .input) (hne : cleanName parameter.name ≠ "") :
    NamesModule parameter.localName ↔ ¬parameter.Numbered := by
  obtain ⟨c, rest, hfirst, hc, hletter, hclean⟩ := exists_firstLetter h hne
  have hrest := identChars_cleanName h
  rw [hclean] at hrest
  rw [localName_of_input hrole, Numbered, and_iff_right hrole, hfirst, Option.any_some,
    ← isIdentStart_toLower_iff hc]
  -- the first character decides; all others may stand in an identifier
  constructor
  · intro hnames
    obtain ⟨first, others, heq, hstart, -⟩ := hnames.identifier
    rw [hclean] at heq
    obtain ⟨rfl, -⟩ := List.cons_eq_cons.mp heq
    exact hstart
  · intro hstart
    refine ⟨?_, ?_, cleanName_not_mem_reservedWords _⟩
    · exact ⟨_, _, hclean, hstart, (IdentChars.cons_iff.mp hrest).2⟩
    · intro hunderscore
      rw [hunderscore] at hclean
      obtain ⟨hlower, -⟩ := List.cons_eq_cons.mp hclean
      exact hletter ((toLower_eq_underscore_iff hc).mp hlower.symm)

theorem namesModule_iff_of_wrapped (h : IdentChars parameter.name.toList)
    (hrole : Role.ofParameter parameter.name ≠ .ignored) (hne : cleanName parameter.name ≠ "") :
    NamesModule parameter.localName ↔ ¬parameter.Numbered := by
  cases hcase : Role.ofParameter parameter.name with
  | input => exact namesModule_iff_of_input h hcase hne
  | output => simp [namesModule_of_output h hcase, Numbered, hcase]
  | ignored => exact absurd hcase hrole

end Parameter

/-- The inputs and outputs of an accepted declaration have names that the target
language takes, but for the inputs that are named from a digit on. -/
theorem Artifact.named_iff_not_numbered {limit : Option Nat} {text : String}
    {signature : Signature} {artifact : Artifact}
    (hsignature : signature ∈ (extract limit text).signatures)
    (hartifact : Artifact.ofSignature signature = .ok artifact) :
    ∃ inputs outputs, signature.arguments signature.name = .ok (inputs, outputs) ∧
      ∀ argument ∈ inputs ++ outputs,
        NamesModule argument.localName ↔ ¬argument.parameter.Numbered := by
  obtain ⟨inputs, outputs, haccepts, -⟩ := Artifact.ofSignature_eq_ok_iff.mp hartifact
  refine ⟨inputs, outputs,
    Signature.arguments_eq_ok_iff.mpr ⟨haccepts.of_inputs, haccepts.of_outputs⟩, ?_⟩
  obtain ⟨-, -, -, hnamed⟩ :=
    (Signature.conventionFault?_eq_none_iff haccepts.of_inputs haccepts.of_outputs).mp
      haccepts.convention
  have hidentified := identified_of_mem_extract hsignature
  intro argument hargument
  obtain ⟨parameter, hparameter, hof⟩ :=
    exists_mem_of_forall₂ (Signature.forall₂_wrapped haccepts.of_inputs haccepts.of_outputs).flip
      argument hargument
  obtain ⟨hdeclared, hrole⟩ := Signature.mem_wrapped.mp hparameter
  rw [hof.localName_eq, hof.parameter_eq]
  exact Parameter.namesModule_iff_of_wrapped (hidentified.parameters parameter hdeclared).identChars
    hrole (hnamed.nonempty parameter hparameter)

/-- A declaration with one input of the given name and one output. -/
def singleText (input : String) : String :=
  "pub fn TA_X(" ++ input ++
    ": *const f64, outBegIdx: *mut c_int, outNBElement: *mut c_int, outReal: *mut f64);\n"

def single (input : String) : Signature where
  name := "TA_X"
  parameters :=
    [⟨input, "*const f64"⟩, ⟨beginIndexName, "*mut c_int"⟩, ⟨elementCountName, "*mut c_int"⟩,
      ⟨"outReal", "*mut f64"⟩]
  line := 1

/-- A rest that is a reserved word is escaped. -/
theorem single_inType_named :
    single "inType" ∈ (extract none (singleText "inType")).signatures ∧
      ∃ artifact inputs outputs, Artifact.ofSignature (single "inType") = .ok artifact ∧
        (single "inType").arguments "TA_X" = .ok (inputs, outputs) ∧
        (inputs ++ outputs).map Argument.localName = ["type_", "out_real"] ∧
        ∀ argument ∈ inputs ++ outputs, NamesModule argument.localName := by
  have hextract : (extract none (singleText "inType")).signatures = [single "inType"] := by
    decide +kernel
  have haccepted : (Artifact.ofSignature (single "inType")).map (·.moduleName) = .ok "x" := by
    decide +kernel
  have hnames : ((single "inType").arguments "TA_X").map (fun arguments =>
      ((arguments.1 ++ arguments.2).map Argument.localName,
        decide (∀ argument ∈ arguments.1 ++ arguments.2, ¬argument.parameter.Numbered))) =
      .ok (["type_", "out_real"], true) := by
    decide +kernel
  have hmem : single "inType" ∈ (extract none (singleText "inType")).signatures :=
    hextract ▸ List.mem_cons_self
  obtain ⟨artifact, hartifact, -⟩ := Except.map_eq_ok_iff.mp haccepted
  obtain ⟨inputs, outputs, harguments, hnamed⟩ :=
    Artifact.named_iff_not_numbered hmem hartifact
  obtain ⟨arguments, heq, hpair⟩ := Except.map_eq_ok_iff.mp hnames
  obtain rfl := Except.ok.inj (heq.symm.trans harguments)
  obtain ⟨hlocals, hfree⟩ := Prod.mk.inj hpair
  refine ⟨hmem, artifact, inputs, outputs, hartifact, harguments, hlocals, ?_⟩
  intro argument hargument
  exact (hnamed argument hargument).mpr (of_decide_eq_true hfree argument hargument)

/-- A rest that begins with a digit is accepted as it is. -/
theorem single_in0_unnamed :
    single "in0" ∈ (extract none (singleText "in0")).signatures ∧
      ∃ artifact inputs outputs, Artifact.ofSignature (single "in0") = .ok artifact ∧
        (single "in0").arguments "TA_X" = .ok (inputs, outputs) ∧
        ∃ argument ∈ inputs ++ outputs, argument.localName = "0" ∧
          ¬NamesModule argument.localName := by
  have hextract : (extract none (singleText "in0")).signatures = [single "in0"] := by
    decide +kernel
  have haccepted : (Artifact.ofSignature (single "in0")).map (·.moduleName) = .ok "x" := by
    decide +kernel
  have hnames : ((single "in0").arguments "TA_X").map (fun arguments =>
      (arguments.1 ++ arguments.2).map Argument.localName) = .ok ["0", "out_real"] := by
    decide +kernel
  obtain ⟨artifact, hartifact, -⟩ := Except.map_eq_ok_iff.mp haccepted
  obtain ⟨⟨inputs, outputs⟩, harguments, hlocals⟩ := Except.map_eq_ok_iff.mp hnames
  obtain ⟨argument, hargument, hlocal⟩ :=
    List.mem_map.mp (hlocals ▸ List.mem_cons_self : "0" ∈ _)
  refine ⟨hextract ▸ List.mem_cons_self, artifact, inputs, outputs, hartifact, harguments,
    argument, hargument, hlocal, ?_⟩
  intro hnames
  obtain ⟨c, rest, heq, hstart, -⟩ := hnames.identifier
  rw [hlocal] at heq
  obtain ⟨rfl, -⟩ := List.cons_eq_cons.mp heq
  exact absurd hstart (by decide)

end IndicatorWrap
