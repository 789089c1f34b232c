import IndicatorWrap.Proofs.Wrapper.EmittedCall

/-!
The foreign call passes its arguments in one fixed order: the range, the inputs,
the bookkeeping, the outputs. It replays a declaration by position exactly if
the parameters stand in that order, which the convention does not ask for.
-/

namespace IndicatorWrap

/-- The parameters that receive the first and the last index of the range. -/
def startIndexName : String := "startIdx"

def endIndexName : String := "endIdx"

/-- What the call passes for an input. -/
def Parameter.inputText (parameter : Parameter) : String :=
  if parameter.rawType.toList.head? = some '*' then cleanName parameter.name ++ ".as_ptr()"
  else cleanName parameter.name

/-- What the call passes for an output. -/
def Parameter.outputText (parameter : Parameter) : String :=
  "out_" ++ cleanName parameter.name ++ ".as_mut_ptr()"

/-- The index of the last element of the first input. -/
def lastIndexText (series : String) : String :=
  series ++ ".len() as i32 - 1"

/-- The argument for a parameter, if there is one. -/
def Parameter.positional (series : String) (parameter : Parameter) : Option String :=
  if parameter.name = startIndexName then some "0"
  else if parameter.name = endIndexName then some (lastIndexText series)
  else if parameter.name = beginIndexName then some "&mut out_begin"
  else if parameter.name = elementCountName then some "&mut out_size"
  else
    match Role.ofParameter parameter.name with
    | .input => some parameter.inputText
    | .output => some parameter.outputText
    | .ignored => none

/-- The clean name of the first input. -/
def Signature.series (signature : Signature) : String :=
  ((signature.ofRole .input).head?.map fun parameter => cleanName parameter.name).getD ""

/-- Parameters in the order in which the call passes its arguments. -/
inductive Parameter.InCallOrder : List Parameter → Prop where
  | mk {start stop begin count : Parameter} {inputs outputs : List Parameter}
      (hstart : start.name = startIndexName) (hstop : stop.name = endIndexName)
      (hinputs : ∀ input ∈ inputs, Role.ofParameter input.name = .input)
      (hbegin : begin.name = beginIndexName) (hcount : count.name = elementCountName)
      (houtputs : ∀ output ∈ outputs, Role.ofParameter output.name = .output) :
      InCallOrder ([start, stop] ++ inputs ++ [begin, count] ++ outputs)

/-- The arguments of the call, in the order that every wrapper has. -/
def Signature.callOrder (signature : Signature) : List String :=
  ["0", lastIndexText signature.series] ++ (signature.ofRole .input).map Parameter.inputText ++
    ["&mut out_begin", "&mut out_size"] ++ (signature.ofRole .output).map Parameter.outputText

namespace Signature

variable {signature : Signature} {inputs outputs : List Argument}

theorem map_of_hasArgument {α : Type} {role : Role} {arguments : List Argument}
    {f : Argument → α} {g : Parameter → α}
    (h : List.Forall₂ Parameter.HasArgument (signature.ofRole role) arguments)
    (hsame : ∀ parameter ∈ signature.ofRole role, ∀ argument, parameter.HasArgument argument →
      f argument = g parameter) :
    arguments.map f = (signature.ofRole role).map g := by
  generalize signature.ofRole role = parameters at h hsame ⊢
  induction h with
  | nil => rfl
  | cons hfirst _ ih =>
      obtain ⟨hsame, hmore⟩ := List.forall_mem_cons.mp hsame
      rw [List.map_cons, List.map_cons, hsame _ hfirst, ih hmore]

theorem Accepts.map_inputArgument (h : signature.Accepts inputs outputs) :
    inputs.map Source.inputArgument = (signature.ofRole .input).map Parameter.inputText := by
  apply map_of_hasArgument h.of_inputs
  intro parameter hparameter argument hof
  have hlocal := hof.localName_eq.trans (Parameter.localName_of_input (mem_ofRole.mp hparameter).2)
  have hbuffer := HostType.isBuffer_iff hof.hostType_eq
  simp only [Source.inputArgument, Parameter.inputText, hlocal, hbuffer]

theorem Accepts.map_outputArgument (h : signature.Accepts inputs outputs) :
    outputs.map Source.outputArgument = (signature.ofRole .output).map Parameter.outputText := by
  apply map_of_hasArgument h.of_outputs
  intro parameter hparameter argument hof
  rw [Source.outputArgument, hof.localName_eq,
    Parameter.localName_of_output (mem_ofRole.mp hparameter).2, Parameter.outputText]

theorem Accepts.series_eq (h : signature.Accepts inputs outputs) :
    Source.series inputs = signature.series := by
  have hnames := map_of_hasArgument h.of_inputs fun parameter hparameter argument hof =>
    hof.localName_eq.trans (Parameter.localName_of_input (mem_ofRole.mp hparameter).2)
  rw [Source.series, Signature.series, ← List.head?_map, ← List.head?_map, hnames]

/-- The first parameter that is an input is declared as a pointer. -/
theorem Accepts.first_pointer (h : signature.Accepts inputs outputs) :
    ∀ parameter ∈ (signature.ofRole .input).head?, parameter.rawType.toList.head? = some '*' := by
  obtain ⟨first, more, rfl, hbuffer⟩ := h.first_input
  intro parameter hparameter
  obtain ⟨rest, hrest⟩ := List.head?_eq_some_iff.mp hparameter
  have hof := h.of_inputs
  rw [hrest] at hof
  obtain ⟨hfirst, -⟩ := List.forall₂_cons.mp hof
  exact (HostType.isBuffer_iff hfirst.hostType_eq).mp hbuffer

/-- What an accepted signature's source passes to the function. -/
theorem Accepts.callArguments_eq (h : signature.Accepts inputs outputs) :
    Source.callArguments (Source.series inputs) inputs outputs = signature.callOrder := by
  have hbegin : "&mut " ++ beginLocal = "&mut out_begin" := by decide
  have hsize : "&mut " ++ sizeLocal = "&mut out_size" := by decide
  rw [Source.callArguments, h.map_inputArgument, h.map_outputArgument, h.series_eq, hbegin, hsize,
    callOrder, lastIndexText]

end Signature

namespace Parameter

variable {series text : String} {parameter : Parameter}

/-- The forms of an argument, by the name of its parameter. -/
theorem positional_eq_some (h : parameter.positional series = some text) :
    (parameter.name = startIndexName ∧ text = "0") ∨
    (parameter.name = endIndexName ∧ text = lastIndexText series) ∨
    (parameter.name = beginIndexName ∧ text = "&mut out_begin") ∨
    (parameter.name = elementCountName ∧ text = "&mut out_size") ∨
    (Role.ofParameter parameter.name = .input ∧ text = parameter.inputText) ∨
    (Role.ofParameter parameter.name = .output ∧ text = parameter.outputText) := by
  unfold positional at h
  split at h
  · next hname =>
      left
      exact ⟨hname, (Option.some.inj h).symm⟩
  right
  split at h
  · next hname =>
      left
      exact ⟨hname, (Option.some.inj h).symm⟩
  right
  split at h
  · next hname =>
      left
      exact ⟨hname, (Option.some.inj h).symm⟩
  right
  split at h
  · next hname =>
      left
      exact ⟨hname, (Option.some.inj h).symm⟩
  right
  split at h
  · next hrole =>
      left
      exact ⟨hrole, (Option.some.inj h).symm⟩
  · next hrole =>
      right
      exact ⟨hrole, (Option.some.inj h).symm⟩
  · cases h

/-- The four parameters that the wrapper passes itself are neither inputs nor
outputs. -/
theorem role_of_synthesized :
    ∀ name ∈ [startIndexName, endIndexName, beginIndexName, elementCountName],
      Role.ofParameter name = .ignored := by
  decide

theorem positional_of_role (h : Role.ofParameter parameter.name ≠ .ignored) :
    parameter.positional series =
      match Role.ofParameter parameter.name with
      | .input => some parameter.inputText
      | .output => some parameter.outputText
      | .ignored => none := by
  have hother : ∀ name ∈ [startIndexName, endIndexName, beginIndexName, elementCountName],
      parameter.name ≠ name := by
    intro name hname heq
    rw [heq] at h
    exact h (role_of_synthesized name hname)
  simp only [List.forall_mem_cons] at hother
  obtain ⟨hstart, hend, hbegin, hcount, -⟩ := hother
  rw [positional, if_neg hstart, if_neg hend, if_neg hbegin, if_neg hcount]

theorem positional_of_input (h : Role.ofParameter parameter.name = .input) :
    parameter.positional series = some parameter.inputText := by
  rw [positional_of_role (by simp [h]), h]

theorem positional_of_output (h : Role.ofParameter parameter.name = .output) :
    parameter.positional series = some parameter.outputText := by
  rw [positional_of_role (by simp [h]), h]

theorem blank_not_mem_inputText (h : IdentChars parameter.name.toList) :
    ' ' ∉ parameter.inputText.toList := by
  have hclean := (identChars_cleanName h).not_mem (c := ' ') rfl
  unfold inputText
  split
  · rw [String.toList_append, List.mem_append, not_or]
    exact ⟨hclean, by decide⟩
  · exact hclean

theorem blank_not_mem_outputText (h : IdentChars parameter.name.toList) :
    ' ' ∉ parameter.outputText.toList := by
  have hclean := (identChars_cleanName h).not_mem (c := ' ') rfl
  simp only [outputText, String.toList_append, List.mem_append, not_or]
  exact ⟨⟨by decide, hclean⟩, by decide⟩

def outputMark : List Char := "mut_ptr()".toList

theorem outputMark_suffix_outputText : outputMark <:+ parameter.outputText.toList := by
  have hmark : outputMark <:+ ".as_mut_ptr()".toList := by decide
  rw [outputText, String.toList_append]
  exact hmark.trans (List.suffix_append _ _)

theorem not_outputMark_suffix_inputText (h : IdentChars parameter.name.toList) :
    ¬outputMark <:+ parameter.inputText.toList := by
  have hclean := (identChars_cleanName h).not_mem (c := '(') rfl
  unfold inputText
  split
  · intro hsuffix
    rw [String.toList_append] at hsuffix
    have hother : ¬outputMark <:+ ".as_ptr()".toList := by decide
    have hlength : outputMark.length ≤ ".as_ptr()".toList.length := by decide
    apply hother
    exact List.suffix_of_suffix_length_le hsuffix (List.suffix_append _ _) hlength
  · intro hsuffix
    have hparen : '(' ∈ outputMark := by decide
    exact hclean (hsuffix.mem hparen)

theorem name_of_blank (hname : IdentChars parameter.name.toList)
    (h : parameter.positional series = some text) (hblank : ' ' ∈ text.toList) :
    (parameter.name = endIndexName ∧ text = lastIndexText series) ∨
    (parameter.name = beginIndexName ∧ text = "&mut out_begin") ∨
    (parameter.name = elementCountName ∧ text = "&mut out_size") := by
  rcases positional_eq_some h with
    ⟨-, rfl⟩ | hend | hbegin | hcount | ⟨-, rfl⟩ | ⟨-, rfl⟩
  · exact absurd hblank (by decide)
  · exact Or.inl hend
  · exact Or.inr (Or.inl hbegin)
  · exact Or.inr (Or.inr hcount)
  · exact absurd hblank (blank_not_mem_inputText hname)
  · exact absurd hblank (blank_not_mem_outputText hname)

theorem role_of_no_blank (h : parameter.positional series = some text)
    (hblank : ' ' ∉ text.toList) :
    (parameter.name = startIndexName ∧ text = "0") ∨
    (Role.ofParameter parameter.name = .input ∧ text = parameter.inputText) ∨
    (Role.ofParameter parameter.name = .output ∧ text = parameter.outputText) := by
  rcases positional_eq_some h with
    hstart | ⟨-, rfl⟩ | ⟨-, rfl⟩ | ⟨-, rfl⟩ | hinput | houtput
  · exact Or.inl hstart
  · exact absurd (by simp [lastIndexText]) hblank
  · exact absurd (by decide) hblank
  · exact absurd (by decide) hblank
  · exact Or.inr (Or.inl hinput)
  · exact Or.inr (Or.inr houtput)

theorem ampersand_not_mem_lastIndexText (hseries : IdentChars series.toList) :
    '&' ∉ (lastIndexText series).toList := by
  rw [lastIndexText, String.toList_append, List.mem_append, not_or]
  exact ⟨hseries.not_mem rfl, by decide⟩

theorem name_of_lastIndex (hname : IdentChars parameter.name.toList)
    (hseries : IdentChars series.toList)
    (h : parameter.positional series = some (lastIndexText series)) :
    parameter.name = endIndexName := by
  have hampersand := ampersand_not_mem_lastIndexText hseries
  have hblank : ' ' ∈ (lastIndexText series).toList := by simp [lastIndexText]
  rcases name_of_blank hname h hblank with hend | ⟨-, htext⟩ | ⟨-, htext⟩
  · exact hend.1
  · rw [htext] at hampersand
    exact absurd (by decide) hampersand
  · rw [htext] at hampersand
    exact absurd (by decide) hampersand

theorem name_of_ampersand (hname : IdentChars parameter.name.toList)
    (hseries : IdentChars series.toList) (h : parameter.positional series = some text)
    (hblank : ' ' ∈ text.toList) (hampersand : '&' ∈ text.toList) :
    (parameter.name = beginIndexName ∧ text = "&mut out_begin") ∨
    (parameter.name = elementCountName ∧ text = "&mut out_size") := by
  rcases name_of_blank hname h hblank with ⟨-, rfl⟩ | hbookkeeping
  · exact absurd hampersand (ampersand_not_mem_lastIndexText hseries)
  · exact hbookkeeping

theorem role_of_zero (h : parameter.positional series = some "0") :
    parameter.name = startIndexName ∨
      (Role.ofParameter parameter.name = .input ∧ parameter.inputText = "0") := by
  have hblank : ' ' ∉ "0".toList := by decide
  rcases role_of_no_blank h hblank with hstart | ⟨hrole, htext⟩ | ⟨-, htext⟩
  · exact Or.inl hstart.1
  · exact Or.inr ⟨hrole, htext.symm⟩
  · have hmark := @outputMark_suffix_outputText parameter
    rw [← htext] at hmark
    exact absurd hmark (by decide)

theorem role_of_outputText {output : Parameter} (hname : IdentChars parameter.name.toList)
    (houtput : IdentChars output.name.toList)
    (h : parameter.positional series = some output.outputText) :
    Role.ofParameter parameter.name = .output := by
  have hmark := @outputMark_suffix_outputText output
  rcases role_of_no_blank h (blank_not_mem_outputText houtput) with
    ⟨-, htext⟩ | ⟨-, htext⟩ | ⟨hrole, -⟩
  · rw [htext] at hmark
    exact absurd hmark (by decide)
  · rw [htext] at hmark
    exact absurd hmark (not_outputMark_suffix_inputText hname)
  · exact hrole

/-- Where outputs are passed, there are outputs. -/
theorem role_of_outputTexts {passed outputs : List Parameter}
    (h : passed.map (positional series) = (outputs.map outputText).map some)
    (hpassed : ∀ parameter ∈ passed, IdentChars parameter.name.toList)
    (houtputs : ∀ output ∈ outputs, IdentChars output.name.toList) :
    ∀ parameter ∈ passed, Role.ofParameter parameter.name = .output := by
  intro parameter hparameter
  have hmem := List.mem_map_of_mem (f := positional series) hparameter
  rw [h] at hmem
  obtain ⟨text, htext, hargument⟩ := List.mem_map.mp hmem
  obtain ⟨output, houtput, rfl⟩ := List.mem_map.mp htext
  have hname := hpassed parameter hparameter
  exact role_of_outputText hname (houtputs output houtput) hargument.symm

theorem name_of_begin (hname : IdentChars parameter.name.toList)
    (hseries : IdentChars series.toList)
    (h : parameter.positional series = some "&mut out_begin") :
    parameter.name = beginIndexName := by
  have hblank : ' ' ∈ "&mut out_begin".toList := by decide
  have hampersand : '&' ∈ "&mut out_begin".toList := by decide
  rcases name_of_ampersand hname hseries h hblank hampersand with hbegin | ⟨-, htext⟩
  · exact hbegin.1
  · exact absurd htext (by decide)

theorem name_of_size (hname : IdentChars parameter.name.toList)
    (hseries : IdentChars series.toList)
    (h : parameter.positional series = some "&mut out_size") :
    parameter.name = elementCountName := by
  have hblank : ' ' ∈ "&mut out_size".toList := by decide
  have hampersand : '&' ∈ "&mut out_size".toList := by decide
  rcases name_of_ampersand hname hseries h hblank hampersand with ⟨-, htext⟩ | hcount
  · exact absurd htext (by decide)
  · exact hcount.1

/-- An input that is a series is never passed as a plain zero. -/
theorem inputText_ne_zero (h : parameter.rawType.toList.head? = some '*') :
    parameter.inputText ≠ "0" := by
  have hparen : '(' ∈ parameter.inputText.toList := by simp [inputText, h]
  intro heq
  rw [heq] at hparen
  exact absurd hparen (by decide)

end Parameter

theorem filter_role_of_all {parameters : List Parameter} {role : Role}
    (h : ∀ parameter ∈ parameters, Role.ofParameter parameter.name = role) :
    (parameters.filter fun parameter => Role.ofParameter parameter.name == role) = parameters := by
  rw [List.filter_eq_self]
  intro parameter hparameter
  exact beq_iff_eq.mpr (h parameter hparameter)

theorem filter_role_of_none {parameters : List Parameter} {role : Role}
    (h : ∀ parameter ∈ parameters, Role.ofParameter parameter.name ≠ role) :
    (parameters.filter fun parameter => Role.ofParameter parameter.name == role) = [] := by
  rw [List.filter_eq_nil_iff]
  intro parameter hparameter hrole
  exact h parameter hparameter (beq_iff_eq.mp hrole)

theorem Parameter.InCallOrder.ofRole {signature : Signature} {start stop begin count : Parameter}
    {inputs outputs : List Parameter}
    (hparameters : signature.parameters = [start, stop] ++ inputs ++ [begin, count] ++ outputs)
    (hignored : ∀ parameter ∈ [start, stop, begin, count],
      Role.ofParameter parameter.name = .ignored)
    (hinputs : ∀ input ∈ inputs, Role.ofParameter input.name = .input)
    (houtputs : ∀ output ∈ outputs, Role.ofParameter output.name = .output) :
    signature.ofRole .input = inputs ∧ signature.ofRole .output = outputs := by
  simp only [List.forall_mem_cons] at hignored
  obtain ⟨hstart, hstop, hbegin, hcount, -⟩ := hignored
  have hnoOutput : ∀ input ∈ inputs, Role.ofParameter input.name ≠ .output := by
    intro input hinput
    simp [hinputs input hinput]
  have hnoInput : ∀ output ∈ outputs, Role.ofParameter output.name ≠ .input := by
    intro output houtput
    simp [houtputs output houtput]
  constructor
  · rw [Signature.ofRole, hparameters]
    simp [hstart, hstop, hbegin, hcount, filter_role_of_all hinputs, filter_role_of_none hnoInput]
  · rw [Signature.ofRole, hparameters]
    simp [hstart, hstop, hbegin, hcount, filter_role_of_all houtputs,
      filter_role_of_none hnoOutput]

open Parameter

theorem Signature.positional_of_inCallOrder {signature : Signature}
    (h : InCallOrder signature.parameters) :
    signature.parameters.map (positional signature.series) =
      signature.callOrder.map some := by
  unfold callOrder
  generalize hparameters : signature.parameters = parameters at h ⊢
  obtain @⟨start, stop, begin, count, inputs, outputs, hstart, hstop, hinputs, hbegin, hcount,
    houtputs⟩ := h
  have hignored : ∀ parameter ∈ [start, stop, begin, count],
      Role.ofParameter parameter.name = .ignored := by
    simp only [List.forall_mem_cons, hstart, hstop, hbegin, hcount]
    decide
  obtain ⟨hofInput, hofOutput⟩ := InCallOrder.ofRole hparameters hignored hinputs houtputs
  have hpassed : inputs.map (positional signature.series) = inputs.map (some ∘ inputText) := by
    apply List.map_congr_left
    intro input hinput
    exact positional_of_input (hinputs input hinput)
  have hreturned : outputs.map (positional signature.series) = outputs.map (some ∘ outputText) := by
    apply List.map_congr_left
    intro output houtput
    exact positional_of_output (houtputs output houtput)
  rw [hofInput, hofOutput]
  simp only [List.map_append, List.map_map, hpassed, hreturned]
  simp [positional, hstart, hstop, hbegin, hcount, startIndexName, endIndexName, beginIndexName,
    elementCountName]

theorem Signature.Identified.identChars_series {signature : Signature}
    (h : signature.Identified) : IdentChars signature.series.toList := by
  unfold Signature.series
  cases hfirst : (signature.ofRole .input).head? with
  | none => decide
  | some parameter =>
      obtain ⟨rest, hrest⟩ := List.head?_eq_some_iff.mp hfirst
      have hname := h.ofRole .input parameter (hrest ▸ List.mem_cons_self)
      rw [Option.map_some, Option.getD_some]
      exact identChars_cleanName hname.identChars

theorem Signature.inCallOrder_of_positional {signature : Signature}
    (hidentified : signature.Identified)
    (hfirst : ∀ parameter ∈ (signature.ofRole .input).head?,
      parameter.rawType.toList.head? = some '*')
    (h : signature.parameters.map (positional signature.series) = signature.callOrder.map some) :
    InCallOrder signature.parameters := by
  rw [callOrder, List.map_append, List.map_append, List.map_append] at h
  obtain ⟨front, outputs, hparameters, hfront, houtputs⟩ := List.map_eq_append_iff.mp h
  obtain ⟨front, pair, rfl, hfront, hpair⟩ := List.map_eq_append_iff.mp hfront
  obtain ⟨range, inputs, rfl, hrange, hinputs⟩ := List.map_eq_append_iff.mp hfront
  obtain ⟨start, range, rfl, hstart, hrange⟩ := List.map_eq_cons_iff.mp hrange
  obtain ⟨stop, range, rfl, hstop, hrange⟩ := List.map_eq_cons_iff.mp hrange
  obtain ⟨begin, pair, rfl, hbegin, hpair⟩ := List.map_eq_cons_iff.mp hpair
  obtain ⟨count, pair, rfl, hcount, hpair⟩ := List.map_eq_cons_iff.mp hpair
  obtain rfl := List.map_eq_nil_iff.mp hrange
  obtain rfl := List.map_eq_nil_iff.mp hpair
  have hnames : ∀ parameter ∈ signature.parameters, IdentChars parameter.name.toList :=
    fun parameter hparameter => (hidentified.parameters parameter hparameter).identChars
  have hseries := hidentified.identChars_series
  have hstopName := name_of_lastIndex (hnames stop (by simp [hparameters])) hseries hstop
  have hbeginName := name_of_begin (hnames begin (by simp [hparameters])) hseries hbegin
  have hcountName := name_of_size (hnames count (by simp [hparameters])) hseries hcount
  have houtputRole : ∀ output ∈ outputs, Role.ofParameter output.name = .output := by
    apply role_of_outputTexts houtputs
    · intro output houtput
      exact hnames output (by simp [hparameters, houtput])
    · intro original horiginal
      exact hnames original (List.mem_of_mem_filter horiginal)
  have hignored : Role.ofParameter stop.name = .ignored ∧
      Role.ofParameter begin.name = .ignored ∧ Role.ofParameter count.name = .ignored := by
    rw [hstopName, hbeginName, hcountName]
    decide
  have hnoInput : ∀ output ∈ outputs, Role.ofParameter output.name ≠ .input := by
    intro output houtput
    simp [houtputRole output houtput]
  -- All inputs stand where inputs are passed, but the first parameter is one more candidate.
  have hofInput : signature.ofRole .input =
      ([start] ++ inputs).filter fun parameter => Role.ofParameter parameter.name == .input := by
    rw [ofRole, hparameters]
    simp [hignored, filter_role_of_none hnoInput, List.filter_cons]
  have hstartName : start.name = startIndexName := by
    rcases role_of_zero hstart with hname | ⟨hrole, htext⟩
    · exact hname
    · have hpointer := hfirst start (by simp [hofInput, hrole])
      exact absurd htext (inputText_ne_zero hpointer)
  have hstartRole : Role.ofParameter start.name = .ignored := by
    rw [hstartName]
    decide
  have hlength : inputs.length = (signature.ofRole .input).length := by
    simpa using congrArg List.length hinputs
  have hinputRole : ∀ input ∈ inputs, Role.ofParameter input.name = .input := by
    rw [hofInput, List.singleton_append, List.filter_cons_of_neg (by simp [hstartRole])] at hlength
    simpa using List.length_filter_eq_length_iff.mp hlength.symm
  rw [hparameters]
  exact .mk hstartName hstopName hinputRole hbeginName hcountName houtputRole

theorem Artifact.emittedCall_eq {text : String} {signature : Signature} {artifact : Artifact}
    (hsignature : signature ∈ (extract none text).signatures)
    (h : ofSignature signature = .ok artifact) :
    Source.emittedCall signature.name artifact.source = signature.callOrder := by
  have hidentified := identified_of_mem_extract hsignature
  obtain ⟨inputs, outputs, haccepts, rfl⟩ := ofSignature_eq_ok_iff.mp h
  have hplain : ∀ {role arguments},
      List.Forall₂ HasArgument (signature.ofRole role) arguments →
      ∀ argument ∈ arguments, argument.Plain :=
    fun hof => plain_of_hasArgument hof (hidentified.ofRole _)
  have hcall := Source.emittedCall_render hidentified.name.identChars
    (hplain haccepts.of_inputs) (hplain haccepts.of_outputs)
  dsimp only
  rw [hcall, haccepts.callArguments_eq, Signature.callOrder]

/-- The call in the source of an extracted signature has one fixed order, and it
replays the declaration by position exactly if the parameters have that order. -/
theorem Artifact.replays_iff_inCallOrder {text : String} {signature : Signature}
    {artifact : Artifact} (hsignature : signature ∈ (extract none text).signatures)
    (h : ofSignature signature = .ok artifact) :
    Source.emittedCall signature.name artifact.source = signature.callOrder ∧
      ((Source.emittedCall signature.name artifact.source).map some =
          signature.parameters.map (positional signature.series) ↔
        InCallOrder signature.parameters) := by
  have hcall := emittedCall_eq hsignature h
  rw [hcall]
  obtain ⟨inputs, outputs, haccepts, -⟩ := ofSignature_eq_ok_iff.mp h
  refine ⟨rfl, ?_⟩
  constructor
  · intro hreplays
    exact Signature.inCallOrder_of_positional (identified_of_mem_extract hsignature)
      haccepts.first_pointer hreplays.symm
  · intro horder
    exact (Signature.positional_of_inCallOrder horder).symm

def orderedText : String :=
  "pub fn TA_X(startIdx: c_int, endIdx: c_int, inReal: *const f64, optInType: TA_MAType, " ++
    "outBegIdx: *mut c_int, outNBElement: *mut c_int, outReal: *mut f64)"

def ordered : Signature where
  name := "TA_X"
  parameters :=
    [⟨startIndexName, "c_int"⟩, ⟨endIndexName, "c_int"⟩, ⟨"inReal", "*const f64"⟩,
      ⟨"optInType", "TA_MAType"⟩, ⟨beginIndexName, "*mut c_int"⟩,
      ⟨elementCountName, "*mut c_int"⟩, ⟨"outReal", "*mut f64"⟩]
  line := 1

theorem ordered_replays :
    ordered ∈ (extract none orderedText).signatures ∧
      ∃ artifact, Artifact.ofSignature ordered = .ok artifact ∧
        (Source.emittedCall ordered.name artifact.source).map some =
          ordered.parameters.map (positional ordered.series) := by
  have hmem : ordered ∈ (extract none orderedText).signatures := by decide +kernel
  have hok : (Artifact.ofSignature ordered).map (fun artifact => artifact.filename) =
      .ok "x.rs" := by
    decide +kernel
  obtain ⟨artifact, hartifact, -⟩ := Except.map_eq_ok_iff.mp hok
  have horder : InCallOrder ordered.parameters :=
    @InCallOrder.mk _ _ _ _ [⟨"inReal", _⟩, ⟨"optInType", _⟩] [⟨"outReal", _⟩] rfl rfl
      (by decide) rfl rfl (by decide)
  have hreplays := (Artifact.replays_iff_inCallOrder hmem hartifact).2.mpr horder
  exact ⟨hmem, artifact, hartifact, hreplays⟩

def swappedText : String :=
  "pub fn TA_X(startIdx: c_int, endIdx: c_int, inReal: *const f64, " ++
    "outNBElement: *mut c_int, outBegIdx: *mut c_int, outReal: *mut f64)"

def swapped : Signature where
  name := "TA_X"
  parameters :=
    [⟨startIndexName, "c_int"⟩, ⟨endIndexName, "c_int"⟩, ⟨"inReal", "*const f64"⟩,
      ⟨elementCountName, "*mut c_int"⟩, ⟨beginIndexName, "*mut c_int"⟩, ⟨"outReal", "*mut f64"⟩]
  line := 1

/-- With the bookkeeping the other way round there is a wrapper too, and it gives
each of the two the place of the other. -/
theorem swapped_not_replayed :
    swapped ∈ (extract none swappedText).signatures ∧
      ∃ artifact, Artifact.ofSignature swapped = .ok artifact ∧
        Source.emittedCall swapped.name artifact.source =
          ["0", "real.len() as i32 - 1", "real.as_ptr()", "&mut out_begin", "&mut out_size",
            "out_real.as_mut_ptr()"] ∧
        (Source.emittedCall swapped.name artifact.source).map some ≠
          swapped.parameters.map (positional swapped.series) := by
  have hmem : swapped ∈ (extract none swappedText).signatures := by decide +kernel
  have hok : (Artifact.ofSignature swapped).map (fun artifact => artifact.filename) =
      .ok "x.rs" := by
    decide +kernel
  obtain ⟨artifact, hartifact, -⟩ := Except.map_eq_ok_iff.mp hok
  have horder : swapped.callOrder = ["0", "real.len() as i32 - 1", "real.as_ptr()",
      "&mut out_begin", "&mut out_size", "out_real.as_mut_ptr()"] := by
    decide +kernel
  have hcall := (Artifact.emittedCall_eq hmem hartifact).trans horder
  refine ⟨hmem, artifact, hartifact, hcall, ?_⟩
  rw [hcall]
  decide +kernel

end IndicatorWrap
