import IndicatorWrap.Proofs.Declaration.Identifiers
import IndicatorWrap.Proofs.Text.Lines
import IndicatorWrap.Proofs.Wrapper.Accepted

/-!
The lines of a wrapper. The names that go into it are made of the characters of
identifiers and its types stand in a table, so that no line of the source holds
a line feed and the lines can be read back.
-/

namespace IndicatorWrap

open Text

theorem IdentChars.oneLine {text : String} (h : IdentChars text.toList) : OneLine text :=
  h.not_mem rfl

/-- An argument that can be written into a source. -/
structure Argument.Plain (argument : Argument) : Prop where
  name : IdentChars argument.name.toList
  hostType : argument.hostType.text ∈ HostType.texts

theorem Argument.Plain.localName {argument : Argument} (h : argument.Plain) :
    IdentChars argument.localName.toList := by
  unfold Argument.localName
  split
  · rw [String.toList_append]
    exact IdentChars.append_iff.mpr ⟨by decide, h.name⟩
  · exact h.name

theorem Argument.Plain.oneLine_hostType {argument : Argument} (h : argument.Plain) :
    OneLine argument.hostType.text := by
  have htexts : ∀ text ∈ HostType.texts, OneLine text := by decide
  exact htexts _ h.hostType

theorem Parameter.HasArgument.plain {parameter : Parameter} {argument : Argument}
    (h : parameter.HasArgument argument) (hname : Lexeme.IsIdentifier parameter.name.toList) :
    argument.Plain where
  name := h.name_eq ▸ identChars_cleanName hname.identChars
  hostType := HostType.text_mem h.hostType_eq

theorem plain_of_hasArgument {parameters : List Parameter} {arguments : List Argument}
    (h : List.Forall₂ Parameter.HasArgument parameters arguments)
    (hnames : ∀ parameter ∈ parameters, Lexeme.IsIdentifier parameter.name.toList) :
    ∀ argument ∈ arguments, argument.Plain := by
  induction h with
  | nil => simp
  | cons hfirst _ ih =>
      obtain ⟨hname, hnames⟩ := List.forall_mem_cons.mp hnames
      exact List.forall_mem_cons.mpr ⟨hfirst.plain hname, ih hnames⟩

theorem Signature.Identified.ofRole {signature : Signature} (h : signature.Identified)
    (role : Role) :
    ∀ parameter ∈ signature.ofRole role, Lexeme.IsIdentifier parameter.name.toList := by
  intro parameter hparameter
  exact h.parameters parameter (List.mem_of_mem_filter hparameter)

theorem Signature.identChars_moduleName {signature : Signature}
    (h : IdentChars signature.name.toList) : IdentChars signature.moduleName.toList := by
  rw [moduleName, String.toList_ofList]
  apply IdentChars.lower
  unfold shortName
  split
  · next rest hrest =>
      have happend := List.isPrefixOf?_eq_some_iff_append_eq.mp hrest
      rw [← happend] at h
      rw [String.toList_ofList]
      exact (IdentChars.append_iff.mp h).2
  · exact h

namespace Source

theorem oneLine_indent {line : String} (h : OneLine line) (width : Nat) :
    OneLine (indent width line) := by
  refine oneLine_append_iff.mpr ⟨?_, h⟩
  simp [OneLine]

variable {signature : Signature} {inputs outputs : List Argument}

theorem oneLine_header (hname : IdentChars signature.name.toList) :
    ∀ line ∈ header signature, OneLine line := by
  simp only [header, List.forall_mem_cons, oneLine_append_iff, hname.oneLine, and_true]
  decide

theorem oneLine_useLine (hname : IdentChars signature.name.toList) :
    OneLine (useLine signature inputs) := by
  have himports : ∀ name ∈ imports signature inputs, OneLine name := by
    simp only [imports]
    split
    · simp only [List.forall_mem_append, List.forall_mem_cons, hname.oneLine, true_and]
      decide
    · simp only [List.forall_mem_append, List.forall_mem_cons, hname.oneLine, true_and]
      decide
  simp only [useLine, oneLine_append_iff]
  refine ⟨⟨?_, OneLine.intercalate (by decide) himports⟩, ?_⟩
  · decide
  · decide

theorem oneLine_functionLine (hname : IdentChars signature.name.toList)
    (hinputs : ∀ input ∈ inputs, input.Plain) (houtputs : ∀ output ∈ outputs, output.Plain) :
    OneLine (functionLine signature inputs outputs) := by
  have hparameters : OneLine (parameterList inputs) := by
    refine OneLine.intercalate (by decide) (List.forall_mem_map.mpr ?_)
    intro input hinput
    have hplain := hinputs input hinput
    simp only [oneLine_append_iff]
    exact ⟨⟨hplain.localName.oneLine, by decide⟩, hplain.oneLine_hostType⟩
  have hreturns : OneLine (returnTypes outputs) := by
    refine OneLine.intercalate (by decide) ?_
    simp only [List.forall_mem_append, List.forall_mem_map]
    refine ⟨?_, by decide⟩
    intro output houtput
    exact (houtputs output houtput).oneLine_hostType
  have hmodule := (Signature.identChars_moduleName hname).oneLine
  simp only [functionLine, oneLine_append_iff, hparameters, hreturns, hmodule]
  decide

theorem oneLine_allocation {series : String} (hseries : IdentChars series.toList)
    {output : Argument} (houtput : output.Plain) : OneLine (allocation series output) := by
  simp only [allocation, oneLine_append_iff, hseries.oneLine, houtput.localName.oneLine,
    houtput.oneLine_hostType]
  decide

theorem oneLine_publication {output : Argument} (houtput : output.Plain) :
    OneLine (publication output) := by
  simp only [publication, oneLine_append_iff, houtput.localName.oneLine]
  decide

theorem oneLine_callArguments {series : String} (hseries : IdentChars series.toList)
    (hinputs : ∀ input ∈ inputs, input.Plain) (houtputs : ∀ output ∈ outputs, output.Plain) :
    ∀ argument ∈ callArguments series inputs outputs, OneLine argument := by
  have hinput : ∀ input ∈ inputs, OneLine (inputArgument input) := by
    intro input hinput
    have hlocal := (hinputs input hinput).localName.oneLine
    unfold inputArgument
    split
    · apply oneLine_append_iff.mpr
      exact ⟨hlocal, by decide⟩
    · exact hlocal
  have houtput : ∀ output ∈ outputs, OneLine (outputArgument output) := by
    intro output houtput
    have hlocal := (houtputs output houtput).localName.oneLine
    apply oneLine_append_iff.mpr
    exact ⟨hlocal, by decide⟩
  simp only [callArguments, List.forall_mem_append, List.forall_mem_map, List.forall_mem_cons,
    oneLine_append_iff, hseries.oneLine]
  exact ⟨⟨⟨by decide, hinput⟩, by decide⟩, houtput⟩

/-- The name of the first input. -/
def series (inputs : List Argument) : String :=
  (inputs.head?.map Argument.localName).getD ""

theorem identChars_series (hinputs : ∀ input ∈ inputs, input.Plain) :
    IdentChars (series inputs).toList := by
  cases inputs with
  | nil => decide
  | cons first more => exact (hinputs first List.mem_cons_self).localName

theorem oneLine_body (hname : IdentChars signature.name.toList)
    (hinputs : ∀ input ∈ inputs, input.Plain) (houtputs : ∀ output ∈ outputs, output.Plain) :
    ∀ line ∈ body signature inputs outputs, OneLine line := by
  have hseries := identChars_series hinputs
  have hallocated : ∀ output ∈ outputs,
      OneLine (indent 4 (allocation (series inputs) output)) := by
    intro output houtput
    apply oneLine_indent
    exact oneLine_allocation hseries (houtputs output houtput)
  have hpassed : ∀ argument ∈ callArguments (series inputs) inputs outputs,
      OneLine (indent 12 (argument ++ ",")) := by
    intro argument hargument
    have hline := oneLine_callArguments hseries hinputs houtputs argument hargument
    apply oneLine_indent
    exact oneLine_append_iff.mpr ⟨hline, by decide⟩
  have hpublished : ∀ output ∈ outputs, OneLine (indent 16 (publication output)) := by
    intro output houtput
    apply oneLine_indent
    exact oneLine_publication (houtputs output houtput)
  have hreturned : OneLine (", ".intercalate (outputs.map Argument.localName ++ [beginLocal])) := by
    refine OneLine.intercalate (by decide) ?_
    simp only [List.forall_mem_append, List.forall_mem_map]
    refine ⟨?_, by decide⟩
    intro output houtput
    exact (houtputs output houtput).localName.oneLine
  simp only [body, List.forall_mem_append, List.forall_mem_map, List.forall_mem_cons,
    oneLine_append_iff, hname.oneLine, hreturned]
  exact ⟨⟨⟨⟨⟨hallocated, by decide⟩, hpassed⟩, by decide⟩, hpublished⟩, by decide⟩

/-- The source of a wrapper is the lines that it was made of. -/
theorem linesOf_render (hname : IdentChars signature.name.toList)
    (hinputs : ∀ input ∈ inputs, input.Plain) (houtputs : ∀ output ∈ outputs, output.Plain) :
    linesOf (render signature inputs outputs) = lines signature inputs outputs := by
  have hheader := oneLine_header hname
  have huse : OneLine (useLine signature inputs) := oneLine_useLine hname
  have hfunction := oneLine_functionLine hname hinputs houtputs
  have hbody := oneLine_body hname hinputs houtputs
  have hempty : OneLine "" := by decide
  apply linesOf_endLines
  simp only [lines, List.forall_mem_append, List.forall_mem_cons]
  exact ⟨⟨⟨hheader, hempty, huse, hempty, hfunction, List.forall_mem_nil _⟩, hbody⟩, by decide⟩

end Source

end IndicatorWrap
