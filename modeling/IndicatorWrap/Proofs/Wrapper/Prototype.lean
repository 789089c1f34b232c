import IndicatorWrap.Proofs.Text.Cutting
import IndicatorWrap.Proofs.Wrapper.SourceLines
import IndicatorWrap.Proofs.Wrapper.Verdict

/-!
The prototype of a wrapper, read back from its source. One line opens the function;
cut at its marks and separators, it gives the names and types of the parameters and the
types of the results again. That is sound because no clean name and no host type holds
a mark or a separator. In the literals \x7b and \x7d are the braces { and }.
-/

namespace IndicatorWrap

open Text

/-- The name of a function, the names and types of its parameters and the types of its
results. -/
structure Prototype where
  name : String
  parameters : List (String × String)
  returns : List String
deriving DecidableEq

/-- What the line that opens a public function begins with. -/
def Prototype.mark : String := "pub fn "

/-- The parameters as they are written on the line. -/
def Prototype.written (prototype : Prototype) : List String :=
  prototype.parameters.map fun (name, type) => name ++ ": " ++ type

/-- The line that opens the function. -/
def Prototype.line (prototype : Prototype) : String :=
  mark ++ prototype.name ++ "(" ++ ", ".intercalate prototype.written ++ ") -> (" ++
    ", ".intercalate prototype.returns ++ ") \x7b"

/-- The prototype on a line of the form `pub fn <name>(<parameters>) -> (<returns>) {`. The
parameters stand between commas, each with its type behind the first colon. -/
def Prototype.ofLine? (line : String) : Option Prototype := do
  let behindMark ← mark.toList.isPrefixOf? line.toList
  let (name, behindName) ← cut? "(".toList behindMark
  let (parameters, behindParameters) ← cut? ") -> (".toList behindName
  let (returns, behindReturns) ← cut? ") \x7b".toList behindParameters
  guard (behindReturns = [])
  let parameters ← (splitAll ", ".toList parameters).mapM (cut? ": ".toList)
  return {
    name := String.ofList name
    parameters := parameters.map fun (name, type) => (String.ofList name, String.ofList type)
    returns := (splitAll ", ".toList returns).map String.ofList }

/-- Whether a text can be told from the marks and commas around it. -/
def Prototype.DelimiterFree (text : String) : Prop :=
  ',' ∉ text.toList ∧ ')' ∉ text.toList

instance (text : String) : Decidable (Prototype.DelimiterFree text) :=
  inferInstanceAs (Decidable (_ ∧ _))

/-- Whether nothing in a prototype can be taken for a mark or a separator of its line. -/
structure Prototype.Readable (prototype : Prototype) : Prop where
  name : IdentChars prototype.name.toList
  parameters_ne_nil : prototype.parameters ≠ []
  parameters : ∀ parameter ∈ prototype.parameters,
    IdentChars parameter.1.toList ∧ DelimiterFree parameter.2
  returns_ne_nil : prototype.returns ≠ []
  returns : ∀ type ∈ prototype.returns, DelimiterFree type

/-- The lines of a source that open public functions. -/
def Source.functionLines (source : String) : List String :=
  (linesOf source).filter fun line => Prototype.mark.toList.isPrefixOf line.toList

/-- Whether a parameter is written with the type in a wrapper. -/
def Parameter.HasType (parameter : Parameter) (type : String) : Prop :=
  parameter.hostType.map HostType.text = .ok type

instance (parameter : Parameter) (type : String) : Decidable (parameter.HasType type) :=
  inferInstanceAs (Decidable (_ = _))

/-- Whether a prototype is that of the wrapper: the inputs with their types, in the order of
the declaration, and the types of the outputs, in that order too, with that of the index of
the first result. -/
structure Signature.HasPrototype (signature : Signature) (prototype : Prototype) : Prop where
  name : prototype.name = signature.moduleName
  parameters : List.Forall₂
    (fun input (name, type) => name = input.localName ∧ input.HasType type)
    (signature.ofRole .input) prototype.parameters
  returns : ∃ types, prototype.returns = types ++ ["TA_Integer"] ∧
    List.Forall₂ Parameter.HasType (signature.ofRole .output) types

/-- The prototype that is written of the arguments. -/
def Signature.prototype (signature : Signature) (inputs outputs : List Argument) : Prototype where
  name := signature.moduleName
  parameters := inputs.map fun input => (input.localName, input.hostType.text)
  returns := outputs.map (·.hostType.text) ++ ["TA_Integer"]

namespace Prototype

theorem mapM_cut?_of_not_mem {parameters : List (String × String)}
    (h : ∀ parameter ∈ parameters, ':' ∉ parameter.1.toList) :
    (parameters.map fun (name, type) => (name ++ ": " ++ type).toList).mapM (cut? ": ".toList) =
      some (parameters.map fun (name, type) => (name.toList, type.toList)) := by
  induction parameters with
  | nil => rfl
  | cons parameter parameters ih =>
      obtain ⟨name, type⟩ := parameter
      obtain ⟨hname, hmore⟩ := List.forall_mem_cons.mp h
      have hcut : cut? ": ".toList (name ++ ": " ++ type).toList =
          some (name.toList, type.toList) := by
        rw [String.append_assoc, String.toList_append, String.toList_append]
        exact cut?_append hname type.toList
      rw [List.map_cons, List.mapM_cons, hcut, ih hmore]
      rfl

theorem toList_line (prototype : Prototype) :
    prototype.line.toList = mark.toList ++ (prototype.name.toList ++ ("(".toList ++
      ((", ".intercalate prototype.written).toList ++ (") -> (".toList ++
        ((", ".intercalate prototype.returns).toList ++ (") \x7b".toList ++ [])))))) := by
  simp only [line, String.toList_append, List.append_assoc, List.append_nil]

namespace Readable

variable {prototype : Prototype} (h : prototype.Readable)

include h

theorem delimiterFree_written : ∀ part ∈ prototype.written, DelimiterFree part := by
  rw [written, List.forall_mem_map]
  intro parameter hparameter
  obtain ⟨hname, hcomma, hclose⟩ := h.parameters parameter hparameter
  have hnoComma := hname.not_mem (c := ',') rfl
  have hnoClose := hname.not_mem (c := ')') rfl
  simp [DelimiterFree, hnoComma, hnoClose, hcomma, hclose]

theorem mapM_cut?_written : (prototype.written.map String.toList).mapM (cut? ": ".toList) =
    some (prototype.parameters.map fun (name, type) => (name.toList, type.toList)) := by
  rw [written, List.map_map]
  refine mapM_cut?_of_not_mem fun parameter hparameter => ?_
  exact (h.parameters parameter hparameter).1.not_mem rfl

/-- A line gives back what it was written of. -/
theorem ofLine?_line : ofLine? prototype.line = some prototype := by
  have hwritten := h.delimiterFree_written
  have hsome : prototype.written ≠ [] := List.map_eq_nil_iff.not.mpr h.parameters_ne_nil
  have hmark := List.isPrefixOf?_eq_some_iff_append_eq.mpr prototype.toList_line.symm
  have hname : ∀ behind, cut? "(".toList (prototype.name.toList ++ ("(".toList ++ behind)) =
      some (prototype.name.toList, behind) :=
    cut?_append (h.name.not_mem rfl)
  have hparameters : ∀ behind, cut? ") -> (".toList
      ((", ".intercalate prototype.written).toList ++ (") -> (".toList ++ behind)) =
        some ((", ".intercalate prototype.written).toList, behind) :=
    cut?_append (not_mem_intercalate (by decide) fun part hpart => (hwritten part hpart).2)
  have hreturns : ∀ behind, cut? ") \x7b".toList
      ((", ".intercalate prototype.returns).toList ++ (") \x7b".toList ++ behind)) =
        some ((", ".intercalate prototype.returns).toList, behind) :=
    cut?_append (not_mem_intercalate (by decide) fun type htype => (h.returns type htype).2)
  have hparts : splitAll ", ".toList (", ".intercalate prototype.written).toList =
      prototype.written.map String.toList :=
    splitAll_intercalate rfl hsome fun part hpart => (hwritten part hpart).1
  have htypes : splitAll ", ".toList (", ".intercalate prototype.returns).toList =
      prototype.returns.map String.toList :=
    splitAll_intercalate rfl h.returns_ne_nil fun type htype => (h.returns type htype).1
  simp only [ofLine?, hmark, hname, hparameters, hreturns, hparts, htypes, h.mapM_cut?_written,
    Option.bind_eq_bind, Option.bind_some, guard_true, List.map_map]
  simp [Function.comp_def]

end Readable

end Prototype

namespace Source

variable {signature : Signature} {inputs outputs : List Argument}

/-- Only one line of a source begins with a `p`. -/
theorem head_ne_body :
    ∀ line ∈ body signature inputs outputs, line.toList.head? ≠ some 'p' := by
  simp only [body, List.forall_mem_append, List.forall_mem_map, List.forall_mem_cons]
  simp [indent, List.replicate]

theorem head_ne_header : ∀ line ∈ header signature, line.toList.head? ≠ some 'p' := by
  simp [header, border]

theorem not_opens {line : String} (h : line.toList.head? ≠ some 'p') :
    Prototype.mark.toList.isPrefixOf line.toList = false := by
  rw [Bool.eq_false_iff, Ne, List.isPrefixOf_iff_prefix]
  rintro ⟨rest, hrest⟩
  apply h
  rw [← hrest]
  rfl

theorem functionLines_render (hname : IdentChars signature.name.toList)
    (hinputs : ∀ input ∈ inputs, input.Plain) (houtputs : ∀ output ∈ outputs, output.Plain) :
    functionLines (render signature inputs outputs) = [functionLine signature inputs outputs] := by
  have hnone : ∀ lines : List String, (∀ line ∈ lines, line.toList.head? ≠ some 'p') →
      lines.filter (fun line => Prototype.mark.toList.isPrefixOf line.toList) = [] := by
    intro lines hlines
    rw [List.filter_eq_nil_iff]
    intro line hline
    rw [not_opens (hlines line hline)]
    exact Bool.false_ne_true
  have hopens : Prototype.mark.toList.isPrefixOf
      (functionLine signature inputs outputs).toList = true := by
    rw [List.isPrefixOf_iff_prefix]
    simp [functionLine, Prototype.mark]
  have hbefore := hnone ["", useLine signature inputs, ""] (by simp [useLine])
  have hclose := hnone ["\x7d"] (by simp)
  have hmiddle : ["", useLine signature inputs, "", functionLine signature inputs outputs] =
      ["", useLine signature inputs, ""] ++ [functionLine signature inputs outputs] := rfl
  rw [functionLines, linesOf_render hname hinputs houtputs, lines, hmiddle]
  simp only [List.filter_append, hnone _ head_ne_header, hnone _ head_ne_body, hbefore, hclose,
    List.filter_singleton, hopens, cond_true, List.nil_append, List.append_nil]

end Source

namespace Signature

variable {signature : Signature} {inputs outputs : List Argument}

theorem functionLine_eq_line :
    Source.functionLine signature inputs outputs = (signature.prototype inputs outputs).line := by
  rw [Source.functionLine, Prototype.line, Prototype.written, prototype, List.map_map]
  rfl

theorem readable_prototype (hname : IdentChars signature.name.toList) (hsome : inputs ≠ [])
    (hinputs : ∀ input ∈ inputs, input.Plain) (houtputs : ∀ output ∈ outputs, output.Plain) :
    (signature.prototype inputs outputs).Readable := by
  have htexts : ∀ text ∈ HostType.texts, Prototype.DelimiterFree text := by decide
  refine ⟨identChars_moduleName hname, List.map_eq_nil_iff.not.mpr hsome, ?_, ?_, ?_⟩
  · refine List.forall_mem_map.mpr fun input hinput => ?_
    exact ⟨(hinputs input hinput).localName, htexts _ (hinputs input hinput).hostType⟩
  · exact List.append_ne_nil_of_right_ne_nil _ (List.cons_ne_nil _ _)
  · refine List.forall_mem_append.mpr ⟨?_, by decide⟩
    refine List.forall_mem_map.mpr fun output houtput => ?_
    exact htexts _ (houtputs output houtput).hostType

/-- A signature has one prototype at most. -/
theorem HasPrototype.unique {prototype other : Prototype} (h : signature.HasPrototype prototype)
    (hother : signature.HasPrototype other) : other = prototype := by
  have htypes : Relator.RightUnique Parameter.HasType := by
    intro parameter type otherType htype hotherType
    exact Except.ok.inj (htype.symm.trans hotherType)
  have hparameters : Relator.RightUnique fun (input : Parameter) ((name, type) : String × String) =>
      name = input.localName ∧ input.HasType type := by
    rintro input ⟨name, type⟩ ⟨otherName, otherType⟩ ⟨hname, htype⟩ ⟨hotherName, hotherType⟩
    rw [hname, hotherName, htypes htype hotherType]
  obtain ⟨types, hreturns, hall⟩ := h.returns
  obtain ⟨otherTypes, hotherReturns, hotherAll⟩ := hother.returns
  rw [Prototype.mk.injEq, h.name, hother.name, hreturns, hotherReturns,
    hparameters.forall₂ hother.parameters h.parameters, htypes.forall₂ hotherAll hall]
  exact ⟨rfl, rfl, rfl⟩

theorem Accepts.hasPrototype (h : signature.Accepts inputs outputs) :
    signature.HasPrototype (signature.prototype inputs outputs) := by
  have htype : ∀ {parameter : Parameter} {argument : Argument}, parameter.HasArgument argument →
      parameter.HasType argument.hostType.text := by
    intro parameter argument hargument
    rw [Parameter.HasType, Parameter.hostType, ← hargument.role_eq, hargument.hostType_eq]
    rfl
  refine ⟨rfl, ?_, outputs.map (·.hostType.text), rfl, ?_⟩
  · rw [prototype, List.forall₂_map_right_iff]
    exact h.of_inputs.imp fun input argument hinput => ⟨hinput.localName_eq, htype hinput⟩
  · rw [List.forall₂_map_right_iff]
    exact h.of_outputs.imp fun output argument => htype

end Signature

namespace Artifact

variable {text : String} {signature : Signature} {artifact : Artifact}

theorem exists_readable_prototype (hsignature : signature ∈ (extract none text).signatures)
    (hartifact : ofSignature signature = .ok artifact) :
    ∃ prototype : Prototype, prototype.Readable ∧ signature.HasPrototype prototype ∧
      Source.functionLines artifact.source = [prototype.line] ∧
      (linesOf artifact.source)[3]? = some ("// | Source: " ++ signature.name) := by
  have hidentified := identified_of_mem_extract hsignature
  obtain ⟨inputs, outputs, haccepts, rfl⟩ := ofSignature_eq_ok_iff.mp hartifact
  obtain ⟨first, more, hsome, -⟩ := haccepts.first_input
  have hname := hidentified.name.identChars
  have hinputs := plain_of_hasArgument haccepts.of_inputs (hidentified.ofRole .input)
  have houtputs := plain_of_hasArgument haccepts.of_outputs (hidentified.ofRole .output)
  refine ⟨signature.prototype inputs outputs, ?_, haccepts.hasPrototype, ?_, ?_⟩
  · exact Signature.readable_prototype hname (hsome ▸ List.cons_ne_nil first more) hinputs houtputs
  · rw [Source.functionLines_render hname hinputs houtputs, Signature.functionLine_eq_line]
  · rw [Source.linesOf_render hname hinputs houtputs]
    rfl

/-- The line that opens the function of a wrapper is the only one of its kind and tells the
inputs and the outputs of the declaration, in their order and without any other parameter.
Wrappers with one source are made of declarations with one name and these inputs and
outputs. -/
theorem prototype_of_source (hsignature : signature ∈ (extract none text).signatures)
    (hartifact : ofSignature signature = .ok artifact) :
    ∃ prototype : Prototype,
      Source.functionLines artifact.source = [prototype.line] ∧
      Prototype.ofLine? prototype.line = some prototype ∧
      signature.HasPrototype prototype ∧
      ∀ (otherText : String) (other : Signature) (same : Artifact),
        other ∈ (extract none otherText).signatures → ofSignature other = .ok same →
        same.source = artifact.source →
        other.name = signature.name ∧ other.HasPrototype prototype := by
  obtain ⟨prototype, hreadable, hprototype, hlines, hheader⟩ :=
    exists_readable_prototype hsignature hartifact
  refine ⟨prototype, hlines, hreadable.ofLine?_line, hprototype, ?_⟩
  intro otherText other same hother hsame hsource
  obtain ⟨found, hfound, hotherPrototype, hotherLines, hotherHeader⟩ :=
    exists_readable_prototype hother hsame
  rw [hsource] at hotherLines hotherHeader
  have hname : "// | Source: " ++ other.name = "// | Source: " ++ signature.name :=
    Option.some.inj (hotherHeader.symm.trans hheader)
  have hline : found.line = prototype.line :=
    List.singleton_inj.mp (hotherLines.symm.trans hlines)
  have heq : found = prototype := by
    apply Option.some.inj
    rw [← hfound.ofLine?_line, hline, hreadable.ofLine?_line]
  exact ⟨(String.append_right_inj _).mp hname, heq ▸ hotherPrototype⟩

end Artifact

/-- A declaration with a parameter that is not in the prototype of its wrapper. -/
def phasedText : String :=
  "pub fn TA_PHASED(flags: c_uint, inReal: *const f64, outBegIdx: *mut c_int, " ++
    "outNBElement: *mut c_int, outPhase: *mut c_int, optInMAType: TA_MAType, outReal: *mut f64)"

def phased : Signature where
  name := "TA_PHASED"
  parameters :=
    [⟨"flags", "c_uint"⟩, ⟨"inReal", "*const f64"⟩, ⟨beginIndexName, "*mut c_int"⟩,
      ⟨elementCountName, "*mut c_int"⟩, ⟨"outPhase", "*mut c_int"⟩,
      ⟨"optInMAType", "TA_MAType"⟩, ⟨"outReal", "*mut f64"⟩]
  line := 1

theorem phased_prototype :
    phased ∈ (extract none phasedText).signatures ∧
      ∃ artifact, Artifact.ofSignature phased = .ok artifact ∧
        Source.functionLines artifact.source =
          ["pub fn phased(real: &Vec<TA_Real>, ma_type: TA_MAType) -> " ++
            "(Vec<TA_Integer>, Vec<TA_Real>, TA_Integer) \x7b"] := by
  have hmem : phased ∈ (extract none phasedText).signatures := by decide +kernel
  have hok : (Artifact.ofSignature phased).map (fun artifact => artifact.filename) =
      .ok "phased.rs" := by
    decide +kernel
  have hphased : phased.HasPrototype {
      name := "phased"
      parameters := [("real", "&Vec<TA_Real>"), ("ma_type", "TA_MAType")]
      returns := ["Vec<TA_Integer>", "Vec<TA_Real>", "TA_Integer"] } := by
    refine ⟨by decide +kernel, ?_, ["Vec<TA_Integer>", "Vec<TA_Real>"], rfl, ?_⟩
    · decide +kernel
    · decide +kernel
  obtain ⟨artifact, hartifact, -⟩ := Except.map_eq_ok_iff.mp hok
  obtain ⟨prototype, hlines, -, hprototype, -⟩ := Artifact.prototype_of_source hmem hartifact
  rw [hphased.unique hprototype] at hlines
  exact ⟨hmem, artifact, hartifact, hlines⟩

end IndicatorWrap
