import IndicatorWrap.Proofs.Wrapper.Departure

/-!
The verdict on a declaration. A signature has an artifact exactly if it conforms
to the convention; every other one is refused for its first fault, where the types
of inputs come before those of outputs and all types before the convention. The
type of a parameter that the wrapper ignores has no part in it.
-/

namespace IndicatorWrap

/-- The host type of a parameter in its role. -/
def Parameter.hostType (parameter : Parameter) : Except TypeError HostType :=
  HostType.ofRaw parameter.rawType (Role.ofParameter parameter.name)

def Parameter.Resolves (parameter : Parameter) : Prop :=
  ∃ hostType, parameter.hostType = .ok hostType

/-- Whether the parameter is the first whose type no table holds, and this is the
error for its type. -/
def Parameter.FirstUnknown (parameters : List Parameter) (parameter : Parameter)
    (error : TypeError) : Prop :=
  ∃ before after, parameters = before ++ parameter :: after ∧
    (∀ earlier ∈ before, earlier.Resolves) ∧ parameter.hostType = .error error

namespace Signature

/-- What the convention asks of a declaration. -/
structure Conforms (signature : Signature) : Prop where
  types : ∀ parameter ∈ signature.parameters,
    Role.ofParameter parameter.name ≠ .ignored → parameter.Resolves
  input : signature.SizedByInput
  outputs : signature.ReturnsSeries
  bookkeeping : signature.HasBookkeeping
  names : ∀ parameter ∈ signature.wrapped, cleanName parameter.name ≠ ""
  distinct :
    (["out_begin", "out_size", "ret_code"] ++
      (signature.ofRole .input).map (fun input => cleanName input.name) ++
      (signature.ofRole .output).map (fun output => "out_" ++ cleanName output.name)).Nodup

/-- The failure for a signature without an artifact: a type that no table holds,
of the first such input or else output, or else the first departure from the
convention. -/
inductive Refused (signature : Signature) : GenerationError → Prop where
  | input {input : Parameter} {error : TypeError}
      (hfirst : Parameter.FirstUnknown (signature.ofRole .input) input error) :
      Refused signature (.typeResolution { error with place := some (signature.name, input.name) })
  | output (hinputs : ∀ input ∈ signature.ofRole .input, input.Resolves)
      {output : Parameter} {error : TypeError}
      (hfirst : Parameter.FirstUnknown (signature.ofRole .output) output error) :
      Refused signature (.typeResolution { error with place := some (signature.name, output.name) })
  | convention (htypes : ∀ parameter ∈ signature.wrapped, parameter.Resolves)
      {cause : ConventionError.Cause} (hdeparts : signature.Departs cause) :
      Refused signature (.synthesis ⟨signature.name, signature.line, cause⟩)

/-- Whether another declaration differs at most in the types of the parameters
that the wrapper ignores. -/
structure DiffersInIgnored (signature other : Signature) : Prop where
  name_eq : other.name = signature.name
  line_eq : other.line = signature.line
  parameters : List.Forall₂
    (fun parameter changed => changed.name = parameter.name ∧
      (Role.ofParameter parameter.name ≠ .ignored → changed.rawType = parameter.rawType))
    signature.parameters other.parameters

end Signature

namespace Parameter

variable {function : String} {parameter : Parameter} {parameters : List Parameter}
  {error : TypeError}

theorem firstUnknown_cons_iff {first : Parameter} :
    FirstUnknown (first :: parameters) parameter error ↔
      (parameter = first ∧ first.hostType = .error error) ∨
        (first.Resolves ∧ FirstUnknown parameters parameter error) := by
  constructor
  · rintro ⟨before, after, hsplit, hbefore, herror⟩
    cases before with
    | nil =>
        cases hsplit
        exact .inl ⟨rfl, herror⟩
    | cons head before =>
        cases hsplit
        obtain ⟨hhead, hbefore⟩ := List.forall_mem_cons.mp hbefore
        exact .inr ⟨hhead, before, after, rfl, hbefore, herror⟩
  · rintro (⟨rfl, herror⟩ | ⟨hfirst, before, after, rfl, hbefore, herror⟩)
    · exact ⟨[], parameters, rfl, List.forall_mem_nil _, herror⟩
    · exact ⟨first :: before, after, rfl, List.forall_mem_cons.mpr ⟨hfirst, hbefore⟩, herror⟩

theorem resolve_of_eq_error_iff {fault : TypeError} :
    (Classified.of parameter).resolve function = .error fault ↔
      ∃ error, parameter.hostType = .error error ∧
        fault = { error with place := some (function, parameter.name) } := by
  simp only [Classified.resolve, Classified.of, hostType]
  cases HostType.ofRaw parameter.rawType (Role.ofParameter parameter.name) with
  | error error => simp [eq_comm]
  | ok hostType => simp

theorem resolves_iff (function : String) :
    parameter.Resolves ↔ ∃ argument, (Classified.of parameter).resolve function = .ok argument := by
  simp only [Resolves, hostType, Classified.resolve_eq_ok_iff, Classified.of]
  constructor
  · rintro ⟨hostType, hresolve⟩
    exact ⟨_, hostType, hresolve, rfl⟩
  · rintro ⟨argument, hostType, hresolve, -⟩
    exact ⟨hostType, hresolve⟩

/-- Resolving ends at the first parameter of unknown type. -/
theorem resolveAll_eq_error_iff {fault : TypeError} :
    resolveAll function (parameters.map Classified.of) = .error fault ↔
      ∃ parameter error, FirstUnknown parameters parameter error ∧
        fault = { error with place := some (function, parameter.name) } := by
  induction parameters with
  | nil => simp [resolveAll, FirstUnknown]
  | cons first parameters ih =>
      rw [List.map_cons, resolveAll]
      simp only [Except.bind_eq_error_iff, ih, resolve_of_eq_error_iff, firstUnknown_cons_iff]
      constructor
      · rintro (⟨error, herror, rfl⟩ | ⟨argument, hfirst, hmore | ⟨_, -, hdone⟩⟩)
        · exact ⟨first, error, .inl ⟨rfl, herror⟩, rfl⟩
        · obtain ⟨parameter, error, hlater, rfl⟩ := hmore
          have hresolves := (resolves_iff function).mpr ⟨argument, hfirst⟩
          exact ⟨parameter, error, .inr ⟨hresolves, hlater⟩, rfl⟩
        · cases hdone
      · rintro ⟨parameter, error, ⟨rfl, herror⟩ | ⟨hfirst, hlater⟩, rfl⟩
        · exact .inl ⟨error, herror, rfl⟩
        · obtain ⟨argument, hargument⟩ := (resolves_iff function).mp hfirst
          exact .inr ⟨argument, hargument, .inl ⟨parameter, error, hlater, rfl⟩⟩

theorem exists_hasArgument_iff :
    (∃ arguments, List.Forall₂ HasArgument parameters arguments) ↔
      ∀ parameter ∈ parameters, parameter.Resolves := by
  induction parameters with
  | nil => simp
  | cons parameter parameters ih =>
      have hresolves : parameter.Resolves ↔ ∃ argument, parameter.HasArgument argument := by
        simp only [resolves_iff "", Classified.resolve_of_iff]
      simp only [List.forall_mem_cons, ← ih, hresolves, List.forall₂_cons_left_iff]
      constructor
      · rintro ⟨_, argument, arguments, hfirst, hmore, rfl⟩
        exact ⟨⟨argument, hfirst⟩, arguments, hmore⟩
      · rintro ⟨⟨argument, hfirst⟩, arguments, hmore⟩
        exact ⟨_, argument, arguments, hfirst, hmore, rfl⟩

end Parameter

namespace Signature

variable {signature : Signature}

theorem conforms_iff :
    signature.Conforms ↔
      (∀ parameter ∈ signature.wrapped, parameter.Resolves) ∧ signature.SizedByInput ∧
        signature.ReturnsSeries ∧ signature.HasBookkeeping ∧
        Parameter.Named synthesizedLocals signature.wrapped := by
  have hlocals : synthesizedLocals ++ signature.wrapped.map Parameter.localName =
      ["out_begin", "out_size", "ret_code"] ++
        (signature.ofRole .input).map (fun input => cleanName input.name) ++
        (signature.ofRole .output).map (fun output => "out_" ++ cleanName output.name) := by
    rw [map_localName_wrapped, List.append_assoc]
    rfl
  have htypes : (∀ parameter ∈ signature.wrapped, parameter.Resolves) ↔
      ∀ parameter ∈ signature.parameters,
        Role.ofParameter parameter.name ≠ .ignored → parameter.Resolves := by
    simp only [mem_wrapped, and_imp]
  rw [htypes]
  constructor
  · rintro ⟨htypes, hinput, houtputs, hbookkeeping, hnames, hdistinct⟩
    exact ⟨htypes, hinput, houtputs, hbookkeeping, hnames, hlocals ▸ hdistinct⟩
  · rintro ⟨htypes, hinput, houtputs, hbookkeeping, hnames, hdistinct⟩
    exact ⟨htypes, hinput, houtputs, hbookkeeping, hnames, hlocals ▸ hdistinct⟩

theorem forall_mem_wrapped {p : Parameter → Prop} :
    (∀ parameter ∈ signature.wrapped, p parameter) ↔
      (∀ input ∈ signature.ofRole .input, p input) ∧
        ∀ output ∈ signature.ofRole .output, p output :=
  List.forall_mem_append

theorem arguments_eq_error_iff {fault : TypeError} :
    signature.arguments signature.name = .error fault ↔
      (∃ input error, Parameter.FirstUnknown (signature.ofRole .input) input error ∧
        fault = { error with place := some (signature.name, input.name) }) ∨
      ((∀ input ∈ signature.ofRole .input, input.Resolves) ∧
        ∃ output error, Parameter.FirstUnknown (signature.ofRole .output) output error ∧
          fault = { error with place := some (signature.name, output.name) }) := by
  have hinputs : (∃ inputs, resolveAll signature.name (signature.inRole .input) = .ok inputs) ↔
      ∀ input ∈ signature.ofRole .input, input.Resolves := by
    simp only [resolve_inRole_iff, Parameter.exists_hasArgument_iff]
  rw [← hinputs]
  simp only [arguments, inRole_eq_map, Except.bind_eq_error_iff,
    Parameter.resolveAll_eq_error_iff]
  constructor
  · rintro (hinput | ⟨inputs, hinputs, houtput | ⟨_, -, hdone⟩⟩)
    · exact .inl hinput
    · exact .inr ⟨⟨inputs, hinputs⟩, houtput⟩
    · cases hdone
  · rintro (hinput | ⟨⟨inputs, hinputs⟩, houtput⟩)
    · exact .inl hinput
    · exact .inr ⟨inputs, hinputs, .inl houtput⟩

end Signature

namespace Artifact

open Signature

variable {signature : Signature}

theorem exists_ofSignature_iff : (∃ artifact, ofSignature signature = .ok artifact) ↔
    signature.Conforms := by
  rw [conforms_iff, forall_mem_wrapped]
  constructor
  · rintro ⟨artifact, h⟩
    obtain ⟨inputs, outputs, ⟨hofInputs, hofOutputs, hconvention⟩, -⟩ := ofSignature_eq_ok_iff.mp h
    have hinputs := Parameter.exists_hasArgument_iff.mp ⟨inputs, hofInputs⟩
    have houtputs := Parameter.exists_hasArgument_iff.mp ⟨outputs, hofOutputs⟩
    exact ⟨⟨hinputs, houtputs⟩, (conventionFault?_eq_none_iff hofInputs hofOutputs).mp hconvention⟩
  · rintro ⟨⟨hinputs, houtputs⟩, hkeeps⟩
    obtain ⟨inputs, hofInputs⟩ := Parameter.exists_hasArgument_iff.mpr hinputs
    obtain ⟨outputs, hofOutputs⟩ := Parameter.exists_hasArgument_iff.mpr houtputs
    have hconvention := (conventionFault?_eq_none_iff hofInputs hofOutputs).mpr hkeeps
    exact ⟨_, ofSignature_eq_ok_iff.mpr
      ⟨inputs, outputs, ⟨hofInputs, hofOutputs, hconvention⟩, rfl⟩⟩

theorem ofSignature_eq_error_iff {error : GenerationError} :
    ofSignature signature = .error error ↔ signature.Refused error := by
  have hfailed := @arguments_eq_error_iff signature
  constructor
  · intro h
    unfold ofSignature at h
    split at h
    · next fault harguments =>
        cases h
        rcases hfailed.mp harguments with
          ⟨input, error, hfirst, rfl⟩ | ⟨hinputs, output, error, hfirst, rfl⟩
        · exact .input hfirst
        · exact .output hinputs hfirst
    · next inputs outputs harguments =>
        obtain ⟨hofInputs, hofOutputs⟩ := arguments_eq_ok_iff.mp harguments
        have htypes := forall_mem_wrapped.mpr
          ⟨Parameter.exists_hasArgument_iff.mp ⟨inputs, hofInputs⟩,
            Parameter.exists_hasArgument_iff.mp ⟨outputs, hofOutputs⟩⟩
        unfold synthesize checkConvention at h
        cases hfault : conventionFault? signature inputs outputs with
        | none => simp [hfault] at h
        | some cause =>
            simp only [hfault, Except.error.injEq] at h
            rw [← h]
            exact .convention htypes ((conventionFault?_eq_some_iff hofInputs hofOutputs).mp hfault)
  · intro h
    cases h with
    | input hfirst =>
        rw [ofSignature, hfailed.mpr (.inl ⟨_, _, hfirst, rfl⟩)]
    | output hinputs hfirst =>
        rw [ofSignature, hfailed.mpr (.inr ⟨hinputs, _, _, hfirst, rfl⟩)]
    | convention htypes hdeparts =>
        obtain ⟨hinputs, houtputs⟩ := forall_mem_wrapped.mp htypes
        obtain ⟨inputs, hofInputs⟩ := Parameter.exists_hasArgument_iff.mpr hinputs
        obtain ⟨outputs, hofOutputs⟩ := Parameter.exists_hasArgument_iff.mpr houtputs
        have hfault := (conventionFault?_eq_some_iff hofInputs hofOutputs).mpr hdeparts
        rw [ofSignature, arguments_eq_ok_iff.mpr ⟨hofInputs, hofOutputs⟩]
        simp only [synthesize, checkConvention, hfault]

/-- The wrapper takes of a declaration its name, its inputs and its outputs; where
there is none, the line and the missing bookkeeping matter, too. -/
theorem ofSignature_congr {other : Signature} (hname : other.name = signature.name)
    (hline : other.line = signature.line)
    (hinputs : other.ofRole .input = signature.ofRole .input)
    (houtputs : other.ofRole .output = signature.ofRole .output)
    (hmissing : missingBookkeeping other = missingBookkeeping signature) :
    (ofSignature other).map Artifact.toSourceFile =
      (ofSignature signature).map Artifact.toSourceFile := by
  have harguments : other.arguments other.name = signature.arguments signature.name := by
    simp only [arguments, inRole_eq_map, hname, hinputs, houtputs]
  have hfault : ∀ inputs outputs,
      conventionFault? other inputs outputs = conventionFault? signature inputs outputs := by
    intro inputs outputs
    simp only [conventionFault?, hmissing]
  have hsource : ∀ inputs outputs,
      Source.render other inputs outputs = Source.render signature inputs outputs := by
    intro inputs outputs
    simp only [Source.render, Source.lines, Source.header, Source.useLine, Source.imports,
      Source.functionLine, Source.body, Signature.moduleName, Signature.shortName, hname]
  have hmodule : other.moduleName = signature.moduleName := by
    simp only [Signature.moduleName, Signature.shortName, hname]
  unfold ofSignature
  rw [harguments]
  cases signature.arguments signature.name with
  | error error => rfl
  | ok arguments =>
      simp only [synthesize, checkConvention, hfault, hsource, hname, hline, hmodule]
      cases conventionFault? signature arguments.1 arguments.2 with
      | some cause => rfl
      | none => rfl

end Artifact

namespace Signature.DiffersInIgnored

variable {signature other : Signature}

theorem ofRole_eq (h : signature.DiffersInIgnored other) {role : Role} (hrole : role ≠ .ignored) :
    other.ofRole role = signature.ofRole role := by
  have hparameters := h.parameters
  unfold ofRole
  generalize signature.parameters = parameters at hparameters ⊢
  generalize other.parameters = changed at hparameters ⊢
  induction hparameters with
  | nil => rfl
  | @cons parameter changed parameters others hfirst _ ih =>
      obtain ⟨hname, htype⟩ := hfirst
      by_cases hkept : Role.ofParameter parameter.name = role
      · have hsame : changed = parameter := by
          rw [Parameter.mk.injEq]
          exact ⟨hname, htype (hkept ▸ hrole)⟩
        rw [List.filter_cons_of_pos (by simp [hname, hkept]),
          List.filter_cons_of_pos (by simp [hkept]), ih, hsame]
      · rw [List.filter_cons_of_neg (by simp [hname, hkept]),
          List.filter_cons_of_neg (by simp [hkept]), ih]

theorem map_name_eq (h : signature.DiffersInIgnored other) :
    other.parameters.map Parameter.name = signature.parameters.map Parameter.name := by
  have hparameters := h.parameters
  generalize signature.parameters = parameters at hparameters ⊢
  generalize other.parameters = changed at hparameters ⊢
  induction hparameters with
  | nil => rfl
  | cons hfirst _ ih => rw [List.map_cons, List.map_cons, hfirst.1, ih]

end Signature.DiffersInIgnored

/-- A signature has an artifact exactly if it conforms; a failure is reported
exactly if the signature is refused for it; and nothing changes with the types of
ignored parameters. -/
theorem Artifact.ofSignature_verdict (signature : Signature) :
    ((∃ artifact, ofSignature signature = .ok artifact) ↔ signature.Conforms) ∧
    (∀ error, ofSignature signature = .error error ↔ signature.Refused error) ∧
    (∀ other, signature.DiffersInIgnored other →
      (ofSignature other).map Artifact.toSourceFile =
        (ofSignature signature).map Artifact.toSourceFile) := by
  refine ⟨exists_ofSignature_iff, fun _ => ofSignature_eq_error_iff, ?_⟩
  intro other hdiffers
  have hinput : Role.input ≠ .ignored := by decide
  have houtput : Role.output ≠ .ignored := by decide
  apply ofSignature_congr hdiffers.name_eq hdiffers.line_eq (hdiffers.ofRole_eq hinput)
    (hdiffers.ofRole_eq houtput)
  simp only [missingBookkeeping, hdiffers.map_name_eq]

/-- A declaration with a parameter that the wrapper ignores. -/
def flagged (type : String) : Signature where
  name := "TA_X"
  parameters :=
    [⟨"inReal", "*const f64"⟩, ⟨"flags", type⟩, ⟨beginIndexName, "*mut c_int"⟩,
      ⟨elementCountName, "*mut c_int"⟩, ⟨"outReal", "*mut f64"⟩]
  line := 1

theorem flagged_verdict :
    (flagged "[u8; 2]").Conforms ∧ (flagged "[u8; 2]").DiffersInIgnored (flagged "bool") ∧
      (Artifact.ofSignature (flagged "bool")).map Artifact.toSourceFile =
        (Artifact.ofSignature (flagged "[u8; 2]")).map Artifact.toSourceFile := by
  obtain ⟨hconforms, -, hignored⟩ := Artifact.ofSignature_verdict (flagged "[u8; 2]")
  have hok : (Artifact.ofSignature (flagged "[u8; 2]")).map (fun artifact => artifact.filename) =
      .ok "x.rs" := by
    decide +kernel
  obtain ⟨artifact, hartifact, -⟩ := Except.map_eq_ok_iff.mp hok
  have hflags : Role.ofParameter "flags" = .ignored := by decide
  have hdiffers : (flagged "[u8; 2]").DiffersInIgnored (flagged "bool") := by
    refine ⟨rfl, rfl, .cons ⟨rfl, fun _ => rfl⟩ (.cons ⟨rfl, fun hused => absurd hflags hused⟩ ?_)⟩
    exact List.forall₂_same.mpr fun _ _ => ⟨rfl, fun _ => rfl⟩
  exact ⟨hconforms.mp ⟨artifact, hartifact⟩, hdiffers, hignored _ hdiffers⟩

end IndicatorWrap
