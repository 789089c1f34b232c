import IndicatorWrap.Proofs.Wrapper.Verdict

/-!
What a wrapper depends on. Declarations with one name, one list of inputs, one of outputs
and the same bookkeeping get the same source file or fail alike, wherever they stand and
however their parameters are mixed with each other and with those that the wrapper ignores.
-/

namespace IndicatorWrap

/-- Whether declarations have in common what a wrapper uses. The roles of parameters may
take turns in different ways, and of the bookkeeping only the names count. -/
structure Signature.SameUse (signature other : Signature) : Prop where
  name_eq : other.name = signature.name
  inputs_eq : other.ofRole .input = signature.ofRole .input
  outputs_eq : other.ofRole .output = signature.ofRole .output
  bookkeeping : ∀ name ∈ bookkeepingNames,
    name ∈ other.parameters.map Parameter.name ↔ name ∈ signature.parameters.map Parameter.name

/-- Whether the same file is made, or reports on the failures differ in their messages at
most. -/
inductive Artifact.SameOutcome :
    Except GenerationError Artifact → Except GenerationError Artifact → Prop where
  | built {artifact same : Artifact} (hfile : same.toSourceFile = artifact.toSourceFile) :
      SameOutcome (.ok artifact) (.ok same)
  | refused {error fault : GenerationError} (hfamily : fault.report.family = error.report.family)
      (hcode : fault.report.code = error.report.code)
      (hrawType : fault.report.rawType = error.report.rawType) :
      SameOutcome (.error error) (.error fault)

/-- The same failure for a declaration on another line. -/
def GenerationError.atLine (line : Int) : GenerationError → GenerationError
  | .synthesis error => .synthesis { error with line := line }
  | error => error

namespace GenerationError

variable {error : GenerationError} {line : Int}

@[simp] theorem atLine_family : (error.atLine line).report.family = error.report.family := by
  cases error <;> rfl

@[simp] theorem atLine_code : (error.atLine line).report.code = error.report.code := by
  cases error <;> rfl

@[simp] theorem atLine_rawType : (error.atLine line).report.rawType = error.report.rawType := by
  cases error <;> rfl

end GenerationError

theorem Signature.SameUse.missingBookkeeping_eq {signature other : Signature}
    (h : signature.SameUse other) : missingBookkeeping other = missingBookkeeping signature := by
  apply List.filter_congr
  intro name hname
  rw [decide_eq_decide, h.bookkeeping name hname]

namespace Artifact

variable {signature other : Signature}

/-- The line of a declaration stands in the failure to keep the convention only. -/
theorem ofSignature_atLine (line : Int) :
    (ofSignature { signature with line := line }).map toSourceFile =
      ((ofSignature signature).map toSourceFile).mapError (GenerationError.atLine line) := by
  have harguments : Signature.arguments signature.name { signature with line := line } =
      signature.arguments signature.name := rfl
  have hfault : ∀ inputs outputs, conventionFault? { signature with line := line } inputs outputs =
      conventionFault? signature inputs outputs := fun _ _ => rfl
  unfold ofSignature
  rw [harguments]
  cases signature.arguments signature.name with
  | error error => rfl
  | ok arguments =>
      simp only [synthesize, checkConvention, hfault]
      cases conventionFault? signature arguments.1 arguments.2 with
      | some cause => rfl
      | none => rfl

theorem ofSignature_of_sameUse (h : signature.SameUse other) :
    (ofSignature other).map toSourceFile =
      ((ofSignature signature).map toSourceFile).mapError (GenerationError.atLine other.line) := by
  let moved : Signature := { signature with line := other.line }
  have hinputs : other.ofRole .input = moved.ofRole .input := h.inputs_eq
  have houtputs : other.ofRole .output = moved.ofRole .output := h.outputs_eq
  have hmissing : missingBookkeeping other = missingBookkeeping moved := h.missingBookkeeping_eq
  rw [← ofSignature_atLine]
  exact ofSignature_congr h.name_eq rfl hinputs houtputs hmissing

/-- What a wrapper does not use has no part in it, nor in the kind of a failure. -/
theorem sameOutcome_of_sameUse (h : signature.SameUse other) :
    SameOutcome (ofSignature signature) (ofSignature other) := by
  have hmoved := ofSignature_of_sameUse h
  cases houtcome : ofSignature signature with
  | ok artifact =>
      rw [houtcome] at hmoved
      obtain ⟨same, hsame, hfile⟩ := Except.map_eq_ok_iff.mp hmoved
      rw [hsame]
      exact .built hfile
  | error error =>
      rw [houtcome] at hmoved
      cases hother : ofSignature other with
      | ok same => cases hother ▸ hmoved
      | error fault =>
          have hfault : fault = error.atLine other.line := Except.error.inj (hother ▸ hmoved)
          rw [hfault]
          exact .refused GenerationError.atLine_family GenerationError.atLine_code
            GenerationError.atLine_rawType

end Artifact

/-- A declaration in the order of the library. -/
def channel : Signature where
  name := "TA_X"
  parameters :=
    [⟨"startIdx", "c_int"⟩, ⟨"inHigh", "*const f64"⟩, ⟨"inLow", "*const f64"⟩,
      ⟨beginIndexName, "*mut c_int"⟩, ⟨elementCountName, "*mut c_int"⟩, ⟨"outUp", "*mut f64"⟩,
      ⟨"outDown", "*mut f64"⟩]
  line := 1

/-- The same in another order, with other types of what the wrapper ignores. -/
def mixedChannel : Signature where
  name := "TA_X"
  parameters :=
    [⟨"outUp", "*mut f64"⟩, ⟨elementCountName, "bool"⟩, ⟨"inHigh", "*const f64"⟩,
      ⟨"outDown", "*mut f64"⟩, ⟨"flags", "u64"⟩, ⟨"inLow", "*const f64"⟩,
      ⟨beginIndexName, "u8"⟩]
  line := 12

theorem channel_mixedChannel :
    channel.SameUse mixedChannel ∧ ∃ artifact same, Artifact.ofSignature channel = .ok artifact ∧
      Artifact.ofSignature mixedChannel = .ok same ∧ same.toSourceFile = artifact.toSourceFile := by
  have huse : channel.SameUse mixedChannel := by
    refine ⟨rfl, ?_, ?_, ?_⟩
    · decide +kernel
    · decide +kernel
    · decide +kernel
  have hok : (Artifact.ofSignature channel).map (fun artifact => artifact.filename) =
      .ok "x.rs" := by
    decide +kernel
  obtain ⟨artifact, hartifact, -⟩ := Except.map_eq_ok_iff.mp hok
  have houtcome := Artifact.sameOutcome_of_sameUse huse
  rw [hartifact] at houtcome
  generalize hmixed : Artifact.ofSignature mixedChannel = outcome at houtcome
  cases houtcome with
  | built hfile => exact ⟨huse, artifact, _, hartifact, rfl, hfile⟩

end IndicatorWrap
