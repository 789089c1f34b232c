import Mathlib.Data.List.Nodup
import IndicatorWrap.Proofs.Wrapper.Accepted

/-!
Departures from the convention, in terms of the declaration. A declaration keeps
the convention if its first input is a series, its outputs are series, both
bookkeeping parameters are there and every name is its own; otherwise it departs
first in one of these, looked at in this order.
-/

namespace IndicatorWrap

/-- Whether the parameters have names of their own, apart from each other and from
those in use. -/
structure Parameter.Named (used : List String) (parameters : List Parameter) : Prop where
  nonempty : ∀ parameter ∈ parameters, cleanName parameter.name ≠ ""
  distinct : (used ++ parameters.map Parameter.localName).Nodup

/-- The first parameter that has no name of its own. -/
inductive Parameter.Clash (used : List String) (parameters : List Parameter) :
    ConventionError.Cause → Prop where
  | empty {before after : List Parameter} {parameter : Parameter}
      (hsplit : parameters = before ++ parameter :: after) (hbefore : Named used before)
      (hempty : cleanName parameter.name = "") : Clash used parameters (.emptyName parameter.name)
  | duplicate {before after : List Parameter} {parameter : Parameter}
      (hsplit : parameters = before ++ parameter :: after) (hbefore : Named used before)
      (hname : cleanName parameter.name ≠ "")
      (hused : parameter.localName ∈ used ++ before.map Parameter.localName) :
      Clash used parameters (.duplicateName parameter.name parameter.localName)

namespace Signature

/-- The parameters that the wrapper has names for, inputs first. -/
def wrapped (signature : Signature) : List Parameter :=
  signature.ofRole .input ++ signature.ofRole .output

/-- Whether there is a first input, and it is a series. -/
def SizedByInput (signature : Signature) : Prop :=
  ∃ first more, signature.ofRole .input = first :: more ∧ first.IsPointer

/-- Whether there are outputs, and all are series. -/
def ReturnsSeries (signature : Signature) : Prop :=
  signature.ofRole .output ≠ [] ∧ ∀ output ∈ signature.ofRole .output, output.IsPointer

def HasBookkeeping (signature : Signature) : Prop :=
  ∀ name ∈ bookkeepingNames, name ∈ signature.parameters.map Parameter.name

/-- The first departure from the convention, once all types are known. Each
departure presupposes that there is none of those before it. -/
inductive Departs (signature : Signature) : ConventionError.Cause → Prop where
  | noInputs (hnone : signature.ofRole .input = []) : Departs signature .noInputs
  | firstInput {first : Parameter} {more : List Parameter}
      (hinputs : signature.ofRole .input = first :: more) (hscalar : ¬first.IsPointer) :
      Departs signature (.firstInputNotBuffer first.name)
  | noOutputs (hinput : signature.SizedByInput) (hnone : signature.ofRole .output = []) :
      Departs signature .noOutputs
  | scalarOutput (hinput : signature.SizedByInput) {before after : List Parameter}
      {output : Parameter} (houtputs : signature.ofRole .output = before ++ output :: after)
      (hbefore : ∀ earlier ∈ before, earlier.IsPointer) (hscalar : ¬output.IsPointer) :
      Departs signature (.scalarOutput output.name)
  | missingBookkeeping (hinput : signature.SizedByInput) (houtputs : signature.ReturnsSeries)
      {missing : List String}
      (hmissing : missing =
        bookkeepingNames.filter (· ∉ signature.parameters.map Parameter.name))
      (hsome : missing ≠ []) :
      Departs signature (.missingBookkeeping missing)
  | names (hinput : signature.SizedByInput) (houtputs : signature.ReturnsSeries)
      (hbookkeeping : signature.HasBookkeeping) {cause : ConventionError.Cause}
      (hclash : Parameter.Clash synthesizedLocals signature.wrapped cause) :
      Departs signature cause

end Signature

theorem nodup_synthesizedLocals : synthesizedLocals.Nodup := by
  decide

namespace Parameter

variable {used : List String} {parameter : Parameter} {parameters : List Parameter}
  {arguments : List Argument} {cause : ConventionError.Cause}

theorem named_nil_iff : Named used [] ↔ used.Nodup := by
  constructor
  · intro h
    simpa using h.distinct
  · intro h
    exact ⟨by simp, by simpa using h⟩

theorem named_cons_iff :
    Named used (parameter :: parameters) ↔
      cleanName parameter.name ≠ "" ∧ Named (parameter.localName :: used) parameters := by
  constructor
  · rintro ⟨hnonempty, hdistinct⟩
    obtain ⟨hfirst, hmore⟩ := List.forall_mem_cons.mp hnonempty
    refine ⟨hfirst, hmore, ?_⟩
    exact List.nodup_middle.mp hdistinct
  · rintro ⟨hfirst, hmore, hdistinct⟩
    refine ⟨List.forall_mem_cons.mpr ⟨hfirst, hmore⟩, ?_⟩
    exact List.nodup_middle.mpr hdistinct

theorem Named.not_used {name : String} (h : Named (name :: used) parameters) : name ∉ used := by
  intro hused
  have hdistinct := (List.nodup_cons.mp h.distinct).1
  exact hdistinct (List.mem_append_left _ hused)

/-- A clash is with the first parameter, or with a later one if the first has a
name. -/
theorem clash_cons_iff (hused : used.Nodup) :
    Clash used (parameter :: parameters) cause ↔
      (cleanName parameter.name = "" ∧ cause = .emptyName parameter.name) ∨
      (cleanName parameter.name ≠ "" ∧ parameter.localName ∈ used ∧
        cause = .duplicateName parameter.name parameter.localName) ∨
      (cleanName parameter.name ≠ "" ∧ parameter.localName ∉ used ∧
        Clash (parameter.localName :: used) parameters cause) := by
  have hnone : Named used [] := named_nil_iff.mpr hused
  constructor
  · intro h
    cases h with
    | @empty before after clashing hsplit hbefore hempty =>
        cases before with
        | nil =>
            cases hsplit
            exact .inl ⟨hempty, rfl⟩
        | cons first before =>
            cases hsplit
            obtain ⟨hname, hmore⟩ := named_cons_iff.mp hbefore
            exact .inr (.inr ⟨hname, hmore.not_used, .empty rfl hmore hempty⟩)
    | @duplicate before after clashing hsplit hbefore hname hmem =>
        cases before with
        | nil =>
            cases hsplit
            exact .inr (.inl ⟨hname, by simpa using hmem, rfl⟩)
        | cons first before =>
            cases hsplit
            obtain ⟨hfirst, hmore⟩ := named_cons_iff.mp hbefore
            have htaken := List.perm_middle.mem_iff.mp hmem
            exact .inr (.inr ⟨hfirst, hmore.not_used, .duplicate rfl hmore hname htaken⟩)
  · rintro (⟨hempty, rfl⟩ | ⟨hname, hmem, rfl⟩ | ⟨hname, -, hlater⟩)
    · exact .empty (List.nil_append _).symm hnone hempty
    · exact .duplicate (List.nil_append _).symm hnone hname (by simpa using hmem)
    · cases hlater with
      | @empty before after clashing hsplit hbefore hempty =>
          rw [hsplit, ← List.cons_append]
          exact .empty rfl (named_cons_iff.mpr ⟨hname, hbefore⟩) hempty
      | @duplicate before after clashing hsplit hbefore hlast hmem =>
          rw [hsplit, ← List.cons_append]
          exact .duplicate rfl (named_cons_iff.mpr ⟨hname, hbefore⟩) hlast
            (List.perm_middle.mem_iff.mpr hmem)

/-- The first argument that is no series stands for the first parameter that is no
pointer. -/
theorem find?_scalar (h : List.Forall₂ HasArgument parameters arguments) :
    (arguments.find? (!·.hostType.isBuffer)).map (·.parameter.name) =
      (parameters.find? fun parameter => ¬parameter.IsPointer).map Parameter.name := by
  induction h with
  | nil => rfl
  | @cons parameter argument parameters arguments hfirst _ ih =>
      by_cases hpointer : parameter.IsPointer
      · have hbuffer := hfirst.isBuffer_iff.mpr hpointer
        rw [List.find?_cons_of_neg (by simp [hbuffer]), List.find?_cons_of_neg (by simp [hpointer])]
        exact ih
      · have hbuffer := mt hfirst.isBuffer_iff.mp hpointer
        rw [List.find?_cons_of_pos (by simp [hbuffer]), List.find?_cons_of_pos (by simp [hpointer]),
          Option.map_some, Option.map_some, hfirst.parameter_eq]

theorem nameFault?_eq_none_iff (h : List.Forall₂ HasArgument parameters arguments)
    (hused : used.Nodup) : nameFault? used arguments = none ↔ Named used parameters := by
  induction h generalizing used with
  | nil => simp [nameFault?, named_nil_iff, hused]
  | @cons parameter argument parameters arguments hfirst _ ih =>
      rw [nameFault?, hfirst.name_eq, hfirst.localName_eq, named_cons_iff]
      by_cases hempty : cleanName parameter.name = ""
      · simp [hempty]
      rw [if_neg hempty, and_iff_right hempty]
      by_cases hmem : parameter.localName ∈ used
      · rw [if_pos hmem]
        constructor
        · intro hnone
          cases hnone
        · intro hnamed
          exact absurd hmem hnamed.not_used
      · rw [if_neg hmem]
        exact ih (List.nodup_cons.mpr ⟨hmem, hused⟩)

theorem nameFault?_eq_some_iff (h : List.Forall₂ HasArgument parameters arguments)
    (hused : used.Nodup) :
    nameFault? used arguments = some cause ↔ Clash used parameters cause := by
  induction h generalizing used with
  | nil =>
      constructor
      · intro hsome
        cases hsome
      · rintro (⟨hsplit, -, -⟩ | ⟨hsplit, -, -, -⟩)
        · simp at hsplit
        · simp at hsplit
  | @cons parameter argument parameters arguments hfirst _ ih =>
      rw [nameFault?, hfirst.name_eq, hfirst.localName_eq, hfirst.parameter_eq,
        clash_cons_iff hused]
      by_cases hempty : cleanName parameter.name = ""
      · simp [hempty, eq_comm]
      rw [if_neg hempty]
      by_cases hmem : parameter.localName ∈ used
      · simp [hempty, hmem, eq_comm]
      · rw [if_neg hmem, ih (List.nodup_cons.mpr ⟨hmem, hused⟩)]
        simp [hempty, hmem]

end Parameter

namespace Signature

variable {signature : Signature} {inputs outputs : List Argument} {cause : ConventionError.Cause}

theorem mem_wrapped {parameter : Parameter} :
    parameter ∈ signature.wrapped ↔
      parameter ∈ signature.parameters ∧ Role.ofParameter parameter.name ≠ .ignored := by
  rw [wrapped, List.mem_append, mem_ofRole, mem_ofRole]
  cases Role.ofParameter parameter.name <;> simp

theorem map_localName_wrapped :
    signature.wrapped.map Parameter.localName =
      (signature.ofRole .input).map (fun input => cleanName input.name) ++
        (signature.ofRole .output).map fun output => "out_" ++ cleanName output.name := by
  have hinput : ∀ input ∈ signature.ofRole .input, input.localName = cleanName input.name :=
    fun input hinput => Parameter.localName_of_input (mem_ofRole.mp hinput).2
  have houtput : ∀ output ∈ signature.ofRole .output,
      output.localName = "out_" ++ cleanName output.name :=
    fun output houtput => Parameter.localName_of_output (mem_ofRole.mp houtput).2
  rw [wrapped, List.map_append, List.map_congr_left hinput, List.map_congr_left houtput]

theorem missingBookkeeping_eq_nil_iff :
    missingBookkeeping signature = [] ↔ signature.HasBookkeeping := by
  simp [missingBookkeeping, HasBookkeeping]

/-- The departures behind a first input that is a series. -/
theorem conventionFault?_of_sized
    (hofInputs : List.Forall₂ Parameter.HasArgument (signature.ofRole .input) inputs)
    (hofOutputs : List.Forall₂ Parameter.HasArgument (signature.ofRole .output) outputs)
    (hinput : signature.SizedByInput) :
    conventionFault? signature inputs outputs =
      if signature.ofRole .output = [] then some .noOutputs
      else
        match (signature.ofRole .output).find? fun output => ¬output.IsPointer with
        | some output => some (.scalarOutput output.name)
        | none =>
          match missingBookkeeping signature with
          | [] => nameFault? synthesizedLocals (inputs ++ outputs)
          | missing => some (.missingBookkeeping missing) := by
  have hempty : outputs.isEmpty ↔ signature.ofRole .output = [] := by
    rw [List.isEmpty_iff, ← List.length_eq_zero_iff, ← List.length_eq_zero_iff,
      hofOutputs.length_eq]
  have hscalar := Parameter.find?_scalar hofOutputs
  obtain ⟨first, more, hfirst, hpointer⟩ := hinput
  rw [hfirst] at hofInputs
  obtain ⟨argument, arguments, hargument, -, rfl⟩ := List.forall₂_cons_left_iff.mp hofInputs
  have hbuffer := hargument.isBuffer_iff.mpr hpointer
  simp only [conventionFault?, hbuffer, Bool.not_true, Bool.false_eq_true, if_false, hempty]
  split
  · rfl
  · cases hfound : outputs.find? (!·.hostType.isBuffer) with
    | none =>
        rw [hfound, Option.map_none, eq_comm, Option.map_eq_none_iff] at hscalar
        rewrite [hscalar]
        rfl
    | some output =>
        rw [hfound, Option.map_some, eq_comm, Option.map_eq_some_iff] at hscalar
        obtain ⟨parameter, hparameter, hname⟩ := hscalar
        rw [hparameter]
        simp only [hname]

/-- A declaration that departs in its series or its bookkeeping departs somewhere
first. -/
theorem exists_departs (h : signature.SizedByInput → signature.ReturnsSeries →
    ¬signature.HasBookkeeping) : ∃ cause, signature.Departs cause := by
  by_cases hinput : signature.SizedByInput
  · by_cases hnone : signature.ofRole .output = []
    · exact ⟨_, .noOutputs hinput hnone⟩
    cases hfound : (signature.ofRole .output).find? fun output => ¬output.IsPointer with
    | some output =>
        obtain ⟨hscalar, before, after, houtputs, hbefore⟩ :=
          List.find?_eq_some_iff_append.mp hfound
        exact ⟨_, .scalarOutput hinput houtputs (by simpa using hbefore) (by simpa using hscalar)⟩
    | none =>
        have houtputs : signature.ReturnsSeries := by
          refine ⟨hnone, ?_⟩
          simpa [List.find?_eq_none] using hfound
        have hsome := mt missingBookkeeping_eq_nil_iff.mp (h hinput houtputs)
        exact ⟨_, .missingBookkeeping hinput houtputs rfl hsome⟩
  · cases hinputs : signature.ofRole .input with
    | nil => exact ⟨_, .noInputs hinputs⟩
    | cons first more =>
        have hscalar : ¬first.IsPointer := fun hpointer => hinput ⟨first, more, hinputs, hpointer⟩
        exact ⟨_, .firstInput hinputs hscalar⟩

section

variable (hofInputs : List.Forall₂ Parameter.HasArgument (signature.ofRole .input) inputs)
  (hofOutputs : List.Forall₂ Parameter.HasArgument (signature.ofRole .output) outputs)

include hofInputs hofOutputs

theorem conventionFault?_of_returns (hinput : signature.SizedByInput)
    (houtputs : signature.ReturnsSeries) :
    conventionFault? signature inputs outputs =
      match missingBookkeeping signature with
      | [] => nameFault? synthesizedLocals (inputs ++ outputs)
      | missing => some (.missingBookkeeping missing) := by
  have hseries : ((signature.ofRole .output).find? fun output => ¬output.IsPointer) = none := by
    simpa [List.find?_eq_none] using houtputs.2
  rw [conventionFault?_of_sized hofInputs hofOutputs hinput, if_neg houtputs.1, hseries]

theorem conventionFault?_of_bookkeeping (hinput : signature.SizedByInput)
    (houtputs : signature.ReturnsSeries) (hbookkeeping : signature.HasBookkeeping) :
    conventionFault? signature inputs outputs =
      nameFault? synthesizedLocals (inputs ++ outputs) := by
  rw [conventionFault?_of_returns hofInputs hofOutputs hinput houtputs,
    missingBookkeeping_eq_nil_iff.mpr hbookkeeping]

theorem forall₂_wrapped :
    List.Forall₂ Parameter.HasArgument signature.wrapped (inputs ++ outputs) :=
  List.rel_append hofInputs hofOutputs

theorem conventionFault?_of_departs (h : signature.Departs cause) :
    conventionFault? signature inputs outputs = some cause := by
  cases h with
  | noInputs hnone =>
      rw [hnone] at hofInputs
      rw [List.forall₂_nil_left_iff.mp hofInputs]
      rfl
  | firstInput hfirst hscalar =>
      rw [hfirst] at hofInputs
      obtain ⟨argument, arguments, hargument, -, rfl⟩ := List.forall₂_cons_left_iff.mp hofInputs
      have hbuffer := mt hargument.isBuffer_iff.mp hscalar
      simp [conventionFault?, hbuffer, hargument.parameter_eq]
  | noOutputs hinput hnone =>
      rw [conventionFault?_of_sized hofInputs hofOutputs hinput, if_pos hnone]
  | @scalarOutput hinput before after output houtputs hbefore hscalar =>
      have hfound : ((signature.ofRole .output).find? fun output => ¬output.IsPointer) =
          some output := by
        rw [List.find?_eq_some_iff_append]
        exact ⟨by simpa using hscalar, before, after, houtputs, by simpa using hbefore⟩
      have hsome : signature.ofRole .output ≠ [] := by simp [houtputs]
      rw [conventionFault?_of_sized hofInputs hofOutputs hinput, if_neg hsome, hfound]
  | missingBookkeeping hinput houtputs hmissing hsome =>
      rw [conventionFault?_of_returns hofInputs hofOutputs hinput houtputs, missingBookkeeping,
        ← hmissing]
      split
      · exact absurd rfl hsome
      · rfl
  | names hinput houtputs hbookkeeping hclash =>
      rw [conventionFault?_of_bookkeeping hofInputs hofOutputs hinput houtputs hbookkeeping]
      exact (Parameter.nameFault?_eq_some_iff (forall₂_wrapped hofInputs hofOutputs)
        nodup_synthesizedLocals).mpr hclash

theorem conventionFault?_eq_some_iff :
    conventionFault? signature inputs outputs = some cause ↔ signature.Departs cause := by
  refine ⟨?_, conventionFault?_of_departs hofInputs hofOutputs⟩
  intro h
  by_cases hall : signature.SizedByInput ∧ signature.ReturnsSeries ∧ signature.HasBookkeeping
  · obtain ⟨hinput, houtputs, hbookkeeping⟩ := hall
    rw [conventionFault?_of_bookkeeping hofInputs hofOutputs hinput houtputs hbookkeeping] at h
    exact .names hinput houtputs hbookkeeping
      ((Parameter.nameFault?_eq_some_iff (forall₂_wrapped hofInputs hofOutputs)
        nodup_synthesizedLocals).mp h)
  · obtain ⟨first, hfirst⟩ := exists_departs fun hinput houtputs hbookkeeping =>
      hall ⟨hinput, houtputs, hbookkeeping⟩
    rw [conventionFault?_of_departs hofInputs hofOutputs hfirst] at h
    cases h
    exact hfirst

theorem conventionFault?_eq_none_iff :
    conventionFault? signature inputs outputs = none ↔
      signature.SizedByInput ∧ signature.ReturnsSeries ∧ signature.HasBookkeeping ∧
        Parameter.Named synthesizedLocals signature.wrapped := by
  have hnames : nameFault? synthesizedLocals (inputs ++ outputs) = none ↔
      Parameter.Named synthesizedLocals signature.wrapped :=
    Parameter.nameFault?_eq_none_iff (forall₂_wrapped hofInputs hofOutputs) nodup_synthesizedLocals
  constructor
  · intro h
    have hall : signature.SizedByInput ∧ signature.ReturnsSeries ∧ signature.HasBookkeeping := by
      by_contra hsome
      obtain ⟨cause, hdeparts⟩ := exists_departs fun hinput houtputs hbookkeeping =>
        hsome ⟨hinput, houtputs, hbookkeeping⟩
      rw [conventionFault?_of_departs hofInputs hofOutputs hdeparts] at h
      cases h
    obtain ⟨hinput, houtputs, hbookkeeping⟩ := hall
    rw [conventionFault?_of_bookkeeping hofInputs hofOutputs hinput houtputs hbookkeeping] at h
    exact ⟨hinput, houtputs, hbookkeeping, hnames.mp h⟩
  · rintro ⟨hinput, houtputs, hbookkeeping, hnamed⟩
    rw [conventionFault?_of_bookkeeping hofInputs hofOutputs hinput houtputs hbookkeeping]
    exact hnames.mpr hnamed

end

end Signature

end IndicatorWrap
