import Mathlib.Data.List.Forall2
import IndicatorWrap.Wrapper.Artifact

/-!
What it means that a signature has an artifact: the types of its inputs and
outputs resolve, one argument for each parameter, and the convention finds no
fault in them. The arguments then say of a parameter what its declaration says.
-/

namespace IndicatorWrap

theorem Except.bind_eq_ok_iff {ε α β : Type} {first : Except ε α} {next : α → Except ε β}
    {result : β} :
    (first >>= next) = .ok result ↔ ∃ value, first = .ok value ∧ next value = .ok result := by
  cases first with
  | error error => simp [bind, Except.bind]
  | ok value => simp [bind, Except.bind]

theorem Except.bind_eq_error_iff {ε α β : Type} {first : Except ε α} {next : α → Except ε β}
    {error : ε} :
    (first >>= next) = .error error ↔
      first = .error error ∨ ∃ value, first = .ok value ∧ next value = .error error := by
  cases first with
  | error fault => simp [bind, Except.bind]
  | ok value => simp [bind, Except.bind]

theorem Except.map_eq_ok_iff {ε α β : Type} {f : α → β} {first : Except ε α} {result : β} :
    first.map f = .ok result ↔ ∃ value, first = .ok value ∧ f value = result := by
  cases first with
  | error error => simp [Except.map]
  | ok value => simp [Except.map]

theorem exists_mem_of_forall₂ {α β : Type} {r : α → β → Prop} {firsts : List α} {seconds : List β}
    (h : List.Forall₂ r firsts seconds) : ∀ first ∈ firsts, ∃ second ∈ seconds, r first second := by
  induction h with
  | nil => simp
  | @cons first second firsts seconds hfirst _ ih =>
      refine List.forall_mem_cons.mpr ⟨⟨second, List.mem_cons_self, hfirst⟩, ?_⟩
      intro later hlater
      obtain ⟨found, hfound, hr⟩ := ih later hlater
      exact ⟨found, List.mem_cons_of_mem second hfound, hr⟩

theorem Classified.resolve_eq_ok_iff {function : String} {item : Classified} {argument : Argument} :
    item.resolve function = .ok argument ↔
      ∃ hostType, HostType.ofRaw item.parameter.rawType item.role = .ok hostType ∧
        argument = ⟨item.name, item.role, hostType, item.parameter⟩ := by
  unfold resolve
  cases HostType.ofRaw item.parameter.rawType item.role with
  | error error => simp
  | ok hostType => simp [eq_comm]

theorem resolveAll_eq_ok_iff {function : String} {items : List Classified}
    {arguments : List Argument} :
    resolveAll function items = .ok arguments ↔
      List.Forall₂ (fun item argument => item.resolve function = .ok argument) items
        arguments := by
  induction items generalizing arguments with
  | nil =>
      rw [List.forall₂_nil_left_iff]
      simp [resolveAll, eq_comm]
  | cons item items ih =>
      rw [resolveAll]
      simp only [Except.bind_eq_ok_iff, List.forall₂_cons_left_iff]
      constructor
      · rintro ⟨argument, hitem, rest, hrest, heq⟩
        cases heq
        exact ⟨argument, rest, hitem, ih.mp hrest, rfl⟩
      · rintro ⟨argument, rest, hitem, hrest, rfl⟩
        exact ⟨argument, hitem, rest, ih.mpr hrest, rfl⟩

/-- The parameters of one role, in the order of the declaration. -/
def Signature.ofRole (signature : Signature) (role : Role) : List Parameter :=
  signature.parameters.filter fun parameter => Role.ofParameter parameter.name == role

theorem Signature.mem_ofRole {signature : Signature} {parameter : Parameter} {role : Role} :
    parameter ∈ signature.ofRole role ↔
      parameter ∈ signature.parameters ∧ Role.ofParameter parameter.name = role := by
  simp [ofRole]

/-- What the argument for a parameter has to be. -/
structure Parameter.HasArgument (parameter : Parameter) (argument : Argument) : Prop where
  parameter_eq : argument.parameter = parameter
  role_eq : argument.role = Role.ofParameter parameter.name
  name_eq : argument.name = cleanName parameter.name
  hostType_eq : HostType.ofRaw parameter.rawType argument.role = .ok argument.hostType

theorem Classified.resolve_of_iff {function : String} {parameter : Parameter}
    {argument : Argument} :
    (Classified.of parameter).resolve function = .ok argument ↔
      parameter.HasArgument argument := by
  simp only [resolve_eq_ok_iff, Classified.of]
  constructor
  · rintro ⟨hostType, hresolve, rfl⟩
    refine ⟨rfl, rfl, ?_, hresolve⟩
    dsimp only
  · rintro ⟨hparameter, hrole, hname, hresolve⟩
    refine ⟨argument.hostType, hrole ▸ hresolve, ?_⟩
    rw [← hrole, ← hname, ← hparameter]

theorem Signature.inRole_eq_map (signature : Signature) (role : Role) :
    signature.inRole role = (signature.ofRole role).map Classified.of := by
  rw [inRole, List.filter_map, ofRole]
  rfl

theorem Signature.resolve_inRole_iff {signature : Signature} {role : Role} {function : String}
    {arguments : List Argument} :
    resolveAll function (signature.inRole role) = .ok arguments ↔
      List.Forall₂ Parameter.HasArgument (signature.ofRole role) arguments := by
  rw [resolveAll_eq_ok_iff, signature.inRole_eq_map, List.forall₂_map_left_iff]
  constructor
  · exact List.Forall₂.imp fun _ _ => Classified.resolve_of_iff.mp
  · exact List.Forall₂.imp fun _ _ => Classified.resolve_of_iff.mpr

/-- Whether a signature has these inputs and outputs and keeps the convention. -/
structure Signature.Accepts (signature : Signature) (inputs outputs : List Argument) : Prop where
  of_inputs : List.Forall₂ Parameter.HasArgument (signature.ofRole .input) inputs
  of_outputs : List.Forall₂ Parameter.HasArgument (signature.ofRole .output) outputs
  convention : conventionFault? signature inputs outputs = none

theorem Signature.arguments_eq_ok_iff {signature : Signature} {function : String}
    {inputs outputs : List Argument} :
    signature.arguments function = .ok (inputs, outputs) ↔
      List.Forall₂ Parameter.HasArgument (signature.ofRole .input) inputs ∧
        List.Forall₂ Parameter.HasArgument (signature.ofRole .output) outputs := by
  unfold arguments
  simp only [Except.bind_eq_ok_iff, resolve_inRole_iff]
  constructor
  · rintro ⟨inputs, hinputs, outputs, houtputs, heq⟩
    cases heq
    exact ⟨hinputs, houtputs⟩
  · rintro ⟨hinputs, houtputs⟩
    exact ⟨inputs, hinputs, outputs, houtputs, rfl⟩

theorem Artifact.ofSignature_eq_ok_iff {signature : Signature} {artifact : Artifact} :
    ofSignature signature = .ok artifact ↔
      ∃ inputs outputs, signature.Accepts inputs outputs ∧
        artifact =
          { moduleName := signature.moduleName
            filename := signature.moduleName ++ moduleExtension
            source := Source.render signature inputs outputs
            signature := signature } := by
  unfold ofSignature
  constructor
  · intro h
    split at h
    · cases h
    · next inputs outputs harguments =>
        obtain ⟨hinputs, houtputs⟩ := Signature.arguments_eq_ok_iff.mp harguments
        unfold synthesize checkConvention at h
        cases hfault : conventionFault? signature inputs outputs with
        | some cause => simp [hfault] at h
        | none =>
            simp only [hfault, Except.ok.injEq] at h
            exact ⟨inputs, outputs, ⟨hinputs, houtputs, hfault⟩, h.symm⟩
  · rintro ⟨inputs, outputs, ⟨hinputs, houtputs, hfault⟩, rfl⟩
    rw [Signature.arguments_eq_ok_iff.mpr ⟨hinputs, houtputs⟩]
    simp only [synthesize, checkConvention, hfault]

/-- There is a first input, and it is a series. -/
theorem Signature.Accepts.first_input {signature : Signature} {inputs outputs : List Argument}
    (h : signature.Accepts inputs outputs) :
    ∃ first more, inputs = first :: more ∧ first.hostType.isBuffer := by
  have hconvention := h.convention
  unfold conventionFault? at hconvention
  split at hconvention
  · cases hconvention
  · next first more =>
      split at hconvention
      · cases hconvention
      · next hbuffer => exact ⟨first, more, rfl, by simpa using hbuffer⟩

theorem HostType.isBuffer_iff {rawType : String} {role : Role} {hostType : HostType}
    (h : ofRaw rawType role = .ok hostType) :
    hostType.isBuffer ↔ rawType.toList.head? = some '*' := by
  unfold ofRaw at h
  split at h
  · next hstar =>
      split at h
      · cases h
      · cases h
        simp [hstar]
  · next hstar =>
      split at h
      · cases h
      · cases h
        simp [hstar]

def Parameter.IsPointer (parameter : Parameter) : Prop :=
  parameter.rawType.toList.head? = some '*'

instance (parameter : Parameter) : Decidable parameter.IsPointer :=
  inferInstanceAs (Decidable (_ = _))

/-- The name that a parameter gets inside the wrapper. -/
def Parameter.localName (parameter : Parameter) : String :=
  if Role.ofParameter parameter.name = .output then "out_" ++ cleanName parameter.name
  else cleanName parameter.name

namespace Parameter

theorem localName_of_input {input : Parameter} (h : Role.ofParameter input.name = .input) :
    input.localName = cleanName input.name := by
  simp [localName, h]

theorem localName_of_output {output : Parameter} (h : Role.ofParameter output.name = .output) :
    output.localName = "out_" ++ cleanName output.name := by
  rw [localName, if_pos h]

theorem HasArgument.localName_eq {parameter : Parameter} {argument : Argument}
    (h : parameter.HasArgument argument) :
    argument.localName = parameter.localName := by
  rw [Argument.localName, localName, h.role_eq, h.name_eq]

theorem HasArgument.isBuffer_iff {parameter : Parameter} {argument : Argument}
    (h : parameter.HasArgument argument) :
    argument.hostType.isBuffer ↔ parameter.IsPointer :=
  HostType.isBuffer_iff h.hostType_eq

end Parameter

/-- The types that stand in wrappers. -/
def HostType.texts : List String :=
  ["i32", "TA_MAType", "TA_Real", "Vec<TA_Integer>", "Vec<TA_Real>", "&Vec<TA_Integer>",
    "&Vec<TA_Real>"]

theorem HostType.mem_of_lookup {table : List (String × String)} {key value : String}
    (h : table.lookup key = some value) : value ∈ table.map Prod.snd := by
  obtain ⟨front, back, rfl, -⟩ := List.lookup_eq_some_iff.mp h
  simp

theorem HostType.text_mem {rawType : String} {role : Role} {hostType : HostType}
    (h : ofRaw rawType role = .ok hostType) : hostType.text ∈ texts := by
  unfold ofRaw at h
  split at h
  · split at h
    · cases h
    · next element helement =>
        cases h
        obtain ⟨tag, -, htag⟩ := Option.bind_eq_some_iff.mp helement
        have hborrow : ∀ element ∈ elementTypes.map Prod.snd, ∀ borrow ∈ ["&", ""],
            borrow ++ "Vec<" ++ element ++ ">" ∈ texts := by
          decide
        exact hborrow element (mem_of_lookup htag) _ (by split <;> simp)
  · split at h
    · cases h
    · next host hhost =>
        cases h
        have hscalar : ∀ host ∈ scalarTypes.map Prod.snd, host ∈ texts := by
          decide
        exact hscalar host (mem_of_lookup hhost)

end IndicatorWrap
