import IndicatorWrap.Proofs.Wrapper.ModuleName
import IndicatorWrap.Proofs.Wrapper.Replacements

/-!
Who wins among declarations for one module: the last, at the place of the first. A build keeps
for every module the artifact of the last signature so far, and what it says to be replaced is
the one before, not the first. A signature that is refused ends the build with what was said
up to there.
-/

namespace IndicatorWrap

/-- The last of the signatures for a module. -/
def Signature.lastFor (signatures : List Signature) (moduleName : String) : Option Signature :=
  (signatures.filter (·.moduleName = moduleName)).getLast?

theorem Signature.mem_of_lastFor {signatures : List Signature} {moduleName : String}
    {signature : Signature} (h : lastFor signatures moduleName = some signature) :
    signature ∈ signatures ∧ signature.moduleName = moduleName := by
  simpa using List.mem_filter.mp (List.mem_of_getLast? h)

/-- The replacement of the nearest signature for the same module, if one is in front. -/
def Replacement.ofNearest? (front : List Signature) (later : Signature) : Option Replacement :=
  (Signature.lastFor front later.moduleName).map fun earlier =>
    ⟨later, earlier, later.moduleName ++ moduleExtension⟩

/-- The replacements that signatures come to, in order. -/
def Replacement.among (signatures : List Signature) : List Replacement :=
  signatures.zipIdx.filterMap fun placed => ofNearest? (signatures.take placed.2) placed.1

theorem Signature.lastFor_concat (front : List Signature) (signature : Signature)
    (moduleName : String) :
    lastFor (front ++ [signature]) moduleName =
      if signature.moduleName = moduleName then some signature else lastFor front moduleName := by
  rw [lastFor, List.filter_append]
  by_cases hmodule : signature.moduleName = moduleName
  · rw [if_pos hmodule, List.filter_cons_of_pos (by simpa using hmodule), List.filter_nil,
      List.getLast?_concat]
  · rw [if_neg hmodule, List.filter_cons_of_neg (by simpa using hmodule), List.filter_nil,
      List.append_nil, lastFor]

/-- What signatures come to does not depend on those behind them. -/
theorem Replacement.among_concat (front : List Signature) (signature : Signature) :
    among (front ++ [signature]) = among front ++ (ofNearest? front signature).toList := by
  have hfront : front.zipIdx.filterMap (fun placed =>
      ofNearest? ((front ++ [signature]).take placed.2) placed.1) = among front := by
    apply List.filterMap_congr
    intro placed hplaced
    have hplace : placed.2 < front.length := List.snd_lt_of_mem_zipIdx hplaced
    rw [List.take_append_of_le_length hplace.le]
  rw [among, List.zipIdx_append, List.filterMap_append, hfront, Nat.zero_add,
    List.zipIdx_singleton, List.filterMap_cons, List.filterMap_nil, List.take_left]
  cases ofNearest? front signature with
  | none => rfl
  | some replacement => rfl

/-- An artifact is found for its module once it is put, and the others as before. -/
theorem Artifact.find?_put (artifact : Artifact) (built : List Artifact) (moduleName : String) :
    (artifact.put built).find? (·.moduleName == moduleName) =
      if artifact.moduleName = moduleName then some artifact
      else built.find? (·.moduleName == moduleName) := by
  induction built with
  | nil => simp [put, List.find?_singleton]
  | cons other rest ih =>
      rw [put]
      by_cases hsame : other.moduleName = artifact.moduleName
      · rw [if_pos hsame]
        by_cases hmodule : artifact.moduleName = moduleName
        · rw [if_pos hmodule, List.find?_cons_of_pos (by simpa using hmodule)]
        · rw [if_neg hmodule, List.find?_cons_of_neg (by simpa using hmodule),
            List.find?_cons_of_neg (by simpa [hsame] using hmodule)]
      · rw [if_neg hsame]
        by_cases hother : other.moduleName = moduleName
        · have hne : artifact.moduleName ≠ moduleName := fun hmodule =>
            hsame (hother.trans hmodule.symm)
          rw [if_neg hne, List.find?_cons_of_pos (by simpa using hother),
            List.find?_cons_of_pos (by simpa using hother)]
        · rw [List.find?_cons_of_neg (by simpa using hother), ih,
            List.find?_cons_of_neg (by simpa using hother)]

theorem Artifact.find?_of_mem {artifact : Artifact} {built : List Artifact}
    (hnodup : (built.map (·.moduleName)).Nodup) (h : artifact ∈ built) :
    built.find? (·.moduleName == artifact.moduleName) = some artifact := by
  induction built with
  | nil => cases h
  | cons other rest ih =>
      obtain ⟨hfresh, hnodup⟩ := List.nodup_cons.mp hnodup
      rcases List.mem_cons.mp h with rfl | hrest
      · rw [List.find?_cons_of_pos (by simp)]
      · have hne : other.moduleName ≠ artifact.moduleName := fun hsame =>
          hfresh (List.mem_map.mpr ⟨artifact, hrest, hsame.symm⟩)
        rw [List.find?_cons_of_neg (by simpa using hne), ih hnodup hrest]

theorem Except.toOption_eq_some_iff {ε α : Type} {result : Except ε α} {value : α} :
    result.toOption = some value ↔ result = .ok value := by
  cases result with
  | error error => simp [Except.toOption]
  | ok other => simp [Except.toOption]

namespace Build

variable {built artifacts : List Artifact} {signatures front : List Signature}
  {signature : Signature} {artifact : Artifact}

/-- A build goes on from the artifacts it has; after a failure it does not. -/
theorem extend_append (built : List Artifact) (front rest : List Signature) :
    extend built (front ++ rest) =
      match extend built front with
      | ⟨replacements, .error error⟩ => ⟨replacements, .error error⟩
      | ⟨replacements, .ok middle⟩ =>
        ⟨replacements ++ (extend middle rest).replacements, (extend middle rest).outcome⟩ := by
  induction front generalizing built with
  | nil => rfl
  | cons first front ih =>
      rw [List.cons_append, extend, extend]
      cases Artifact.ofSignature first with
      | error error => rfl
      | ok artifact =>
          dsimp only
          rw [ih]
          rcases extend (artifact.put built) front with ⟨replacements, error | middle⟩
          · split
            · rfl
            · rfl
          · split
            · rfl
            · rfl

/-- A signature that is refused ends the build. -/
theorem ofSignatures_of_refused {error : GenerationError} {replacements : List Replacement}
    (h : ofSignatures front = ⟨replacements, .ok built⟩)
    (hrefused : Artifact.ofSignature signature = .error error) (rest : List Signature) :
    ofSignatures (front ++ signature :: rest) = ⟨replacements, .error error⟩ := by
  rw [ofSignatures, extend_append, ← ofSignatures, h]
  simp only [extend, hrefused, List.append_nil]

/-- Whether artifacts are those of the last signatures, module by module. -/
def Holds (signatures : List Signature) (built : List Artifact) : Prop :=
  ∀ moduleName, built.find? (·.moduleName == moduleName) =
    (Signature.lastFor signatures moduleName).bind fun last =>
      (Artifact.ofSignature last).toOption

theorem Holds.put (h : Holds front built) (hof : Artifact.ofSignature signature = .ok artifact) :
    Holds (front ++ [signature]) (artifact.put built) := by
  intro moduleName
  obtain ⟨-, hmodule, -⟩ := Artifact.of_ofSignature hof
  rw [Artifact.find?_put, Signature.lastFor_concat, hmodule, h moduleName]
  split
  · rw [Option.bind_some, hof]
    rfl
  · rfl

/-- What is replaced is the last signature so far for the module. -/
theorem Holds.ofNearest?_eq (h : Holds front built)
    (haccepted : ∀ earlier ∈ front, ∃ artifact, Artifact.ofSignature earlier = .ok artifact)
    (hof : Artifact.ofSignature signature = .ok artifact) :
    Replacement.ofNearest? front signature =
      (built.find? (·.moduleName == artifact.moduleName)).map fun earlier =>
        ⟨signature, earlier.signature, artifact.filename⟩ := by
  obtain ⟨-, hmodule, hfilename⟩ := Artifact.of_ofSignature hof
  rw [Replacement.ofNearest?, h, hmodule, hfilename]
  cases hlast : Signature.lastFor front signature.moduleName with
  | none => rfl
  | some last =>
      obtain ⟨earlier, hearlier⟩ := haccepted last (Signature.mem_of_lastFor hlast).1
      rw [Option.bind_some, hearlier]
      obtain ⟨hsignature, -, -⟩ := Artifact.of_ofSignature hearlier
      simp [Except.toOption, hsignature]

/-- One signature more: its artifact is put, and the nearest one before it is replaced. -/
theorem ofSignatures_concat {replacements : List Replacement}
    (h : ofSignatures front = ⟨replacements, .ok built⟩)
    (hof : Artifact.ofSignature signature = .ok artifact) :
    ofSignatures (front ++ [signature]) =
      ⟨replacements ++ ((built.find? (·.moduleName == artifact.moduleName)).map fun earlier =>
        ⟨signature, earlier.signature, artifact.filename⟩).toList, .ok (artifact.put built)⟩ := by
  rw [ofSignatures, extend_append, ← ofSignatures, h]
  simp only [extend, hof]
  cases built.find? (·.moduleName == artifact.moduleName) with
  | none => rfl
  | some earlier => rfl

/-- Along a build of accepted signatures, every module has the artifact of the last one so
far, and what was said to be replaced is each time the one before. -/
theorem exists_holds
    (haccepted : ∀ signature ∈ signatures,
      ∃ artifact, Artifact.ofSignature signature = .ok artifact) :
    ∃ artifacts, ofSignatures signatures = ⟨Replacement.among signatures, .ok artifacts⟩ ∧
      Holds signatures artifacts := by
  induction signatures using List.reverseRecOn with
  | nil => exact ⟨[], rfl, fun moduleName => rfl⟩
  | append_singleton front signature ih =>
      obtain ⟨hfront, hlast⟩ := List.forall_mem_append.mp haccepted
      obtain ⟨artifact, hof⟩ := List.forall_mem_singleton.mp hlast
      obtain ⟨built, hbuild, hholds⟩ := ih hfront
      refine ⟨artifact.put built, ?_, hholds.put hof⟩
      rw [ofSignatures_concat hbuild hof, Replacement.among_concat,
        hholds.ofNearest?_eq hfront hof]

/-- Every artifact is that of the last signature for its module. -/
theorem Holds.exists_last (h : Holds signatures artifacts)
    (hnodup : (artifacts.map (·.moduleName)).Nodup) (hmem : artifact ∈ artifacts) :
    ∃ last, Signature.lastFor signatures artifact.moduleName = some last ∧
      Artifact.ofSignature last = .ok artifact := by
  have hfound := Artifact.find?_of_mem hnodup hmem
  rw [h] at hfound
  obtain ⟨last, hlast, hof⟩ := Option.bind_eq_some_iff.mp hfound
  exact ⟨last, hlast, Except.toOption_eq_some_iff.mp hof⟩

/-- If all signatures are accepted, there is one artifact for every module, in the order of the
first signatures, and it is that of the last one; each of the others was replaced by the next,
and a warning is printed for it. If one is refused, the build ends with its error, once the
warnings for those before it are printed. -/
theorem last_wins (signatures : List Signature) :
    ((∀ signature ∈ signatures, ∃ artifact, Artifact.ofSignature signature = .ok artifact) →
      ∃ artifacts, (ofSignatures signatures).outcome = .ok artifacts ∧
        artifacts.map (·.moduleName) = (signatures.map Signature.moduleName).eraseDups ∧
        (∀ artifact ∈ artifacts, ∃ last,
          Signature.lastFor signatures artifact.moduleName = some last ∧
            Artifact.ofSignature last = .ok artifact) ∧
        (ofSignatures signatures).warnings =
          Text.endLines ((Replacement.among signatures).map Replacement.warning) ∧
        (Replacement.among signatures).length + artifacts.length = signatures.length) ∧
    ∀ accepted refused rest error, signatures = accepted ++ refused :: rest →
      (∀ signature ∈ accepted, ∃ artifact, Artifact.ofSignature signature = .ok artifact) →
      Artifact.ofSignature refused = .error error →
      (ofSignatures signatures).outcome = .error error ∧
        (ofSignatures signatures).warnings =
          Text.endLines ((Replacement.among accepted).map Replacement.warning) := by
  constructor
  · intro haccepted
    obtain ⟨artifacts, hbuild, hholds⟩ := exists_holds haccepted
    have houtcome : (ofSignatures signatures).outcome = .ok artifacts := by rw [hbuild]
    obtain ⟨hmodules, hcount⟩ := extends_of_ofSignatures houtcome
    rw [List.map_nil, List.nil_append] at hmodules
    have hnodup : (artifacts.map (·.moduleName)).Nodup := hmodules ▸ nodup_eraseDups _
    rw [hbuild, List.length_nil, Nat.zero_add, Nat.add_comm] at hcount
    refine ⟨artifacts, houtcome, hmodules, fun artifact => hholds.exists_last hnodup, ?_, hcount⟩
    rw [warnings, hbuild]
  · rintro accepted refused rest error rfl haccepted hrefused
    obtain ⟨artifacts, hbuild, -⟩ := exists_holds haccepted
    have hends := ofSignatures_of_refused hbuild hrefused rest
    exact ⟨by rw [hends], by rw [warnings, hends]⟩

/-- Four declarations for two modules; the names are told apart by their capitals. -/
def capitals : List Signature :=
  [plain "TA_SMA", { plain "TA_EMA" with line := 2 }, { plain "TA_Sma" with line := 3 },
    { plain "TA_sma" with line := 4 }]

theorem capitals_last_wins :
    (∃ artifacts, (ofSignatures capitals).outcome = .ok artifacts ∧
      artifacts.map (·.moduleName) = ["sma", "ema"] ∧
      (∀ artifact ∈ artifacts, ∃ last,
        Signature.lastFor capitals artifact.moduleName = some last ∧
          Artifact.ofSignature last = .ok artifact) ∧
      (ofSignatures capitals).warnings =
        "Warning: TA_Sma (line 3) replaces TA_SMA (line 1) in sma.rs\n" ++
          "Warning: TA_sma (line 4) replaces TA_Sma (line 3) in sma.rs\n") ∧
    (ofSignatures (capitals.take 3 ++ [⟨"TA_X", [], 5⟩, plain "TA_EMA"])).outcome =
      .error (.synthesis ⟨"TA_X", 5, .noInputs⟩) ∧
    (ofSignatures (capitals.take 3 ++ [⟨"TA_X", [], 5⟩, plain "TA_EMA"])).warnings =
      "Warning: TA_Sma (line 3) replaces TA_SMA (line 1) in sma.rs\n" := by
  have haccepted : ∀ signature ∈ capitals,
      ∃ artifact, Artifact.ofSignature signature = .ok artifact := by
    have hok : ∀ signature ∈ capitals, (Artifact.ofSignature signature).toOption.isSome := by
      decide +kernel
    intro signature hsignature
    obtain ⟨artifact, hartifact⟩ := Option.isSome_iff_exists.mp (hok signature hsignature)
    exact ⟨artifact, Except.toOption_eq_some_iff.mp hartifact⟩
  have hfront : ∀ signature ∈ capitals.take 3,
      ∃ artifact, Artifact.ofSignature signature = .ok artifact :=
    fun signature hsignature => haccepted signature (List.mem_of_mem_take hsignature)
  obtain ⟨artifacts, houtcome, hmodules, hlast, hwarnings, -⟩ := (last_wins capitals).1 haccepted
  have hrefused : Artifact.ofSignature ⟨"TA_X", [], 5⟩ =
      .error (.synthesis ⟨"TA_X", 5, .noInputs⟩) := rfl
  obtain ⟨herror, hsaid⟩ := (last_wins _).2 _ _ [plain "TA_EMA"] _ rfl hfront hrefused
  exact ⟨⟨artifacts, houtcome, hmodules.trans (by decide +kernel), hlast,
    hwarnings.trans (by decide +kernel)⟩, herror, hsaid.trans (by decide +kernel)⟩

end Build

end IndicatorWrap
