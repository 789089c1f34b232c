import IndicatorWrap.Proofs.Declaration.IndicatorNames
import IndicatorWrap.Proofs.Package.Outcomes
import IndicatorWrap.Proofs.Wrapper.ModuleName
import IndicatorWrap.Proofs.Wrapper.Replacements

/-!
Declarations, artifacts, manifest and summary agree. The module of an indicator tells its
name, so that a build has one artifact for every name that is declared, in the order of the
first declarations. The manifest has a line for each of them, and for each declaration that
gave way to a later one a warning is printed.
-/

namespace IndicatorWrap

open Text
open World (execute)

variable {text : String} {signatures : List Signature} {artifacts : List Artifact}

namespace Signature

theorem moduleName_congr {one other : Signature} (h : one.name = other.name) :
    one.moduleName = other.moduleName := by
  rw [moduleName, moduleName, shortName, shortName, h]

/-- The function that a module is named for. -/
def nameOfModule (moduleName : String) : String :=
  libraryMark ++ moduleName.toUpper

theorem Indicated.nameOfModule_eq {signature : Signature} (h : signature.Indicated) :
    nameOfModule signature.moduleName = signature.name := by
  rw [nameOfModule, ← h.shortName_eq, ← h.name_eq]

theorem Indicated.moduleName_eq_toLower {signature : Signature} (h : signature.Indicated) :
    signature.moduleName = signature.shortName.toLower := by
  rw [← String.toList_inj, moduleName_toList h, String.toLower, String.toList_map]

end Signature

open Signature in
/-- The artifacts of a build are named for the declarations, each name once. -/
theorem Build.map_name_eq (hsignatures : signaturesOf text = .ok signatures)
    (hbuild : (ofSignatures signatures).outcome = .ok artifacts) :
    artifacts.map (·.signature.name) = (signatures.map Signature.name).eraseDups := by
  have hindicated : ∀ signature ∈ signatures, signature.Indicated :=
    fun signature hsignature => (indicated_of_signaturesOf hsignatures signature hsignature).1
  have hmodules := (extends_of_ofSignatures hbuild).modules
  rw [List.map_nil, List.nil_append] at hmodules
  have hartifacts : artifacts.map (·.signature.name) =
      (artifacts.map (·.moduleName)).map nameOfModule := by
    rw [List.map_map]
    apply List.map_congr_left
    intro artifact hartifact
    obtain ⟨signature, hsignature, hof⟩ := exists_signature hbuild hartifact
    obtain ⟨rfl, hmodule, -⟩ := Artifact.of_ofSignature hof
    rw [Function.comp_apply, hmodule, (hindicated _ hsignature).nameOfModule_eq]
  have hsignatures : signatures.map Signature.name =
      (signatures.map Signature.moduleName).map nameOfModule := by
    rw [List.map_map]
    apply List.map_congr_left
    intro signature hsignature
    exact (hindicated signature hsignature).nameOfModule_eq.symm
  rw [hartifacts, hmodules, hsignatures]
  refine (eraseDups_map ?_).symm
  intro one hone other hother heq
  obtain ⟨signature, hsignature, rfl⟩ := List.mem_map.mp hone
  obtain ⟨second, hsecond, rfl⟩ := List.mem_map.mp hother
  rw [(hindicated _ hsecond).nameOfModule_eq, (hindicated _ hsignature).nameOfModule_eq] at heq
  exact moduleName_congr heq

theorem oneLine_warning {replacement : Replacement} (hlater : OneLine replacement.later.name)
    (hearlier : OneLine replacement.earlier.name) (hfilename : OneLine replacement.filename) :
    OneLine replacement.warning := by
  -- `delta`, because an equation for a definition with literals this long is slow to make
  delta Replacement.warning
  simp only [oneLine_append_iff, hlater, hearlier, hfilename, oneLine_decimal, and_true]
  decide

/-- Every replacement is told in one line. -/
theorem Build.linesOf_warnings
    (hsignatures : signaturesOf text = .ok signatures) :
    linesOf (ofSignatures signatures).warnings =
      (ofSignatures signatures).replacements.map Replacement.warning := by
  apply linesOf_endLines
  rw [List.forall_mem_map]
  intro replacement hreplacement
  obtain ⟨hlater, hearlier, hfilename⟩ := of_mem_replacements hreplacement
  have hlater := (indicated_of_signaturesOf hsignatures _ hlater).2
  have hearlier := (indicated_of_signaturesOf hsignatures _ hearlier).2
  have hmodule := (Signature.identChars_moduleName hlater).oneLine
  refine oneLine_warning hlater.oneLine hearlier.oneLine ?_
  rw [hfilename, oneLine_append_iff]
  exact ⟨hmodule, by decide⟩

theorem manifest?_splitOn {names : List String} (hsome : names ≠ [])
    (h : ∀ name ∈ names, OneLine name) :
    ∃ source, manifest? names = some source ∧
      source.toList.splitOn '\n' =
        (names.map fun name => ("pub mod " ++ name ++ ";").toList) ++ [[]] := by
  cases names with
  | nil => exact absurd rfl hsome
  | cons first rest =>
      refine ⟨_, rfl, ?_⟩
      rw [splitOn_endLines, List.map_map]
      · rfl
      · rw [List.forall_mem_map]
        intro name hname
        simp only [oneLine_append_iff, h name hname]
        decide

/-- Whether the artifacts of a build are those of its declarations: one for every name, in the
order of the first declarations, each in the module named for it. -/
structure Build.Covers (artifacts : List Artifact) (signatures : List Signature) : Prop where
  apart : ∀ one ∈ signatures, ∀ other ∈ signatures, one.moduleName = other.moduleName →
    one.name = other.name
  names : artifacts.map (·.signature.name) = (signatures.map Signature.name).eraseDups
  modules : ∀ artifact ∈ artifacts, artifact.signature ∈ signatures ∧
    artifact.signature.name = "TA_" ++ artifact.signature.shortName ∧
    artifact.moduleName = artifact.signature.shortName.toLower

theorem Build.covers_of_outcome (hsignatures : signaturesOf text = .ok signatures)
    (hbuild : (ofSignatures signatures).outcome = .ok artifacts) : Covers artifacts signatures where
  apart := by
    intro one hone other hother hmodule
    rw [← (indicated_of_signaturesOf hsignatures one hone).1.nameOfModule_eq, hmodule]
    exact (indicated_of_signaturesOf hsignatures other hother).1.nameOfModule_eq
  names := map_name_eq hsignatures hbuild
  modules := by
    intro artifact hartifact
    obtain ⟨signature, hsignature, hof⟩ := exists_signature hbuild hartifact
    obtain ⟨rfl, hmodule, -⟩ := Artifact.of_ofSignature hof
    have hindicated := (indicated_of_signaturesOf hsignatures _ hsignature).1
    exact ⟨hsignature, hindicated.name_eq, hmodule.trans hindicated.moduleName_eq_toLower⟩

/-- There is a declaration, so that the manifest has a module to name. -/
theorem Build.manifest_of_outcome (hsignatures : signaturesOf text = .ok signatures)
    (hbuild : (ofSignatures signatures).outcome = .ok artifacts) :
    ∃ source, manifest? (artifacts.map (·.moduleName)) = some source ∧
      source.toList.splitOn '\n' =
        (artifacts.map fun artifact => ("pub mod " ++ artifact.moduleName ++ ";").toList) ++ [[]] := by
  have hsome : artifacts.map (·.moduleName) ≠ [] := by
    obtain ⟨-, hdeclared, -⟩ := signaturesOf_headers hsignatures
    obtain ⟨first, more, rfl⟩ := List.exists_cons_of_ne_nil hdeclared
    rw [(extends_of_ofSignatures hbuild).modules, List.map_nil, List.nil_append, List.map_cons,
      List.eraseDups_cons]
    exact List.cons_ne_nil _ _
  have hlines : ∀ name ∈ artifacts.map (·.moduleName), OneLine name := by
    rw [List.forall_mem_map]
    intro artifact hartifact
    obtain ⟨signature, hsignature, hof⟩ := exists_signature hbuild hartifact
    rw [(Artifact.of_ofSignature hof).2.1]
    have hname := (indicated_of_signaturesOf hsignatures signature hsignature).2
    exact (Signature.identChars_moduleName hname).oneLine
  obtain ⟨source, hsource, hsplit⟩ := manifest?_splitOn hsome hlines
  refine ⟨source, hsource, ?_⟩
  rw [hsplit, List.map_map]
  rfl

/-- If declarations are found and built, there is one artifact for every name; the manifest is
made, with a line for each of them; and as many declarations gave way to later ones as the
summary says, and as warnings are printed. -/
theorem Build.agrees_of_outcome (hsignatures : signaturesOf text = .ok signatures)
    (hbuild : (ofSignatures signatures).outcome = .ok artifacts) :
    Covers artifacts signatures ∧
      (∃ source, manifest? (artifacts.map (·.moduleName)) = some source ∧
        source.toList.splitOn '\n' =
          (artifacts.map fun artifact => ("pub mod " ++ artifact.moduleName ++ ";").toList) ++ [[]]) ∧
      (∀ input report, 0 ≤ (summaryOf input signatures.length artifacts.length report).replaced ∧
        (summaryOf input signatures.length artifacts.length report).replaced =
          (linesOf (ofSignatures signatures).warnings).length) ∧
      ∀ input output world, world.disk.readText input = .ok text →
        ∃ rest, (execute (generate input output) world).2.output =
          world.output ++ (parsingLine input ++ extractedLine signatures ++
            (ofSignatures signatures).warnings) ++ rest := by
  have hcount := (extends_of_ofSignatures hbuild).count
  refine ⟨covers_of_outcome hsignatures hbuild, manifest_of_outcome hsignatures hbuild,
    fun input report => ?_, fun input output world htext => ?_⟩
  · rw [linesOf_warnings hsignatures, List.length_map]
    simp only [Summary.replaced, summaryOf, List.length_nil, Nat.zero_add] at hcount ⊢
    omega
  · obtain ⟨said, hgenerates, houtput, -⟩ := generates input output world
    obtain ⟨rest, rfl⟩ := hgenerates.said_eq htext ⟨hsignatures, hbuild⟩
    rw [houtput, ← String.append_assoc]
    exact ⟨rest, rfl⟩

/-- Two functions with a series on either side, the first of them declared again. -/
def repeatedText : String :=
  plainText "TA_SMA" ++ plainText "TA_EMA" ++ plainText "TA_SMA"

def repeatedSignatures : List Signature :=
  [plain "TA_SMA", { plain "TA_EMA" with line := 2 }, { plain "TA_SMA" with line := 3 }]

theorem repeatedText_agrees :
    ∃ artifacts, signaturesOf repeatedText = .ok repeatedSignatures ∧
      (Build.ofSignatures repeatedSignatures).outcome = .ok artifacts ∧
      artifacts.map (·.signature.name) = ["TA_SMA", "TA_EMA"] ∧
      (linesOf (Build.ofSignatures repeatedSignatures).warnings).length = 1 := by
  have hextract : extract none repeatedText = ⟨repeatedSignatures, .done⟩ := by
    -- the characters of each text by itself are quickly told
    simp only [extract, Token.scan, repeatedText, plainText, String.toList_append]
    decide +kernel
  have hsignatures : signaturesOf repeatedText = .ok repeatedSignatures := by
    rw [signaturesOf, hextract]
  have hok : (Build.ofSignatures repeatedSignatures).outcome.map List.length = .ok 2 := by
    decide +kernel
  obtain ⟨artifacts, hbuild, hlength⟩ := Except.map_eq_ok_iff.mp hok
  obtain ⟨hcovers, -, hreplaced, -⟩ := Build.agrees_of_outcome hsignatures hbuild
  refine ⟨artifacts, hsignatures, hbuild, hcovers.names.trans (by decide), ?_⟩
  have hone := (hreplaced (.ofText "in.rs") ⟨.ofText "out", []⟩).2
  rw [hlength] at hone
  exact Int.natCast_inj.mp (hone.symm.trans rfl)

end IndicatorWrap
