import IndicatorWrap.Package.Generate
import IndicatorWrap.Machine.World
import IndicatorWrap.Proofs.Declaration.IndicatorNames
import IndicatorWrap.Proofs.Wrapper.Accepted
import IndicatorWrap.Proofs.Wrapper.Builds

/-!
The names of modules. A declaration gives its module the short name in small
letters and nothing else, so that a short name that begins with a digit, an
underscore alone and a reserved word in capitals make modules that the target
language does not take. One of the reserved words makes the file of the manifest.
-/

namespace IndicatorWrap

/-- Whether the target language takes a text as the name of a module, of a function
or of a variable. -/
structure NamesModule (name : String) : Prop where
  identifier : Lexeme.IsIdentifier name.toList
  ne_underscore : name ≠ "_"
  not_reserved : name ∉ reservedWords

namespace Signature

/-- Whether the short name, in small letters, names a module. -/
structure FitsModule (signature : Signature) : Prop where
  first : ¬signature.shortName.toList.head?.any Char.isDigit
  ne_underscore : signature.shortName ≠ "_"
  ne_reserved : ∀ word ∈ reservedWords, signature.shortName ≠ word.toUpper

namespace Indicated

variable {signature : Signature}

theorem moduleName_eq_iff (h : signature.Indicated) {small capital : String}
    (hsmall : capital.toLower = small) (hcapital : small.toUpper = capital) :
    signature.moduleName = small ↔ signature.shortName = capital := by
  constructor
  · intro hmodule
    rw [h.shortName_eq, hmodule, hcapital]
  · intro hshort
    rw [← String.toList_inj, moduleName_toList h, hshort, ← hsmall, String.toLower,
      String.toList_map]

theorem isIdentifier_moduleName_iff (h : signature.Indicated) :
    Lexeme.IsIdentifier signature.moduleName.toList ↔
      ¬signature.shortName.toList.head?.any Char.isDigit := by
  have hmodule := moduleName_toList h
  have hchars := h.nameChars
  cases hshort : signature.shortName.toList with
  | nil => exact absurd (String.toList_eq_nil_iff.mp hshort) h.shortName_ne
  | cons c rest =>
      rw [hshort] at hmodule hchars
      obtain ⟨hc, hrest⟩ := List.forall_mem_cons.mp hchars
      rw [hmodule, List.map_cons, List.head?_cons, Option.any_some]
      constructor
      · rintro ⟨first, others, heq, hstart, -⟩
        obtain ⟨rfl, -⟩ := List.cons_eq_cons.mp heq
        exact (lowersWell_of_isNameChar hc).2.2.mp hstart
      · intro hdigit
        refine ⟨_, _, rfl, (lowersWell_of_isNameChar hc).2.2.mpr hdigit, ?_⟩
        intro next hnext
        obtain ⟨original, horiginal, rfl⟩ := List.mem_map.mp hnext
        exact (lowersWell_of_isNameChar (hrest original horiginal)).2.1

theorem namesModule_iff (h : signature.Indicated) :
    NamesModule signature.moduleName ↔ signature.FitsModule := by
  have hunderscore : signature.moduleName = "_" ↔ signature.shortName = "_" :=
    h.moduleName_eq_iff (by decide +kernel) (by decide +kernel)
  have hwords : ∀ word ∈ reservedWords, word.toUpper.toLower = word := by decide +kernel
  constructor
  · intro hnames
    refine ⟨h.isIdentifier_moduleName_iff.mp hnames.identifier, ?_, ?_⟩
    · exact fun hshort => hnames.ne_underscore (hunderscore.mpr hshort)
    · intro word hword hshort
      have hmodule := (h.moduleName_eq_iff (hwords word hword) rfl).mpr hshort
      exact hnames.not_reserved (hmodule ▸ hword)
  · intro hfits
    refine ⟨h.isIdentifier_moduleName_iff.mpr hfits.first, ?_, ?_⟩
    · exact fun hmodule => hfits.ne_underscore (hunderscore.mp hmodule)
    · intro hreserved
      exact hfits.ne_reserved _ hreserved h.shortName_eq

end Indicated

end Signature

/-- The file of a module is that of the manifest for one module only. -/
theorem filename_eq_manifestFilename_iff {moduleName : String} :
    moduleName ++ moduleExtension = manifestFilename ↔ moduleName = "mod" := by
  have hmanifest : manifestFilename = "mod" ++ moduleExtension := by decide
  rw [hmanifest, String.append_left_inj]

/-- The modules of a build are named for the declarations of the text. Such a name
can be used, in a file that the manifest leaves alone, exactly if the short name
fits; for one declaration the file is the manifest's. -/
theorem Build.usable_iff_fitsModule {text : String} {signatures : List Signature}
    {artifacts : List Artifact} (hsignatures : signaturesOf text = .ok signatures)
    (hbuild : (ofSignatures signatures).outcome = .ok artifacts) :
    ∀ artifact ∈ artifacts, artifact.signature ∈ signatures ∧
      artifact.moduleName = artifact.signature.moduleName ∧
      (NamesModule artifact.moduleName ∧ artifact.filename ≠ manifestFilename ↔
        artifact.signature.FitsModule) ∧
      (artifact.filename = manifestFilename ↔ artifact.signature.name = "TA_MOD") := by
  intro artifact hmem
  obtain ⟨signature, hsignature, hof⟩ := exists_signature hbuild hmem
  obtain ⟨inputs, outputs, -, rfl⟩ := Artifact.ofSignature_eq_ok_iff.mp hof
  have hindicated : signature.Indicated := by
    rw [← (extract_of_signaturesOf hsignatures).2] at hsignature
    exact indicated_of_mem_extract hsignature
  have hmod : signature.moduleName = "mod" ↔ signature.shortName = "MOD" :=
    hindicated.moduleName_eq_iff (by decide +kernel) (by decide +kernel)
  refine ⟨hsignature, rfl, ?_, ?_⟩
  · dsimp only
    rw [Ne, filename_eq_manifestFilename_iff, hindicated.namesModule_iff, hmod, and_iff_left_iff_imp]
    intro hfits
    have hcapital : "mod".toUpper = "MOD" := by decide +kernel
    exact hcapital ▸ hfits.ne_reserved "mod" (by decide)
  · dsimp only
    have hname : "TA_MOD" = libraryMark ++ "MOD" := by decide
    rw [filename_eq_manifestFilename_iff, hmod, hindicated.name_eq, hname, String.append_right_inj]

/-- A declaration with one series on either side. -/
def plainText (name : String) : String :=
  "pub fn " ++ name ++
    "(inReal: *const f64, outBegIdx: *mut c_int, outNBElement: *mut c_int, outReal: *mut f64);\n"

def plain (name : String) : Signature where
  name := name
  parameters :=
    [⟨"inReal", "*const f64"⟩, ⟨beginIndexName, "*mut c_int"⟩, ⟨elementCountName, "*mut c_int"⟩,
      ⟨"outReal", "*mut f64"⟩]
  line := 1

theorem plain_sma_usable :
    ∃ artifact, signaturesOf (plainText "TA_SMA") = .ok [plain "TA_SMA"] ∧
      (Build.ofSignatures [plain "TA_SMA"]).outcome = .ok [artifact] ∧
      NamesModule artifact.moduleName ∧ artifact.filename ≠ manifestFilename := by
  have hsignatures : signaturesOf (plainText "TA_SMA") = .ok [plain "TA_SMA"] := by
    decide +kernel
  have hok : (Build.ofSignatures [plain "TA_SMA"]).outcome.map List.length = .ok 1 := by
    decide +kernel
  obtain ⟨artifacts, hbuild, hlength⟩ := Except.map_eq_ok_iff.mp hok
  obtain ⟨artifact, rfl⟩ := List.length_eq_one_iff.mp hlength
  obtain ⟨hsignature, -, husable, -⟩ :=
    Build.usable_iff_fitsModule hsignatures hbuild artifact List.mem_cons_self
  have hfits : (plain "TA_SMA").FitsModule :=
    ⟨by decide +kernel, by decide +kernel, by decide +kernel⟩
  rw [List.mem_singleton.mp hsignature] at husable
  exact ⟨artifact, hsignatures, hbuild, husable.mpr hfits⟩

/-- An indicator may have the name of the manifest's module. Then the wrapper is
written, and the manifest over it. -/
theorem plain_mod_overwritten :
    ∃ artifact, signaturesOf (plainText "TA_MOD") = .ok [plain "TA_MOD"] ∧
      (Build.ofSignatures [plain "TA_MOD"]).outcome = .ok [artifact] ∧
      ¬NamesModule artifact.moduleName ∧ artifact.filename = manifestFilename ∧
      (World.execute (writePackage (.ofText "out") [artifact.toSourceFile])
          (.ofDisk (.blank ["home"]))).2.disk.readFile (.ofText "out/mod.rs") =
        .ok (Text.Utf8.encode "pub mod mod;\n".toList) := by
  have hsignatures : signaturesOf (plainText "TA_MOD") = .ok [plain "TA_MOD"] := by
    decide +kernel
  have hok : (Build.ofSignatures [plain "TA_MOD"]).outcome.map (fun artifacts =>
      artifacts.map fun artifact => (artifact.filename, artifact.moduleName,
        (World.execute (writePackage (.ofText "out") [artifact.toSourceFile])
          (.ofDisk (.blank ["home"]))).2.disk.readFile (.ofText "out/mod.rs"))) =
      .ok [("mod.rs", "mod", .ok (Text.Utf8.encode "pub mod mod;\n".toList))] := by
    decide +kernel
  obtain ⟨artifacts, hbuild, hwritten⟩ := Except.map_eq_ok_iff.mp hok
  obtain ⟨artifact, more, rfl, hfirst, hnil⟩ := List.map_eq_cons_iff.mp hwritten
  obtain rfl := List.map_eq_nil_iff.mp hnil
  simp only [Prod.mk.injEq] at hfirst
  obtain ⟨hfilename, hmodule, hcontent⟩ := hfirst
  refine ⟨artifact, hsignatures, hbuild, ?_, hfilename, hcontent⟩
  intro hnames
  rw [hmodule] at hnames
  exact hnames.not_reserved (by decide)

end IndicatorWrap
