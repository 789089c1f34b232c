import IndicatorWrap.Proofs.Package.Agreement
import IndicatorWrap.Proofs.Package.Outcomes

/-!
Generation writes nowhere else. Whatever comes of it, nothing on the disk is changed but for
directories on the way to the output and files in it, and these are the manifest and files
named for declarations of the input. Such a name has small letters, digits and underscores
only, so that no declaration leads to another directory.
-/

namespace IndicatorWrap

open World (execute)

variable {input output : Path} {text : String} {signatures : List Signature}
  {artifacts : List Artifact}

/-- What the name of a module is made of. -/
def isModuleChar (c : Char) : Bool :=
  c.isLower || c.isDigit || c = '_'

theorem isModuleChar_toLower {c : Char} (h : isNameChar c) : isModuleChar c.toLower := by
  have hascii : ∀ code < 0x80, isNameChar (Char.ofNat code) →
      isModuleChar (Char.ofNat code).toLower := by
    decide
  exact Text.forall_ascii (motive := fun c => isNameChar c → isModuleChar c.toLower) hascii
    (isNameChar_ascii h) h

/-- The names that a file may be written under for a text: that of the manifest, and those of
the modules of its declarations. -/
inductive Emittable (text : String) : String → Prop where
  | manifest : Emittable text "mod.rs"
  | wrapper {signature : Signature} {short : String}
      (hfound : signature ∈ (extract none text).signatures)
      (hname : signature.name = "TA_" ++ short) (hsome : short ≠ "")
      (hchars : ∀ c ∈ short.toLower.toList, isModuleChar c) :
      Emittable text (short.toLower ++ ".rs")

theorem emittable_filename {signature : Signature}
    (h : signature ∈ (extract none text).signatures) :
    Emittable text (signature.moduleName ++ moduleExtension) := by
  have hindicated := indicated_of_mem_extract h
  rw [hindicated.moduleName_eq_toLower]
  refine .wrapper h hindicated.name_eq hindicated.shortName_ne ?_
  rw [String.toLower, String.toList_map, List.forall_mem_map]
  intro c hc
  exact isModuleChar_toLower (hindicated.nameChars c hc)

theorem Builds.emittable (h : Builds text signatures artifacts) :
    ∀ name ∈ filenames (sourceFiles artifacts) ++ [manifestFilename], Emittable text name := by
  rw [List.forall_mem_append, List.forall_mem_singleton, filenames, List.map_map,
    List.forall_mem_map]
  refine ⟨fun artifact hartifact => ?_, .manifest⟩
  obtain ⟨signature, hsignature, hof⟩ := Build.exists_signature h.outcome hartifact
  rw [← (extract_of_signaturesOf h.found).2] at hsignature
  rw [Function.comp_apply, (Artifact.of_ofSignature hof).2.2]
  exact emittable_filename hsignature

theorem Generates.confined {disk after : Disk} {result : Except Failure PackageReport}
    {said : String} (h : Generates input output disk result said after) :
    ∃ names, Disk.Changes output names disk after ∧
      ∀ name ∈ names, ∃ text, disk.readText input = .ok text ∧ Emittable text name := by
  cases h with
  | unreadable => exact ⟨[], .refl output [] disk, by simp⟩
  | unextracted => exact ⟨[], .refl output [] disk, by simp⟩
  | unbuilt => exact ⟨[], .refl output [] disk, by simp⟩
  | unwritten htext hbuilds hchanges =>
      exact ⟨_, hchanges, fun name hname => ⟨_, htext, hbuilds.emittable name hname⟩⟩
  | written htext hbuilds hchanges =>
      exact ⟨_, hchanges, fun name hname => ⟨_, htext, hbuilds.emittable name hname⟩⟩

/-- Whatever comes of generation, the disk is as it was but for new directories on the way to
the output and files in it that are named for the manifest or for declarations in the input. -/
theorem generate_confined (input output : Path) (world : World) :
    let (_, last) := execute (generate input output : ExceptT Failure (StateM World) PackageReport)
      world
    last.disk.current = world.disk.current ∧ ∀ place,
      last.disk.lookup place = world.disk.lookup place ∨
      Disk.Made output world.disk last.disk place ∨
      ∃ text name content, world.disk.readText input = .ok text ∧ Emittable text name ∧
        last.disk.IsEntry output name place ∧ world.disk.lookup place ≠ some .directory ∧
        last.disk.lookup place = some (.file content) := by
  obtain ⟨said, hgenerates, -⟩ := generates input output world
  obtain ⟨names, hchanges, hnames⟩ := hgenerates.confined
  refine ⟨hchanges.current, fun place => ?_⟩
  cases hchanges.became place with
  | kept same => exact .inl same
  | made made => exact .inr (.inl made)
  | written named free there =>
      obtain ⟨name, hname, hentry⟩ := named
      obtain ⟨text, htext, hemittable⟩ := hnames name hname
      obtain ⟨content, hcontent⟩ := there
      exact .inr (.inr ⟨text, name, content, htext, hemittable, hentry, free, hcontent⟩)

end IndicatorWrap
