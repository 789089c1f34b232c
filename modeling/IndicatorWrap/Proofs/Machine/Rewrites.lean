import IndicatorWrap.Proofs.Machine.Programs

/-!
Files that are written again. What is written into a file takes the place of what it
held, and if that was the same nothing has changed at all. A directory that is there
need not be made, so that a file is written again wherever it could be written.
-/

namespace IndicatorWrap

open Text.Utf8 (Bytes)
open World (execute)

namespace Directory

theorem put_eq_self {directory : Directory} {place : Location} {content : Bytes}
    (h : directory.lookup place = some (.file content)) :
    directory.put place (.file content) = directory := by
  induction directory generalizing place with
  | empty => cases place <;> simp [lookup] at h
  | file other old rest ih =>
      cases place with
      | nil => simp [lookup] at h
      | cons name names => grind [put, lookup, add]
  | subdirectory other inner rest ihInner ihRest =>
      cases place with
      | nil => simp [lookup] at h
      | cons name names => grind [put, lookup]

end Directory

namespace Disk

variable {disk before middle after : Disk} {place target : Location} {path : Path}
  {content old : Bytes}

theorem put_eq_self (h : disk.lookup place = some (.file content)) :
    disk.put place (.file content) = disk := by
  simp only [put, Directory.put_eq_self h]

/-- The place of a file is a name in a directory. -/
theorem exists_outer_of_file (h : disk.lookup place = some (.file old)) :
    ∃ outer name, place = outer ++ [name] ∧ disk.lookup outer = some .directory := by
  rcases List.eq_nil_or_concat place with rfl | ⟨outer, name, rfl⟩
  · cases h.symm.trans disk.root.lookup_nil
  · rw [List.concat_eq_append] at h ⊢
    exact ⟨outer, name, rfl, disk.root.lookup_outer outer name _ h⟩

theorem lookup_put_of_file (h : disk.lookup place = some (.file old)) (content : Bytes)
    (target : Location) :
    (disk.put place (.file content)).lookup target =
      if target = place then some (.file content) else disk.lookup target := by
  obtain ⟨outer, name, rfl, houter⟩ := exists_outer_of_file h
  exact disk.lookup_put outer target name _ houter (by simp [h])

/-- A disk that may only differ at one place is put in order elsewhere by putting nothing new. -/
theorem put_put_of_settled (hplace : disk.lookup place = some (.file old))
    (h : target = place ∨ disk.lookup target = some (.file content)) (between : Bytes) :
    ∃ final, (disk.put place (.file between)).put target (.file content) =
      disk.put place (.file final) := by
  by_cases hsame : target = place
  · exact ⟨content, by rw [hsame, put_put]⟩
  · refine ⟨between, put_eq_self ?_⟩
    rw [lookup_put_of_file hplace, if_neg hsame, h.resolve_left hsame]

/-- A path that leads somewhere has no parts, or its last one is entered from where the
others lead. -/
theorem locate_cases (h : disk.locate path = .ok place) :
    (disk.locateOuter path = .ok (place, none) ∧ disk.lookup place = some .directory) ∨
      ∃ outer name, disk.locateOuter path = .ok (outer, some name) ∧
        disk.enter outer name = .ok place := by
  unfold locate at h
  split at h
  · cases h
  · next hshort =>
      have hshort : isTooLong path = false := by simpa using hshort
      rcases List.eq_nil_or_concat path.parts with hparts | ⟨front, name, hparts⟩
      · rw [hparts] at h
        cases h
        refine .inl ⟨locateOuter_eq_ok_iff.mpr ⟨hshort, ?_, ?_⟩, disk.lookup_start path⟩
        · rw [hparts]
          rfl
        · rw [hparts]
          rfl
      · rw [List.concat_eq_append] at hparts
        rw [hparts, follow_append] at h
        split at h
        · next outer houter =>
            rw [follow_singleton] at h
            refine .inr ⟨outer, name, locateOuter_eq_ok_iff.mpr ⟨hshort, ?_, ?_⟩, h⟩
            · rw [hparts, List.dropLast_concat]
              exact houter
            · rw [hparts, List.getLast?_concat]
        · cases h

/-- A path that leads to a file may be given another one. -/
theorem exists_opens_of_file (hlocate : disk.locate path = .ok place)
    (hfile : disk.lookup place = some (.file old)) :
    ∃ outer name, disk.Opens path outer name ∧ place = outer ++ [name] := by
  rcases locate_cases hlocate with ⟨-, hdirectory⟩ | ⟨outer, name, houter, henter⟩
  · cases hfile.symm.trans hdirectory
  · exact ⟨outer, name, opens_of_file houter henter hfile⟩

/-- A directory is not made where one is. -/
theorem makeDirectory_of_directory (h : disk.node path = .ok .directory) :
    disk.makeDirectory path = .error .exists := by
  obtain ⟨place, hlocate⟩ : ∃ place, disk.locate path = .ok place := by
    unfold node at h
    split at h
    · cases h
    · next place hlocate => exact ⟨place, hlocate⟩
  unfold makeDirectory
  rcases locate_cases hlocate with ⟨houter, -⟩ | ⟨outer, name, houter, henter⟩
  · simp only [houter]
  · simp only [houter, henter]

/-- Whether a disk has grown from another and its files are files yet. -/
structure Keeps (before after : Disk) : Prop extends Grows before after where
  file : ∀ {place old}, before.lookup place = some (.file old) →
    ∃ content, after.lookup place = some (.file content)

theorem Changes.keeps {directory : Path} {names : List String}
    (h : Changes directory names before after) : Keeps before after where
  toGrows := h.grows
  file := by
    intro place old hold
    cases h.became place with
    | kept same => exact ⟨old, same.trans hold⟩
    | made made => exact absurd (hold.symm.trans made.absent) (by simp)
    | written _ _ there => exact there

theorem keeps_put (h : disk.lookup place = some (.file old)) (content : Bytes) :
    Keeps disk (disk.put place (.file content)) where
  current := rfl
  directory := by
    intro target hdirectory
    exact disk.root.lookup_put_directory place target _ hdirectory
  present := by
    intro target hpresent
    rw [lookup_put_of_file h]
    split
    · simp
    · exact hpresent
  file := by
    intro target other hother
    rw [lookup_put_of_file h]
    split
    · exact ⟨content, rfl⟩
    · exact ⟨other, hother⟩

/-- A name in a directory has one place. -/
theorem IsEntry.place_eq {directory : Path} {name : String} (h : disk.IsEntry directory name place)
    (hother : disk.IsEntry directory name target) : place = target := by
  obtain ⟨outer, hfollow, rfl⟩ := h
  obtain ⟨other, hother, rfl⟩ := hother
  cases hfollow.symm.trans hother
  rfl

/-- A file at no written place holds what it held. -/
theorem Changes.readFile {directory : Path} {names : List String}
    (h : Changes directory names before after) (hread : before.readFile path = .ok content)
    (hunwritten : ∀ place, before.locate path = .ok place →
      ∀ name ∈ names, ¬after.IsEntry directory name place) :
    after.readFile path = .ok content := by
  obtain ⟨place, hlocate, hcontent⟩ := readFile_eq_ok_iff.mp hread
  refine readFile_eq_ok_iff.mpr ⟨place, h.grows.locate hlocate, ?_⟩
  rcases h.kept_or_made (hunwritten place hlocate) with same | made
  · exact same.trans hcontent
  · exact absurd (hcontent.symm.trans made.absent) (by simp)

theorem Grows.node_directory (h : Grows before after) (hnode : before.node path = .ok .directory) :
    after.node path = .ok .directory := by
  unfold node at hnode ⊢
  split at hnode
  · cases hnode
  · next place hlocate =>
      split at hnode
      · next node hplace =>
          cases hnode
          simp only [h.locate hlocate, h.directory hplace]
      · cases hnode

end Disk

namespace Machine

variable {path : Path} {world after : World}

theorem clean_of_checkPath
    (h : execute (checkPath path : ExceptT Fault (StateM World) Unit) world = (.ok (), after)) :
    path.hasNul = false := by
  rw [execute_checkPath] at h
  cases hnul : path.hasNul with
  | true => simp [hnul] at h
  | false => rfl

theorem execute_settleFor_of_directory (hnul : path.hasNul = false)
    (h : world.disk.node path = .ok .directory) (errno : Errno) :
    execute (settleFor path errno : ExceptT Fault (StateM World) Unit) world = (.ok (), world) := by
  rw [settleFor, World.execute_bind, execute_kind?, hnul, if_neg Bool.false_ne_true, h]
  rfl

/-- Nothing is done for a directory that is there. -/
theorem execute_ensureDirectories_of_directory (hnul : path.hasNul = false)
    (h : world.disk.node path = .ok .directory) :
    execute (ensureDirectories path : ExceptT Fault (StateM World) Unit) world =
      (.ok (), world) := by
  rw [ensureDirectories, World.execute_lift_bind, run_makeDirectory,
    Disk.makeDirectory_of_directory h]
  exact execute_settleFor_of_directory hnul h .exists

end Machine

end IndicatorWrap
