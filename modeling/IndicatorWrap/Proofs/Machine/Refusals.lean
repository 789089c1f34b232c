import IndicatorWrap.Proofs.Machine.Growth
import IndicatorWrap.Proofs.Machine.PathParts

/-!
Why a path leads to nothing. Following it comes to where nothing is, or through a file, or it is
refused for its length: as a whole, or for a name that is looked up in a directory. Then no
directory is made under it either.
-/

namespace IndicatorWrap.Disk

variable {disk : Disk} {place : Location} {name : String} {parts : List String} {path : Path}
  {errno : Errno}

theorem enter_eq_nameTooLong_iff :
    disk.enter place name = .error .nameTooLong ↔
      disk.lookup place = some .directory ∧ name ≠ ".." ∧ ¬FitsName name := by
  unfold enter FitsName
  rw [Nat.not_le]
  grind

theorem enter_error_cases (h : disk.enter place name = .error errno) :
    errno = .noEntry ∨ errno = .notDirectory ∨ errno = .nameTooLong := by
  unfold enter at h
  grind

/-- Whether following parts from a place comes to a directory in which a name is looked up that
is too long. -/
inductive MeetsLongName (disk : Disk) : Location → List String → Prop where
  | here {place : Location} {name : String} {rest : List String}
      (hdirectory : disk.lookup place = some .directory) (hdots : name ≠ "..")
      (hlong : ¬FitsName name) : MeetsLongName disk place (name :: rest)
  | later {place inner : Location} {name : String} {rest : List String}
      (henter : disk.enter place name = .ok inner) (hrest : MeetsLongName disk inner rest) :
      MeetsLongName disk place (name :: rest)

theorem follow_eq_nameTooLong_iff :
    disk.follow place parts = .error .nameTooLong ↔ disk.MeetsLongName place parts := by
  constructor
  · intro h
    induction parts generalizing place with
    | nil => cases h
    | cons name rest ih =>
        rw [follow] at h
        split at h
        · next henter => exact .later henter (ih h)
        · next henter =>
            cases h
            obtain ⟨hdirectory, hdots, hlong⟩ := enter_eq_nameTooLong_iff.mp henter
            exact .here hdirectory hdots hlong
  · intro h
    induction h with
    | here hdirectory hdots hlong =>
        rw [follow, enter_eq_nameTooLong_iff.mpr ⟨hdirectory, hdots, hlong⟩]
    | later henter _ ih =>
        rw [follow, henter]
        exact ih

theorem follow_error_cases (h : disk.follow place parts = .error errno) :
    errno = .noEntry ∨ errno = .notDirectory ∨ errno = .nameTooLong := by
  induction parts generalizing place with
  | nil => cases h
  | cons name rest ih =>
      rw [follow] at h
      split at h
      · exact ih h
      · next henter =>
          cases h
          exact enter_error_cases henter

/-- Whether the system refuses to follow a path for its length. -/
def Refuses (disk : Disk) (path : Path) : Prop :=
  isTooLong path ∨ disk.MeetsLongName (disk.start path) path.parts

theorem node_eq_nameTooLong_iff : disk.node path = .error .nameTooLong ↔ disk.Refuses path := by
  have hlocate : disk.locate path = .error .nameTooLong ↔ disk.Refuses path := by
    rw [locate, Refuses, ← follow_eq_nameTooLong_iff]
    split
    · next hlong => simp [hlong]
    · next hshort => simp [hshort]
  rw [← hlocate, node]
  cases disk.locate path with
  | error errno => simp
  | ok place =>
      cases hplace : disk.lookup place with
      | none => simp [hplace]
      | some node => simp [hplace]

theorem node_error_cases (h : disk.node path = .error errno) :
    errno = .noEntry ∨ errno = .notDirectory ∨ errno = .nameTooLong := by
  unfold node locate at h
  split at h
  · next hlocated =>
      cases h
      split at hlocated
      · cases hlocated
        exact .inr (.inr rfl)
      · exact follow_error_cases hlocated
  · split at h
    · cases h
    · cases h
      exact .inl rfl

/-- No directory is made under a path that is refused for its length. -/
theorem Refuses.makeDirectory (h : disk.Refuses path) :
    disk.makeDirectory path = .error .nameTooLong := by
  rw [Disk.makeDirectory, locateOuter]
  cases hlong : isTooLong path with
  | true => rfl
  | false =>
      have hmeets := h.resolve_left (by simp [hlong])
      have hfollow := follow_eq_nameTooLong_iff.mpr hmeets
      rcases List.eq_nil_or_concat path.parts with hparts | ⟨front, name, hparts⟩
      · rw [hparts] at hfollow
        cases hfollow
      · -- the long name is met on the way, or else it is the last one
        rw [List.concat_eq_append] at hparts
        rw [hparts, follow_append] at hfollow
        rw [if_neg Bool.false_ne_true, hparts, List.dropLast_concat, List.getLast?_concat]
        cases houter : disk.follow (disk.start path) front with
        | error errno =>
            rw [houter] at hfollow
            cases hfollow
            rfl
        | ok outer =>
            rw [houter] at hfollow
            have henter := (follow_singleton disk outer name).symm.trans hfollow
            simp only [henter]

/-- A name of one part that is too long is refused wherever it is looked up from. -/
theorem refuses_of_long (hpart : Path.IsPart name) (hlong : ¬FitsName name) (disk : Disk) :
    disk.Refuses (.ofText name) := by
  have hdots : name ≠ ".." := by
    rintro rfl
    unfold FitsName at hlong
    exact hlong (by decide)
  rw [hpart]
  exact .inr (.here disk.current_directory hdots hlong)

end IndicatorWrap.Disk
