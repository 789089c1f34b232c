import IndicatorWrap.Machine.Disk

/-!
Disks grow: a call leaves every directory a directory, and where something was
there is something still. So a path that led to a place before leads there ever
after.
-/

namespace IndicatorWrap.Disk

variable {disk before middle after : Disk} {place inner : Location} {name : String}

/-- Whether a disk can have come from another by calls. -/
structure Grows (before after : Disk) : Prop where
  current : after.current = before.current
  directory : ∀ {place}, before.lookup place = some .directory →
    after.lookup place = some .directory
  present : ∀ {place}, before.lookup place ≠ none → after.lookup place ≠ none

theorem Grows.refl (disk : Disk) : Grows disk disk :=
  ⟨rfl, id, id⟩

theorem Grows.trans (first : Grows before middle) (second : Grows middle after) :
    Grows before after :=
  ⟨second.current.trans first.current, second.directory ∘ first.directory,
    second.present ∘ first.present⟩

/-- Whether a name is short enough to be looked up. -/
def FitsName (name : String) : Prop :=
  (Text.Utf8.encode name.toList).length ≤ maxNameBytes

theorem enter_eq_ok_iff :
    disk.enter place name = .ok inner ↔
      disk.lookup place = some .directory ∧
        if name = ".." then inner = place.dropLast
        else FitsName name ∧ disk.lookup (place ++ [name]) ≠ none ∧ inner = place ++ [name] := by
  unfold enter FitsName
  cases hplace : disk.lookup place with
  | none => simp
  | some node =>
      cases node with
      | file content => simp
      | directory =>
          by_cases hdots : name = ".."
          · simp [hdots, eq_comm]
          · by_cases hlong : maxNameBytes < (Text.Utf8.encode name.toList).length
            · simp [hdots, hlong, Nat.not_le_of_lt hlong]
            · cases hinner : disk.lookup (place ++ [name]) with
              | none => simp [hdots, hlong]
              | some node => simp [hdots, hlong, Nat.le_of_not_lt hlong, eq_comm]

/-- A name leads nowhere from a place if there is nothing at either, and the name
could be one. -/
theorem of_enter_noEntry (h : disk.enter place name = .error .noEntry)
    (hplace : disk.lookup place ≠ none) :
    disk.lookup place = some .directory ∧ name ≠ ".." ∧ FitsName name ∧
      disk.lookup (place ++ [name]) = none := by
  unfold enter at h
  split at h
  · contradiction
  · cases h
  · next hdirectory =>
      split at h
      · cases h
      · next hdots =>
          split at h
          · cases h
          · next hshort =>
              split at h
              · cases h
              · next hnone =>
                  exact ⟨hdirectory, hdots, Nat.le_of_not_lt hshort, by simpa using hnone⟩

/-- What stands above something is a directory. -/
theorem lookup_dropLast (h : disk.lookup place ≠ none) :
    disk.lookup place.dropLast = some .directory := by
  rcases List.eq_nil_or_concat place with rfl | ⟨outer, name, rfl⟩
  · exact disk.root.lookup_nil
  · obtain ⟨node, hnode⟩ := Option.ne_none_iff_exists'.mp h
    rw [List.concat_eq_append, List.dropLast_concat]
    exact disk.root.lookup_outer outer name node (List.concat_eq_append ▸ hnode)

theorem present_of_enter (h : disk.enter place name = .ok inner) : disk.lookup inner ≠ none := by
  obtain ⟨hplace, hinner⟩ := enter_eq_ok_iff.mp h
  split at hinner
  · rw [hinner, lookup_dropLast (by simp [hplace])]
    simp
  · obtain ⟨-, hpresent, rfl⟩ := hinner
    exact hpresent

theorem present_of_follow {parts : List String} (hplace : disk.lookup place ≠ none)
    (h : disk.follow place parts = .ok inner) : disk.lookup inner ≠ none := by
  induction parts generalizing place with
  | nil =>
      cases h
      exact hplace
  | cons name rest ih =>
      rw [follow] at h
      split at h
      · next next hnext => exact ih (present_of_enter hnext) h
      · cases h

theorem lookup_start (disk : Disk) (path : Path) :
    disk.lookup (disk.start path) = some .directory := by
  unfold start
  split
  · exact disk.current_directory
  · exact disk.root.lookup_nil

theorem follow_append (front back : List String) :
    disk.follow place (front ++ back) =
      match disk.follow place front with
      | .ok inner => disk.follow inner back
      | .error errno => .error errno := by
  induction front generalizing place with
  | nil => rfl
  | cons name rest ih =>
      rw [List.cons_append, follow, follow]
      cases disk.enter place name with
      | ok inner => exact ih
      | error errno => rfl

theorem follow_singleton (disk : Disk) (place : Location) (name : String) :
    disk.follow place [name] = disk.enter place name := by
  rw [follow]
  cases disk.enter place name with
  | ok inner => rfl
  | error errno => rfl

namespace Grows

theorem start (h : Grows before after) (path : Path) : after.start path = before.start path := by
  unfold Disk.start
  rw [h.current]

theorem enter (h : Grows before after) (henter : before.enter place name = .ok inner) :
    after.enter place name = .ok inner := by
  obtain ⟨hplace, hinner⟩ := enter_eq_ok_iff.mp henter
  refine enter_eq_ok_iff.mpr ⟨h.directory hplace, ?_⟩
  split at hinner
  · next hdots =>
      rw [if_pos hdots]
      exact hinner
  · next hdots =>
      obtain ⟨hfits, hpresent, heq⟩ := hinner
      rw [if_neg hdots]
      exact ⟨hfits, h.present hpresent, heq⟩

theorem follow (h : Grows before after) {parts : List String}
    (hfollow : before.follow place parts = .ok inner) : after.follow place parts = .ok inner := by
  induction parts generalizing place with
  | nil => exact hfollow
  | cons name rest ih =>
      rw [Disk.follow] at hfollow ⊢
      split at hfollow
      · next next hnext =>
          rw [h.enter hnext]
          exact ih hfollow
      · cases hfollow

theorem locate (h : Grows before after) {path : Path}
    (hlocate : before.locate path = .ok place) : after.locate path = .ok place := by
  unfold Disk.locate at hlocate ⊢
  split at hlocate
  · cases hlocate
  · next hshort =>
      rw [if_neg hshort, h.start]
      exact h.follow hlocate

end Grows

end IndicatorWrap.Disk
