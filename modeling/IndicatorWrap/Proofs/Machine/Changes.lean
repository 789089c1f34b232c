import IndicatorWrap.Proofs.Machine.Calls
import IndicatorWrap.Proofs.Machine.PathParts

/-!
What writing into a directory changes on a disk, whatever comes of it: the
directories along the path may be new, and files in the directory may have new
contents. Every other place is as it was. The changes of several writes one
after the other are again such changes.
-/

namespace IndicatorWrap.Disk

variable {disk before middle after : Disk} {directory : Path} {names more : List String}
  {name : String} {place : Location}

/-- Whether a front of the parts of a path leads to a place. -/
def LeadsBy (disk : Disk) (path : Path) (place : Location) : Prop :=
  ∃ parts, parts <+: path.parts ∧ disk.follow (disk.start path) parts = .ok place

/-- Whether a place is that of a name in the directory that a path leads to. -/
def IsEntry (disk : Disk) (directory : Path) (name : String) (place : Location) : Prop :=
  ∃ outer, disk.follow (disk.start directory) directory.parts = .ok outer ∧ place = outer ++ [name]

theorem LeadsBy.grow {path : Path} (h : before.LeadsBy path place) (hgrows : Grows before after) :
    after.LeadsBy path place := by
  obtain ⟨parts, hparts, hfollow⟩ := h
  exact ⟨parts, hparts, hgrows.start path ▸ hgrows.follow hfollow⟩

theorem IsEntry.grow (h : before.IsEntry directory name place) (hgrows : Grows before after) :
    after.IsEntry directory name place := by
  obtain ⟨outer, hfollow, hplace⟩ := h
  exact ⟨outer, hgrows.start directory ▸ hgrows.follow hfollow, hplace⟩

theorem IsEntry.name_eq {other : String} (h : disk.IsEntry directory name place)
    (hother : disk.IsEntry directory other place) : name = other := by
  obtain ⟨outer, hfollow, rfl⟩ := h
  obtain ⟨outer, hother, hplace⟩ := hother
  cases hfollow.symm.trans hother
  simpa using hplace

/-- A file that the path of a name in a directory leads to is an entry of it. Two dots
never lead to a file. -/
theorem IsEntry.of_locate {content : Text.Utf8.Bytes}
    (hlocate : disk.locate (directory.child name) = .ok place)
    (hfile : disk.lookup place = some (.file content)) : disk.IsEntry directory name place := by
  unfold locate at hlocate
  split at hlocate
  · cases hlocate
  · rw [Path.child, follow_append] at hlocate
    split at hlocate
    · next outer houter =>
        rw [follow_singleton] at hlocate
        obtain ⟨hdirectory, hplace⟩ := enter_eq_ok_iff.mp hlocate
        split at hplace
        · rw [hplace, lookup_dropLast (by simp [hdirectory])] at hfile
          cases hfile
        · exact ⟨outer, houter, hplace.2.2⟩
    · cases hlocate

/-- Whether a place is a directory of a path that was made, under the name that the
path has for it. -/
structure Made (directory : Path) (before after : Disk) (place : Location) : Prop where
  named : ∃ outer, ∃ part ∈ directory.parts, place = outer ++ [part]
  absent : before.lookup place = none
  there : after.lookup place = some .directory
  leads : after.LeadsBy directory place

/-- What may have become of a place when files with some names were written in a
directory. -/
inductive Became (directory : Path) (names : List String) (before after : Disk) (place : Location) :
    Prop where
  | kept (same : after.lookup place = before.lookup place)
  | made (made : Made directory before after place)
  | written (named : ∃ name ∈ names, after.IsEntry directory name place)
      (free : before.lookup place ≠ some .directory)
      (there : ∃ content, after.lookup place = some (.file content))

/-- Whether nothing else was done than to write files with some of these names in a
directory, or to try to. -/
structure Changes (directory : Path) (names : List String) (before after : Disk) : Prop where
  current : after.current = before.current
  became : ∀ place, Became directory names before after place

namespace Changes

theorem refl (directory : Path) (names : List String) (disk : Disk) :
    Changes directory names disk disk :=
  ⟨rfl, fun _ => .kept rfl⟩

theorem grows (h : Changes directory names before after) : Grows before after where
  current := h.current
  directory := by
    intro place hdirectory
    cases h.became place with
    | kept same => exact same.trans hdirectory
    | made made => exact absurd (hdirectory.symm.trans made.absent) (by simp)
    | written named free => exact absurd hdirectory free
  present := by
    intro place hpresent
    cases h.became place with
    | kept same => exact same ▸ hpresent
    | made made => simp [made.there]
    | written named free there =>
        obtain ⟨content, hcontent⟩ := there
        simp [hcontent]

theorem trans (first : Changes directory names before middle)
    (second : Changes directory names middle after) : Changes directory names before after := by
  refine ⟨second.current.trans first.current, fun place => ?_⟩
  -- what was made first is there still, so that the second change can neither make it again
  -- nor write over it
  have hgrows := second.grows
  cases first.became place with
  | kept hfirst =>
      cases second.became place with
      | kept same => exact .kept (same.trans hfirst)
      | made made => exact .made { made with absent := hfirst ▸ made.absent }
      | written named free there => exact .written named (hfirst ▸ free) there
  | made made =>
      cases second.became place with
      | kept same =>
          exact .made ⟨made.named, made.absent, same.trans made.there, made.leads.grow hgrows⟩
      | made again => exact absurd (made.there.symm.trans again.absent) (by simp)
      | written _ free => exact absurd made.there free
  | written named free hwritten =>
      obtain ⟨name, hname, hentry⟩ := named
      obtain ⟨content, hcontent⟩ := hwritten
      have named : ∃ name ∈ names, after.IsEntry directory name place :=
        ⟨name, hname, hentry.grow hgrows⟩
      cases second.became place with
      | kept same => exact .written named free ⟨content, same.trans hcontent⟩
      | made made => exact absurd (hcontent.symm.trans made.absent) (by simp)
      | written _ _ there => exact .written named free there

theorem mono (h : Changes directory names before after) (hsubset : names ⊆ more) :
    Changes directory more before after := by
  refine ⟨h.current, fun place => ?_⟩
  cases h.became place with
  | kept same => exact .kept same
  | made made => exact .made made
  | written named free there =>
      obtain ⟨name, hname, hentry⟩ := named
      exact .written ⟨name, hsubset hname, hentry⟩ free there

/-- The directories along a path to the directory above one are along the path to
that one. -/
theorem of_parent (h : Changes directory.parent [] before after) :
    Changes directory [] before after := by
  refine ⟨h.current, fun place => ?_⟩
  have hparent : directory.parent.parts <+: directory.parts := List.dropLast_prefix _
  cases h.became place with
  | kept same => exact .kept same
  | made made =>
      obtain ⟨outer, part, hpart, hplace⟩ := made.named
      obtain ⟨parts, hparts, hfollow⟩ := made.leads
      exact .made ⟨⟨outer, part, hparent.subset hpart, hplace⟩, made.absent, made.there,
        ⟨parts, hparts.trans hparent, hfollow⟩⟩
  | written named =>
      obtain ⟨name, hname, -⟩ := named
      cases hname

theorem makeDirectory (h : before.makeDirectory directory = .ok after) :
    Changes directory names before after := by
  obtain ⟨outer, name, hopens, hnone, rfl⟩ := makeDirectory_eq_ok_iff.mp h
  refine ⟨rfl, fun place => ?_⟩
  by_cases hplace : place = outer ++ [name]
  · refine .made ⟨⟨outer, name, List.mem_of_getLast? hopens.last, hplace⟩, hplace ▸ hnone, ?_, ?_⟩
    · rw [hopens.lookup_put, if_pos hplace]
    · exact ⟨directory.parts, List.prefix_refl _, hplace ▸ hopens.follow_put .directory⟩
  · exact .kept (by rw [hopens.lookup_put, if_neg hplace])

theorem writeFile {content : Text.Utf8.Bytes}
    (h : before.writeFile (directory.child name) content = .ok after) :
    Changes directory [name] before after := by
  obtain ⟨outer, last, hopens, rfl⟩ := writeFile_eq_ok_iff.mp h
  obtain rfl : name = last := by simpa [Path.child] using hopens.last
  have houter : before.follow (before.start directory) directory.parts = .ok outer := by
    simpa [Path.child, start] using hopens.follow_outer
  refine ⟨rfl, fun place => ?_⟩
  by_cases hplace : place = outer ++ [name]
  · refine .written ⟨name, List.mem_singleton_self name, outer, ?_, hplace⟩ ?_ ⟨content, ?_⟩
    · exact (hopens.grows _).follow houter
    · exact hplace ▸ hopens.not_directory
    · rw [hopens.lookup_put, if_pos hplace]
  · exact .kept (by rw [hopens.lookup_put, if_neg hplace])

/-- Of a place that is no written one, only a directory can have been made. -/
theorem kept_or_made (h : Changes directory names before after)
    (hplace : ∀ name ∈ names, ¬ after.IsEntry directory name place) :
    after.lookup place = before.lookup place ∨ Made directory before after place := by
  cases h.became place with
  | kept same => exact .inl same
  | made made => exact .inr made
  | written named =>
      obtain ⟨name, hname, hentry⟩ := named
      exact absurd hentry (hplace name hname)

/-- Of an entry that is no written one, only a directory can have been made, and only
if the path has a part of its name. -/
theorem entry_kept_or_made (h : Changes directory names before after) (hname : name ∉ names)
    (hentry : after.IsEntry directory name place) :
    after.lookup place = before.lookup place ∨
      name ∈ directory.parts ∧ before.lookup place = none ∧
        after.lookup place = some .directory := by
  have hplace : ∀ other ∈ names, ¬ after.IsEntry directory other place := by
    intro other hother hentry'
    exact hname (hentry.name_eq hentry' ▸ hother)
  refine (h.kept_or_made hplace).imp_right fun made => ?_
  obtain ⟨outer, part, hpart, hplace⟩ := made.named
  obtain ⟨inner, -, hinner⟩ := hentry
  obtain rfl : name = part := (List.append_singleton_inj.mp (hinner.symm.trans hplace)).2
  exact ⟨hpart, made.absent, made.there⟩

end Changes

end IndicatorWrap.Disk
