import IndicatorWrap.Proofs.Machine.Growth

/-!
When calls to a disk are granted. Reading gives what is at the place that a path
leads to. The two calls that change a disk put one node at one place: they are granted
exactly if the path leads to a directory and goes on with a name that may be put
there. The place is then the one that the path leads to, and a disk that a node is
put on has grown.
-/

namespace IndicatorWrap.Disk

variable {disk after : Disk} {path : Path} {outer place : Location} {name : String}

/-- Whether a node may be put where a path leads: its last part is a name in the
directory that the others lead to, and no directory has that name. -/
structure Opens (disk : Disk) (path : Path) (outer : Location) (name : String) : Prop where
  short : isTooLong path = false
  last : path.parts.getLast? = some name
  follow_outer : disk.follow (disk.start path) path.parts.dropLast = .ok outer
  directory : disk.lookup outer = some .directory
  ne_dots : name ≠ ".."
  fits : FitsName name
  not_directory : disk.lookup (outer ++ [name]) ≠ some .directory

theorem locateOuter_eq_ok_iff {last : Option String} :
    disk.locateOuter path = .ok (outer, last) ↔
      isTooLong path = false ∧ disk.follow (disk.start path) path.parts.dropLast = .ok outer ∧
        path.parts.getLast? = last := by
  unfold locateOuter
  cases isTooLong path with
  | true => simp
  | false =>
      cases disk.follow (disk.start path) path.parts.dropLast with
      | error errno => simp
      | ok place => simp

theorem Opens.locateOuter (h : disk.Opens path outer name) :
    disk.locateOuter path = .ok (outer, some name) :=
  locateOuter_eq_ok_iff.mpr ⟨h.short, h.follow_outer, h.last⟩

theorem Opens.enter_of_absent (h : disk.Opens path outer name)
    (hnone : disk.lookup (outer ++ [name]) = none) : disk.enter outer name = .error .noEntry := by
  simp [enter, h.directory, h.ne_dots, Nat.not_lt_of_le h.fits, hnone]

theorem Opens.enter_of_present {node : Node} (h : disk.Opens path outer name)
    (hnode : disk.lookup (outer ++ [name]) = some node) :
    disk.enter outer name = .ok (outer ++ [name]) := by
  simp [enter, h.directory, h.ne_dots, Nat.not_lt_of_le h.fits, hnode]

/-- A path that leads to nothing, in a directory that is there, may be given a node. -/
theorem opens_of_noEntry (houter : disk.locateOuter path = .ok (outer, some name))
    (h : disk.enter outer name = .error .noEntry) :
    disk.Opens path outer name ∧ disk.lookup (outer ++ [name]) = none := by
  obtain ⟨hshort, hfollow, hlast⟩ := locateOuter_eq_ok_iff.mp houter
  have hpresent := present_of_follow (by simp [lookup_start]) hfollow
  obtain ⟨hdirectory, hdots, hfits, hnone⟩ := of_enter_noEntry h hpresent
  exact ⟨⟨hshort, hlast, hfollow, hdirectory, hdots, hfits, by simp [hnone]⟩, hnone⟩

/-- A path that leads to a file may be given another one. Two dots never lead to a
file. -/
theorem opens_of_file {target : Location} {old : Text.Utf8.Bytes}
    (houter : disk.locateOuter path = .ok (outer, some name))
    (h : disk.enter outer name = .ok target) (hold : disk.lookup target = some (.file old)) :
    disk.Opens path outer name ∧ target = outer ++ [name] := by
  obtain ⟨hshort, hfollow, hlast⟩ := locateOuter_eq_ok_iff.mp houter
  have hpresent := present_of_follow (by simp [lookup_start]) hfollow
  obtain ⟨hdirectory, hinner⟩ := enter_eq_ok_iff.mp h
  split at hinner
  · rw [hinner, lookup_dropLast hpresent] at hold
    cases hold
  · next hdots =>
      obtain ⟨hfits, -, rfl⟩ := hinner
      exact ⟨⟨hshort, hlast, hfollow, hdirectory, hdots, hfits, by simp [hold]⟩, rfl⟩

theorem readFile_eq_ok_iff {content : Text.Utf8.Bytes} :
    disk.readFile path = .ok content ↔
      ∃ place, disk.locate path = .ok place ∧ disk.lookup place = some (.file content) := by
  unfold readFile node
  cases disk.locate path with
  | error errno => simp
  | ok place =>
      rcases hnode : disk.lookup place with _ | _ | old <;> simp [hnode]

theorem makeDirectory_eq_ok_iff :
    disk.makeDirectory path = .ok after ↔
      ∃ outer name, disk.Opens path outer name ∧ disk.lookup (outer ++ [name]) = none ∧
        after = disk.put (outer ++ [name]) .directory := by
  constructor
  · intro h
    unfold makeDirectory at h
    split at h
    · cases h
    · cases h
    · next outer name houter =>
        split at h
        · cases h
        · next hnoEntry =>
            obtain ⟨hopens, hnone⟩ := opens_of_noEntry houter hnoEntry
            cases h
            exact ⟨outer, name, hopens, hnone, rfl⟩
        · cases h
  · rintro ⟨outer, name, hopens, hnone, rfl⟩
    rw [makeDirectory, hopens.locateOuter]
    simp only [hopens.enter_of_absent hnone]

theorem openFile_eq_ok_iff {opened : Disk} :
    disk.openFile path = .ok (place, opened) ↔
      ∃ outer name, disk.Opens path outer name ∧ place = outer ++ [name] ∧
        opened = disk.put (outer ++ [name]) (.file []) := by
  constructor
  · intro h
    unfold openFile at h
    split at h
    · cases h
    · cases h
    · next outer name houter =>
        split at h
        · next target htarget =>
            split at h
            · next old hold =>
                obtain ⟨hopens, rfl⟩ := opens_of_file houter htarget hold
                cases h
                exact ⟨outer, name, hopens, rfl, rfl⟩
            · cases h
        · next hnoEntry =>
            cases h
            exact ⟨outer, name, (opens_of_noEntry houter hnoEntry).1, rfl, rfl⟩
        · cases h
  · rintro ⟨outer, name, hopens, rfl, rfl⟩
    rw [openFile, hopens.locateOuter]
    cases hplace : disk.lookup (outer ++ [name]) with
    | none => simp only [hopens.enter_of_absent hplace]
    | some node =>
        cases node with
        | directory => exact absurd hplace hopens.not_directory
        | file old => simp only [hopens.enter_of_present hplace, hplace]

theorem writeFile_eq_ok_iff {content : Text.Utf8.Bytes} :
    disk.writeFile path content = .ok after ↔
      ∃ outer name, disk.Opens path outer name ∧
        after = disk.put (outer ++ [name]) (.file content) := by
  constructor
  · intro h
    unfold writeFile at h
    split at h
    · cases h
    · next place opened hopened =>
        obtain ⟨outer, name, hopens, rfl, rfl⟩ := openFile_eq_ok_iff.mp hopened
        cases h
        exact ⟨outer, name, hopens, disk.put_put (outer ++ [name]) [] (.file content)⟩
  · rintro ⟨outer, name, hopens, rfl⟩
    rw [writeFile, openFile_eq_ok_iff.mpr ⟨outer, name, hopens, rfl, rfl⟩]
    exact congrArg Except.ok (disk.put_put (outer ++ [name]) [] (.file content))

/-- A write is refused exactly if the opening of the file is, whatever the content. -/
theorem writeFile_eq_error_iff {content : Text.Utf8.Bytes} {errno : Errno} :
    disk.writeFile path content = .error errno ↔ disk.openFile path = .error errno := by
  unfold writeFile
  cases disk.openFile path with
  | error other => simp
  | ok opened => simp

namespace Opens

theorem lookup_put (h : disk.Opens path outer name) (node : Node) (place : Location) :
    (disk.put (outer ++ [name]) node).lookup place =
      if place = outer ++ [name] then some node else disk.lookup place :=
  disk.lookup_put outer place name node h.directory h.not_directory

theorem grows (h : disk.Opens path outer name) (node : Node) :
    Grows disk (disk.put (outer ++ [name]) node) where
  current := rfl
  directory := by
    intro place hdirectory
    exact disk.root.lookup_put_directory _ place node hdirectory
  present := by
    intro place hpresent
    rw [h.lookup_put]
    split
    · simp
    · exact hpresent

/-- What was put is found under the path. -/
theorem follow_put (h : disk.Opens path outer name) (node : Node) :
    (disk.put (outer ++ [name]) node).follow (disk.start path) path.parts =
      .ok (outer ++ [name]) := by
  obtain ⟨front, hparts⟩ := List.getLast?_eq_some_iff.mp h.last
  have houter := h.follow_outer
  have hgrows := h.grows node
  rw [hparts, List.dropLast_concat] at houter
  rw [hparts, follow_append, hgrows.follow houter]
  simp only [follow_singleton]
  refine enter_eq_ok_iff.mpr ⟨hgrows.directory h.directory, ?_⟩
  rw [if_neg h.ne_dots, h.lookup_put, if_pos rfl]
  exact ⟨h.fits, by simp, rfl⟩

theorem locate_put (h : disk.Opens path outer name) (node : Node) :
    (disk.put (outer ++ [name]) node).locate path = .ok (outer ++ [name]) := by
  rw [locate, h.short, if_neg Bool.false_ne_true]
  exact h.follow_put node

theorem node_put (h : disk.Opens path outer name) (node : Node) :
    (disk.put (outer ++ [name]) node).node path = .ok node := by
  have hlookup := h.lookup_put node (outer ++ [name])
  rw [if_pos rfl] at hlookup
  rw [Disk.node, h.locate_put]
  simp only [hlookup]

end Opens

end IndicatorWrap.Disk
