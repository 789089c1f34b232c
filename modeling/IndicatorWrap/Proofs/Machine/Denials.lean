import IndicatorWrap.Proofs.Machine.Refusals
import IndicatorWrap.Proofs.Machine.Rewrites

/-!
Why a file cannot be written into a directory. Whatever the fault, it is met before the
file is touched: no call can be made with a path, a directory along the path is not there
and cannot be made, or the file cannot be opened.
-/

namespace IndicatorWrap

open World (execute)

namespace Disk

variable {disk : Disk} {path : Path}

/-- Whether a directory is not there and cannot be made. -/
structure Unmakeable (disk : Disk) (path : Path) (errno : Errno) : Prop where
  refused : disk.makeDirectory path = .error errno
  absent : disk.node path ≠ .ok .directory

theorem unmakeable_of_noEntry (h : disk.makeDirectory path = .error .noEntry) :
    disk.Unmakeable path .noEntry := by
  refine ⟨h, fun hdirectory => ?_⟩
  rw [makeDirectory_of_directory hdirectory] at h
  cases h

end Disk

theorem Path.hasNul_parent {path : Path} (h : path.hasNul = false) :
    path.parent.hasNul = false := by
  unfold Path.hasNul at h ⊢
  rw [List.any_eq_false] at h ⊢
  exact fun part hpart => h part ((List.dropLast_prefix _).subset hpart)

namespace Machine

variable {path : Path} {disk : Disk} {world after : World} {fault : Fault} {errno : Errno}

/-- Why the directories along a path cannot be ensured: one of them is not there and
cannot be made. -/
inductive Blocked (path : Path) (disk : Disk) : Fault → Prop where
  | unmakeable {parts : List String} {errno : Errno} (hfront : parts <+: path.parts)
      (h : disk.Unmakeable { path with parts } errno) :
      Blocked path disk (.refused errno { path with parts })

theorem Blocked.self (h : disk.Unmakeable path errno) : Blocked path disk (.refused errno path) :=
  .unmakeable (List.prefix_refl path.parts) h

theorem Blocked.of_parent (h : Blocked path.parent disk fault) : Blocked path disk fault := by
  cases h with
  | unmakeable hfront h => exact .unmakeable (hfront.trans (List.dropLast_prefix _)) h

theorem of_checkPath_error
    (h : execute (checkPath path : ExceptT Fault (StateM World) Unit) world =
      (.error fault, after)) : path.hasNul ∧ fault = .nulInPath := by
  rw [execute_checkPath] at h
  cases hnul : path.hasNul with
  | true =>
      rw [hnul] at h
      cases h
      exact ⟨rfl, rfl⟩
  | false =>
      rw [hnul] at h
      cases h

theorem blocked_of_settleFor (hclean : path.hasNul = false)
    (hmake : world.disk.makeDirectory path = .error errno)
    (h : execute (settleFor path errno : ExceptT Fault (StateM World) Unit) world =
      (.error fault, after)) : Blocked path after.disk fault := by
  obtain rfl := (settleFor_asks path errno).world_eq h
  rw [settleFor, World.execute_bind, execute_kind?, hclean, if_neg Bool.false_ne_true] at h
  cases hnode : after.disk.node path with
  | ok node =>
      rw [hnode] at h
      cases node with
      | directory => cases h
      | file content =>
          cases h
          exact .self ⟨hmake, by simp [hnode]⟩
  | error other =>
      have habsent : after.disk.node path ≠ .ok .directory := by simp [hnode]
      rw [hnode] at h
      rcases Disk.node_error_cases hnode with rfl | rfl | rfl
      · cases h
        exact .self ⟨hmake, habsent⟩
      · cases h
        exact .self ⟨hmake, habsent⟩
      · -- the question whether the directory is there is refused in turn, as its making was
        cases h
        exact .self ⟨(Disk.node_eq_nameTooLong_iff.mp hnode).makeDirectory, habsent⟩

theorem blocked_of_ensureDirectory (hclean : path.hasNul = false)
    (h : execute (ensureDirectory path : ExceptT Fault (StateM World) Unit) world =
      (.error fault, after)) : Blocked path after.disk fault := by
  rw [ensureDirectory, World.execute_lift_bind, run_makeDirectory] at h
  cases hmake : world.disk.makeDirectory path with
  | ok disk =>
      rw [hmake] at h
      cases h
  | error errno =>
      rw [hmake] at h
      cases errno with
      | noEntry =>
          cases h
          exact .self (Disk.unmakeable_of_noEntry hmake)
      | _ => exact blocked_of_settleFor hclean hmake h

/-- The directories above are ensured by the same program, on a shorter path. -/
theorem blocked_of_ensureDirectories {path : Path} {world after : World} {fault : Fault}
    (hclean : path.hasNul = false)
    (h : execute (ensureDirectories path : ExceptT Fault (StateM World) Unit) world =
      (.error fault, after)) : Blocked path after.disk fault := by
  rw [ensureDirectories, World.execute_lift_bind, run_makeDirectory] at h
  cases hmake : world.disk.makeDirectory path with
  | ok disk =>
      rw [hmake] at h
      cases h
  | error errno =>
      rw [hmake] at h
      cases errno with
      | noEntry =>
          by_cases hparts : path.parts = []
          · simp only [hparts, dite_true] at h
            cases h
            exact .self (Disk.unmakeable_of_noEntry hmake)
          · simp only [hparts, dite_false] at h
            rcases World.execute_bind_eq_iff.mp h with
              ⟨_, middle, hparent, hlast⟩ | ⟨_, hparent, hfault⟩
            · exact blocked_of_ensureDirectory hclean hlast
            · cases hfault
              exact (blocked_of_ensureDirectories (Path.hasNul_parent hclean) hparent).of_parent
      | _ => exact blocked_of_settleFor hclean hmake h
termination_by path.parts.length
decreasing_by
  have := List.length_pos_iff.mpr hparts
  simp only [Path.parent, List.length_dropLast]
  omega

end Machine

/-- Why a file cannot be written into a directory: no call can be made with its path or with
that of the directory, the directory cannot be ensured, or the file cannot be opened. -/
inductive Denied (directory : Path) (filename : String) (disk : Disk) : Fault → Prop where
  | nulInPath (h : directory.hasNul ∨ (directory.join filename).hasNul) :
      Denied directory filename disk .nulInPath
  | blocked {fault : Fault} (h : Machine.Blocked directory disk fault) :
      Denied directory filename disk fault
  | unopened {errno : Errno} (h : disk.openFile (directory.join filename) = .error errno) :
      Denied directory filename disk (.refused errno (directory.join filename))

end IndicatorWrap
