import IndicatorWrap.Machine.World
import IndicatorWrap.Proofs.Machine.Changes

/-!
What the programs above the calls make of a world. Some only ask and leave it as it
is. Those for directories print nothing, and they change nothing on the disk but for
directories along their path.
-/

namespace IndicatorWrap

open World (execute)

variable {directory path : Path} {names : List String}

/-- Whether writing files with some of these names in a directory, and nothing else,
was done to a world or tried. -/
structure World.Changes (directory : Path) (names : List String) (before after : World) : Prop where
  disk : Disk.Changes directory names before.disk after.disk
  output : after.output = before.output
  errors : after.errors = before.errors

namespace World.Changes

variable {before middle after : World}

theorem refl (directory : Path) (names : List String) (world : World) :
    Changes directory names world world :=
  ⟨.refl directory names world.disk, rfl, rfl⟩

theorem trans (first : Changes directory names before middle)
    (second : Changes directory names middle after) : Changes directory names before after :=
  ⟨first.disk.trans second.disk, second.output.trans first.output,
    second.errors.trans first.errors⟩

theorem mono {more : List String} (h : Changes directory names before after)
    (hsubset : names ⊆ more) : Changes directory more before after :=
  ⟨h.disk.mono hsubset, h.output, h.errors⟩

theorem of_parent (h : Changes directory.parent [] before after) :
    Changes directory [] before after :=
  ⟨h.disk.of_parent, h.output, h.errors⟩

end World.Changes

section Asks

variable {ε α β : Type}

/-- Whether a program leaves every world as it is. -/
def World.Asks (program : ExceptT ε (StateM World) α) : Prop :=
  ∀ world, (execute program world).2 = world

namespace World.Asks

theorem pure (value : α) : Asks (pure value : ExceptT ε (StateM World) α) :=
  fun _ => rfl

theorem throw (error : ε) : Asks (throw error : ExceptT ε (StateM World) α) :=
  fun _ => rfl

theorem world_eq {program : ExceptT ε (StateM World) α} {world after : World} {result : Except ε α}
    (h : Asks program) (hprogram : execute program world = (result, after)) : after = world := by
  rw [← h world, hprogram]

theorem bind {program : ExceptT ε (StateM World) α} {next : α → ExceptT ε (StateM World) β}
    (h : Asks program) (hnext : ∀ value, Asks (next value)) : Asks (program >>= next) := by
  intro world
  rw [execute_bind]
  rcases hprogram : execute program world with ⟨error | value, after⟩
  · exact h.world_eq hprogram
  · exact (hnext value after).trans (h.world_eq hprogram)

end World.Asks

end Asks

namespace Machine

variable {world after : World} {result : Except Fault Unit}

theorem execute_checkPath (path : Path) (world : World) :
    execute (checkPath path : ExceptT Fault (StateM World) Unit) world =
      (if path.hasNul then .error .nulInPath else .ok (), world) := by
  unfold checkPath
  split
  · rfl
  · rfl

theorem checkPath_asks (path : Path) :
    World.Asks (checkPath path : ExceptT Fault (StateM World) Unit) := by
  intro world
  rw [execute_checkPath]

theorem world_eq_of_checkPath
    (h : execute (checkPath path : ExceptT Fault (StateM World) Unit) world = (result, after)) :
    after = world :=
  (checkPath_asks path).world_eq h

theorem run_makeDirectory (path : Path) (world : World) :
    (makeDirectory path : StateM World _).run world =
      match world.disk.makeDirectory path with
      | .ok disk => (.ok (), { world with disk })
      | .error errno => (.error errno, world) :=
  rfl

theorem execute_demand {α : Type} (path : Path) (call : StateM World (Except Errno α))
    (world : World) :
    execute (demand path call : ExceptT Fault (StateM World) α) world =
      ((call.run world).1.mapError fun errno => .refused errno path, (call.run world).2) := by
  unfold demand
  rw [World.execute_lift_bind]
  cases (call.run world).1 with
  | error errno => rfl
  | ok value => rfl

theorem execute_readFile (path : Path) (world : World) :
    execute (demand path (readFile path) : ExceptT Fault (StateM World) _) world =
      ((world.disk.readFile path).mapError fun errno => .refused errno path, world) := by
  rw [execute_demand]
  rfl

theorem execute_writeFile (path : Path) (content : Text.Utf8.Bytes) (world : World) :
    execute (demand path (writeFile path content) : ExceptT Fault (StateM World) Unit) world =
      match world.disk.writeFile path content with
      | .ok disk => (.ok (), { world with disk })
      | .error errno => (.error (.refused errno path), world) := by
  have hrun : (writeFile path content : StateM World _).run world =
      match world.disk.writeFile path content with
      | .ok disk => (.ok (), { world with disk })
      | .error errno => (.error errno, world) := rfl
  rw [execute_demand, hrun]
  cases world.disk.writeFile path content with
  | ok disk => rfl
  | error errno => rfl

theorem run_kind (path : Path) (world : World) :
    (kind path : StateM World _).run world = ((world.disk.node path).map Node.kind, world) :=
  rfl

theorem execute_kind? (path : Path) (world : World) :
    execute (kind? path : ExceptT Fault (StateM World) _) world =
      (if path.hasNul then .ok none
        else match world.disk.node path with
          | .ok node => .ok (some node.kind)
          | .error .noEntry => .ok none
          | .error .notDirectory => .ok none
          | .error errno => .error (.refused errno path), world) := by
  unfold kind?
  split
  · rfl
  · rw [World.execute_lift_bind, run_kind]
    cases world.disk.node path with
    | ok node => rfl
    | error errno => cases errno <;> rfl

theorem kind?_asks (path : Path) :
    World.Asks (kind? path : ExceptT Fault (StateM World) (Option Node.Kind)) := by
  intro world
  rw [execute_kind?]

theorem node_of_kind? {after : World}
    (h : execute (kind? path : ExceptT Fault (StateM World) _) world =
      (.ok (some .directory), after)) : world.disk.node path = .ok .directory := by
  rw [execute_kind?] at h
  have hfound := (Prod.mk.inj h).1
  split at hfound
  · cases hfound
  · split at hfound
    · next node hnode =>
        cases node with
        | directory => exact hnode
        | file content => cases hfound
    · cases hfound
    · cases hfound
    · cases hfound

theorem settleFor_asks (path : Path) (errno : Errno) :
    World.Asks (settleFor path errno : ExceptT Fault (StateM World) Unit) := by
  refine (kind?_asks path).bind fun kind? => ?_
  split
  · exact .pure ()
  · exact .throw _

theorem node_of_settleFor {errno : Errno}
    (h : execute (settleFor path errno : ExceptT Fault (StateM World) Unit) world =
      (.ok (), after)) : world.disk.node path = .ok .directory := by
  obtain ⟨kind?, middle, hkind, hrest⟩ := World.execute_bind_eq_ok_iff.mp h
  split at hrest
  · exact node_of_kind? hkind
  · cases hrest

theorem node_of_makeDirectory {disk : Disk} (h : world.disk.makeDirectory path = .ok disk) :
    disk.node path = .ok .directory := by
  obtain ⟨outer, name, hopens, -, rfl⟩ := Disk.makeDirectory_eq_ok_iff.mp h
  exact hopens.node_put .directory

/-- What is so after a directory was made or it was tried: nothing else was changed,
and all went well only if the directory is there. -/
structure Ensures (path : Path) (world : World) (result : Except Fault Unit) (after : World) :
    Prop where
  changes : World.Changes path [] world after
  node : result = .ok () → after.disk.node path = .ok .directory

namespace Ensures

theorem of_error (fault : Fault) (h : World.Changes path [] world after) :
    Ensures path world (.error fault) after :=
  ⟨h, fun hok => by cases hok⟩

theorem of_made {disk : Disk} (h : world.disk.makeDirectory path = .ok disk) :
    Ensures path world (.ok ()) { world with disk } :=
  ⟨⟨.makeDirectory h, rfl, rfl⟩, fun _ => node_of_makeDirectory h⟩

theorem of_settleFor {errno : Errno}
    (h : execute (settleFor path errno : ExceptT Fault (StateM World) Unit) world =
      (result, after)) : Ensures path world result after := by
  obtain rfl := (settleFor_asks path errno).world_eq h
  refine ⟨.refl path [] after, ?_⟩
  rintro rfl
  exact node_of_settleFor h

end Ensures

theorem of_ensureDirectory
    (h : execute (ensureDirectory path : ExceptT Fault (StateM World) Unit) world =
      (result, after)) : Ensures path world result after := by
  rw [ensureDirectory, World.execute_lift_bind, run_makeDirectory] at h
  cases hmake : world.disk.makeDirectory path with
  | ok disk =>
      rw [hmake] at h
      cases h
      exact .of_made hmake
  | error errno =>
      rw [hmake] at h
      cases errno with
      | noEntry =>
          cases h
          exact .of_error _ (.refl path [] world)
      | _ => exact .of_settleFor h

/-- The directories above are made first, and they are all along the path. -/
theorem of_ensureDirectories {path : Path} {world after : World} {result : Except Fault Unit}
    (h : execute (ensureDirectories path : ExceptT Fault (StateM World) Unit) world =
      (result, after)) : Ensures path world result after := by
  rw [ensureDirectories, World.execute_lift_bind, run_makeDirectory] at h
  cases hmake : world.disk.makeDirectory path with
  | ok disk =>
      rw [hmake] at h
      cases h
      exact .of_made hmake
  | error errno =>
      rw [hmake] at h
      cases errno with
      | noEntry =>
          by_cases hparts : path.parts = []
          · simp only [hparts, dite_true] at h
            cases h
            exact .of_error _ (.refl path [] world)
          · -- the directories above are ensured by the same program, on a shorter path
            simp only [hparts, dite_false] at h
            rcases World.execute_bind_eq_iff.mp h with
              ⟨_, middle, hparent, hlast⟩ | ⟨fault, hparent, rfl⟩
            · have hfirst := of_ensureDirectories hparent
              have hlast := of_ensureDirectory hlast
              exact ⟨hfirst.changes.of_parent.trans hlast.changes, hlast.node⟩
            · exact .of_error _ (of_ensureDirectories hparent).changes.of_parent
      | _ => exact .of_settleFor h
termination_by path.parts.length
decreasing_by
  all_goals
    have := List.length_pos_iff.mpr hparts
    simp only [Path.parent, List.length_dropLast]
    omega

end Machine

end IndicatorWrap
