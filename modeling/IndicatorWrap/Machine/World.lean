import IndicatorWrap.Machine.Basic

/-!
A machine to reason about: a disk and what was printed on the two streams. What
a program does to it is a function from worlds to worlds, and the lemmas say
how the parts of a program make up that function.
-/

namespace IndicatorWrap

structure World where
  disk : Disk
  output : String
  errors : String

namespace World

/-- A world with nothing printed yet. -/
def ofDisk (disk : Disk) : World :=
  ⟨disk, "", ""⟩

/-- Makes a call that changes the disk unless it is refused. -/
def change (edit : Disk → Except Errno Disk) : StateM World (Except Errno Unit) := fun world =>
  match edit world.disk with
  | .ok disk => (.ok (), { world with disk })
  | .error errno => (.error errno, world)

instance : Machine (StateM World) where
  kind path := fun world => ((world.disk.node path).map Node.kind, world)
  readFile path := fun world => (world.disk.readFile path, world)
  writeFile path content := change fun disk => disk.writeFile path content
  makeDirectory path := change fun disk => disk.makeDirectory path
  locate path := fun world => (((world.disk.locate path).toOption).getD [], world)
  print text := fun world => ((), { world with output := world.output ++ text })
  complain text := fun world => ((), { world with errors := world.errors ++ text })

variable {ε α β : Type}

/-- What a program that may fail makes of a world. -/
def execute (program : ExceptT ε (StateM World) α) (world : World) : Except ε α × World :=
  program.run.run world

@[simp] theorem execute_pure (value : α) (world : World) :
    execute (pure value : ExceptT ε (StateM World) α) world = (.ok value, world) := rfl

@[simp] theorem execute_throw (error : ε) (world : World) :
    execute (throw error : ExceptT ε (StateM World) α) world = (.error error, world) := rfl

@[simp] theorem execute_lift (program : StateM World α) (world : World) :
    execute (liftM program : ExceptT ε (StateM World) α) world =
      (.ok (program.run world).1, (program.run world).2) := rfl

/-- What follows a failure is not executed, and what was done before it stays. -/
theorem execute_bind (program : ExceptT ε (StateM World) α)
    (next : α → ExceptT ε (StateM World) β) (world : World) :
    execute (program >>= next) world =
      match execute program world with
      | (.ok value, after) => execute (next value) after
      | (.error error, after) => (.error error, after) := by
  unfold execute
  rcases h : program.run.run world with ⟨_ | _, after⟩ <;>
    simp [ExceptT.run_bind, StateT.run_bind, h] <;> rfl

/-- A run of a program and what follows it: all went well so far and the rest is
executed, or the program failed and so does the whole. -/
theorem execute_bind_eq_iff {program : ExceptT ε (StateM World) α}
    {next : α → ExceptT ε (StateM World) β} {world after : World} {result : Except ε β} :
    execute (program >>= next) world = (result, after) ↔
      (∃ value middle, execute program world = (.ok value, middle) ∧
        execute (next value) middle = (result, after)) ∨
      ∃ error, execute program world = (.error error, after) ∧ result = .error error := by
  rw [execute_bind]
  rcases execute program world with ⟨_ | _, middle⟩ <;> grind

theorem execute_bind_eq_ok_iff {program : ExceptT ε (StateM World) α}
    {next : α → ExceptT ε (StateM World) β} {world after : World} {result : β} :
    execute (program >>= next) world = (.ok result, after) ↔
      ∃ value middle, execute program world = (.ok value, middle) ∧
        execute (next value) middle = (.ok result, after) := by
  simp [execute_bind_eq_iff]

theorem execute_lift_bind (program : StateM World α) (next : α → ExceptT ε (StateM World) β)
    (world : World) :
    execute (liftM program >>= next) world =
      execute (next (program.run world).1) (program.run world).2 := by
  rw [execute_bind, execute_lift]

/-- What follows a program whose outcome is looked at goes on from there. -/
theorem run_bind (program : ExceptT ε (StateM World) α) (next : Except ε α → StateM World β)
    (world : World) :
    (program.run >>= next).run world =
      (next (execute program world).1).run (execute program world).2 := rfl

end World

end IndicatorWrap
