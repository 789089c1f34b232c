import IndicatorWrap.Proofs.CommandLine.EarlyEndings
import IndicatorWrap.Proofs.Machine.Refusals

/-!
Checking the two paths of a run. The system refuses to look up a name that is too long, and an
option that was left with nothing has no path; otherwise there is an answer on each path, and
then a configuration or an error that says what is wrong with one of them.
-/

namespace IndicatorWrap

open World (execute)

/-- Whether the system says if there is something at a path. A path that no call can be made
with is not asked about. -/
def Disk.Tells (disk : Disk) (path : Path) : Prop :=
  path.hasNul ∨ ¬disk.Refuses path

/-- Whether a path leads to a file. -/
def Disk.IsFile (disk : Disk) (path : Path) : Prop :=
  ¬path.hasNul ∧ ∃ content, disk.node path = .ok (.file content)

namespace CommandLine

variable {arguments : List String} {world : World}

/-- What looking at a path comes to. -/
theorem kindAt?_cases (path : Path) (world : World) :
    (world.disk.Tells path ∧ ∃ kind : Option Node.Kind,
      (kind = some .file ↔ world.disk.IsFile path) ∧
      execute (kindAt? path : ExceptT Interruption (StateM World) _) world = (.ok kind, world)) ∨
    ¬world.disk.Tells path ∧ execute (kindAt? path : ExceptT Interruption (StateM World) _) world =
      (.error (.breach (.fault (.refused .nameTooLong path))), world) := by
  rw [kindAt?, execute_adapt, Machine.execute_kind?, Disk.Tells, Disk.IsFile,
    ← Disk.node_eq_nameTooLong_iff]
  by_cases hnul : path.hasNul
  · exact .inl ⟨.inl hnul, none, by simp [hnul], by simp [hnul]⟩
  · rw [if_neg hnul]
    cases hnode : world.disk.node path with
    | ok node =>
        refine .inl ⟨.inr (by simp), some node.kind, ?_, rfl⟩
        cases node with
        | directory => simp [Node.kind]
        | file content => simp [Node.kind, hnul]
    | error errno =>
        rcases Disk.node_error_cases hnode with rfl | rfl | rfl
        · exact .inl ⟨.inr (by simp), none, by simp, rfl⟩
        · exact .inl ⟨.inr (by simp), none, by simp, rfl⟩
        · exact .inr ⟨by simp [hnul], rfl⟩

theorem execute_checkOutput_of_not_tells {path : Path} (h : ¬world.disk.Tells path) :
    execute (checkOutput path) world =
      (.error (.breach (.fault (.refused .nameTooLong path))), world) := by
  rw [checkOutput, World.execute_bind]
  rcases kindAt?_cases path world with ⟨htells, -⟩ | ⟨-, hkind⟩
  · exact absurd htells h
  · rw [hkind]

theorem checkInput_cases (path : Path) (world : World) :
    (¬world.disk.Tells path ∧ ∃ breach, execute (checkInput path) world =
        (.error (.breach breach), world)) ∨
      (world.disk.Tells path ∧ ¬world.disk.IsFile path ∧
        ∃ error : ConfigError, execute (checkInput path) world = (.error (.config error), world)) ∨
      world.disk.Tells path ∧ world.disk.IsFile path ∧
        execute (checkInput path) world = (.ok (), world) := by
  rw [checkInput, World.execute_bind]
  rcases kindAt?_cases path world with ⟨htells, kind, hfile, hkind⟩ | ⟨htells, hkind⟩
  · rw [hkind]
    rcases kind with _ | _ | _
    · exact .inr (.inl ⟨htells, by simp [← hfile], _, rfl⟩)
    · exact .inr (.inl ⟨htells, by simp [← hfile], _, rfl⟩)
    · exact .inr (.inr ⟨htells, hfile.mp rfl, rfl⟩)
  · rw [hkind]
    exact .inl ⟨htells, _, rfl⟩

theorem checkOutput_cases (path : Path) (world : World) :
    (¬world.disk.Tells path ∧ ∃ breach, execute (checkOutput path) world =
        (.error (.breach breach), world)) ∨
      world.disk.Tells path ∧
        ((∃ error : ConfigError,
            execute (checkOutput path) world = (.error (.config error), world)) ∨
          execute (checkOutput path) world = (.ok (), world)) := by
  rcases kindAt?_cases path world with ⟨htells, kind, -, hkind⟩ | ⟨htells, -⟩
  · rw [checkOutput, World.execute_bind, hkind]
    rcases kind with _ | _ | _
    · exact .inr ⟨htells, .inr rfl⟩
    · exact .inr ⟨htells, .inr rfl⟩
    · exact .inr ⟨htells, .inl ⟨_, rfl⟩⟩
  · exact .inl ⟨htells, _, execute_checkOutput_of_not_tells htells⟩

/-- Whether an option names a path at which the system says what there is. -/
def Value.Tells (value : Value) (disk : Disk) : Prop :=
  ∃ text, value = .text text ∧ disk.Tells (.ofText text)

def Value.IsFile (value : Value) (disk : Disk) : Prop :=
  ∃ text, value = .text text ∧ disk.IsFile (.ofText text)

/-- Whether both paths can be checked; the output is looked at only if the input is a file. -/
def Checkable (arguments : List String) (disk : Disk) : Prop :=
  ∀ input output, parse arguments = .ok (.generate input output) →
    input.Tells disk ∧ (input.IsFile disk → output.Tells disk)

@[simp] theorem Value.not_tells_nothing (disk : Disk) : ¬Value.nothing.Tells disk := by
  rintro ⟨text, htext, -⟩
  cases htext

@[simp] theorem Value.tells_text {text : String} {disk : Disk} :
    (Value.text text).Tells disk ↔ disk.Tells (.ofText text) := by
  simp [Value.Tells]

@[simp] theorem Value.isFile_text {text : String} {disk : Disk} :
    (Value.text text).IsFile disk ↔ disk.IsFile (.ofText text) := by
  simp [Value.IsFile]

theorem execute_pathOf_text (text : String) (world : World) :
    execute (pathOf (.text text) : ExceptT Interruption (StateM World) Path) world =
      (.ok (.ofText text), world) :=
  rfl

theorem execute_pathOf_nothing (world : World) :
    execute (pathOf .nothing : ExceptT Interruption (StateM World) Path) world =
      (.error (.breach .noPath), world) :=
  rfl

theorem execute_configure_of_checkOutput {input output : String} {interruption : Interruption}
    (h : parse arguments = .ok (.generate (.text input) (.text output)))
    (hinput : execute (checkInput (.ofText input)) world = (.ok (), world))
    (houtput : execute (checkOutput (.ofText output)) world = (.error interruption, world)) :
    execute (configure arguments) world = (.error interruption, world) := by
  rw [configure, h]
  simp only [World.execute_bind, execute_pathOf_text, hinput, houtput]

/-- What configuring comes to, if the arguments ask for a package: an answer if both paths can
be checked, a breach if not. -/
theorem configure_cases {input output : Value} (h : parse arguments = .ok (.generate input output))
    (world : World) :
    (input.Tells world.disk ∧ (input.IsFile world.disk → output.Tells world.disk)) ∧
      ((∃ error : ConfigError,
          execute (configure arguments) world = (.error (.config error), world)) ∨
        ∃ inputText outputText, input = .text inputText ∧ output = .text outputText ∧
          execute (configure arguments) world =
            (.ok ⟨.ofText inputText, .ofText outputText⟩, world)) ∨
    ¬(input.Tells world.disk ∧ (input.IsFile world.disk → output.Tells world.disk)) ∧
      ∃ breach, execute (configure arguments) world = (.error (.breach breach), world) := by
  rw [configure, h]
  dsimp only
  cases input with
  | nothing =>
      rw [World.execute_bind, execute_pathOf_nothing]
      exact .inr ⟨by simp, _, rfl⟩
  | text inputText =>
      rw [World.execute_bind, execute_pathOf_text]
      dsimp only
      rw [World.execute_bind]
      rcases checkInput_cases (.ofText inputText) world with
        ⟨htells, breach, hcheck⟩ | ⟨htells, hfile, error, hcheck⟩ | ⟨htells, hfile, hcheck⟩
      · rw [hcheck]
        exact .inr ⟨by simp [htells], breach, rfl⟩
      · rw [hcheck]
        exact .inl ⟨by simp [htells, hfile], .inl ⟨error, rfl⟩⟩
      · rw [hcheck]
        dsimp only
        rw [World.execute_bind]
        cases output with
        | nothing =>
            rw [execute_pathOf_nothing]
            exact .inr ⟨by simp [hfile], _, rfl⟩
        | text outputText =>
            rw [execute_pathOf_text]
            dsimp only
            rw [World.execute_bind]
            rcases checkOutput_cases (.ofText outputText) world with
              ⟨htold, breach, hcheck⟩ | ⟨htold, ⟨error, hcheck⟩ | hcheck⟩
            · rw [hcheck]
              exact .inr ⟨by simp [hfile, htold], breach, rfl⟩
            · rw [hcheck]
              exact .inl ⟨by simp [htells, htold], .inl ⟨error, rfl⟩⟩
            · rw [hcheck]
              exact .inl ⟨by simp [htells, htold], .inr ⟨_, _, rfl, rfl, rfl⟩⟩

end CommandLine

end IndicatorWrap
