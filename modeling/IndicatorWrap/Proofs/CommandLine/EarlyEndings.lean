import IndicatorWrap.CommandLine.Run
import IndicatorWrap.Proofs.Package.Stages
import Mathlib.Control.Monad.Basic

/-!
Runs that end before they write. Up to the writing of the package a run reads and
prints only; so a run that ends because of its arguments, its paths, its input or any of
the declarations in it leaves the disk exactly as it was.
-/

namespace IndicatorWrap

open World (execute)

namespace CommandLine

variable {arguments : List String} {world last : World}

theorem kindAt?_asks (path : Path) :
    World.Asks (kindAt? path : ExceptT Interruption (StateM World) _) := by
  intro world
  rw [kindAt?, execute_adapt]
  exact Machine.kind?_asks path world

theorem pathOf_asks (value : Value) :
    World.Asks (pathOf value : ExceptT Interruption (StateM World) _) := by
  cases value with
  | text text => exact .pure _
  | nothing => exact .throw _

theorem checkInput_asks (path : Path) :
    World.Asks (checkInput path : ExceptT Interruption (StateM World) _) := by
  refine (kindAt?_asks path).bind fun kind => ?_
  rcases kind with _ | _ | _
  · exact .throw _
  · exact .throw _
  · exact .pure _

theorem checkOutput_asks (path : Path) :
    World.Asks (checkOutput path : ExceptT Interruption (StateM World) _) := by
  refine (kindAt?_asks path).bind fun kind => ?_
  rcases kind with _ | _ | _
  · exact .pure _
  · exact .pure _
  · exact .throw _

theorem execute_configure_of_usageError {error : UsageError} (h : parse arguments = .error error)
    (world : World) :
    execute (configure arguments : ExceptT Interruption (StateM World) Config) world =
      (.error (.exit 2), { world with errors := world.errors ++ error.report }) := by
  rw [configure, h]
  rfl

theorem execute_configure_of_help (h : parse arguments = .ok .help) (world : World) :
    execute (configure arguments : ExceptT Interruption (StateM World) Config) world =
      (.error (.exit 0), world.printed helpText) := by
  rw [configure, h]
  rfl

theorem configure_asks {input output : Value} (h : parse arguments = .ok (.generate input output)) :
    World.Asks (configure arguments : ExceptT Interruption (StateM World) Config) := by
  rw [configure, h]
  exact (pathOf_asks input).bind fun inputPath =>
    (checkInput_asks inputPath).bind fun _ =>
      (pathOf_asks output).bind fun outputPath =>
        (checkOutput_asks outputPath).bind fun _ => .pure _

/-- Unless configuring ends the run, it leaves everything as it is. -/
theorem of_configure {result : Except Interruption Config}
    (h : execute (configure arguments : ExceptT Interruption (StateM World) Config) world =
      (result, last)) : (∃ status, result = .error (.exit status)) ∨ last = world := by
  cases hparse : parse arguments with
  | error error =>
      rw [execute_configure_of_usageError hparse] at h
      exact .inl ⟨2, (Prod.mk.inj h).1.symm⟩
  | ok invocation =>
      cases invocation with
      | help =>
          rw [execute_configure_of_help hparse] at h
          exact .inl ⟨0, (Prod.mk.inj h).1.symm⟩
      | generate input output => exact .inr ((configure_asks hparse).world_eq h)

/-- A run, by what configuring and generation come to. -/
theorem run_eq (arguments : List String) (world : World) :
    (run arguments : StateM World Ending).run world =
      match execute (configure arguments) world with
      | (.error (.exit status), last) => (.exited status, last)
      | (.error (.breach breach), last) => (.broken breach, last)
      | (.error (.config error), last) =>
        (.exited 1, last.printed (reportText "Config error" error.report))
      | (.ok config, start) =>
        match execute (generate config.input config.output) start with
        | (.ok _, last) => (.completed, last)
        | (.error failure, last) => (.exited 1, last.printed (failureText failure)) := by
  rw [run, World.run_bind]
  rcases execute (configure arguments) world with ⟨(status | error | breach) | config, start⟩
  · rfl
  · rfl
  · rfl
  · simp only [World.run_bind]
    rcases execute (generate config.input config.output) start with ⟨failure | report, last⟩
    · rfl
    · rfl

/-- Why generation fails before it writes: the input cannot be read, or a declaration
in it is refused. -/
inductive FailsEarly (input output : Path) (world : World) : Prop where
  | reading {fault : Fault} (h : world.disk.readText input = .error fault)
  | generation {error : GenerationError}
    (h : (execute (generate input output : ExceptT Failure (StateM World) PackageReport) world).1 =
      .error (.generation error))

theorem FailsEarly.execute_generate {input output : Path} (h : FailsEarly input output world) :
    ∃ failure text,
      execute (generate input output : ExceptT Failure (StateM World) PackageReport) world =
        (.error failure, world.printed text) := by
  cases h with
  | reading h => exact ⟨_, _, execute_generate_of_unreadable h⟩
  | generation h =>
      obtain ⟨text, hlast⟩ := printed_of_generationError (Prod.ext h rfl)
      exact ⟨_, text, Prod.ext h hlast⟩

/-- Why a run ends before it writes. -/
inductive EndsEarly (arguments : List String) (world : World) : Prop where
  | usage {error : UsageError} (h : parse arguments = .error error)
  | config {error : ConfigError}
    (h : (execute (configure arguments : ExceptT Interruption (StateM World) Config) world).1 =
      .error (.config error))
  | generation {config : Config}
    (hconfig : (execute (configure arguments : ExceptT Interruption (StateM World) Config) world).1 =
      .ok config)
    (h : FailsEarly config.input config.output world)

/-- Nothing is written, and no directory made, by a run that ends for a reason other
than the disk it writes to. -/
theorem unwritten_of_endsEarly (world : World) :
    (∀ input output, FailsEarly input output world →
      ∃ failure last,
        execute (generate input output : ExceptT Failure (StateM World) PackageReport) world =
          (.error failure, last) ∧ last.disk = world.disk) ∧
    ∀ arguments, EndsEarly arguments world →
      ∃ status last, (run arguments : StateM World Ending).run world = (.exited status, last) ∧
        status ≠ 0 ∧ last.disk = world.disk := by
  refine ⟨fun input output h => ?_, fun arguments h => ?_⟩
  · obtain ⟨failure, text, hgenerate⟩ := h.execute_generate
    exact ⟨failure, _, hgenerate, rfl⟩
  · rw [run_eq]
    cases h with
    | usage h =>
        rw [execute_configure_of_usageError h]
        exact ⟨2, _, rfl, by decide, rfl⟩
    | config h =>
        -- a refused path leaves the world as it was; only then is the report printed
        rcases hconfigure : execute (configure arguments) world with ⟨result, last⟩
        rw [hconfigure] at h
        obtain rfl := h
        rcases of_configure hconfigure with ⟨status, hexit⟩ | rfl
        · cases hexit
        · exact ⟨1, _, rfl, by decide, rfl⟩
    | generation hconfig h =>
        rcases hconfigure : execute (configure arguments) world with ⟨result, start⟩
        rw [hconfigure] at hconfig
        obtain rfl := hconfig
        rcases of_configure hconfigure with ⟨status, hexit⟩ | rfl
        · cases hexit
        · obtain ⟨failure, text, hgenerate⟩ := h.execute_generate
          simp only [hgenerate]
          exact ⟨1, _, rfl, by decide, rfl⟩

/-- Two declarations, the second with a type that no table holds. -/
def refusedText : String :=
  "pub fn TA_A(inX: *f64, outBegIdx: int, outNBElement: int, outX: *f64)pub fn TA_B(inX: W)"

def refusedWorld : World :=
  .ofDisk
    { current := ["home"]
      root := .subdirectory "home"
        (.file "in.rs" (Text.Utf8.encode refusedText.toList) .empty) .empty
      current_directory := rfl }

def refusedArguments : List String := ["-i", "in.rs", "-o", "wrappers/talib"]

theorem refused_unwritten :
    FailsEarly (.ofText "in.rs") (.ofText "wrappers/talib") refusedWorld ∧
      EndsEarly refusedArguments refusedWorld ∧
      (∃ failure last,
        execute (generate (.ofText "in.rs") (.ofText "wrappers/talib") :
            ExceptT Failure (StateM World) PackageReport) refusedWorld = (.error failure, last) ∧
          last.disk = refusedWorld.disk) ∧
      ∃ status last,
        (run refusedArguments : StateM World Ending).run refusedWorld = (.exited status, last) ∧
          status ≠ 0 ∧ last.disk = refusedWorld.disk := by
  have hconfig : (execute (configure refusedArguments : ExceptT Interruption (StateM World) Config)
      refusedWorld).1 = .ok ⟨.ofText "in.rs", .ofText "wrappers/talib"⟩ := by
    decide +kernel
  have hrefused : (execute (generate (.ofText "in.rs") (.ofText "wrappers/talib") :
      ExceptT Failure (StateM World) PackageReport) refusedWorld).1 =
        .error (.generation (.typeResolution ⟨.unknownScalar, "W", some ("TA_B", "inX")⟩)) := by
    decide +kernel
  have hfails := FailsEarly.generation hrefused
  have hends := EndsEarly.generation hconfig hfails
  exact ⟨hfails, hends, (unwritten_of_endsEarly refusedWorld).1 _ _ hfails,
    (unwritten_of_endsEarly refusedWorld).2 _ hends⟩

end CommandLine

end IndicatorWrap
