import IndicatorWrap.Proofs.CommandLine.Spellings
import IndicatorWrap.Proofs.Package.Outcomes

/-!
How runs end. A run whose paths can be checked ends with the package on the disk, with help, or
with a status other than 0 and one message on what was wrong. Nothing but checking the paths can
break a run off, because every fault that generation may meet is reported.
-/

namespace IndicatorWrap

open World (execute)

namespace CommandLine

variable {arguments : List String} {world : World}

/-- How a run ends that is not broken off. What it printed on the way is as generation says,
and a run that failed printed one message behind that. -/
inductive Ends (arguments : List String) (world : World) : Ending → World → Prop where
  | help (h : parse arguments = .ok .help) :
      Ends arguments world (.exited 0) { world with output := world.output ++ helpText }
  | usage {error : UsageError} (h : parse arguments = .error error) :
      Ends arguments world (.exited 2) { world with errors := world.errors ++ error.report }
  | config {input output : Value} (error : ConfigError)
      (h : parse arguments = .ok (.generate input output)) :
      Ends arguments world (.exited 1)
        { world with output := world.output ++ reportText "Config error" error.report }
  | failed {input output said : String} {failure : Failure} {disk : Disk}
      (h : parse arguments = .ok (.generate (.text input) (.text output)))
      (hgenerates :
        Generates (.ofText input) (.ofText output) world.disk (.error failure) said disk) :
      Ends arguments world (.exited 1)
        ⟨disk, world.output ++ said ++ failureText failure, world.errors⟩
  | completed {input output said : String} {report : PackageReport} {disk : Disk}
      (h : parse arguments = .ok (.generate (.text input) (.text output)))
      (hgenerates : Generates (.ofText input) (.ofText output) world.disk (.ok report) said disk) :
      Ends arguments world .completed ⟨disk, world.output ++ said, world.errors⟩

theorem Ends.not_broken {breach : Breach} {last : World} :
    ¬Ends arguments world (.broken breach) last := by
  intro h
  cases h

/-- Where no package is asked for there is nothing to check. -/
theorem checkable_of_not_generate
    (h : ∀ input output, parse arguments ≠ .ok (.generate input output)) (disk : Disk) :
    Checkable arguments disk :=
  fun input output hparse => absurd hparse (h input output)

theorem checkable_iff {input output : Value} (h : parse arguments = .ok (.generate input output))
    (disk : Disk) :
    Checkable arguments disk ↔ input.Tells disk ∧ (input.IsFile disk → output.Tells disk) := by
  constructor
  · intro hcheckable
    exact hcheckable input output h
  · intro htells otherInput otherOutput hother
    cases h.symm.trans hother
    exact htells

theorem run_of_breach {breach : Breach} {last : World}
    (h : execute (configure arguments) world = (.error (.breach breach), last)) :
    (run arguments : StateM World Ending).run world = (.broken breach, last) := by
  rw [run_eq, h]

/-- A run of generation ends as generation does. -/
theorem ends_of_generates {input output : String}
    (h : parse arguments = .ok (.generate (.text input) (.text output))) (world : World) :
    let (ending, last) :=
      match execute (generate (.ofText input) (.ofText output)) world with
      | (.ok _, last) => (Ending.completed, last)
      | (.error failure, last) => (.exited 1, last.printed (failureText failure))
    Ends arguments world ending last := by
  obtain ⟨said, hgenerates, houtput, herrors⟩ := generates (.ofText input) (.ofText output) world
  generalize execute (generate (.ofText input) (.ofText output)) world = outcome at *
  rcases outcome with ⟨failure | report, last⟩
  · have hends := Ends.failed h hgenerates
    rw [← houtput, ← herrors] at hends
    exact hends
  · have hends := Ends.completed h hgenerates
    rw [← houtput, ← herrors] at hends
    exact hends

/-- A run ends, with the package, with help or with one message, exactly if both paths can be
checked. Otherwise it is broken off, and has done nothing yet. -/
theorem ends_iff_checkable (arguments : List String) (world : World) :
    let (ending, last) := (run arguments : StateM World Ending).run world
    (Ends arguments world ending last ↔ Checkable arguments world.disk) ∧
      (¬Checkable arguments world.disk → last = world ∧ ∃ breach, ending = .broken breach) := by
  rw [run_eq]
  cases hparse : parse arguments with
  | error error =>
      have hcheckable : Checkable arguments world.disk :=
        checkable_of_not_generate (by simp [hparse]) world.disk
      rw [execute_configure_of_usageError hparse]
      exact ⟨⟨fun _ => hcheckable, fun _ => .usage hparse⟩, fun hnot => absurd hcheckable hnot⟩
  | ok request =>
      cases request with
      | help =>
          have hcheckable : Checkable arguments world.disk :=
            checkable_of_not_generate (by simp [hparse]) world.disk
          rw [execute_configure_of_help hparse]
          exact ⟨⟨fun _ => hcheckable, fun _ => .help hparse⟩, fun hnot => absurd hcheckable hnot⟩
      | generate input output =>
          rw [checkable_iff hparse]
          rcases configure_cases hparse world with
            ⟨htells, ⟨error, hconfigure⟩ | ⟨inputText, outputText, rfl, rfl, hconfigure⟩⟩ |
              ⟨htells, breach, hconfigure⟩
          · rw [hconfigure]
            exact ⟨⟨fun _ => htells, fun _ => .config error hparse⟩, fun hnot => absurd htells hnot⟩
          · rw [hconfigure]
            have hends := ends_of_generates hparse world
            exact ⟨⟨fun _ => htells, fun _ => hends⟩, fun hnot => absurd htells hnot⟩
          · rw [hconfigure]
            exact ⟨⟨fun hends => absurd hends Ends.not_broken, fun htold => absurd htold htells⟩,
              fun _ => ⟨rfl, breach, rfl⟩⟩

/-- A name of one byte more than the system takes. -/
def longName : String :=
  String.ofList (List.replicate (Disk.maxNameBytes + 1) 'a')

theorem longName_toList : longName.toList = List.replicate 256 'a' :=
  String.toList_ofList

theorem isPart_longName : Path.IsPart longName := by
  have hother : ∀ text : String, text.toList ≠ List.replicate 256 'a' → longName ≠ text := by
    rintro text h rfl
    exact h longName_toList
  refine Path.isPart_iff.mpr ⟨hother "" (by decide +kernel), hother "." (by decide +kernel), ?_⟩
  rw [longName_toList]
  decide +kernel

theorem not_tells_longName (disk : Disk) : ¬disk.Tells (.ofText longName) := by
  have hlong : ¬Disk.FitsName longName := by
    unfold Disk.FitsName
    rw [longName_toList]
    decide +kernel
  rintro (hnul | hnode)
  · rw [isPart_longName, Path.hasNul] at hnul
    simp only [List.any_cons, List.any_nil, longName_toList] at hnul
    exact absurd hnul (by decide +kernel)
  · exact hnode (Disk.refuses_of_long isPart_longName hlong disk)

/-- The directory for the output may have such a name. Then the run is broken off by the
refusal, and no message is printed. -/
theorem longName_breaks_off :
    (run ["-i", "in.rs", "-o", longName] : StateM World Ending).run refusedWorld =
        (.broken (.fault (.refused .nameTooLong (.ofText longName))), refusedWorld) ∧
      ¬Ends ["-i", "in.rs", "-o", longName] refusedWorld
        (.broken (.fault (.refused .nameTooLong (.ofText longName)))) refusedWorld := by
  have hparse : parse ["-i", "in.rs", "-o", longName] =
      .ok (.generate (.text "in.rs") (.text longName)) := by
    refine parse_short (by decide) ?_
    rw [longName_toList]
    decide +kernel
  have hinput : execute (checkInput (.ofText "in.rs")) refusedWorld = (.ok (), refusedWorld) :=
    Prod.ext (by decide +kernel) (checkInput_asks _ _)
  have hconfigure : execute (configure ["-i", "in.rs", "-o", longName]) refusedWorld =
      (.error (.breach (.fault (.refused .nameTooLong (.ofText longName)))), refusedWorld) :=
    execute_configure_of_checkOutput hparse hinput
      (execute_checkOutput_of_not_tells (not_tells_longName _))
  exact ⟨run_of_breach hconfigure, Ends.not_broken⟩

end CommandLine

end IndicatorWrap
