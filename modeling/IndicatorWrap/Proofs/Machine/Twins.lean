import IndicatorWrap.Package.Writer
import IndicatorWrap.Proofs.Machine.Programs

/-!
Two runs that differ in the content of one file. No call but reading tells the content of a file,
so that a program that does not read does the same on two disks that differ in nothing else. The
difference stays where it is, or it is written over on both disks at once.
-/

namespace IndicatorWrap

open Text.Utf8 (Bytes)
open World (execute)

/-- Whether two disks are equal but for the file at a place, which has one content on the first
and another on the second, or has become the same on both. -/
structure Disk.Twins (place : Location) (one other : Bytes) (first second : Disk) : Prop where
  current : first.current = second.current
  elsewhere : ∀ target ≠ place, first.lookup target = second.lookup target
  here : first.lookup place = second.lookup place ∨
    first.lookup place = some (.file one) ∧ second.lookup place = some (.file other)

namespace Disk.Twins

variable {place : Location} {one other : Bytes} {first second : Disk}

theorem kind_eq (h : Twins place one other first second) (target : Location) :
    (first.lookup target).map Node.kind = (second.lookup target).map Node.kind := by
  by_cases htarget : target = place
  · rcases h.here with hsame | ⟨hone, hother⟩
    · rw [htarget, hsame]
    · rw [htarget, hone, hother]
      rfl
  · rw [h.elsewhere target htarget]

theorem isSome_eq (h : Twins place one other first second) (target : Location) :
    (first.lookup target).isSome = (second.lookup target).isSome := by
  simpa using congrArg Option.isSome (h.kind_eq target)

theorem file_iff (h : Twins place one other first second) (target : Location) :
    (∃ content, first.lookup target = some (.file content)) ↔
      ∃ content, second.lookup target = some (.file content) := by
  have hfile : ∀ node? : Option Node,
      (∃ content, node? = some (.file content)) ↔ node?.map Node.kind = some .file := by
    rintro (_ | _ | content) <;> simp [Node.kind]
  rw [hfile, hfile, h.kind_eq]

theorem directory_iff (h : Twins place one other first second) (target : Location) :
    first.lookup target = some .directory ↔ second.lookup target = some .directory := by
  have hdirectory : ∀ node? : Option Node,
      node? = some .directory ↔ node?.map Node.kind = some .directory := by
    rintro (_ | _ | content) <;> simp [Node.kind]
  rw [hdirectory, hdirectory, h.kind_eq]

theorem enter_eq (h : Twins place one other first second) (target : Location) (name : String) :
    first.enter target name = second.enter target name := by
  have hkind := h.kind_eq target
  unfold enter
  rw [h.isSome_eq (target ++ [name])]
  rcases hfirst : first.lookup target with _ | _ | old <;>
    rcases hsecond : second.lookup target with _ | _ | content <;>
    first
    | rfl
    | rw [hfirst, hsecond] at hkind; cases hkind

theorem follow_eq (h : Twins place one other first second) (target : Location)
    (parts : List String) : first.follow target parts = second.follow target parts := by
  induction parts generalizing target with
  | nil => rfl
  | cons name rest ih =>
      rw [follow, follow, h.enter_eq]
      cases second.enter target name with
      | ok inner => exact ih inner
      | error errno => rfl

theorem start_eq (h : Twins place one other first second) (path : Path) :
    first.start path = second.start path := by
  unfold start
  rw [h.current]

theorem locate_eq (h : Twins place one other first second) (path : Path) :
    first.locate path = second.locate path := by
  unfold locate
  rw [h.start_eq, h.follow_eq]

theorem locateOuter_eq (h : Twins place one other first second) (path : Path) :
    first.locateOuter path = second.locateOuter path := by
  unfold locateOuter
  rw [h.start_eq, h.follow_eq]

theorem node_kind_eq (h : Twins place one other first second) (path : Path) :
    (first.node path).map Node.kind = (second.node path).map Node.kind := by
  unfold node
  rw [h.locate_eq]
  cases second.locate path with
  | error errno => rfl
  | ok target =>
      have hkind := h.kind_eq target
      cases hfirst : first.lookup target with
      | none =>
          cases hsecond : second.lookup target with
          | none => simp only [hfirst, hsecond]
          | some twin =>
              rw [hfirst, hsecond] at hkind
              cases hkind
      | some node =>
          cases hsecond : second.lookup target with
          | none =>
              rw [hfirst, hsecond] at hkind
              cases hkind
          | some twin =>
              rw [hfirst, hsecond] at hkind
              simp only [hfirst, hsecond]
              exact congrArg Except.ok (Option.some.inj hkind)

theorem opens (h : Twins place one other first second) {path : Path} {outer : Location}
    {name : String} (hopens : first.Opens path outer name) : second.Opens path outer name where
  short := hopens.short
  last := hopens.last
  follow_outer := by rw [← h.start_eq, ← h.follow_eq, hopens.follow_outer]
  directory := (h.directory_iff outer).mp hopens.directory
  ne_dots := hopens.ne_dots
  fits := hopens.fits
  not_directory := fun hdirectory => hopens.not_directory ((h.directory_iff _).mpr hdirectory)

theorem symm (h : Twins place one other first second) : Twins place other one second first where
  current := h.current.symm
  elsewhere := fun target htarget => (h.elsewhere target htarget).symm
  here := h.here.imp Eq.symm And.symm

/-- What is put on both disks is the same on both. -/
theorem put (h : Twins place one other first second) {path : Path} {outer : Location}
    {name : String} (hopens : first.Opens path outer name) (node : Node) :
    Twins place one other (first.put (outer ++ [name]) node)
      (second.put (outer ++ [name]) node) where
  current := h.current
  elsewhere := by
    intro target htarget
    rw [hopens.lookup_put, (h.opens hopens).lookup_put, h.elsewhere target htarget]
  here := by
    rw [hopens.lookup_put, (h.opens hopens).lookup_put]
    split
    · exact .inl rfl
    · exact h.here

end Disk.Twins

/-- Whether an edit is refused or granted on both disks alike. -/
inductive Disk.Edited (place : Location) (one other : Bytes) :
    Except Errno Disk → Except Errno Disk → Prop where
  | refused (errno : Errno) : Edited place one other (.error errno) (.error errno)
  | granted {first second : Disk} (h : Twins place one other first second) :
      Edited place one other (.ok first) (.ok second)

namespace Disk.Twins

variable {place : Location} {one other : Bytes} {first second : Disk}

theorem makeDirectory (h : Twins place one other first second) (path : Path) :
    Edited place one other (first.makeDirectory path) (second.makeDirectory path) := by
  have hlocate := h.locateOuter_eq path
  unfold Disk.makeDirectory
  rw [hlocate]
  cases houter : second.locateOuter path with
  | error errno => exact .refused errno
  | ok found =>
      rcases found with ⟨outer, _ | name⟩
      · exact .refused .exists
      · have henter := h.enter_eq outer name
        dsimp only
        rw [henter]
        cases hname : second.enter outer name with
        | ok inner => exact .refused .exists
        | error errno =>
            cases errno with
            | noEntry =>
                have hopens :=
                  (opens_of_noEntry (hlocate.trans houter) (henter.trans hname)).1
                exact .granted (h.put hopens .directory)
            | _ => exact .refused _

/-- The opening of a file is refused on both for the same reason, or the same place is
opened on both. -/
theorem openFile_cases (h : Twins place one other first second) (path : Path) :
    (∃ errno, first.openFile path = .error errno ∧ second.openFile path = .error errno) ∨
      ∃ outer name, first.Opens path outer name ∧ second.Opens path outer name := by
  have hlocate := h.locateOuter_eq path
  unfold Disk.openFile
  rw [hlocate]
  cases houter : second.locateOuter path with
  | error errno => exact .inl ⟨errno, rfl, rfl⟩
  | ok found =>
      rcases found with ⟨outer, _ | name⟩
      · exact .inl ⟨.isDirectory, rfl, rfl⟩
      · have henter := h.enter_eq outer name
        dsimp only
        rw [henter]
        cases hname : second.enter outer name with
        | ok target =>
            dsimp only
            by_cases hfile : ∃ old, first.lookup target = some (.file old)
            · obtain ⟨old, hold⟩ := hfile
              obtain ⟨twin, htwin⟩ := (h.file_iff target).mp ⟨old, hold⟩
              exact .inr ⟨outer, name,
                (opens_of_file (hlocate.trans houter) (henter.trans hname) hold).1,
                (opens_of_file houter hname htwin).1⟩
            · have htwin := (not_congr (h.file_iff target)).mp hfile
              refine .inl ⟨.isDirectory, ?_, ?_⟩
              · split
                · next old hold => exact absurd ⟨old, hold⟩ hfile
                · rfl
              · split
                · next old hold => exact absurd ⟨old, hold⟩ htwin
                · rfl
        | error errno =>
            cases errno with
            | noEntry =>
                exact .inr ⟨outer, name,
                  (opens_of_noEntry (hlocate.trans houter) (henter.trans hname)).1,
                  (opens_of_noEntry houter hname).1⟩
            | _ => exact .inl ⟨_, rfl, rfl⟩

theorem writeFile (h : Twins place one other first second) (path : Path) (content : Bytes) :
    Edited place one other (first.writeFile path content) (second.writeFile path content) := by
  rcases h.openFile_cases path with ⟨errno, hfirst, hsecond⟩ | ⟨outer, name, hfirst, hsecond⟩
  · rw [writeFile_eq_error_iff.mpr hfirst, writeFile_eq_error_iff.mpr hsecond]
    exact .refused errno
  · rw [writeFile_eq_ok_iff.mpr ⟨outer, name, hfirst, rfl⟩,
      writeFile_eq_ok_iff.mpr ⟨outer, name, hsecond, rfl⟩]
    exact .granted (h.put hfirst (.file content))

end Disk.Twins

/-- Whether two worlds are equal but for the content of one file. -/
structure World.Twins (place : Location) (one other : Bytes) (first second : World) : Prop where
  disk : Disk.Twins place one other first.disk second.disk
  output : first.output = second.output
  errors : first.errors = second.errors

/-- Whether a program does the same on all twins. -/
def World.Blind (place : Location) (one other : Bytes) {ε α : Type}
    (program : ExceptT ε (StateM World) α) : Prop :=
  ∀ first second, Twins place one other first second →
    (execute program first).1 = (execute program second).1 ∧
      Twins place one other (execute program first).2 (execute program second).2

namespace World.Blind

variable {place : Location} {one other : Bytes} {ε ε' α β : Type}

theorem pure (value : α) :
    Blind place one other (pure value : ExceptT ε (StateM World) α) :=
  fun _ _ h => ⟨rfl, h⟩

theorem throw (error : ε) :
    Blind place one other (throw error : ExceptT ε (StateM World) α) :=
  fun _ _ h => ⟨rfl, h⟩

theorem bind {program : ExceptT ε (StateM World) α} {next : α → ExceptT ε (StateM World) β}
    (h : Blind place one other program) (hnext : ∀ value, Blind place one other (next value)) :
    Blind place one other (program >>= next) := by
  intro first second htwins
  obtain ⟨hresult, hafter⟩ := h first second htwins
  rw [execute_bind, execute_bind]
  rcases hfirst : execute program first with ⟨result, after⟩
  rcases hsecond : execute program second with ⟨result', after'⟩
  rw [hfirst, hsecond] at hresult hafter
  obtain rfl : result = result' := hresult
  cases result with
  | error error => exact ⟨rfl, hafter⟩
  | ok value => exact hnext value after after' hafter

/-- A call that does the same on all twins. -/
theorem lift {call : StateM World α}
    (h : ∀ first second, Twins place one other first second →
      (call.run first).1 = (call.run second).1 ∧
        Twins place one other (call.run first).2 (call.run second).2) :
    Blind place one other (liftM call : ExceptT ε (StateM World) α) := by
  intro first second htwins
  obtain ⟨hresult, hafter⟩ := h first second htwins
  rw [execute_lift, execute_lift]
  exact ⟨congrArg Except.ok hresult, hafter⟩

/-- A call that edits the disk, if the edit is the same on twins. -/
theorem change {edit : Disk → Except Errno Disk}
    (h : ∀ first second, Disk.Twins place one other first second →
      Disk.Edited place one other (edit first) (edit second)) :
    Blind place one other (liftM (World.change edit) : ExceptT ε (StateM World) _) := by
  refine lift fun first second htwins => ?_
  have hedited := h first.disk second.disk htwins.disk
  unfold World.change
  dsimp only [StateT.run]
  generalize edit first.disk = edited at hedited ⊢
  generalize edit second.disk = edited' at hedited ⊢
  cases hedited with
  | refused errno => exact ⟨rfl, htwins⟩
  | granted hdisks => exact ⟨rfl, hdisks, htwins.output, htwins.errors⟩

end World.Blind

/-! No program reads but the one that reads the input. -/

namespace Machine

variable {place : Location} {one other : Bytes}

open World (Blind)

theorem checkPath_blind (path : Path) :
    Blind place one other (checkPath path : ExceptT Fault (StateM World) Unit) := by
  unfold checkPath
  split
  · exact .throw _
  · exact .pure _

theorem demand_blind {α : Type} (path : Path) {call : StateM World (Except Errno α)}
    (h : Blind place one other (liftM call : ExceptT Fault (StateM World) _)) :
    Blind place one other (demand path call : ExceptT Fault (StateM World) α) := by
  refine .bind h ?_
  rintro (errno | value)
  · exact .throw _
  · exact .pure value

theorem kind?_blind (path : Path) :
    Blind place one other (kind? path : ExceptT Fault (StateM World) _) := by
  unfold kind?
  split
  · exact .pure none
  · refine .bind (.lift fun first second h => ⟨h.disk.node_kind_eq path, h⟩) ?_
    rintro (errno | kind)
    · cases errno with
      | noEntry => exact .pure none
      | notDirectory => exact .pure none
      | _ => exact .throw _
    · exact .pure (some kind)

theorem settleFor_blind (path : Path) (errno : Errno) :
    Blind place one other (settleFor path errno : ExceptT Fault (StateM World) Unit) := by
  refine (kind?_blind path).bind fun kind? => ?_
  split
  · exact .pure ()
  · exact .throw _

theorem makeDirectory_blind (path : Path) :
    Blind place one other
      (liftM (makeDirectory path : StateM World _) : ExceptT Fault (StateM World) _) :=
  .change fun _ _ h => h.makeDirectory path

theorem writeFile_blind (path : Path) (content : Bytes) :
    Blind place one other
      (liftM (writeFile path content : StateM World _) : ExceptT Fault (StateM World) _) :=
  .change fun _ _ h => h.writeFile path content

theorem locate_blind (path : Path) :
    Blind place one other
      (liftM (locate path : StateM World _) : ExceptT Fault (StateM World) _) := by
  refine .lift fun first second h => ⟨?_, h⟩
  have hlocate := h.disk.locate_eq path
  exact congrArg (fun located : Except Errno Location => located.toOption.getD []) hlocate

theorem ensureDirectory_blind (path : Path) :
    Blind place one other (ensureDirectory path : ExceptT Fault (StateM World) Unit) := by
  refine (makeDirectory_blind path).bind ?_
  rintro (errno | _)
  · cases errno with
    | noEntry => exact .throw _
    | _ => exact settleFor_blind path _
  · exact .pure ()

theorem ensureDirectories_blind (path : Path) :
    Blind place one other (ensureDirectories path : ExceptT Fault (StateM World) Unit) := by
  rw [ensureDirectories]
  refine (makeDirectory_blind path).bind ?_
  rintro (errno | _)
  · cases errno with
    | noEntry =>
        by_cases hparts : path.parts = []
        · simp only [hparts, dite_true]
          exact .throw _
        · simp only [hparts, dite_false]
          exact (ensureDirectories_blind path.parent).bind fun _ => ensureDirectory_blind path
    | _ => exact settleFor_blind path _
  · exact .pure ()
termination_by path.parts.length
decreasing_by
  have := List.length_pos_iff.mpr hparts
  simp only [Path.parent, List.length_dropLast]
  omega

end Machine

variable {place : Location} {one other : Bytes}

open World (Blind)

theorem writeText_blind (directory : Path) (filename text : String) :
    Blind place one other (writeText directory filename text : ExceptT Fault (StateM World) _) := by
  refine (Machine.checkPath_blind directory).bind fun _ => ?_
  refine (Machine.ensureDirectories_blind directory).bind fun _ => ?_
  refine (Machine.checkPath_blind _).bind fun _ => ?_
  refine (Machine.demand_blind _ (Machine.writeFile_blind _ _)).bind fun _ => ?_
  exact (Machine.locate_blind _).bind fun _ => .pure _

theorem writeFiles_blind (directory : Path) (files : List SourceFile) :
    Blind place one other (writeFiles directory files : ExceptT Fault (StateM World) _) := by
  induction files with
  | nil => exact .pure []
  | cons file rest ih =>
      exact (writeText_blind directory file.filename file.source).bind fun _ =>
        ih.bind fun _ => .pure _

theorem writeManifest_blind (directory : Path) (moduleNames : List String) :
    Blind place one other
      (writeManifest directory moduleNames : ExceptT Fault (StateM World) _) := by
  unfold writeManifest
  split
  · exact .throw _
  · exact writeText_blind directory manifestFilename _

theorem writePackage_blind (directory : Path) (files : List SourceFile) :
    Blind place one other (writePackage directory files : ExceptT Fault (StateM World) _) :=
  (writeFiles_blind directory files).bind fun _ =>
    (writeManifest_blind directory _).bind fun _ => .pure _

end IndicatorWrap
