import IndicatorWrap.Proofs.CommandLine.Arguments
import IndicatorWrap.Proofs.CommandLine.Configuration
import Mathlib.Data.List.Induction

/-!
Spellings of the options. An option and its value are written in one argument or in two, with the
short name or with a long one that may be cut short. However they are written and in whatever
order they come, only the last value of each option counts.
-/

namespace IndicatorWrap.CommandLine

open World (execute)

/-- An option with the value it is given. -/
structure Setting where
  opt : Opt
  value : String
deriving DecidableEq, Repr

/-- The spellings of one setting. -/
inductive Setting.Spelled (setting : Setting) : List String → Prop where
  | short : Spelled setting [setting.opt.short, setting.value]
  | shortJoined (hsome : setting.value ≠ "") (hequals : setting.value.toList.head? ≠ some '=') :
      Spelled setting [setting.opt.short ++ setting.value]
  | shortEquals : Spelled setting [setting.opt.short ++ "=" ++ setting.value]
  | long {name : String} (hname : setting.opt.Abbreviated name) :
      Spelled setting [name, setting.value]
  | longEquals {name : String} (hname : setting.opt.Abbreviated name) :
      Spelled setting [name ++ "=" ++ setting.value]

/-- Whether arguments are settings, one after the other. No value begins with a dash, and help is
not asked for. -/
inductive Spelled : List Setting → List String → Prop where
  | nil : Spelled [] []
  | cons {setting : Setting} {settings : List Setting} {written arguments : List String}
      (hopt : setting.opt ≠ .help) (hvalue : setting.value.toList.head? ≠ some '-')
      (hwritten : setting.Spelled written) (hmore : Spelled settings arguments) :
      Spelled (setting :: settings) (written ++ arguments)

/-- The value that an option is given last. -/
def lastValue? (opt : Opt) (settings : List Setting) : Option String :=
  (settings.reverse.find? (·.opt = opt)).map Setting.value

/-- What a setting is read as: the option with its value, in one word or in two. -/
inductive Setting.ReadAs (setting : Setting) : List Word → Prop where
  | apart (form : Form) : ReadAs setting [.option setting.opt form none, .value setting.value]
  | joined (form : Form) : ReadAs setting [.option setting.opt form (some setting.value)]

theorem Setting.Spelled.exists_words {setting : Setting} {written : List String}
    (h : setting.Spelled written) (hvalue : setting.value.toList.head? ≠ some '-')
    {arguments : List String} {more : List Word} (hmore : Word.ofArguments arguments = .ok more) :
    ∃ words, setting.ReadAs words ∧
      Word.ofArguments (written ++ arguments) = .ok (words ++ more) := by
  have hapart : Word.ofArguments (setting.value :: arguments) =
      .ok (.value setting.value :: more) := by
    refine Word.ofArguments_cons ?_ hmore
    rw [Word.ofArgument_of_no_dash hvalue, String.ofList_toList]
  cases h with
  | short =>
      exact ⟨_, .apart .short, Word.ofArguments_cons (Word.ofArgument_short _) hapart⟩
  | shortJoined hsome hequals =>
      refine ⟨_, .joined .short, Word.ofArguments_cons ?_ hmore⟩
      have hread := Word.ofArgument_shortJoined setting.opt (by simpa using hsome) hequals
      rw [String.ofList_toList] at hread
      simpa [Opt.short] using hread
  | shortEquals =>
      refine ⟨_, .joined .short, Word.ofArguments_cons ?_ hmore⟩
      have hread := Word.ofArgument_shortEquals setting.opt setting.value.toList
      rw [String.ofList_toList] at hread
      simpa using hread
  | long hname =>
      exact ⟨_, .apart .long, Word.ofArguments_cons (Word.ofArgument_long hname) hapart⟩
  | longEquals hname =>
      refine ⟨_, .joined .long, Word.ofArguments_cons ?_ hmore⟩
      have hread := Word.ofArgument_longEquals hname setting.value.toList
      rw [String.ofList_toList] at hread
      simpa using hread

/-- What was found so far with settings behind it. -/
def Found.setAll (found : Found) (settings : List Setting) : Found :=
  settings.foldl (fun found setting => found.set setting.opt setting.value) found

theorem Setting.ReadAs.scan {setting : Setting} {words : List Word} (h : setting.ReadAs words)
    (hopt : setting.opt ≠ .help) (found : Found) (more : List Word) :
    found.scan (words ++ more) = (found.set setting.opt setting.value).scan more := by
  obtain ⟨opt, value⟩ := setting
  cases opt with
  | help => exact absurd rfl hopt
  | input => cases h <;> rfl
  | output => cases h <;> rfl

/-- Arguments that spell settings are gone through as the settings are. -/
theorem Spelled.exists_words {settings : List Setting} {arguments : List String}
    (h : Spelled settings arguments) :
    ∃ words, Word.ofArguments arguments = .ok words ∧
      ∀ found : Found, found.scan words = (found.setAll settings).request := by
  induction h with
  | nil => exact ⟨[], rfl, fun _ => rfl⟩
  | cons hopt hvalue hwritten _ ih =>
      obtain ⟨more, hmore, hscan⟩ := ih
      obtain ⟨words, hread, hwords⟩ := hwritten.exists_words hvalue hmore
      refine ⟨words ++ more, hwords, fun found => ?_⟩
      rw [hread.scan hopt, hscan]
      rfl

theorem lastValue?_concat (opt : Opt) (settings : List Setting) (setting : Setting) :
    lastValue? opt (settings ++ [setting]) =
      if setting.opt = opt then some setting.value else lastValue? opt settings := by
  rw [lastValue?, List.reverse_concat, List.find?_cons]
  by_cases hopt : setting.opt = opt
  · simp [hopt]
  · simp [hopt, lastValue?]

theorem Value.ofText_of_no_dash {text : String} (h : text.toList.head? ≠ some '-') :
    ofText text = .text text := by
  have hother : text ≠ terminatorText := by
    rintro rfl
    exact h (by decide)
  rw [ofText, if_neg hother]

theorem Found.setAll_concat (found : Found) (settings : List Setting) (setting : Setting) :
    found.setAll (settings ++ [setting]) =
      (found.setAll settings).set setting.opt setting.value := by
  rw [setAll, List.foldl_append]
  rfl

/-- Each setting replaces the earlier ones of its option. -/
theorem Found.setAll_nothing {settings : List Setting}
    (h : ∀ setting ∈ settings, setting.value.toList.head? ≠ some '-') :
    nothing.setAll settings =
      ⟨(lastValue? .input settings).map .text, (lastValue? .output settings).map .text, []⟩ := by
  -- from the end, since the last setting of an option is the one that stays
  induction settings using List.reverseRecOn with
  | nil => rfl
  | append_singleton settings setting ih =>
      obtain ⟨opt, value⟩ := setting
      have hvalue : Value.ofText value = .text value :=
        Value.ofText_of_no_dash (h ⟨opt, value⟩ (by simp))
      have hbefore := ih fun setting hsetting => h setting (by simp [hsetting])
      rw [setAll_concat, hbefore, lastValue?_concat, lastValue?_concat]
      cases opt <;> simp [set, hvalue]

theorem Spelled.no_dash {settings : List Setting} {arguments : List String}
    (h : Spelled settings arguments) :
    ∀ setting ∈ settings, setting.value.toList.head? ≠ some '-' := by
  induction h with
  | nil => simp
  | cons _ hvalue _ _ ih => exact List.forall_mem_cons.mpr ⟨hvalue, ih⟩

theorem Spelled.parse_eq {settings : List Setting} {arguments : List String} {input output : String}
    (h : Spelled settings arguments) (hinput : lastValue? .input settings = some input)
    (houtput : lastValue? .output settings = some output) :
    parse arguments = .ok (.generate (.text input) (.text output)) := by
  obtain ⟨words, hwords, hscan⟩ := h.exists_words
  have hparse : parse arguments = Found.nothing.scan words := by
    rw [parse, hwords]
    rfl
  rw [hparse, hscan, Found.setAll_nothing h.no_dash, hinput, houtput]
  rfl

theorem parse_short {input output : String} (hinput : input.toList.head? ≠ some '-')
    (houtput : output.toList.head? ≠ some '-') :
    parse ["-i", input, "-o", output] = .ok (.generate (.text input) (.text output)) := by
  have hspelled :
      Spelled [⟨.input, input⟩, ⟨.output, output⟩] ["-i", input, "-o", output] :=
    .cons (by simp) hinput .short (.cons (by simp) houtput .short .nil)
  exact hspelled.parse_eq rfl rfl

section

variable {m : Type → Type} [Monad m] [Machine m]

/-- The configuration of two paths, once both are checked. -/
def checkPaths (input output : Path) : ExceptT Interruption m Config := do
  checkInput input
  checkOutput output
  return ⟨input, output⟩

end

theorem execute_configure_of_parse {arguments : List String} {input output : String}
    (h : parse arguments = .ok (.generate (.text input) (.text output))) (world : World) :
    execute (configure arguments) world =
      execute (checkPaths (.ofText input) (.ofText output)) world := by
  rw [configure, h]
  simp only [checkPaths, World.execute_bind, execute_pathOf_text]

/-- Settings in any spelling and any order ask for the package from the last input to the last
output. Whatever else is spelled and ends with the same values has the same configuration. -/
theorem parse_spelled {settings : List Setting} {arguments : List String} {input output : String}
    (h : Spelled settings arguments) (hinput : lastValue? .input settings = some input)
    (houtput : lastValue? .output settings = some output) :
    parse arguments = .ok (.generate (.text input) (.text output)) ∧
      (∀ world, execute (configure arguments) world =
        execute (checkPaths (.ofText input) (.ofText output)) world) ∧
      ∀ others otherArguments, Spelled others otherArguments →
        (∀ opt, lastValue? opt others = lastValue? opt settings) →
        ∀ world,
          execute (configure otherArguments) world = execute (configure arguments) world := by
  have hconfigure := execute_configure_of_parse (h.parse_eq hinput houtput)
  refine ⟨h.parse_eq hinput houtput, hconfigure, ?_⟩
  intro others otherArguments hothers hsame world
  have hparse := hothers.parse_eq ((hsame .input).trans hinput) ((hsame .output).trans houtput)
  rw [execute_configure_of_parse hparse, hconfigure]

/-- Values with equals signs, a blank or nothing in them, in all spellings. -/
def mixed : List Setting :=
  [⟨.input, "a=b"⟩, ⟨.output, "x y"⟩, ⟨.output, ""⟩, ⟨.input, "=c"⟩, ⟨.output, "o=ut"⟩]

def mixedArguments : List String :=
  ["--in=a=b", "-o", "x y", "--outp", "", "-i==c", "-oo=ut"]

/-- What counts of these, the other way round. -/
def swapped : List Setting :=
  [⟨.output, "o=ut"⟩, ⟨.input, "=c"⟩]

def swappedArguments : List String :=
  ["--output=o=ut", "--i", "=c"]

theorem mixed_spelled : Spelled mixed mixedArguments := by
  have hin : Opt.input.Abbreviated "--in" := by
    intro other
    cases other <;> decide
  have houtp : Opt.output.Abbreviated "--outp" := by
    intro other
    cases other <;> decide
  have hjoined : Setting.Spelled ⟨.output, "o=ut"⟩ ["-oo=ut"] :=
    .shortJoined (by decide) (by decide)
  have hequals : Setting.Spelled ⟨.input, "=c"⟩ ["-i==c"] := .shortEquals
  have hlong : Setting.Spelled ⟨.output, ""⟩ ["--outp", ""] := .long houtp
  have hshort : Setting.Spelled ⟨.output, "x y"⟩ ["-o", "x y"] := .short
  have hlongEquals : Setting.Spelled ⟨.input, "a=b"⟩ ["--in" ++ "=" ++ "a=b"] :=
    .longEquals hin
  exact .cons (by decide) (by decide) hlongEquals <|
    .cons (by decide) (by decide) hshort <|
      .cons (by decide) (by decide) hlong <|
        .cons (by decide) (by decide) hequals <|
          .cons (by decide) (by decide) hjoined .nil

theorem swapped_spelled : Spelled swapped swappedArguments := by
  have houtput : Opt.output.Abbreviated "--output" := by
    intro other
    cases other <;> decide
  have hi : Opt.input.Abbreviated "--i" := by
    intro other
    cases other <;> decide
  have hlong : Setting.Spelled ⟨.input, "=c"⟩ ["--i", "=c"] := .long hi
  have hlongEquals : Setting.Spelled ⟨.output, "o=ut"⟩ ["--output" ++ "=" ++ "o=ut"] :=
    .longEquals houtput
  exact .cons (by decide) (by decide) hlongEquals (.cons (by decide) (by decide) hlong .nil)

theorem mixed_swapped_parse :
    Spelled mixed mixedArguments ∧ Spelled swapped swappedArguments ∧
      parse mixedArguments = .ok (.generate (.text "=c") (.text "o=ut")) ∧
      ∀ world, execute (configure swappedArguments) world =
        execute (configure mixedArguments) world := by
  obtain ⟨hparse, -, hsame⟩ := parse_spelled mixed_spelled
    (show lastValue? .input mixed = some "=c" by decide)
    (show lastValue? .output mixed = some "o=ut" by decide)
  refine ⟨mixed_spelled, swapped_spelled, hparse, hsame _ _ swapped_spelled ?_⟩
  intro opt
  cases opt <;> decide

end IndicatorWrap.CommandLine
