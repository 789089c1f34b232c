import IndicatorWrap.Proofs.Declaration.IndicatorNames
import IndicatorWrap.Proofs.Text.Words
import IndicatorWrap.Proofs.Wrapper.BodyLines
import IndicatorWrap.Proofs.Wrapper.EmittedCall

/-!
The imports of a wrapper, read back from its source. They are closed: whatever carries the mark of
the library, be it in a type or in the call, is imported, but for the constant that an imported
type brings. And the type of moving averages stands in a source only if an input has it, since no
clean name and no name of a module has capitals, and no name of a function has small letters.
In the literals \x7b and \x7d are the braces { and }.
-/

namespace IndicatorWrap

open Text

namespace Source

/-- The names on a line that imports from the crate. -/
def importedNames? (line : String) : Option (List String) := do
  let behind ← ("use " ++ crate ++ "::\x7b").toList.isPrefixOf? line.toList
  let (names, rest) ← cut? "\x7d;".toList behind
  guard (rest = [])
  return (splitAll ", ".toList names).map String.ofList

/-- The line with the one marked name that is not imported. -/
def successLine : String := "            TA_RetCode::TA_SUCCESS => \x7b"

/-- Whether these are the imports of a source that wraps the function, and enough of them. -/
structure Imports (function source : String) (imports : List String) : Prop where
  listed : (linesOf source).filterMap importedNames? = [imports]
  distinct : imports.Nodup
  called : callLine function ∈ linesOf source ∧ function ∈ imports
  returnCode : "TA_RetCode" ∈ imports
  marked : ∀ line ∈ linesOf source, ∀ word ∈ wordsOf line,
    libraryMark.toList <:+: word.toList →
      word ∈ imports ∨ line = successLine ∧ word = "TA_SUCCESS"

/-- Whether all marked words of a text are among the names. -/
def Covered (names : List String) (text : String) : Prop :=
  ∀ word ∈ words text.toList, libraryMark.toList <:+: word → String.ofList word ∈ names

namespace Covered

variable {names : List String} {text front behind : String}

theorem of_unmarked (h : 'T' ∉ text.toList) : Covered names text := by
  intro word hword hmark
  have hin := hmark.trans (infix_of_mem_words hword)
  exact absurd (hin.subset (by decide)) h

theorem of_mem (hchars : IdentChars text.toList) (h : text ∈ names) : Covered names text := by
  intro word hword _
  rw [words_of_identChars hchars, List.mem_singleton] at hword
  rwa [hword, String.ofList_toList]

theorem append (h : endsOutside front.toList ∨ beginsOutside behind.toList)
    (hfront : Covered names front) (hbehind : Covered names behind) :
    Covered names (front ++ behind) := by
  intro word hword
  rw [String.toList_append] at hword
  rcases List.mem_append.mp (words_append_subset h hword) with hmem | hmem
  · exact hfront word hmem
  · exact hbehind word hmem

theorem list {parts : List String} (h : ∀ part ∈ parts, Covered names part) :
    Covered names (", ".intercalate parts) := by
  have hseparator : Covered names ", " := of_unmarked (by decide)
  induction parts with
  | nil => exact of_unmarked (by decide)
  | cons part parts ih =>
      obtain ⟨hpart, hparts⟩ := List.forall_mem_cons.mp h
      cases parts with
      | nil => simpa using hpart
      | cons next parts =>
          rw [String.intercalate_cons_cons]
          refine append (.inl ?_) (append (.inr (by decide)) hpart hseparator) (ih hparts)
          rw [String.toList_append, endsOutside_append (by decide)]
          decide

end Covered

end Source

theorem not_mem_lower {text : List Char} (h : ∀ c ∈ text, c.toNat < 0x80) : 'T' ∉ lower text := by
  rw [lower_ascii h]
  intro hmem
  obtain ⟨c, hc, hlower⟩ := List.mem_map.mp hmem
  have hsmall : ∀ code < 0x80, (Char.ofNat code).toLower ≠ 'T' := by decide
  exact forall_ascii (motive := fun c => c.toLower ≠ 'T') hsmall (h c hc) hlower

theorem not_mem_cleanName {name : String} (h : IdentChars name.toList) :
    'T' ∉ (cleanName name).toList := by
  have hwords := (h.of_subset (splitRole_suffix name).subset).trimmedWords
  have hsnake : 'T' ∉ (snakeCase (splitRole name).2).toList := by
    rw [snakeCase, String.toList_ofList]
    exact not_mem_lower fun c hc => isIdentChar_ascii (hwords c hc)
  simp only [cleanName]
  split
  · rw [String.toList_append, List.mem_append, not_or]
    exact ⟨hsnake, by decide⟩
  · exact hsnake

theorem Signature.Indicated.not_mem_moduleName {signature : Signature} (h : signature.Indicated) :
    'T' ∉ signature.moduleName.toList := by
  rw [moduleName, String.toList_ofList]
  exact not_mem_lower fun c hc => isNameChar_ascii (h.nameChars c hc)

theorem Parameter.HasArgument.not_mem_localName {parameter : Parameter} {argument : Argument}
    (h : parameter.HasArgument argument) (hname : Lexeme.IsIdentifier parameter.name.toList) :
    'T' ∉ argument.localName.toList := by
  have hclean := not_mem_cleanName hname.identChars
  rw [h.localName_eq, Parameter.localName]
  split
  · rw [String.toList_append, List.mem_append, not_or]
    exact ⟨by decide, hclean⟩
  · exact hclean

/-- An argument that brings no marked name into a source but with its type. -/
structure Argument.Unmarked (argument : Argument) : Prop where
  localName : 'T' ∉ argument.localName.toList
  hostType : argument.hostType.text ∈ HostType.texts

theorem unmarked_of_hasArgument {parameters : List Parameter} {arguments : List Argument}
    (h : List.Forall₂ Parameter.HasArgument parameters arguments)
    (hnames : ∀ parameter ∈ parameters, Lexeme.IsIdentifier parameter.name.toList) :
    ∀ argument ∈ arguments, argument.Unmarked := by
  intro argument hargument
  obtain ⟨parameter, hparameter, hof⟩ := exists_mem_of_forall₂ h.flip argument hargument
  exact ⟨hof.not_mem_localName (hnames parameter hparameter), HostType.text_mem hof.hostType_eq⟩

namespace Source

variable {signature : Signature} {inputs outputs : List Argument}

theorem mem_imports (signature : Signature) (inputs : List Argument) :
    "TA_Integer" ∈ imports signature inputs ∧ "TA_Real" ∈ imports signature inputs ∧
      signature.name ∈ imports signature inputs ∧ "TA_RetCode" ∈ imports signature inputs := by
  simp [imports]

theorem averages_mem_imports_iff (hname : ∀ c ∈ signature.name.toList, isNameChar c) :
    "TA_MAType" ∈ imports signature inputs ↔
      ∃ input ∈ inputs, input.hostType.text = "TA_MAType" := by
  have hother : "TA_MAType" ≠ signature.name := by
    rintro heq
    exact absurd (hname 'y' (heq ▸ by decide)) (by decide)
  unfold imports
  split
  · next haverages => simpa using haverages
  · next haverages => simpa [hother] using haverages

theorem nodup_imports (hname : ∀ c ∈ signature.name.toList, isNameChar c) :
    (imports signature inputs).Nodup := by
  have hother (text : String) (c : Char) (hc : c ∈ text.toList) (hsmall : isNameChar c = false) :
      signature.name ≠ text := by
    rintro rfl
    exact Bool.false_ne_true (hsmall.symm.trans (hname c hc))
  have hinteger := hother "TA_Integer" 'n' (by decide) (by decide)
  have hreal := hother "TA_Real" 'e' (by decide) (by decide)
  have haverages := hother "TA_MAType" 'y' (by decide) (by decide)
  have hcode := hother "TA_RetCode" 'e' (by decide) (by decide)
  unfold imports
  split
  · simp [hinteger.symm, hreal.symm, haverages, hcode]
  · simp [hinteger.symm, hreal.symm, hcode]

theorem identChars_imports (hname : IdentChars signature.name.toList) :
    ∀ name ∈ imports signature inputs, IdentChars name.toList := by
  unfold imports
  split
  · simp only [List.forall_mem_append, List.forall_mem_cons, hname, true_and]
    decide
  · simp only [List.forall_mem_append, List.forall_mem_cons, hname, true_and]
    decide

theorem importedNames?_useLine (hname : IdentChars signature.name.toList) :
    importedNames? (useLine signature inputs) = some (imports signature inputs) := by
  have hchars : ∀ name ∈ imports signature inputs, IdentChars name.toList :=
    identChars_imports hname
  have hsome : imports signature inputs ≠ [] := List.ne_nil_of_mem (mem_imports _ _).1
  have htext : (useLine signature inputs).toList = ("use " ++ crate ++ "::\x7b").toList ++
      ((", ".intercalate (imports signature inputs)).toList ++ ("\x7d;".toList ++ [])) := by
    simp only [useLine, String.toList_append, List.append_assoc, List.append_nil]
  have hopening := List.isPrefixOf?_eq_some_iff_append_eq.mpr htext.symm
  have hclosing : ∀ behind, cut? "\x7d;".toList
      ((", ".intercalate (imports signature inputs)).toList ++ ("\x7d;".toList ++ behind)) =
        some ((", ".intercalate (imports signature inputs)).toList, behind) :=
    cut?_append (not_mem_intercalate (by decide) fun name hmem => (hchars name hmem).not_mem rfl)
  have hparts : splitAll ", ".toList (", ".intercalate (imports signature inputs)).toList =
      (imports signature inputs).map String.toList :=
    splitAll_intercalate rfl hsome fun name hmem => (hchars name hmem).not_mem rfl
  simp only [importedNames?, hopening, hclosing, hparts, Option.bind_eq_bind, Option.bind_some,
    guard_true, List.map_map]
  simp [Function.comp_def]

/-- Only one line of a source begins with a `u`. -/
theorem filterMap_importedNames? {lines : List String}
    (h : ∀ line ∈ lines, line.toList.head? ≠ some 'u') :
    lines.filterMap importedNames? = [] := by
  rw [List.filterMap_eq_nil_iff]
  intro line hline
  have hother : ("use " ++ crate ++ "::\x7b").toList.isPrefixOf? line.toList = none := by
    rw [← Option.not_isSome_iff_eq_none, Option.isSome_iff_exists]
    rintro ⟨behind, hbehind⟩
    apply h line hline
    rw [← List.isPrefixOf?_eq_some_iff_append_eq.mp hbehind]
    rfl
  rw [importedNames?, hother]
  rfl

theorem covered_hostType {names : List String} {text : String} (h : text ∈ HostType.texts)
    (hinteger : "TA_Integer" ∈ names) (hreal : "TA_Real" ∈ names)
    (haverages : text = "TA_MAType" → "TA_MAType" ∈ names) : Covered names text := by
  have htexts : ∀ text ∈ HostType.texts, ∀ word ∈ words text.toList,
      libraryMark.toList <:+: word → word = "TA_Integer".toList ∨ word = "TA_Real".toList ∨
        text = "TA_MAType" ∧ word = "TA_MAType".toList := by
    decide
  intro word hword hmark
  rcases htexts text h word hword hmark with rfl | rfl | ⟨htext, rfl⟩
  · exact hinteger
  · exact hreal
  · exact haverages htext

theorem covered_useLine (hname : IdentChars signature.name.toList) :
    Covered (imports signature inputs) (useLine signature inputs) := by
  have hnames : Covered (imports signature inputs) (", ".intercalate (imports signature inputs)) :=
    .list fun name hmem => .of_mem (identChars_imports hname name hmem) hmem
  refine .append (.inr (by decide)) (.append (.inl (by decide)) ?_ hnames) ?_
  · exact .of_unmarked (by decide)
  · exact .of_unmarked (by decide)

/-- A text with one marked piece in it. -/
theorem Covered.inside {names : List String} {front piece behind : String}
    (hfront : 'T' ∉ front.toList) (hends : endsOutside front.toList) (hpiece : Covered names piece)
    (hbehind : 'T' ∉ behind.toList) (hbegins : beginsOutside behind.toList) :
    Covered names (front ++ piece ++ behind) :=
  .append (.inr hbegins) (.append (.inl hends) (.of_unmarked hfront) hpiece) (.of_unmarked hbehind)

theorem Covered.indent {names : List String} {line : String} (h : Covered names line)
    (width : Nat) : Covered names (indent width line) := by
  refine .append (.inl ?_) (.of_unmarked ?_) h
  · cases width with
    | zero => rfl
    | succ width =>
        rw [String.toList_ofList, List.replicate_succ', endsOutside_append (by decide)]
        decide
  · simp

variable (hname : ∀ c ∈ signature.name.toList, isNameChar c)
  (hmodule : 'T' ∉ signature.moduleName.toList)
  (hinputs : ∀ input ∈ inputs, input.Unmarked) (houtputs : ∀ output ∈ outputs, output.Unmarked)
  (hreturned : ∀ output ∈ outputs, output.hostType.text ≠ "TA_MAType")

include hname hinputs in
theorem covered_parameterList : Covered (imports signature inputs) (parameterList inputs) := by
  obtain ⟨hinteger, hreal, -, -⟩ := mem_imports signature inputs
  refine .list (List.forall_mem_map.mpr fun input hinput => ?_)
  have hunmarked := hinputs input hinput
  have htype := covered_hostType hunmarked.hostType hinteger hreal fun htext =>
    (averages_mem_imports_iff hname).mpr ⟨input, hinput, htext⟩
  have hlocal : Covered (imports signature inputs) (input.localName ++ ": ") :=
    .append (.inr (by decide)) (.of_unmarked hunmarked.localName) (.of_unmarked (by decide))
  refine .append (.inl ?_) hlocal htype
  rw [String.toList_append, endsOutside_append (by decide)]
  decide

include houtputs hreturned in
theorem covered_output : ∀ output ∈ outputs,
    Covered (imports signature inputs) output.hostType.text := by
  obtain ⟨hinteger, hreal, -, -⟩ := mem_imports signature inputs
  intro output houtput
  exact covered_hostType (houtputs output houtput).hostType hinteger hreal fun htext =>
    absurd htext (hreturned output houtput)

include hname hmodule hinputs houtputs hreturned in
theorem covered_functionLine :
    Covered (imports signature inputs) (functionLine signature inputs outputs) := by
  have hopening : Covered (imports signature inputs)
      ("pub fn " ++ signature.moduleName ++ "(" ++ parameterList inputs ++ ") -> (") := by
    refine .inside ?_ ?_ (covered_parameterList hname hinputs) (by decide) (by decide)
    · simp only [String.toList_append, List.mem_append, hmodule]
      decide
    · rw [String.toList_append, endsOutside_append (by decide)]
      decide
  have hreturns : Covered (imports signature inputs) (returnTypes outputs) := by
    refine .list (List.forall_mem_append.mpr ⟨List.forall_mem_map.mpr ?_, ?_⟩)
    · exact covered_output houtputs hreturned
    · exact List.forall_mem_singleton.mpr (.of_mem (by decide) (mem_imports _ _).1)
  refine .append (.inr (by decide)) (.append (.inl ?_) hopening hreturns) (.of_unmarked (by decide))
  rw [String.toList_append, endsOutside_append (by decide)]
  decide

include houtputs hreturned in
theorem covered_allocation {series : String} (hseries : 'T' ∉ series.toList) :
    ∀ output ∈ outputs, Covered (imports signature inputs) (allocation series output) := by
  intro output houtput
  have htext : allocation series output = ("let mut " ++ output.localName ++ ": ") ++
      output.hostType.text ++ (" = Vec::with_capacity(" ++ (series ++ ".len());")) := by
    simp only [allocation, String.append_assoc]
  have htype : Covered (imports signature inputs) output.hostType.text :=
    covered_output houtputs hreturned output houtput
  rw [htext]
  refine .inside ?_ ?_ htype ?_ ?_
  · simp only [String.toList_append, List.mem_append, (houtputs output houtput).localName]
    decide
  · rw [String.toList_append, endsOutside_append (by decide)]
    decide
  · simp only [String.toList_append, List.mem_append, hseries]
    decide
  · rw [String.toList_append, beginsOutside_append (by decide)]
    decide

include hinputs houtputs in
theorem not_mem_callArguments {series : String} (hseries : 'T' ∉ series.toList) :
    ∀ argument ∈ callArguments series inputs outputs, 'T' ∉ argument.toList := by
  have hinput : ∀ input ∈ inputs, 'T' ∉ (inputArgument input).toList := by
    intro input hinput
    have hlocal := (hinputs input hinput).localName
    unfold inputArgument
    split
    · simp only [String.toList_append, List.mem_append, hlocal]
      decide
    · exact hlocal
  have houtput : ∀ output ∈ outputs, 'T' ∉ (outputArgument output).toList := by
    intro output houtput
    simp only [outputArgument, String.toList_append, List.mem_append,
      (houtputs output houtput).localName]
    decide
  have hrange : 'T' ∉ (series ++ ".len() as i32 - 1").toList := by
    simp only [String.toList_append, List.mem_append, hseries]
    decide
  simp only [callArguments, List.forall_mem_append, List.forall_mem_map, List.forall_mem_cons]
  exact ⟨⟨⟨⟨by decide, hrange, List.forall_mem_nil _⟩, hinput⟩, by decide⟩, houtput⟩

theorem covered_integer {names : List String} {text : String} (hinteger : "TA_Integer" ∈ names)
    (h : ∀ word ∈ words text.toList, libraryMark.toList <:+: word → word = "TA_Integer".toList) :
    Covered names text := by
  intro word hword hmark
  rw [h word hword hmark, String.ofList_toList]
  exact hinteger

theorem unmarked_line {names : List String} {line : String} (h : 'T' ∉ line.toList) :
    Covered names line ∨ line = successLine :=
  .inl (.of_unmarked h)

include hinputs in
theorem not_mem_series : 'T' ∉ (series inputs).toList := by
  cases inputs with
  | nil => decide
  | cons first more => exact (hinputs first List.mem_cons_self).localName

theorem covered_callLine (hchars : IdentChars signature.name.toList) :
    Covered (imports signature inputs) (callLine signature.name) := by
  obtain ⟨-, -, hcalled, -⟩ := mem_imports signature inputs
  exact .inside (by decide) (by decide) (.of_mem hchars hcalled) (by decide) (by decide)

include houtputs in
theorem covered_returned : Covered (imports signature inputs)
    ("    (" ++ ", ".intercalate (outputs.map Argument.localName ++ [beginLocal]) ++ ")") := by
  have hnames : Covered (imports signature inputs)
      (", ".intercalate (outputs.map Argument.localName ++ [beginLocal])) := by
    refine .list (List.forall_mem_append.mpr ⟨List.forall_mem_map.mpr fun output houtput => ?_, ?_⟩)
    · exact .of_unmarked (houtputs output houtput).localName
    · exact List.forall_mem_singleton.mpr (.of_unmarked (by decide))
  exact .inside (by decide) (by decide) hnames (by decide) (by decide)

include hinputs houtputs hreturned in
theorem covered_body (hchars : IdentChars signature.name.toList) :
    ∀ line ∈ body signature inputs outputs,
      Covered (imports signature inputs) line ∨ line = successLine := by
  obtain ⟨hinteger, -, -, -⟩ := mem_imports signature inputs
  have hseries := not_mem_series hinputs
  have hallocated : ∀ output ∈ outputs, Covered (imports signature inputs)
      (indent 4 (allocation (series inputs) output)) := fun output houtput =>
    (covered_allocation houtputs hreturned hseries output houtput).indent 4
  have hpassed : ∀ argument ∈ callArguments (series inputs) inputs outputs,
      Covered (imports signature inputs) (indent 12 (argument ++ ",")) := by
    intro argument hargument
    have hunmarked := not_mem_callArguments hinputs houtputs hseries argument hargument
    refine (Covered.append (.inr (by decide)) (.of_unmarked hunmarked) ?_).indent 12
    exact .of_unmarked (by decide)
  have hpublished : ∀ output ∈ outputs,
      Covered (imports signature inputs) (indent 16 (publication output)) := by
    intro output houtput
    refine (Covered.of_unmarked ?_).indent 16
    simp only [publication, String.toList_append, List.mem_append,
      (houtputs output houtput).localName]
    decide
  have hbegin : Covered (imports signature inputs)
      ("    let mut " ++ beginLocal ++ ": TA_Integer = 0;") :=
    covered_integer hinteger (by decide)
  have hsize : Covered (imports signature inputs)
      ("    let mut " ++ sizeLocal ++ ": TA_Integer = 0;") :=
    covered_integer hinteger (by decide)
  have hcall : Covered (imports signature inputs) (callLine signature.name) :=
    covered_callLine hchars
  have hlast : Covered (imports signature inputs)
      ("    (" ++ ", ".intercalate (outputs.map Argument.localName ++ [beginLocal]) ++ ")") :=
    covered_returned houtputs
  simp only [body, List.forall_mem_append, List.forall_mem_map, List.forall_mem_cons]
  refine ⟨⟨⟨⟨⟨?allocated, ?locals⟩, ?passed⟩, ?outcome⟩, ?published⟩, ?closing⟩
  case allocated => exact fun output houtput => .inl (hallocated output houtput)
  case passed => exact fun argument hargument => .inl (hpassed argument hargument)
  case published => exact fun output houtput => .inl (hpublished output houtput)
  case locals =>
    exact ⟨.inl hbegin, .inl hsize, unmarked_line (by decide), unmarked_line (by decide),
      .inl hcall, by simp⟩
  case outcome =>
    exact ⟨unmarked_line (by decide), unmarked_line (by decide), .inr rfl, by simp⟩
  case closing =>
    exact ⟨unmarked_line (by decide), unmarked_line (by decide), unmarked_line (by decide),
      unmarked_line (by decide), unmarked_line (by decide), .inl hlast, by simp⟩

include hname hmodule hinputs houtputs hreturned in
theorem covered_lines (hchars : IdentChars signature.name.toList) :
    ∀ line ∈ lines signature inputs outputs,
      Covered (imports signature inputs) line ∨ line = successLine := by
  obtain ⟨-, -, hcalled, -⟩ := mem_imports signature inputs
  have hbody := covered_body hinputs houtputs hreturned hchars
  have hsource : Covered (imports signature inputs) ("// | Source: " ++ signature.name) :=
    .append (.inl (by decide)) (.of_unmarked (by decide)) (.of_mem hchars hcalled)
  have htitle : Covered (imports signature inputs) "// | TA-Lib wrapper for Rust" := by
    have hnone : ∀ word ∈ words "// | TA-Lib wrapper for Rust".toList,
        ¬libraryMark.toList <:+: word := by
      decide
    exact fun word hword hmark => absurd hmark (hnone word hword)
  simp only [lines, header, List.forall_mem_append, List.forall_mem_cons]
  refine ⟨⟨⟨?header, ?opening⟩, hbody⟩, ?closing⟩
  case header =>
    exact ⟨unmarked_line (by decide), .inl htitle, unmarked_line (by decide), .inl hsource,
      unmarked_line (by decide), by simp⟩
  case opening =>
    exact ⟨unmarked_line (by decide), .inl (covered_useLine hchars), unmarked_line (by decide),
      .inl (covered_functionLine hname hmodule hinputs houtputs hreturned), by simp⟩
  case closing => exact ⟨unmarked_line (by decide), by simp⟩

end Source

theorem HostType.averages_iff {rawType : String} {role : Role} {hostType : HostType}
    (h : ofRaw rawType role = .ok hostType) :
    hostType.text = "TA_MAType" ↔ rawType = "TA_MAType" := by
  unfold ofRaw at h
  split at h
  · next hstar =>
      split at h
      · cases h
      · next element _ =>
          cases h
          constructor
          · intro htext
            have hbracket : '<' ∈ "TA_MAType".toList := htext ▸ by simp
            exact absurd hbracket (by decide)
          · rintro rfl
            exact absurd hstar (by decide)
  · split at h
    · cases h
    · next host hhost =>
        cases h
        constructor
        · rintro rfl
          obtain ⟨front, back, htable, -⟩ := List.lookup_eq_some_iff.mp hhost
          have hmem : (rawType, "TA_MAType") ∈ scalarTypes := by simp [htable]
          simpa [scalarTypes] using hmem
        · rintro rfl
          exact (Option.some.inj hhost).symm

namespace Signature.Accepts

variable {signature : Signature} {inputs outputs : List Argument}

/-- The arguments of a wrapper have the type of moving averages where the declaration has it. -/
theorem averages_iff (h : signature.Accepts inputs outputs) :
    (∃ input ∈ inputs, input.hostType.text = "TA_MAType") ↔
      ∃ input ∈ signature.ofRole .input, input.rawType = "TA_MAType" := by
  constructor
  · rintro ⟨argument, hargument, htext⟩
    obtain ⟨input, hinput, hof⟩ := exists_mem_of_forall₂ h.of_inputs.flip argument hargument
    exact ⟨input, hinput, (HostType.averages_iff hof.hostType_eq).mp htext⟩
  · rintro ⟨input, hinput, hraw⟩
    obtain ⟨argument, hargument, hof⟩ := exists_mem_of_forall₂ h.of_inputs input hinput
    exact ⟨argument, hargument, (HostType.averages_iff hof.hostType_eq).mpr hraw⟩

/-- A series is never of the type of moving averages. -/
theorem output_ne_averages (h : signature.Accepts inputs outputs) :
    ∀ output ∈ outputs, output.hostType.text ≠ "TA_MAType" := by
  intro argument hargument htext
  obtain ⟨output, houtput, hof⟩ := exists_mem_of_forall₂ h.of_outputs.flip argument hargument
  have hpointer := h.keeps.2.1.2 output houtput
  rw [Parameter.IsPointer, (HostType.averages_iff hof.hostType_eq).mp htext] at hpointer
  exact absurd hpointer (by decide)

end Signature.Accepts

namespace Source

variable {signature : Signature} {inputs outputs : List Argument}

theorem importedNames?_lines (hchars : IdentChars signature.name.toList) :
    (lines signature inputs outputs).filterMap importedNames? = [imports signature inputs] := by
  have hbody : ∀ line ∈ body signature inputs outputs, line.toList.head? ≠ some 'u' := by
    simp only [body, List.forall_mem_append, List.forall_mem_map, List.forall_mem_cons]
    simp [indent, List.replicate]
  have hheader : ∀ line ∈ header signature, line.toList.head? ≠ some 'u' := by
    simp [header, border]
  have hopening : ∀ line ∈ ["", functionLine signature inputs outputs],
      line.toList.head? ≠ some 'u' := by
    simp [functionLine]
  have hmiddle : ["", useLine signature inputs, "", functionLine signature inputs outputs] =
      [""] ++ [useLine signature inputs] ++ ["", functionLine signature inputs outputs] := rfl
  have hempty : [""].filterMap importedNames? = [] := filterMap_importedNames? (by simp)
  have hclosing : ["\x7d"].filterMap importedNames? = [] := filterMap_importedNames? (by simp)
  rw [lines, hmiddle]
  simp only [List.filterMap_append, filterMap_importedNames? hheader,
    filterMap_importedNames? hbody, filterMap_importedNames? hopening, hempty, hclosing,
    List.filterMap_cons_some (importedNames?_useLine hchars), List.filterMap_nil, List.nil_append,
    List.append_nil]

/-- Only one import holds the name of the type of moving averages. -/
theorem averages_mem_imports {name : String} (hname : ∀ c ∈ signature.name.toList, isNameChar c)
    (h : name ∈ imports signature inputs) (hin : "TA_MAType".toList <:+: name.toList) :
    "TA_MAType" ∈ imports signature inputs := by
  unfold imports at h ⊢
  split at h
  · next haverages => simp [haverages]
  · simp only [List.append_nil, List.cons_append, List.nil_append, List.mem_cons,
      List.not_mem_nil, or_false] at h
    rcases h with rfl | rfl | rfl | rfl
    · exact absurd hin (by decide)
    · exact absurd hin (by decide)
    · exact absurd (hname 'y' (hin.subset (by decide))) (by decide)
    · exact absurd hin (by decide)

/-- The type of moving averages stands in a source only with its import. -/
theorem averages_infix_iff (hname : ∀ c ∈ signature.name.toList, isNameChar c)
    (hcovered : ∀ line ∈ lines signature inputs outputs,
      Covered (imports signature inputs) line ∨ line = successLine) :
    "TA_MAType".toList <:+: (render signature inputs outputs).toList ↔
      "TA_MAType" ∈ imports signature inputs := by
  constructor
  · intro hin
    obtain ⟨line, hline, hinline⟩ := exists_line_of_infix (by decide) (by decide) hin
    obtain ⟨word, hword, hinword⟩ := exists_word_of_infix (by decide) hinline
    rcases hcovered line hline with hmarked | rfl
    · have hmark : libraryMark.toList <:+: "TA_MAType".toList := by decide
      have hmem := hmarked word hword (hmark.trans hinword)
      have hword : (String.ofList word).toList = word := String.toList_ofList
      exact averages_mem_imports hname hmem (hword.symm ▸ hinword)
    · exact absurd hinline (by decide)
  · intro hmem
    have huse : useLine signature inputs ∈ lines signature inputs outputs := by
      simp [lines]
    have hinuse : (", ".intercalate (imports signature inputs)).toList <:+:
        (useLine signature inputs).toList := by
      simp only [useLine, String.toList_append]
      exact List.infix_append _ _ _
    exact ((infix_intercalate hmem).trans hinuse).trans (infix_endLines huse)

end Source

namespace Artifact

variable {text : String} {signature : Signature} {artifact : Artifact}

/-- The line of imports of a wrapper is the only one, names nothing twice and names whatever
carries the mark of the library; the type of moving averages is in the source exactly if an
input has it. -/
theorem imports_of_source (hsignature : signature ∈ (extract none text).signatures)
    (hartifact : ofSignature signature = .ok artifact) :
    (∃ imports, Source.Imports signature.name artifact.source imports) ∧
      ("TA_MAType".toList <:+: artifact.source.toList ↔
        ∃ input ∈ signature.ofRole .input, input.rawType = "TA_MAType") := by
  have hidentified := identified_of_mem_extract hsignature
  have hindicated := indicated_of_mem_extract hsignature
  obtain ⟨inputs, outputs, haccepts, rfl⟩ := ofSignature_eq_ok_iff.mp hartifact
  have hchars := hidentified.name.identChars
  have hname : ∀ c ∈ signature.name.toList, isNameChar c := by
    rw [hindicated.name_eq, String.toList_append, List.forall_mem_append]
    exact ⟨List.all_eq_true.mp (by decide), hindicated.nameChars⟩
  have hcovered := Source.covered_lines hname hindicated.not_mem_moduleName
    (unmarked_of_hasArgument haccepts.of_inputs (hidentified.ofRole .input))
    (unmarked_of_hasArgument haccepts.of_outputs (hidentified.ofRole .output))
    haccepts.output_ne_averages hchars
  have hlines := Source.linesOf_render hchars
    (plain_of_hasArgument haccepts.of_inputs (hidentified.ofRole .input))
    (plain_of_hasArgument haccepts.of_outputs (hidentified.ofRole .output))
  obtain ⟨-, -, hcalled, hcode⟩ := Source.mem_imports signature inputs
  refine ⟨⟨Source.imports signature inputs, ?_⟩, ?_⟩
  · constructor
    case listed => rw [hlines, Source.importedNames?_lines hchars]
    case distinct => exact Source.nodup_imports hname
    case called =>
      obtain ⟨back, hback⟩ := @Source.lines_eq signature inputs outputs
      rw [hlines, hback]
      exact ⟨by simp, hcalled⟩
    case returnCode => exact hcode
    case marked =>
      rw [hlines]
      intro line hline word hword hmark
      obtain ⟨characters, hcharacters, rfl⟩ := List.mem_map.mp hword
      rw [String.toList_ofList] at hmark
      rcases hcovered line hline with hmarked | rfl
      · exact .inl (hmarked characters hcharacters hmark)
      · have hwords : ∀ word ∈ words Source.successLine.toList, libraryMark.toList <:+: word →
            word = "TA_RetCode".toList ∨ word = "TA_SUCCESS".toList := by
          decide
        rcases hwords characters hcharacters hmark with rfl | rfl
        · exact .inl hcode
        · exact .inr ⟨rfl, rfl⟩
  · rw [Source.averages_infix_iff hname hcovered, Source.averages_mem_imports_iff hname,
      haccepts.averages_iff]

end Artifact

/-- A function named like a type in capitals, with a parameter of the type of moving averages. -/
def kindText (kind : String) : String :=
  "pub fn TA_MATYPE(inReal: *const f64, " ++ kind ++
    ": TA_MAType, outBegIdx: *mut c_int, outNBElement: *mut c_int, outReal: *mut f64)"

def ofKind (kind : String) : Signature where
  name := "TA_MATYPE"
  parameters :=
    [⟨"inReal", "*const f64"⟩, ⟨kind, "TA_MAType"⟩, ⟨beginIndexName, "*mut c_int"⟩,
      ⟨elementCountName, "*mut c_int"⟩, ⟨"outReal", "*mut f64"⟩]
  line := 1

/-- Without the mark of an input the parameter is left out, and its type is not in the source. -/
theorem ofKind_imports :
    ofKind "kind" ∈ (extract none (kindText "kind")).signatures ∧
      (∃ artifact, Artifact.ofSignature (ofKind "kind") = .ok artifact ∧
        (∃ imports, Source.Imports "TA_MATYPE" artifact.source imports) ∧
        ¬"TA_MAType".toList <:+: artifact.source.toList) ∧
      ofKind "optInKind" ∈ (extract none (kindText "optInKind")).signatures ∧
      ∃ artifact, Artifact.ofSignature (ofKind "optInKind") = .ok artifact ∧
        "TA_MAType".toList <:+: artifact.source.toList := by
  have hleft : ofKind "kind" ∈ (extract none (kindText "kind")).signatures := by
    decide +kernel
  have hpassed : ofKind "optInKind" ∈ (extract none (kindText "optInKind")).signatures := by
    decide +kernel
  have hok : ∀ kind ∈ ["kind", "optInKind"],
      (Artifact.ofSignature (ofKind kind)).map (fun artifact => artifact.filename) =
        .ok "matype.rs" := by
    decide +kernel
  obtain ⟨leaving, hleaving, -⟩ := Except.map_eq_ok_iff.mp (hok "kind" (by decide))
  obtain ⟨passing, hpassing, -⟩ := Except.map_eq_ok_iff.mp (hok "optInKind" (by decide))
  obtain ⟨himports, hnone⟩ := Artifact.imports_of_source hleft hleaving
  obtain ⟨-, hsome⟩ := Artifact.imports_of_source hpassed hpassing
  refine ⟨hleft, ⟨leaving, hleaving, himports, ?_⟩, hpassed, passing, hpassing, ?_⟩
  · rw [hnone]
    decide +kernel
  · rw [hsome]
    decide +kernel

end IndicatorWrap
