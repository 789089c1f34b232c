import IndicatorWrap.Proofs.Wrapper.BodyLines

/-!
What a wrapper does with its outputs. Each is allocated before the call, passed
to it, given its length where the call succeeded and returned, once each and in
the order of the declaration. No line is written twice, because every output has
a name of its own and the lines of the three groups end in different marks. In
the literals \x7b and \x7d are the braces { and }.
-/

namespace IndicatorWrap

open Text

namespace Source

/-- What an allocation, an output among the arguments and a publication end in. -/
def allocationMark : List Char := ".len());".toList

def pointerMark : List Char := ".as_mut_ptr(),".toList

def publicationMark : List Char := ".set_len(out_size as usize);".toList

def marks : List (List Char) := [allocationMark, pointerMark, publicationMark]

def Unmarked (line : String) : Prop :=
  ∀ mark ∈ marks, ¬mark <:+ line.toList

instance (line : String) : Decidable (Unmarked line) :=
  inferInstanceAs (Decidable (∀ mark ∈ marks, ¬mark <:+ line.toList))

theorem marks_apart {mark other text : List Char} (hmark : mark ∈ marks) (hother : other ∈ marks)
    (h : mark <:+ text) (h' : other <:+ text) : mark = other := by
  have hpairs : ∀ mark ∈ marks, ∀ other ∈ marks, mark <:+ other → mark = other := by decide
  rcases List.suffix_or_suffix_of_suffix h h' with hsuffix | hsuffix
  · exact hpairs mark hmark other hother hsuffix
  · exact (hpairs other hother mark hmark hsuffix).symm

theorem unmarked_of_paren {line : String} (h : ')' ∉ line.toList) : Unmarked line := by
  have hparen : ∀ mark ∈ marks, ')' ∈ mark := by decide
  intro mark hmark hsuffix
  exact h (hsuffix.mem (hparen mark hmark))

theorem unmarked_append {front back : String}
    (h : ∀ mark ∈ marks, ¬mark <:+ back.toList ∧ ¬back.toList <:+ mark) :
    Unmarked (front ++ back) := by
  intro mark hmark hsuffix
  obtain ⟨hshort, hlong⟩ := h mark hmark
  rw [String.toList_append] at hsuffix
  rcases List.suffix_or_suffix_of_suffix hsuffix (List.suffix_append _ _) with h | h
  · exact hshort h
  · exact hlong h

theorem Unmarked.bareLine {line : String} (h : Unmarked line) : Unmarked (bareLine line) :=
  fun mark hmark hsuffix => h mark hmark (hsuffix.trans (bareLine_suffix line))

/-- The lines in front of the body. -/
def heading (signature : Signature) (inputs outputs : List Argument) : List String :=
  header signature ++ ["", useLine signature inputs, "", functionLine signature inputs outputs]

theorem unmarked_heading {signature : Signature} {inputs outputs : List Argument}
    (hname : IdentChars signature.name.toList) :
    ∀ line ∈ heading signature inputs outputs, Unmarked line := by
  have hfixed : ∀ line ∈ ["", border, "// | TA-Lib wrapper for Rust",
      "// | Generated by ta-bindings-gen, do not edit"], Unmarked line := by
    decide
  simp only [List.forall_mem_cons] at hfixed
  obtain ⟨hempty, hborder, htitle, hwarning, -⟩ := hfixed
  have hsource : Unmarked ("// | Source: " ++ signature.name) := by
    apply unmarked_of_paren
    rw [String.toList_append, List.mem_append, not_or]
    exact ⟨by decide, hname.not_mem rfl⟩
  have huse : Unmarked (useLine signature inputs) := unmarked_append (by decide)
  have hfunction : Unmarked (functionLine signature inputs outputs) := unmarked_append (by decide)
  simp [heading, header, hempty, hborder, htitle, hwarning, hsource, huse, hfunction]

end Source

/-- The name that stands in a line behind a text. -/
def Source.nameBehind (front line : String) : String :=
  String.ofList ((line.toList.drop front.toList.length).takeWhile Lexeme.isIdentChar)

theorem Source.nameBehind_append {front name back : String} (hname : IdentChars name.toList)
    (hback : ∀ c ∈ back.toList.head?, Lexeme.isIdentChar c = false) :
    nameBehind front (front ++ name ++ back) = name := by
  have hend : back.toList.takeWhile Lexeme.isIdentChar = [] := by
    cases htext : back.toList with
    | nil => rfl
    | cons c rest =>
        have hc := hback c (by rw [htext, List.head?_cons, Option.mem_some])
        exact List.takeWhile_cons_of_neg (by simp [hc])
  rw [nameBehind, String.toList_append, String.toList_append, List.append_assoc, List.drop_left,
    List.takeWhile_append_of_pos hname, hend, List.append_nil, String.ofList_toList]

namespace Parameter

theorem allocationMark_suffix (series : String) (output : Parameter) :
    Source.allocationMark <:+ (output.allocationText series).toList := by
  rw [allocationText, String.toList_append]
  apply List.suffix_append_of_suffix
  rw [String.toList_append]
  exact List.suffix_append _ _

theorem pointerMark_suffix (output : Parameter) :
    Source.pointerMark <:+ output.pointerText.toList := by
  rw [pointerText, String.toList_append]
  exact List.suffix_append _ _

theorem publicationMark_suffix (output : Parameter) :
    Source.publicationMark <:+ output.publicationText.toList := by
  rw [publicationText, String.toList_append]
  exact List.suffix_append _ _

/-- Lines that differ in a name of their own are written once each. -/
theorem nodup_around {parameters : List Parameter} (front : String) (back : Parameter → String)
    (hdistinct : (parameters.map localName).Nodup)
    (hnames : ∀ parameter ∈ parameters, IdentChars parameter.localName.toList)
    (hback : ∀ parameter, ∀ c ∈ (back parameter).toList.head?, Lexeme.isIdentChar c = false) :
    (parameters.map fun parameter => front ++ parameter.localName ++ back parameter).Nodup := by
  have hread : ∀ parameter ∈ parameters,
      Source.nameBehind front (front ++ parameter.localName ++ back parameter) =
        parameter.localName :=
    fun parameter hparameter =>
      Source.nameBehind_append (hnames parameter hparameter) (hback parameter)
  apply List.Nodup.of_map (Source.nameBehind front)
  rw [List.map_map, Function.comp_def, List.map_congr_left hread]
  exact hdistinct

section

variable {outputs : List Parameter} (hdistinct : (outputs.map localName).Nodup)
  (hnames : ∀ output ∈ outputs, IdentChars output.localName.toList)

include hdistinct hnames

theorem nodup_allocationText (series : String) : (outputs.map (allocationText series)).Nodup := by
  have hcolon : Lexeme.isIdentChar ':' = false := rfl
  exact nodup_around "let mut " _ hdistinct hnames fun output => by simp [hcolon]

theorem nodup_pointerText : (outputs.map pointerText).Nodup := by
  have hdot : Lexeme.isIdentChar '.' = false := rfl
  have hnodup := nodup_around "" (fun _ => ".as_mut_ptr(),") hdistinct hnames (by simp [hdot])
  simp only [String.empty_append] at hnodup
  exact hnodup

theorem nodup_publicationText : (outputs.map publicationText).Nodup := by
  have hdot : Lexeme.isIdentChar '.' = false := rfl
  have hnodup := nodup_around "" (fun _ => ".set_len(out_size as usize);") hdistinct hnames
    (by simp [hdot])
  simp only [String.empty_append] at hnodup
  exact hnodup

end

end Parameter

namespace Signature

variable {signature : Signature}

theorem Identified.identChars_localName (h : signature.Identified) (role : Role) :
    ∀ parameter ∈ signature.ofRole role, IdentChars parameter.localName.toList := by
  intro parameter hparameter
  have hclean := identChars_cleanName (h.ofRole role parameter hparameter).identChars
  unfold Parameter.localName
  split
  · rw [String.toList_append]
    exact IdentChars.append_iff.mpr ⟨by decide, hclean⟩
  · exact hclean

theorem map_pointerText :
    (signature.ofRole .output).map (fun output => output.outputText ++ ",") =
      (signature.ofRole .output).map Parameter.pointerText := by
  apply List.map_congr_left
  intro output houtput
  rw [Parameter.pointerText, Parameter.outputText,
    Parameter.localName_of_output (mem_ofRole.mp houtput).2, String.append_assoc]
  rfl

theorem unmarked_inputText (h : signature.Identified) :
    ∀ input ∈ signature.ofRole .input, Source.Unmarked (input.inputText ++ ",") := by
  intro input hinput
  unfold Parameter.inputText
  split
  · rw [String.append_assoc]
    exact Source.unmarked_append (by decide)
  · have hclean := identChars_cleanName (h.ofRole .input input hinput).identChars
    apply Source.unmarked_of_paren
    rw [String.toList_append, List.mem_append, not_or]
    exact ⟨hclean.not_mem rfl, by decide⟩

/-- The lines between the allocations and the outputs among the arguments. -/
def beforePointers (signature : Signature) : List String :=
  ["let mut out_begin: TA_Integer = 0;", "let mut out_size: TA_Integer = 0;", "",
    "unsafe \x7b", "let ret_code = " ++ signature.name ++ "(", "0,",
    lastIndexText signature.series ++ ","] ++
    (signature.ofRole .input).map (fun input => input.inputText ++ ",") ++
    ["&mut out_begin,", "&mut out_size,"]

/-- The lines between the outputs among the arguments and the publications. -/
def beforePublications : List String :=
  [");", "match ret_code \x7b", "TA_RetCode::TA_SUCCESS => \x7b"]

/-- The lines behind the publications. -/
def afterPublications (signature : Signature) : List String :=
  ["\x7d", "_ => panic!(\"Could not compute indicator, err: {:?}\", ret_code),",
    "\x7d", "\x7d", "", "(" ++ ", ".intercalate signature.returned ++ ")", "\x7d"]

theorem bodyLines_eq (signature : Signature) :
    signature.bodyLines =
      (signature.ofRole .output).map (Parameter.allocationText signature.series) ++
        signature.beforePointers ++ (signature.ofRole .output).map Parameter.pointerText ++
        beforePublications ++ (signature.ofRole .output).map Parameter.publicationText ++
        signature.afterPublications := by
  simp only [bodyLines, beforePointers, beforePublications, afterPublications, callOrder,
    List.map_append, List.map_map, List.map_cons, Function.comp_def, map_pointerText,
    List.append_assoc, List.cons_append, List.nil_append]
  rfl

theorem unmarked_beforePointers (h : signature.Identified) :
    ∀ line ∈ signature.beforePointers, Source.Unmarked line := by
  have hfixed : ∀ line ∈ ["let mut out_begin: TA_Integer = 0;",
      "let mut out_size: TA_Integer = 0;", "", "unsafe \x7b", "0,", "&mut out_begin,",
      "&mut out_size,"], Source.Unmarked line := by
    decide
  have hcall : Source.Unmarked ("let ret_code = " ++ signature.name ++ "(") :=
    Source.unmarked_append (by decide)
  have hrange : Source.Unmarked (lastIndexText signature.series ++ ",") := by
    rw [lastIndexText, String.append_assoc]
    exact Source.unmarked_append (by decide)
  simp only [List.forall_mem_cons] at hfixed
  obtain ⟨hbegin, hsize, hempty, hunsafe, hzero, hpassBegin, hpassSize, -⟩ := hfixed
  simp only [beforePointers, List.forall_mem_append, List.forall_mem_cons, List.forall_mem_map]
  exact ⟨⟨⟨hbegin, hsize, hempty, hunsafe, hcall, hzero, hrange, List.forall_mem_nil _⟩,
    unmarked_inputText h⟩, hpassBegin, hpassSize, List.forall_mem_nil _⟩

theorem unmarked_beforePublications : ∀ line ∈ beforePublications, Source.Unmarked line := by
  decide

theorem unmarked_afterPublications (signature : Signature) :
    ∀ line ∈ signature.afterPublications, Source.Unmarked line := by
  have hfixed : ∀ line ∈ ["\x7d",
      "_ => panic!(\"Could not compute indicator, err: {:?}\", ret_code),", ""],
      Source.Unmarked line := by
    decide
  have hreturned : Source.Unmarked ("(" ++ ", ".intercalate signature.returned ++ ")") :=
    Source.unmarked_append (by decide)
  simp only [List.forall_mem_cons] at hfixed
  obtain ⟨hclose, hpanic, hempty, -⟩ := hfixed
  simp only [afterPublications, List.forall_mem_cons]
  exact ⟨hclose, hpanic, hclose, hclose, hempty, hreturned, hclose, List.forall_mem_nil _⟩

end Signature

namespace Source

/-- Whether no line ends in the mark. -/
def Free (mark : List Char) (lines : List String) : Prop :=
  ∀ line ∈ lines, ¬mark <:+ line.toList

/-- Whether all lines end in the mark or, where there is none, in no mark. -/
def Carries (tag : Option (List Char)) (lines : List String) : Prop :=
  match tag with
  | none => ∀ line ∈ lines, Unmarked line
  | some mark => mark ∈ marks ∧ ∀ line ∈ lines, mark <:+ line.toList

theorem Carries.free {tag : Option (List Char)} {mark : List Char} {lines : List String}
    (h : Carries tag lines) (hmark : mark ∈ marks) (hne : tag ≠ some mark) : Free mark lines := by
  intro line hline hsuffix
  cases tag with
  | none => exact h line hline mark hmark hsuffix
  | some other =>
      obtain ⟨hother, hlines⟩ := h
      exact hne (congrArg some (marks_apart hother hmark (hlines line hline) hsuffix))

/-- A marked line of a group is written once if the group has no line twice and no
line outside it ends in the mark. -/
theorem count_of_free {mark : List Char} {front group back : List String} {line : String}
    (hline : mark <:+ line.toList) (hfront : Free mark front) (hback : Free mark back)
    (hgroup : group.Nodup) (hmem : line ∈ group) : (front ++ (group ++ back)).count line = 1 := by
  have hnone : ∀ {lines}, Free mark lines → lines.count line = 0 := by
    intro lines hfree
    rw [List.count_eq_zero]
    intro hin
    exact hfree line hin hline
  rw [List.count_append, List.count_append, hnone hfront, hnone hback,
    List.count_eq_one_of_mem hgroup hmem]

/-- If no two pieces carry one mark, the lines of a piece that carries one are
written once. -/
theorem count_of_pieces (mark : List Char) {pieces : List (Option (List Char) × List String)}
    (hcarries : ∀ piece ∈ pieces, Carries piece.1 piece.2)
    (hdistinct : (pieces.filterMap Prod.fst).Nodup) {group : List String}
    (hpiece : (some mark, group) ∈ pieces) (hgroup : group.Nodup) {line : String}
    (hmem : line ∈ group) : (pieces.flatMap Prod.snd).count line = 1 := by
  obtain ⟨hmark, hlines⟩ := hcarries _ hpiece
  obtain ⟨front, back, rfl⟩ := List.append_of_mem hpiece
  have hother : mark ∉ (front ++ back).filterMap Prod.fst := by
    have hmarked : ((some mark, group) :: back).filterMap Prod.fst =
        mark :: back.filterMap Prod.fst := rfl
    rw [List.filterMap_append, hmarked] at hdistinct
    rw [List.filterMap_append]
    exact (List.nodup_cons.mp (List.nodup_middle.mp hdistinct)).1
  have hfree : ∀ piece ∈ front ++ back, Free mark piece.2 := by
    intro piece hmem
    have hin : piece ∈ front ++ (some mark, group) :: back :=
      List.perm_middle.mem_iff.mpr (List.mem_cons_of_mem _ hmem)
    refine (hcarries piece hin).free hmark ?_
    intro htag
    exact hother (List.mem_filterMap.mpr ⟨piece, hmem, htag⟩)
  have hall : ∀ {pieces}, pieces ⊆ front ++ back → Free mark (pieces.flatMap Prod.snd) := by
    intro pieces hsubset line hline
    obtain ⟨piece, hmem, hin⟩ := List.mem_flatMap.mp hline
    exact hfree piece (hsubset hmem) line hin
  rw [List.flatMap_append, List.flatMap_cons]
  exact count_of_free (hlines line hmem) (hall (List.subset_append_left _ _))
    (hall (List.subset_append_right _ _)) hgroup hmem

end Source

namespace Signature

variable {signature : Signature} {heading : List String}

open Source in
/-- The lines of a source, where those for the outputs carry their marks. -/
def pieces (signature : Signature) (heading : List String) :
    List (Option (List Char) × List String) :=
  [(none, heading),
    (some allocationMark,
      (signature.ofRole .output).map (Parameter.allocationText signature.series)),
    (none, signature.beforePointers),
    (some pointerMark, (signature.ofRole .output).map Parameter.pointerText),
    (none, beforePublications),
    (some publicationMark, (signature.ofRole .output).map Parameter.publicationText),
    (none, signature.afterPublications)]

theorem flatMap_pieces :
    (signature.pieces heading).flatMap Prod.snd = heading ++ signature.bodyLines := by
  simp [pieces, bodyLines_eq]

theorem Identified.carries_pieces (h : signature.Identified)
    (hheading : ∀ line ∈ heading, Source.Unmarked line) :
    ∀ piece ∈ signature.pieces heading, Source.Carries piece.1 piece.2 := by
  have hallocations : Source.Carries (some Source.allocationMark)
      ((signature.ofRole .output).map (Parameter.allocationText signature.series)) :=
    ⟨by decide, List.forall_mem_map.mpr fun output _ => output.allocationMark_suffix _⟩
  have hpointers : Source.Carries (some Source.pointerMark)
      ((signature.ofRole .output).map Parameter.pointerText) :=
    ⟨by decide, List.forall_mem_map.mpr fun output _ => output.pointerMark_suffix⟩
  have hpublications : Source.Carries (some Source.publicationMark)
      ((signature.ofRole .output).map Parameter.publicationText) :=
    ⟨by decide, List.forall_mem_map.mpr fun output _ => output.publicationMark_suffix⟩
  simp only [pieces, List.forall_mem_cons]
  exact ⟨hheading, hallocations, unmarked_beforePointers h, hpointers, unmarked_beforePublications,
    hpublications, signature.unmarked_afterPublications, List.forall_mem_nil _⟩

/-- Each output has one line of each kind. -/
theorem Identified.count_outputLines (h : signature.Identified)
    (hdistinct : ((signature.ofRole .output).map Parameter.localName).Nodup)
    (hheading : ∀ line ∈ heading, Source.Unmarked line) :
    ∀ output ∈ signature.ofRole .output,
      (heading ++ signature.bodyLines).count (output.allocationText signature.series) = 1 ∧
      (heading ++ signature.bodyLines).count output.pointerText = 1 ∧
      (heading ++ signature.bodyLines).count output.publicationText = 1 := by
  intro output houtput
  have hnames := h.identChars_localName .output
  have hcarries := h.carries_pieces hheading
  have hmarks : ((signature.pieces heading).filterMap Prod.fst).Nodup := by
    change Source.marks.Nodup
    decide
  rw [← flatMap_pieces]
  refine ⟨?_, ?_, ?_⟩
  · have hgroup := Parameter.nodup_allocationText hdistinct hnames signature.series
    exact Source.count_of_pieces Source.allocationMark hcarries hmarks (by simp [pieces])
      hgroup (List.mem_map_of_mem houtput)
  · have hgroup := Parameter.nodup_pointerText hdistinct hnames
    exact Source.count_of_pieces Source.pointerMark hcarries hmarks (by simp [pieces])
      hgroup (List.mem_map_of_mem houtput)
  · have hgroup := Parameter.nodup_publicationText hdistinct hnames
    exact Source.count_of_pieces Source.publicationMark hcarries hmarks (by simp [pieces])
      hgroup (List.mem_map_of_mem houtput)

/-- The outputs are told apart by their names, from each other and from the locals
of the wrapper. -/
theorem distinct_outputs (h : Parameter.Named synthesizedLocals signature.wrapped) :
    (synthesizedLocals ++ (signature.ofRole .output).map Parameter.localName).Nodup := by
  have hsublist : List.Sublist ((signature.ofRole .output).map Parameter.localName)
      (signature.wrapped.map Parameter.localName) :=
    (List.sublist_append_right _ _).map _
  exact h.distinct.sublist (hsublist.append_left _)

theorem nodup_returned (h : Parameter.Named synthesizedLocals signature.wrapped) :
    signature.returned.Nodup := by
  have hdistinct := distinct_outputs h
  have hbegin : "out_begin" ∉ (signature.ofRole .output).map Parameter.localName :=
    fun hmem => (List.disjoint_of_nodup_append hdistinct) (by decide) hmem
  rw [returned, ← List.concat_eq_append]
  exact hdistinct.of_append_right.concat hbegin

end Signature

/-- What the source of a wrapper does with the outputs of a declaration. The lines
are read without their indentation, nine of them up to the one that opens the
function. -/
structure Signature.HandlesOutputs (signature : Signature) (source : String) : Prop where
  ended : endLines (linesOf source) = source
  length : (linesOf source).length =
    28 + (signature.ofRole .input).length + 3 * (signature.ofRole .output).length
  body : ∃ heading, heading.length = 9 ∧ Source.bareLines source = heading ++ signature.bodyLines
  call : Source.emittedCall signature.name source = signature.callOrder
  allocated : ∀ output ∈ signature.ofRole .output, ∃ element,
    output.element = some element ∧
      (Source.bareLines source).count ("let mut " ++ output.localName ++ ": Vec<" ++ element ++
        "> = Vec::with_capacity(" ++ signature.series ++ ".len());") = 1
  passed : ∀ output ∈ signature.ofRole .output,
    (Source.bareLines source).count (output.localName ++ ".as_mut_ptr(),") = 1
  published : ∀ output ∈ signature.ofRole .output,
    (Source.bareLines source).count (output.localName ++ ".set_len(out_size as usize);") = 1
  returned : ∀ output ∈ signature.ofRole .output, signature.returned.count output.localName = 1

/-- The source of a wrapper allocates, passes, publishes and returns every output
once, each in the order of the declaration. -/
theorem Artifact.handlesOutputs {text : String} {signature : Signature} {artifact : Artifact}
    (hsignature : signature ∈ (extract none text).signatures)
    (h : ofSignature signature = .ok artifact) : signature.HandlesOutputs artifact.source := by
  have hcall := emittedCall_eq hsignature h
  have hidentified := identified_of_mem_extract hsignature
  obtain ⟨inputs, outputs, haccepts, rfl⟩ := ofSignature_eq_ok_iff.mp h
  have hinputs := plain_of_hasArgument haccepts.of_inputs (hidentified.ofRole .input)
  have houtputs := plain_of_hasArgument haccepts.of_outputs (hidentified.ofRole .output)
  have hnamed := haccepts.keeps.2.2.2
  have hlines := Source.linesOf_render hidentified.name.identChars hinputs houtputs
  have hbody : Source.bareLines (Source.render signature inputs outputs) =
      (Source.heading signature inputs outputs).map Source.bareLine ++ signature.bodyLines := by
    rw [Source.bareLines, hlines, ← haccepts.map_bareLine_body hinputs houtputs,
      ← List.map_append, Source.lines, Source.heading, List.append_assoc]
  have hheading : ∀ line ∈ (Source.heading signature inputs outputs).map Source.bareLine,
      Source.Unmarked line :=
    List.forall_mem_map.mpr fun line hline =>
      (Source.unmarked_heading hidentified.name.identChars line hline).bareLine
  have hdistinct := (Signature.distinct_outputs hnamed).of_append_right
  have hcount := hidentified.count_outputLines hdistinct hheading
  rw [← hbody] at hcount
  have hnine : (Source.heading signature inputs outputs).length = 9 := by
    simp [Source.heading, Source.header]
  have hlength : (linesOf (Source.render signature inputs outputs)).length =
      9 + signature.bodyLines.length := by
    have hsame := congrArg List.length hbody
    simpa only [Source.bareLines, List.length_append, List.length_map, hnine] using hsame
  dsimp only at hcall ⊢
  constructor
  case ended =>
    rw [hlines, Source.render]
  case length =>
    rw [hlength, Signature.length_bodyLines]
    omega
  case body =>
    exact ⟨_, by rw [List.length_map, hnine], hbody⟩
  case call =>
    exact hcall
  case allocated =>
    intro output houtput
    obtain ⟨element, helement⟩ := haccepts.exists_element output houtput
    have hline := (hcount output houtput).1
    rw [Parameter.allocationText, helement, Option.getD_some] at hline
    refine ⟨element, helement, ?_⟩
    simpa only [String.append_assoc] using hline
  case passed =>
    intro output houtput
    have hline := (hcount output houtput).2.1
    rwa [Parameter.pointerText] at hline
  case published =>
    intro output houtput
    have hline := (hcount output houtput).2.2
    rwa [Parameter.publicationText] at hline
  case returned =>
    intro output houtput
    have hmem : output.localName ∈ signature.returned :=
      List.mem_append_left _ (List.mem_map_of_mem houtput)
    exact List.count_eq_one_of_mem (Signature.nodup_returned hnamed) hmem

def bandsText : String :=
  "pub fn TA_BBANDS(startIdx: c_int, endIdx: c_int, inReal: *const f64, optInMAType: TA_MAType, " ++
    "outBegIdx: *mut c_int, outNBElement: *mut c_int, outUpper: *mut f64, outLower: *mut c_int)"

def bands : Signature where
  name := "TA_BBANDS"
  parameters :=
    [⟨startIndexName, "c_int"⟩, ⟨endIndexName, "c_int"⟩, ⟨"inReal", "*const f64"⟩,
      ⟨"optInMAType", "TA_MAType"⟩, ⟨beginIndexName, "*mut c_int"⟩,
      ⟨elementCountName, "*mut c_int"⟩, ⟨"outUpper", "*mut f64"⟩, ⟨"outLower", "*mut c_int"⟩]
  line := 1

/-- Two inputs and two outputs take thirty-six lines. -/
theorem bands_handlesOutputs :
    bands ∈ (extract none bandsText).signatures ∧
      ∃ artifact, Artifact.ofSignature bands = .ok artifact ∧
        bands.HandlesOutputs artifact.source ∧ (linesOf artifact.source).length = 36 ∧
        bands.returned = ["out_upper", "out_lower", "out_begin"] := by
  have hmem : bands ∈ (extract none bandsText).signatures := by decide +kernel
  have hok : (Artifact.ofSignature bands).map (fun artifact => artifact.filename) =
      .ok "bbands.rs" := by
    decide +kernel
  obtain ⟨artifact, hartifact, -⟩ := Except.map_eq_ok_iff.mp hok
  have hhandles := Artifact.handlesOutputs hmem hartifact
  have hinputs : (bands.ofRole .input).length = 2 := by decide +kernel
  have houtputs : (bands.ofRole .output).length = 2 := by decide +kernel
  have hlength := hhandles.length
  rw [hinputs, houtputs] at hlength
  exact ⟨hmem, artifact, hartifact, hhandles, hlength, by decide +kernel⟩

end IndicatorWrap
