import IndicatorWrap.Proofs.Wrapper.Departure
import IndicatorWrap.Proofs.Wrapper.ForeignCall

/-!
The body of a wrapper, line by line, in terms of the declaration. The lines for
the outputs make three groups, each in the order of the declaration, and the
tuple that is returned makes a fourth. In the literals \x7b and \x7d are the braces { and }.
-/

namespace IndicatorWrap

open Text

/-- The elements of a series, if the tables hold them. -/
def Parameter.element (parameter : Parameter) : Option String :=
  (elementTag parameter.rawType).bind (List.lookup · elementTypes)

def Parameter.allocationText (series : String) (output : Parameter) : String :=
  "let mut " ++ output.localName ++
    (": Vec<" ++ output.element.getD "" ++ "> = Vec::with_capacity(" ++ series ++ ".len());")

def Parameter.pointerText (output : Parameter) : String :=
  output.localName ++ ".as_mut_ptr(),"

def Parameter.publicationText (output : Parameter) : String :=
  output.localName ++ ".set_len(out_size as usize);"

namespace Signature

/-- The names in the tuple that the wrapper returns. -/
def returned (signature : Signature) : List String :=
  (signature.ofRole .output).map Parameter.localName ++ ["out_begin"]

/-- The lines of the wrapper behind the one that opens the function, without their
indentation. -/
def bodyLines (signature : Signature) : List String :=
  (signature.ofRole .output).map (Parameter.allocationText signature.series) ++
    ["let mut out_begin: TA_Integer = 0;", "let mut out_size: TA_Integer = 0;", "",
      "unsafe \x7b", "let ret_code = " ++ signature.name ++ "("] ++
    signature.callOrder.map (· ++ ",") ++
    [");", "match ret_code \x7b", "TA_RetCode::TA_SUCCESS => \x7b"] ++
    (signature.ofRole .output).map Parameter.publicationText ++
    ["\x7d", "_ => panic!(\"Could not compute indicator, err: {:?}\", ret_code),",
      "\x7d", "\x7d", "", "(" ++ ", ".intercalate signature.returned ++ ")", "\x7d"]

theorem length_callOrder (signature : Signature) :
    signature.callOrder.length =
      4 + (signature.ofRole .input).length + (signature.ofRole .output).length := by
  simp only [callOrder, List.length_append, List.length_map, List.length_cons, List.length_nil]
  omega

theorem length_bodyLines (signature : Signature) :
    signature.bodyLines.length =
      19 + (signature.ofRole .input).length + 3 * (signature.ofRole .output).length := by
  simp only [bodyLines, List.length_append, List.length_map, List.length_cons, List.length_nil,
    length_callOrder]
  omega

end Signature

namespace Source

/-- A line without its indentation. -/
def bareLine (line : String) : String :=
  String.ofList (line.toList.dropWhile (· == ' '))

def bareLines (source : String) : List String :=
  (linesOf source).map bareLine

theorem bareLine_indent {line : String} (h : line.toList.head? ≠ some ' ') (width : Nat) :
    bareLine (indent width line) = line := by
  rw [bareLine, dropWhile_indent h, String.ofList_toList]

theorem bareLine_suffix (line : String) : (bareLine line).toList <:+ line.toList := by
  rw [bareLine, String.toList_ofList]
  exact List.dropWhile_suffix _

end Source

/-- The element of an output that is a series stands in the type of its argument. -/
theorem Parameter.HasArgument.element_eq {output : Parameter} {argument : Argument}
    (h : output.HasArgument argument) (hrole : Role.ofParameter output.name = .output)
    (hpointer : output.IsPointer) :
    ∃ element, output.element = some element ∧
      argument.hostType.text = "Vec<" ++ element ++ ">" := by
  have hresolve := h.hostType_eq
  rw [h.role_eq, hrole, HostType.ofRaw, if_pos (show _ = _ from hpointer)] at hresolve
  split at hresolve
  · cases hresolve
  · next element helement =>
      refine ⟨element, helement, ?_⟩
      rw [← Except.ok.inj hresolve]
      simp

namespace Signature.Accepts

variable {signature : Signature} {inputs outputs : List Argument}

theorem keeps (h : signature.Accepts inputs outputs) :
    signature.SizedByInput ∧ signature.ReturnsSeries ∧ signature.HasBookkeeping ∧
      Parameter.Named synthesizedLocals signature.wrapped :=
  (conventionFault?_eq_none_iff h.of_inputs h.of_outputs).mp h.convention

theorem exists_argument (h : signature.Accepts inputs outputs) :
    ∀ output ∈ signature.ofRole .output, ∃ argument, output.HasArgument argument := by
  have hof := h.of_outputs
  clear h
  generalize signature.ofRole .output = parameters at hof ⊢
  induction hof with
  | nil => simp
  | cons hfirst _ ih => exact List.forall_mem_cons.mpr ⟨⟨_, hfirst⟩, ih⟩

theorem exists_element (h : signature.Accepts inputs outputs) :
    ∀ output ∈ signature.ofRole .output, ∃ element, output.element = some element := by
  intro output houtput
  obtain ⟨argument, hof⟩ := h.exists_argument output houtput
  have hpointer := h.keeps.2.1.2 output houtput
  obtain ⟨element, helement, -⟩ := hof.element_eq (mem_ofRole.mp houtput).2 hpointer
  exact ⟨element, helement⟩

theorem map_allocation (h : signature.Accepts inputs outputs) :
    outputs.map (fun output => Source.bareLine
        (Source.indent 4 (Source.allocation (Source.series inputs) output))) =
      (signature.ofRole .output).map (Parameter.allocationText signature.series) := by
  apply map_of_hasArgument h.of_outputs
  intro output houtput argument hof
  have hpointer := h.keeps.2.1.2 output houtput
  obtain ⟨element, helement, htext⟩ := hof.element_eq (mem_ofRole.mp houtput).2 hpointer
  have hhead : (Source.allocation (Source.series inputs) argument).toList.head? ≠ some ' ' := by
    simp [Source.allocation]
  rw [Source.bareLine_indent hhead, Source.allocation, Parameter.allocationText, h.series_eq,
    hof.localName_eq, htext, helement]
  simp [← String.toList_inj]

theorem map_publication (h : signature.Accepts inputs outputs) :
    outputs.map (fun output => Source.bareLine (Source.indent 16 (Source.publication output))) =
      (signature.ofRole .output).map Parameter.publicationText := by
  apply map_of_hasArgument h.of_outputs
  intro output houtput argument hof
  have hlocal := Parameter.localName_of_output (mem_ofRole.mp houtput).2
  have hhead : (Source.publication argument).toList.head? ≠ some ' ' := by
    simp [Source.publication, hof.localName_eq, hlocal]
  rw [Source.bareLine_indent hhead, Source.publication, Parameter.publicationText,
    hof.localName_eq, sizeLocal]
  simp [← String.toList_inj]

theorem map_localName (h : signature.Accepts inputs outputs) :
    outputs.map Argument.localName = (signature.ofRole .output).map Parameter.localName :=
  map_of_hasArgument h.of_outputs fun _ _ _ hof => hof.localName_eq

theorem map_callArguments (h : signature.Accepts inputs outputs)
    (hinputs : ∀ input ∈ inputs, input.Plain) (houtputs : ∀ output ∈ outputs, output.Plain) :
    (Source.callArguments (Source.series inputs) inputs outputs).map
        (fun argument => Source.bareLine (Source.indent 12 (argument ++ ","))) =
      signature.callOrder.map (· ++ ",") := by
  rw [← h.callArguments_eq]
  apply List.map_congr_left
  intro argument hargument
  apply Source.bareLine_indent
  exact Source.head_comma (Source.head_callArguments hinputs houtputs argument hargument)

/-- The lines behind the one that opens the function. -/
theorem map_bareLine_body (h : signature.Accepts inputs outputs)
    (hinputs : ∀ input ∈ inputs, input.Plain) (houtputs : ∀ output ∈ outputs, output.Plain) :
    (Source.body signature inputs outputs ++ ["\x7d"]).map Source.bareLine =
      signature.bodyLines := by
  have hcall : Source.bareLine
      ("        let " ++ returnCodeLocal ++ " = " ++ signature.name ++ "(") =
        "let ret_code = " ++ signature.name ++ "(" := by
    simp [Source.bareLine, returnCodeLocal, ← String.toList_inj]
  have hreturned : Source.bareLine
      ("    (" ++ ", ".intercalate (outputs.map Argument.localName ++ [beginLocal]) ++ ")") =
        "(" ++ ", ".intercalate signature.returned ++ ")" := by
    rw [h.map_localName]
    simp [Source.bareLine, ← String.toList_inj, returned, beginLocal]
  have hfixed : ["    let mut " ++ beginLocal ++ ": TA_Integer = 0;",
      "    let mut " ++ sizeLocal ++ ": TA_Integer = 0;", "", "    unsafe \x7b", "        );",
      "        match " ++ returnCodeLocal ++ " \x7b", "            TA_RetCode::TA_SUCCESS => \x7b",
      "            \x7d",
      "            _ => panic!(\"Could not compute indicator, err: {:?}\", " ++
        returnCodeLocal ++ "),", "        \x7d", "    \x7d", "\x7d"].map Source.bareLine =
      ["let mut out_begin: TA_Integer = 0;", "let mut out_size: TA_Integer = 0;", "",
        "unsafe \x7b", ");", "match ret_code \x7b", "TA_RetCode::TA_SUCCESS => \x7b", "\x7d",
        "_ => panic!(\"Could not compute indicator, err: {:?}\", ret_code),", "\x7d",
        "\x7d", "\x7d"] := by
    decide
  simp only [List.map_cons, List.map_nil, List.cons.injEq, and_true] at hfixed
  have hallocated := h.map_allocation
  have hpassed := h.map_callArguments hinputs houtputs
  have hpublished := h.map_publication
  simp only [Source.series] at hallocated hpassed
  simp only [Source.body, List.map_append, List.map_map, List.map_cons, List.map_nil, hcall,
    hreturned, Function.comp_def, hallocated, hpassed, hpublished, hfixed, bodyLines,
    List.append_assoc, List.cons_append, List.nil_append]

end Signature.Accepts

end IndicatorWrap
