import IndicatorWrap.Proofs.Wrapper.SourceLines

/-!
The foreign call as it stands in a source: the lines between the one that opens
the call and the one that closes it, an argument each.
-/

namespace IndicatorWrap.Source

open Text

/-- The line that opens the call of a function. -/
def callLine (function : String) : String :=
  "        let " ++ returnCodeLocal ++ " = " ++ function ++ "("

def closingLine : String := "        );"

/-- A line without its indentation and the comma at its end. -/
def bareArgument (line : String) : String :=
  String.ofList (line.toList.dropWhile (· == ' ')).dropLast

/-- The arguments with which a source calls a function. -/
def emittedCall (function source : String) : List String :=
  (((linesOf source).dropWhile (· != callLine function)).tail.takeWhile
    (· != closingLine)).map bareArgument

theorem dropWhile_indent {line : String} (h : line.toList.head? ≠ some ' ') (width : Nat) :
    (indent width line).toList.dropWhile (· == ' ') = line.toList := by
  have hblanks : ∀ c ∈ List.replicate width ' ', (c == ' ') = true := by simp
  rw [indent, String.toList_append, String.toList_ofList, List.dropWhile_append_of_pos hblanks]
  cases hline : line.toList with
  | nil => rfl
  | cons c rest =>
      have hc : c ≠ ' ' := by simpa [hline] using h
      simp [hc]

theorem head_comma {argument : String} (h : argument.toList.head? ≠ some ' ') :
    (argument ++ ",").toList.head? ≠ some ' ' := by
  cases htext : argument.toList with
  | nil => simp [htext]
  | cons c rest => simpa [htext] using h

theorem bareArgument_indent {argument : String} (h : argument.toList.head? ≠ some ' ')
    (width : Nat) : bareArgument (indent width (argument ++ ",")) = argument := by
  have hcomma : (argument ++ ",").toList = argument.toList ++ [','] := String.toList_append
  rw [bareArgument, dropWhile_indent (head_comma h), hcomma, List.dropLast_concat,
    String.ofList_toList]

/-- What stands between two lines, if the first of them stands nowhere earlier
and the second nowhere between. -/
theorem between_lines {front inner back : List String} {opening closing : String}
    (hfront : ∀ line ∈ front, line ≠ opening) (hinner : ∀ line ∈ inner, line ≠ closing) :
    ((front ++ opening :: (inner ++ closing :: back)).dropWhile (· != opening)).tail.takeWhile
      (· != closing) = inner := by
  have hskipped : ∀ line ∈ front, (line != opening) = true := by
    intro line hline
    exact bne_iff_ne.mpr (hfront line hline)
  have htaken : ∀ line ∈ inner, (line != closing) = true := by
    intro line hline
    exact bne_iff_ne.mpr (hinner line hline)
  have hopening : ¬(opening != opening) = true := by simp
  have hclosing : ¬(closing != closing) = true := by simp
  rw [List.dropWhile_append_of_pos hskipped, List.dropWhile_cons, if_neg hopening,
    List.tail_cons, List.takeWhile_append_of_pos htaken, List.takeWhile_cons, if_neg hclosing,
    List.append_nil]

/-- Whether a line is indented at least as far as the call. -/
def Deep (line : String) : Prop :=
  List.replicate 8 ' ' <+: line.toList

theorem ne_callLine {line : String} (h : ¬Deep line) (function : String) :
    line ≠ callLine function := by
  rintro rfl
  apply h
  simp [Deep, callLine, returnCodeLocal, List.replicate]

theorem ne_closingLine (line : String) : indent 12 line ≠ closingLine := by
  intro heq
  have htext := congrArg String.toList heq
  simp [indent, closingLine, List.replicate] at htext

variable {signature : Signature} {inputs outputs : List Argument}

/-- The lines in front of the call. -/
def linesBefore (signature : Signature) (inputs outputs : List Argument) : List String :=
  header signature ++ ["", useLine signature inputs, "", functionLine signature inputs outputs] ++
    outputs.map (fun output => indent 4 (allocation (series inputs) output)) ++
    ["    let mut " ++ beginLocal ++ ": TA_Integer = 0;",
      "    let mut " ++ sizeLocal ++ ": TA_Integer = 0;", "",
      -- the brace that opens the block
      "    unsafe \x7b"]

theorem not_deep_linesBefore :
    ∀ line ∈ linesBefore signature inputs outputs, ¬Deep line := by
  simp only [linesBefore, header, List.forall_mem_append, List.forall_mem_cons,
    List.forall_mem_map]
  simp [Deep, List.replicate, border, useLine, functionLine, indent, allocation]

theorem lines_eq : ∃ back, lines signature inputs outputs =
    linesBefore signature inputs outputs ++ callLine signature.name ::
      ((callArguments (series inputs) inputs outputs).map (fun argument =>
        indent 12 (argument ++ ",")) ++ closingLine :: back) := by
  simp only [lines, body, linesBefore, List.append_assoc, List.cons_append, List.nil_append]
  exact ⟨_, rfl⟩

/-- No argument begins with a blank. -/
theorem head_callArguments (hinputs : ∀ input ∈ inputs, input.Plain)
    (houtputs : ∀ output ∈ outputs, output.Plain) :
    ∀ argument ∈ callArguments (series inputs) inputs outputs,
      argument.toList.head? ≠ some ' ' := by
  have hhead : ∀ {name : String}, IdentChars name.toList → ∀ rest : List Char,
      rest.head? ≠ some ' ' → (name.toList ++ rest).head? ≠ some ' ' := by
    intro name hname rest hrest
    cases htext : name.toList with
    | nil => exact hrest
    | cons c text =>
        rintro ⟨⟩
        exact hname.not_mem rfl (htext ▸ List.mem_cons_self)
  have hrange : (series inputs ++ ".len() as i32 - 1").toList.head? ≠ some ' ' := by
    rw [String.toList_append]
    exact hhead (identChars_series hinputs) _ (by decide)
  have hinput : ∀ input ∈ inputs, (inputArgument input).toList.head? ≠ some ' ' := by
    intro input hinput
    have hlocal := (hinputs input hinput).localName
    unfold inputArgument
    split
    · rw [String.toList_append]
      exact hhead hlocal _ (by decide)
    · rw [← List.append_nil input.localName.toList]
      exact hhead hlocal [] (by decide)
  have houtput : ∀ output ∈ outputs, (outputArgument output).toList.head? ≠ some ' ' := by
    intro output houtput
    have hlocal := (houtputs output houtput).localName
    rw [outputArgument, String.toList_append]
    exact hhead hlocal _ (by decide)
  simp only [callArguments, List.forall_mem_append, List.forall_mem_map, List.forall_mem_cons]
  exact ⟨⟨⟨⟨by decide, hrange, List.forall_mem_nil _⟩, hinput⟩, by decide⟩, houtput⟩

/-- The call that is read in a source is the one that was written. -/
theorem emittedCall_render (hname : IdentChars signature.name.toList)
    (hinputs : ∀ input ∈ inputs, input.Plain) (houtputs : ∀ output ∈ outputs, output.Plain) :
    emittedCall signature.name (render signature inputs outputs) =
      callArguments (series inputs) inputs outputs := by
  obtain ⟨back, hlines⟩ := @lines_eq signature inputs outputs
  have hinner : ∀ line ∈ (callArguments (series inputs) inputs outputs).map (fun argument =>
      indent 12 (argument ++ ",")), line ≠ closingLine := by
    rw [List.forall_mem_map]
    intro argument _
    exact ne_closingLine _
  have hfront : ∀ line ∈ linesBefore signature inputs outputs, line ≠ callLine signature.name := by
    intro line hline
    exact ne_callLine (not_deep_linesBefore line hline) _
  rw [emittedCall, linesOf_render hname hinputs houtputs, hlines, between_lines hfront hinner,
    List.map_map]
  conv_rhs => rw [← List.map_id (callArguments (series inputs) inputs outputs)]
  apply List.map_congr_left
  intro argument hargument
  exact bareArgument_indent (head_callArguments hinputs houtputs argument hargument) 12

end IndicatorWrap.Source
