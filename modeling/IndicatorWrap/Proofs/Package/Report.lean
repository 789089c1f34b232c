import Mathlib
import IndicatorWrap.Package.Summary
import IndicatorWrap.Proofs.Text.Numerals

/-!
What the printed summary tells. From its lines alone come back the number of lines of every file,
their sum, the number of files and how many declarations were replaced, however large or
negative these are and whatever the files are called.
-/

namespace IndicatorWrap.Summary

open Text

/-- The last word of a row that ends in the unit. -/
def rowNumber? (line : String) : Option (List Char) :=
  (" lines".toList.isSuffixOf? line.toList).map fun row => row.rtakeWhile (· ≠ ' ')

/-- The number of lines and the number of files in a line of totals. -/
def totals? (line : String) : Option (List Char × List Char) := do
  let text ← "  Total: ".toList.isPrefixOf? line.toList
  let (number, behind) ← cut? " lines across ".toList text
  let count ← " files".toList.isSuffixOf? behind
  pure (number, count)

def replacedMark : List Char :=
  "replaced by later declarations".toList

/-- The number that stands in the annotation of a line. -/
def replaced? (line : String) : Option Int := do
  let (_, annotation) ← cut? ['('] line.toList
  let (number, _) ← cut? (' ' :: replacedMark) annotation
  integer? number

/-- What the row of a file shows. -/
structure IsRow (file : FileLines) (line : String) : Prop where
  name : ("    " ++ file.filename).toList <+: line.toList
  number : ∃ number, rowNumber? line = some number ∧ IsGrouped number file.lines

/-- What the line of totals shows. -/
structure IsTotal (files : List FileLines) (line : String) : Prop where
  numbers : ∃ number count, totals? line = some (number, count) ∧
    IsGrouped number (files.map FileLines.lines).sum ∧ natural? count = some files.length

/-- What the line of functions tells of those replaced. -/
structure TellsReplaced (summary : Summary) (line : String) : Prop where
  present : replacedMark <:+: line.toList ↔ summary.functions < summary.declarations
  number : summary.functions < summary.declarations →
    replaced? line = some (summary.declarations - summary.functions)

/-- Whether a text is a report of the summary: all its lines are ended, there is one row for each
file, and each number stands in its line. -/
structure IsReport (summary : Summary) (text : String) : Prop where
  ended : endLines (linesOf text) = text
  length : (linesOf text).length = 11 + summary.files.length
  replaced : ∃ line, (linesOf text)[6]? = some line ∧ TellsReplaced summary line
  row : ∀ (index : Nat) file, summary.files[index]? = some file →
    ∃ line, (linesOf text)[9 + index]? = some line ∧ IsRow file line
  total : ∃ line, (linesOf text)[10 + summary.files.length]? = some line ∧
    IsTotal summary.files line

theorem not_mem_decimal {c : Char} (hc : isNumeralChar c = false) (n : Int) :
    c ∉ (decimal n).toList := by
  intro h
  rw [isNumeralChar_of_mem_decimal h] at hc
  exact absurd hc (by decide)

theorem not_mem_grouped {c : Char} (hc : isNumeralChar c = false) (n : Int) :
    c ∉ (grouped n).toList := by
  intro h
  rw [isNumeralChar_of_mem_grouped h] at hc
  exact absurd hc (by decide)

theorem not_mem_alignRight {c : Char} (hc : c ≠ ' ') {text : String} (h : c ∉ text.toList)
    (width : Nat) : c ∉ (alignRight width text).toList :=
  fun hmem => (mem_alignRight hmem).elim hc h

theorem not_mem_alignLeft {c : Char} (hc : c ≠ ' ') {text : String} (h : c ∉ text.toList)
    (width : Nat) : c ∉ (alignLeft width text).toList :=
  fun hmem => (mem_alignLeft hmem).elim h hc

/-- What stands in the column of counts is a numeral behind spaces. -/
theorem not_mem_count {c : Char} (hspace : c ≠ ' ') (hc : isNumeralChar c = false) (n : Int) :
    c ∉ (alignRight countWidth (decimal n)).toList :=
  not_mem_alignRight hspace (not_mem_decimal hc n) countWidth

theorem oneLine_fileRow {file : FileLines} (h : OneLine file.filename) : OneLine (fileRow file) := by
  have hname : OneLine (alignLeft nameWidth file.filename) :=
    not_mem_alignLeft (by decide) h nameWidth
  have hnumber : OneLine (alignRight countWidth (grouped file.lines)) :=
    not_mem_alignRight (by decide) (not_mem_grouped (by decide) _) countWidth
  simp only [fileRow, oneLine_append_iff, hname, hnumber, and_true]
  decide

theorem oneLine_functionsLine (summary : Summary) : OneLine summary.functionsLine := by
  have hcount : OneLine (alignRight countWidth (decimal summary.functions)) :=
    not_mem_count (by decide) (by decide) _
  unfold functionsLine
  split
  · simp only [oneLine_append_iff, hcount, oneLine_decimal, and_true]
    decide
  · simp only [oneLine_append_iff, hcount, and_true]
    decide

theorem oneLine_totalLine (summary : Summary) : OneLine summary.totalLine := by
  have hnumber : OneLine (grouped summary.totalLines) := not_mem_grouped (by decide) _
  simp only [totalLine, oneLine_append_iff, hnumber, oneLine_decimal, and_true]
  decide

theorem oneLine_of_mem_lines {summary : Summary} (hinput : OneLine summary.inputLabel)
    (houtput : OneLine summary.outputLabel) (hfiles : ∀ file ∈ summary.files, OneLine file.filename)
    {line : String} (h : line ∈ summary.lines) : OneLine line := by
  have hcount : OneLine (alignRight countWidth (decimal summary.declarations)) :=
    not_mem_count (by decide) (by decide) _
  simp only [lines, List.mem_append, List.mem_cons, List.mem_map, List.not_mem_nil, or_false,
    or_assoc] at h
  rcases h with rfl | rfl | rfl | rfl | rfl | rfl | rfl | rfl | rfl | ⟨file, hfile, rfl⟩ | rfl | rfl
  · decide
  · decide
  · exact oneLine_append_iff.mpr ⟨by decide, hinput⟩
  · exact oneLine_append_iff.mpr ⟨by decide, houtput⟩
  · decide
  · exact oneLine_append_iff.mpr ⟨by decide, hcount⟩
  · exact oneLine_functionsLine summary
  · decide
  · decide
  · exact oneLine_fileRow (hfiles file hfile)
  · decide
  · exact oneLine_totalLine summary

theorem rtakeWhile_word {word : List Char} (h : ' ' ∉ word) (front : List Char) :
    (front ++ ' ' :: word).rtakeWhile (· ≠ ' ') = word := by
  have hword : ∀ c ∈ word.reverse, decide (c ≠ ' ') = true := by
    intro c hc
    have hne : c ≠ ' ' := fun heq => h (heq ▸ List.mem_reverse.mp hc)
    simpa using hne
  rw [List.rtakeWhile, List.reverse_append, List.reverse_cons, List.append_assoc,
    List.takeWhile_append_of_pos hword]
  simp

/-- The number of a row is a word of its own, for at least one space stands in front of it. -/
theorem rowNumber?_fileRow (file : FileLines) :
    rowNumber? (fileRow file) = some (grouped file.lines).toList := by
  have htext : ∃ front, (fileRow file).toList =
      (front ++ ' ' :: (grouped file.lines).toList) ++ " lines".toList := by
    refine ⟨"    ".toList ++ (alignLeft nameWidth file.filename).toList ++
      List.replicate (countWidth - (grouped file.lines).length) ' ', ?_⟩
    have hspaces (k : Nat) (rest : List Char) :
        ' ' :: (List.replicate k ' ' ++ rest) = List.replicate k ' ' ++ ' ' :: rest := by
      rw [← List.cons_append, ← List.replicate_succ, List.replicate_succ', List.append_assoc]
      rfl
    simp [fileRow, alignRight, hspaces]
  obtain ⟨front, hfront⟩ := htext
  have hsuffix := List.isSuffixOf?_eq_some_iff_append_eq.mpr hfront.symm
  rw [rowNumber?, hsuffix, Option.map_some,
    rtakeWhile_word (not_mem_grouped (by decide) _)]

theorem isRow_fileRow (file : FileLines) : IsRow file (fileRow file) := by
  refine ⟨?_, _, rowNumber?_fileRow file, isGrouped_grouped file.lines⟩
  simp only [fileRow, alignLeft, String.toList_append, String.toList_ofList, List.append_assoc]
  rw [List.prefix_append_right_inj]
  exact List.prefix_append _ _

theorem totalLines_eq (summary : Summary) :
    summary.totalLines = (summary.files.map FileLines.lines).sum := by
  rw [totalLines, List.sum_eq_foldr, List.foldr_map]

theorem natural?_decimal (n : Nat) : natural? (decimal n).toList = some n := by
  rw [decimal, String.toList_ofList, signed, if_neg (by omega), Int.natAbs_natCast]
  exact natural?_digits n

theorem totals?_totalLine (summary : Summary) :
    totals? summary.totalLine =
      some ((grouped summary.totalLines).toList, (decimal summary.files.length).toList) := by
  have hunit : " lines across ".toList = ' ' :: "lines across ".toList := rfl
  have htext : summary.totalLine.toList = "  Total: ".toList ++ ((grouped summary.totalLines).toList
      ++ (" lines across ".toList ++ ((decimal summary.files.length).toList ++ " files".toList))) := by
    simp only [totalLine, String.toList_append, List.append_assoc]
  have hprefix := List.isPrefixOf?_eq_some_iff_append_eq.mpr htext.symm
  have hcut : cut? " lines across ".toList ((grouped summary.totalLines).toList ++
      (" lines across ".toList ++ ((decimal summary.files.length).toList ++ " files".toList))) =
      some ((grouped summary.totalLines).toList,
        (decimal summary.files.length).toList ++ " files".toList) := by
    rw [hunit]
    exact cut?_append (not_mem_grouped (by decide) _) _
  have hsuffix : " files".toList.isSuffixOf?
      ((decimal summary.files.length).toList ++ " files".toList) =
      some (decimal summary.files.length).toList :=
    List.isSuffixOf?_eq_some_iff_append_eq.mpr rfl
  simp only [totals?, hprefix, hcut, hsuffix, Option.bind_eq_bind, Option.bind_some, Option.pure_def]

theorem isTotal_totalLine (summary : Summary) : IsTotal summary.files summary.totalLine := by
  refine ⟨_, _, totals?_totalLine summary, ?_, natural?_decimal summary.files.length⟩
  rw [totalLines_eq]
  exact isGrouped_grouped _

theorem replaced_pos_iff (summary : Summary) :
    summary.replaced > 0 ↔ summary.functions < summary.declarations := by
  rw [replaced]
  omega

theorem functionsLine_of_replaced {summary : Summary}
    (h : summary.functions < summary.declarations) :
    summary.functionsLine.toList = ("  Functions:    ".toList ++
      (alignRight countWidth (decimal summary.functions)).toList ++ "  ".toList) ++
      (['('] ++ ((decimal summary.replaced).toList ++ ((' ' :: replacedMark) ++ [')']))) := by
  have hopening : "  (".toList = "  ".toList ++ ['('] := rfl
  have hclosing : " replaced by later declarations)".toList = (' ' :: replacedMark) ++ [')'] := rfl
  rw [functionsLine, if_pos ((replaced_pos_iff summary).mpr h)]
  simp only [String.toList_append, hopening, hclosing, List.append_assoc]

/-- The bracket of the annotation is the first of its line. -/
theorem replaced?_functionsLine {summary : Summary} (h : summary.functions < summary.declarations) :
    replaced? summary.functionsLine = some (summary.declarations - summary.functions) := by
  have hcount : '(' ∉ (alignRight countWidth (decimal summary.functions)).toList :=
    not_mem_count (by decide) (by decide) _
  have hfront : '(' ∉ "  Functions:    ".toList ++
      (alignRight countWidth (decimal summary.functions)).toList ++ "  ".toList := by
    rw [List.mem_append, List.mem_append, not_or, not_or]
    exact ⟨⟨by decide, hcount⟩, by decide⟩
  have hnumber : cut? (' ' :: replacedMark)
      ((decimal summary.replaced).toList ++ ((' ' :: replacedMark) ++ [')'])) =
      some ((decimal summary.replaced).toList, [')']) :=
    cut?_append (not_mem_decimal (by decide) summary.replaced) _
  simp only [replaced?, functionsLine_of_replaced h, cut?_append hfront, hnumber,
    Option.bind_eq_bind, Option.bind_some]
  exact integer?_decimal summary.replaced

theorem tellsReplaced_functionsLine (summary : Summary) :
    TellsReplaced summary summary.functionsLine := by
  refine ⟨⟨fun hmark => ?_, fun hfewer => ?_⟩, replaced?_functionsLine⟩
  · by_contra hnone
    -- without the annotation the line has no letter of its first word
    have hcount : 'r' ∉ (alignRight countWidth (decimal summary.functions)).toList :=
      not_mem_count (by decide) (by decide) _
    have hline : 'r' ∉ summary.functionsLine.toList := by
      rw [functionsLine, if_neg (mt (replaced_pos_iff summary).mp hnone), String.toList_append,
        List.mem_append, not_or]
      exact ⟨by decide, hcount⟩
    exact hline (hmark.subset (by decide))
  · rw [functionsLine_of_replaced hfewer]
    refine ⟨"  Functions:    ".toList ++
      (alignRight countWidth (decimal summary.functions)).toList ++ "  ".toList ++
      (['('] ++ ((decimal summary.replaced).toList ++ [' '])), [')'], ?_⟩
    simp only [List.append_assoc, List.cons_append, List.nil_append]

theorem lines_behind_header (summary : Summary) (index : Nat) :
    summary.lines[9 + index]? =
      (summary.files.map fileRow ++ ["", summary.totalLine])[index]? := by
  rw [Nat.add_comm, lines, List.append_assoc]
  rfl

theorem lines_row {summary : Summary} {index : Nat} {file : FileLines}
    (h : summary.files[index]? = some file) : summary.lines[9 + index]? = some (fileRow file) := by
  have hindex : index < (summary.files.map fileRow).length := by
    rw [List.length_map]
    exact (List.getElem?_eq_some_iff.mp h).1
  rw [lines_behind_header, List.getElem?_append_left hindex, List.getElem?_map, h, Option.map_some]

theorem lines_total (summary : Summary) :
    summary.lines[10 + summary.files.length]? = some summary.totalLine := by
  have hbehind : 10 + summary.files.length = 9 + ((summary.files.map fileRow).length + 1) := by
    rw [List.length_map]
    omega
  rw [hbehind, lines_behind_header, List.getElem?_append_right (Nat.le_add_right _ 1),
    Nat.add_sub_cancel_left]
  rfl

/-- A report gives its numbers back. -/
theorem render_readable (summary : Summary) (hinput : OneLine summary.inputLabel)
    (houtput : OneLine summary.outputLabel)
    (hfiles : ∀ file ∈ summary.files, OneLine file.filename) : IsReport summary summary.render := by
  have hlines : linesOf summary.render = summary.lines :=
    linesOf_endLines fun _ hline => oneLine_of_mem_lines hinput houtput hfiles hline
  constructor
  case ended => rw [hlines, render]
  case length =>
    rw [hlines]
    simp [lines]
    omega
  case replaced =>
    rw [hlines]
    exact ⟨_, rfl, tellsReplaced_functionsLine summary⟩
  case row =>
    intro index file hfile
    rw [hlines]
    exact ⟨_, lines_row hfile, isRow_fileRow file⟩
  case total =>
    rw [hlines]
    exact ⟨_, lines_total summary, isTotal_totalLine summary⟩

/-- Counts that are negative or beyond a machine word, and names that a column could cut or that
look like the end of a row. -/
def lopsided : Summary where
  inputLabel := "headers/functions.h"
  outputLabel := ""
  declarations := 36893488147419103232
  functions := -7
  files := [⟨"a_name_that_is_wider_than_its_column.rs", -1234567⟩, ⟨"   5 lines", 999⟩,
    ⟨"", 18446744073709551616⟩]

theorem lopsided_report : OneLine lopsided.inputLabel ∧ OneLine lopsided.outputLabel ∧
    (∀ file ∈ lopsided.files, OneLine file.filename) ∧
    lopsided.files.map fileRow =
      ["    a_name_that_is_wider_than_its_column.rs -1,234,567 lines",
        "       5 lines                      999 lines",
        "                                 18,446,744,073,709,551,616 lines"] ∧
    IsReport lopsided lopsided.render :=
  ⟨by decide, by decide, by decide, by decide +kernel,
    render_readable lopsided (by decide) (by decide) (by decide)⟩

end IndicatorWrap.Summary
