/-!
Lines of a text. Only the line feed ends a line; a file may also use carriage
returns, which reading turns into line feeds.
-/

namespace IndicatorWrap.Text

/-- How many lines end in a text. -/
def countLines (text : List Char) : Nat :=
  text.count '\n'

theorem countLines_append (front back : List Char) :
    countLines (front ++ back) = countLines front + countLines back :=
  List.count_append

/-- Every carriage return, with the line feed after it if there is one, becomes
one line feed. -/
def unifyLineEnds : List Char → List Char
  | [] => []
  | '\r' :: '\n' :: rest => '\n' :: unifyLineEnds rest
  | '\r' :: rest => '\n' :: unifyLineEnds rest
  | c :: rest => c :: unifyLineEnds rest

/-- Each line followed by a line feed. -/
def endLines (lines : List String) : String :=
  String.join (lines.map (· ++ "\n"))

end IndicatorWrap.Text
