import IndicatorWrap.Text.Ranges

/-!
White space in the wide sense: every blank of Unicode, with the four
information separators of ASCII. Trimming drops it at both ends of a text.
-/

namespace IndicatorWrap.Text

/-- The blanks: tab to carriage return, the separators 0x1C to 0x1F, the space
and the blanks outside ASCII. -/
def blankRanges : Ranges :=
  [(0x09, 0x0D), (0x1C, 0x20), (0x85, 0x85), (0xA0, 0xA0), (0x1680, 0x1680),
    (0x2000, 0x200A), (0x2028, 0x2029), (0x202F, 0x202F), (0x205F, 0x205F),
    (0x3000, 0x3000)]

def isBlank (c : Char) : Bool :=
  blankRanges.holds c

def dropBlanks (text : List Char) : List Char :=
  text.dropWhile isBlank

/-- The text without the blanks at its two ends. -/
def trim (text : List Char) : List Char :=
  (dropBlanks (dropBlanks text).reverse).reverse

end IndicatorWrap.Text
