/-!
Numbers in reports: decimal numerals, their digits grouped in threes, and
columns filled with spaces. A column never cuts what is wider than it.
-/

namespace IndicatorWrap.Text

def digit (n : Nat) : Char :=
  Char.ofNat (48 + n % 10)

/-- The decimal digits of a number, without leading zeros. -/
def digits (n : Nat) : List Char :=
  if n < 10 then [digit n] else digits (n / 10) ++ [digit n]
termination_by n

/-- The digits of a number with a comma before every third digit from the
right. -/
def groupedDigits (n : Nat) : List Char :=
  if n < 1000 then
    digits n
  else
    groupedDigits (n / 1000) ++ [',', digit (n / 100), digit (n / 10), digit n]
termination_by n

/-- The text of an integer from the text of its absolute value. -/
def signed (text : Nat → List Char) (n : Int) : List Char :=
  if n < 0 then '-' :: text n.natAbs else text n.natAbs

def decimal (n : Int) : String :=
  String.ofList (signed digits n)

def grouped (n : Int) : String :=
  String.ofList (signed groupedDigits n)

/-- Fills a column of the given width from the left. -/
def alignRight (width : Nat) (text : String) : String :=
  String.ofList (List.replicate (width - text.length) ' ' ++ text.toList)

/-- Fills a column of the given width on the right. -/
def alignLeft (width : Nat) (text : String) : String :=
  String.ofList (text.toList ++ List.replicate (width - text.length) ' ')

end IndicatorWrap.Text
