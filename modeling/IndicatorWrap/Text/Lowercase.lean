import IndicatorWrap.Text.Casing

/-!
The lower-case form of a text. Inside ASCII it is the map of single letters;
outside, one letter becomes two characters, and a capital sigma at the end of a
word takes the final form.
-/

namespace IndicatorWrap.Text

/-- The lower-case form of one character, the place in its word aside. -/
def lowerChar (c : Char) : List Char :=
  if c.toNat < 0x80 then
    [c.toLower]
  else if c = 'İ' then
    ['i', '\u0307']
  else
    match caseRuns.find? (·.holds c) with
    | some run => [Char.ofNat (c.toNat + run.shift).toNat]
    | none => [c]

/-- Whether a letter comes next, transparent characters aside. -/
def startsCased : List Char → Bool
  | [] => false
  | c :: rest => if isTransparent c then startsCased rest else isCased c

/-- The lower-case form of what follows a text; `inWord` says whether that text
ends in a letter, transparent characters aside. -/
def lowerAfter (inWord : Bool) : List Char → List Char
  | [] => []
  | c :: rest =>
    let lowered :=
      if c = 'Σ' then
        [if inWord && !startsCased rest then 'ς' else 'σ']
      else
        lowerChar c
    lowered ++ lowerAfter (if isTransparent c then inWord else isCased c) rest

def lower (text : List Char) : List Char :=
  lowerAfter false text

end IndicatorWrap.Text
