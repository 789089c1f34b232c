/-!
Character classes given by tables. A class is the list of the closed intervals
of code points that belong to it, in ascending order.
-/

namespace IndicatorWrap.Text

/-- Closed intervals of code points. -/
abbrev Ranges := List (Nat × Nat)

/-- Whether some interval holds the character. -/
def Ranges.holds (ranges : Ranges) (c : Char) : Bool :=
  ranges.any fun interval => interval.1 ≤ c.toNat && c.toNat ≤ interval.2

end IndicatorWrap.Text
