/-!
# Classes of characters by code point

A class of characters is a list of intervals of code points. Membership is decided by
running through the list.
-/

namespace Reckoner.Text

/-- Code points from the first component to the second, both included. -/
abbrev Interval := Nat × Nat

/-- Some interval of `table` holds the code point of `c`. -/
def within (table : List Interval) (c : Char) : Bool :=
  table.any fun (first, last) => first ≤ c.toNat && c.toNat ≤ last

end Reckoner.Text
