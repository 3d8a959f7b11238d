/-!
# Runs of code points

A property of characters as the runs of code points that have it.
-/

namespace Inspection

namespace Text

/-- Runs of code points, each by its first and last one. -/
abbrev Runs := List (Nat × Nat)

/-- Whether a character is in one of the runs. -/
def Runs.contain (runs : Runs) (c : Char) : Bool :=
  runs.any fun (first, last) => first ≤ c.toNat && c.toNat ≤ last

end Text

end Inspection
