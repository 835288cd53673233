/-!
Sets of characters as rising lists of edges: the code points at which membership begins and
ends in turn.
-/

namespace Spreadsheet.Text

/-- Membership in the set that begins at the first edge, ends before the second, and so on. -/
def isBetweenEdges (edges : List Nat) (c : Char) : Bool :=
  edges.countP (fun edge => edge ≤ c.toNat) % 2 == 1

end Spreadsheet.Text
