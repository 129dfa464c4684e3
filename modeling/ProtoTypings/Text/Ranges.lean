import ProtoTypings.Text.Basic

/-!
# Character classes

A class of characters is given by the closed ranges of code points that it covers, in ascending
order and apart from each other. Membership is a look through the ranges.
-/

namespace ProtoTypings

/-- A class of characters, as closed ranges of code points. -/
abbrev Ranges := List (Nat × Nat)

namespace Ranges

/-- Whether a character lies in one of the ranges. -/
def covers (ranges : Ranges) (c : Char) : Bool :=
  ranges.any fun range => range.1 ≤ c.toNat && c.toNat ≤ range.2

/-- Whether the ranges are not empty, ascend and leave a gap between neighbours. -/
def apart : Ranges → Bool
  | [] => true
  | [range] => range.1 ≤ range.2
  | range :: next :: later =>
    range.1 ≤ range.2 && range.2 + 1 < next.1 && apart (next :: later)

/-- How many code points the ranges cover when they are apart. -/
def size (ranges : Ranges) : Nat :=
  ranges.foldr (fun range others => range.2 + 1 - range.1 + others) 0

end Ranges

end ProtoTypings
