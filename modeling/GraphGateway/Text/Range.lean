/-
Sets of characters as ascending ranges of code points, both ends included.
-/
namespace GraphGateway.Text

/-- Whether a code point lies in one of some ranges. -/
def covers (ranges : List (Nat × Nat)) (n : Nat) : Bool :=
  ranges.any fun range => range.1 ≤ n && n ≤ range.2

/-- Whether ranges ascend, each ending before the next one starts. -/
def ascending : List (Nat × Nat) → Bool
  | [] => true
  | [range] => range.1 ≤ range.2
  | range :: next :: ranges =>
    range.1 ≤ range.2 && range.2 < next.1 && ascending (next :: ranges)

end GraphGateway.Text
