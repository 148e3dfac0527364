/-!
# Tables of code points

Classes of characters beyond ASCII are tables of ranges of code points, both ends included, in
ascending order. A range that holds a code point is found by halving the table.
-/

namespace OperatorCore.Text

/-- Searches the ranges between two indices for one that holds the code point. -/
def inRange (ranges : Array (Nat × Nat)) (code : Nat) (lo hi : Nat) : Nat → Bool
  | 0 => false
  | fuel + 1 =>
    if hi ≤ lo then false
    else
      let middle := (lo + hi) / 2
      match ranges[middle]? with
      | none => false
      | some (first, last) =>
        if code < first then inRange ranges code lo middle fuel
        else if last < code then inRange ranges code (middle + 1) hi fuel
        else true

/-- A character is in one of the ranges. -/
def isAmong (ranges : Array (Nat × Nat)) (c : Char) : Bool :=
  inRange ranges c.toNat 0 ranges.size ranges.size

end OperatorCore.Text
