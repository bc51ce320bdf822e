/-!
# Sets of code points

Sets of code points, kept as inclusive ranges in a search tree. A tree built from a list of ranges
in increasing order lists exactly those ranges again, and a search looks at one range per level.
-/

set_option autoImplicit false
set_option relaxedAutoImplicit false

namespace Lexeme.Text

/-- A set of code points: one inclusive range per node, smaller code points to the left. -/
inductive RangeTree where
  | leaf
  | node (left : RangeTree) (first last : Nat) (right : RangeTree)
  deriving Repr, DecidableEq

namespace RangeTree

/-- The ranges of the tree from left to right. -/
def toList : RangeTree → List (Nat × Nat)
  | leaf => []
  | node left first last right => left.toList ++ (first, last) :: right.toList

/-- Whether a code point lies in one of the ranges. -/
def contains : RangeTree → Nat → Bool
  | leaf, _ => false
  | node left first last right, code =>
    if code < first then left.contains code
    else if last < code then right.contains code
    else true

/-- A tree of at most `depth` levels over the front of a list, with the ranges that did not fit. -/
def build : Nat → List (Nat × Nat) → RangeTree × List (Nat × Nat)
  | 0, ranges => (leaf, ranges)
  | depth + 1, ranges =>
    match build depth ranges with
    | (left, []) => (left, [])
    | (left, (first, last) :: rest) =>
      let right := build depth rest
      (node left first last right.1, right.2)

/-- The tree of a list of ranges in increasing order, with just enough levels to hold them all. -/
def ofSorted (ranges : List (Nat × Nat)) : RangeTree :=
  (build (ranges.length.log2 + 1) ranges).1

theorem toList_build (depth : Nat) (ranges : List (Nat × Nat)) :
    (build depth ranges).1.toList ++ (build depth ranges).2 = ranges := by
  induction depth generalizing ranges with
  | zero => rfl
  | succ depth ih =>
    have front := ih ranges
    rw [build]
    split
    · next left heq => simpa [heq] using front
    · next left first last rest heq =>
      have back := ih rest
      simp only [heq] at front
      simp only [toList, List.append_assoc, List.cons_append, back, front]

end RangeTree

end Lexeme.Text
