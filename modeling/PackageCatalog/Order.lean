/-!
# Sorting

## Main definitions

* `insertBy`, `sortBy` - stable insertion sort by a given order.
* `lexicographic` - comparison by several keys in turn.
-/

namespace PackageCatalog

variable {α : Type}

/-- An element put before the first one that it is not greater than. -/
def insertBy (compare : α → α → Ordering) (a : α) : List α → List α
  | [] => [a]
  | b :: l => if compare a b == .gt then b :: insertBy compare a l else a :: b :: l

/-- A list in ascending order; elements that compare as equal keep their order. -/
def sortBy (compare : α → α → Ordering) : List α → List α
  | [] => []
  | a :: l => insertBy compare a (sortBy compare l)

/-- Comparison of lists of keys, the first difference deciding. -/
def lexicographic (compare : α → α → Ordering) : List α → List α → Ordering
  | [], [] => .eq
  | [], _ :: _ => .lt
  | _ :: _, [] => .gt
  | a :: s, b :: t => (compare a b).then (lexicographic compare s t)

end PackageCatalog
