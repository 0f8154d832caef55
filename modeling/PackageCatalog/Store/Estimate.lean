/-!
# Estimates

What a way through the store is expected to cost, and how many rows it is expected to meet, is
estimated by logarithms: ten times the logarithm to the base two, as far as the first four bits of
a number tell it.  Multiplying is adding, and adding is adding a little to the greater of two.

## Main definitions

* `Estimate.ofNat` - the estimate of a number.
* `Estimate.sum` - the estimate of a sum.
* `Estimate.steps` - the estimate of the steps of a binary search.
-/

namespace PackageCatalog.Estimate

/-- Ten times the logarithm of 1, of 1 and an eighth, and so on up to below 2. -/
def eighths : List Int := [0, 2, 3, 5, 6, 7, 8, 9]

/-- The estimate of a number; 0 counts as 1. -/
def ofNat (n : Nat) : Int :=
  if n < 2 then 0
  else
    let power := n.log2
    10 * power + eighths.getD (n * 8 / Nat.pow 2 power % 8) 0

/-- What the smaller of two numbers adds to the estimate of the greater, by the difference of
their estimates. -/
def additions : List Int :=
  [10, 10, 9, 9, 8, 8, 7, 7, 7, 6, 6, 6, 5, 5, 5, 4, 4, 4, 4, 3, 3, 3, 3, 3, 3, 2, 2, 2, 2, 2, 2, 2]

/-- The estimate of the sum of two numbers. -/
def sum (a b : Int) : Int :=
  let difference := (a - b).natAbs
  max a b + additions.getD difference (if difference ≤ 49 then 1 else 0)

/-- The estimate of the steps of a binary search among a number of rows. -/
def steps (rows : Int) : Int := if rows ≤ 10 then 0 else ofNat rows.toNat - 33

end PackageCatalog.Estimate
