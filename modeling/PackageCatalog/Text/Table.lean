import PackageCatalog.Text.Basic

/-!
# Sorted tables

Binary search in arrays whose entries are in ascending order.

## Main definitions

* `Text.find` - the entry that a comparison singles out.
* `Text.inRuns`, `Text.valueInRuns` - membership in runs of code points, and the value of a run.
-/

namespace PackageCatalog.Text

/-- The entry between `low` and `high` for which `side` answers `eq`; `lt` says that what is
sought lies before the entry, `gt` that it lies after it. -/
def findBetween {β : Type} (side : β → Ordering) (table : Array β) : Nat → Nat → Nat → Option β
  | 0, _, _ => none
  | fuel + 1, low, high =>
    if high ≤ low then none
    else
      let middle := (low + high) / 2
      match table[middle]? with
      | none => none
      | some entry =>
        match side entry with
        | .eq => some entry
        | .lt => findBetween side table fuel low middle
        | .gt => findBetween side table fuel (middle + 1) high

/-- The entry of an ascending table for which `side` answers `eq`. -/
def find {β : Type} (side : β → Ordering) (table : Array β) : Option β :=
  findBetween side table (table.size.log2 + 2) 0 table.size

/-- Where `n` lies with respect to the run from `first` to `last`. -/
def sideOfRun (n first last : Nat) : Ordering :=
  if n < first then .lt else if last < n then .gt else .eq

/-- Whether `n` belongs to one of the runs of an ascending table. -/
def inRuns (table : Array (Nat × Nat)) (n : Nat) : Bool :=
  (find (fun run => sideOfRun n run.1 run.2) table).isSome

/-- The value of the run of an ascending table that `n` belongs to. -/
def valueInRuns (table : Array (Nat × Nat × Nat)) (n : Nat) : Option Nat :=
  (find (fun run => sideOfRun n run.1 run.2.1) table).map (·.2.2)

end PackageCatalog.Text
