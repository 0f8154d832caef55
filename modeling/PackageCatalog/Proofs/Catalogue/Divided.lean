import PackageCatalog.Catalog
import PackageCatalog.Proofs.Path

/-!
# What a short path asks for

A short path is divided at its first slash, and refused when nothing stands before that.  What is
below a short path is what one query returns, which its two parts tell; so that whatever is known
of queries is known of it.

## Main definitions

* `Predicate.divided` — the query for what is below a short path.

## Main results

* `divideShort_of_package`, `divideShort_eq_error_iff` — which short paths are refused.
* `Table.below_cases` — **what is asked for**, or why nothing is.
-/

namespace PackageCatalog

variable {s : Text}

/-! ### Division -/

theorem divideShort_of_package (h : (Path.splitShort s).1 ≠ []) :
    divideShort (some s) = .ok (Path.splitShort s) := by
  unfold divideShort
  dsimp only
  rw [if_neg (mt List.isEmpty_iff.mp h)]

theorem divideShort_of_no_package (h : (Path.splitShort s).1 = []) :
    divideShort (some s) = .error (.badShortpath (some s)) := by
  unfold divideShort
  dsimp only
  rw [if_pos (List.isEmpty_iff.mpr h)]

/-- A short path is refused when it names no package. -/
theorem divideShort_eq_error_iff {e : Failure} :
    divideShort (some s) = .error e ↔
      (∀ c ∈ s.head?, c = '/') ∧ e = .badShortpath (some s) := by
  have hpackage : (Path.splitShort s).1 = [] ↔ ∀ c ∈ s.head?, c = '/' := by
    rw [Path.splitShort_fst_eq_nil_iff]
    simp only [PathAlphabet.slash, beq_iff_eq]
  rw [← hpackage]
  by_cases h : (Path.splitShort s).1 = []
  · rw [divideShort_of_no_package h, and_iff_right h, Except.error.injEq, eq_comm]
  · rw [divideShort_of_package h]
    exact iff_of_false nofun (fun hboth => h hboth.1)

/-! ### Below a short path -/

/-- The query for what is below a package and a rest: for the documents of the package, and among
them for those in whose restpath the rest is found. -/
def Predicate.divided (package : Text) : Option Text → Predicate
  | none => .equals .package package
  | some [] => .equals .package package
  | some rest => .all [.equals .package package, .token .restpath rest]

namespace Table

variable {t : Table}

theorem below_of_package (h : (Path.splitShort s).1 ≠ []) :
    t.below (some s) = (t.select (.divided (Path.splitShort s).1 (Path.splitShort s).2) [] 0
      none).mapError Failure.store := by
  cases s with
  | nil => exact absurd rfl h
  | cons c s =>
    unfold below
    dsimp only
    rw [divideShort_of_package h]
    obtain ⟨package, rest⟩ := Path.splitShort (c :: s)
    rcases rest with _ | _ | _ <;> rfl

theorem below_of_no_package (hne : s ≠ []) (h : (Path.splitShort s).1 = []) :
    t.below (some s) = .error (.badShortpath (some s)) := by
  cases s with
  | nil => exact absurd rfl hne
  | cons c s =>
    unfold below
    dsimp only
    rw [divideShort_of_no_package h]

/-- **What is below a short path**: everything below the empty one, what a query for its package and
its rest returns, or nothing when it names no package. -/
theorem below_cases (t : Table) (s : Text) :
    (s = [] ∧ t.below (some s) = (t.select .everything [] 0 none).mapError Failure.store) ∨
    (s ≠ [] ∧ (Path.splitShort s).1 = [] ∧
      t.below (some s) = .error (.badShortpath (some s))) ∨
    ((Path.splitShort s).1 ≠ [] ∧ t.below (some s) = (t.select (.divided (Path.splitShort s).1
      (Path.splitShort s).2) [] 0 none).mapError Failure.store) := by
  by_cases hne : s = []
  · subst hne
    exact Or.inl ⟨rfl, rfl⟩
  · by_cases h : (Path.splitShort s).1 = []
    · exact Or.inr (Or.inl ⟨hne, h, below_of_no_package hne h⟩)
    · exact Or.inr (Or.inr ⟨h, below_of_package h⟩)

end Table

end PackageCatalog
