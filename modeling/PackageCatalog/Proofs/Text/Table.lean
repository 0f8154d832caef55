import PackageCatalog.Text.Table
import Mathlib.Algebra.Group.Nat.Defs
import Mathlib.Data.List.Basic

/-!
# Searching a sorted table

What a binary search finds stands in the table.  In a table whose keys ascend, the entry of every
key is found: the search keeps the place of the entry between its bounds, and halves what lies
between them.

## Main results

* `Text.mem_of_find` — what is found stands in the table.
* `Text.find_of_mem` — **the entry of a key is found.**
-/

namespace PackageCatalog.Text

variable {β : Type} {table : Array β} {entry : β}

theorem mem_of_findBetween {side : β → Ordering} : ∀ {fuel low high : Nat},
    findBetween side table fuel low high = some entry → entry ∈ table ∧ side entry = .eq := by
  intro fuel
  induction fuel with
  | zero =>
    intro low high h
    cases h
  | succ fuel ih =>
    intro low high h
    rw [findBetween] at h
    split at h
    · cases h
    · dsimp only at h
      split at h
      · cases h
      · next found hfound =>
        split at h
        · next heq =>
          cases h
          exact ⟨Array.mem_of_getElem? hfound, heq⟩
        · exact ih h
        · exact ih h

/-- What is found stands in the table, and is what was looked for. -/
theorem mem_of_find {side : β → Ordering} (h : find side table = some entry) :
    entry ∈ table ∧ side entry = .eq := mem_of_findBetween h

section Sorted

variable {key : β → Nat} {place : Nat}

/-- The search finds a place between its bounds, with fuel for as many halvings as they need. -/
theorem findBetween_of_getElem? (hsorted : (table.toList.map key).Pairwise (· < ·))
    (hplace : table[place]? = some entry) : ∀ {fuel low high : Nat}, low ≤ place → place < high →
      high ≤ table.size → high - low < 2 ^ fuel →
        findBetween (fun e => compare (key entry) (key e)) table fuel low high = some entry := by
  -- keys ascend with the places
  have hkeys : ∀ {i j : Nat} {a b : β}, table[i]? = some a → table[j]? = some b → i < j →
      key a < key b := by
    intro i j a b ha hb hij
    have hmap : ∀ {k : Nat} {e : β}, table[k]? = some e →
        (table.toList.map key)[k]? = some (key e) := by
      intro k e hk
      rw [List.getElem?_map, Array.getElem?_toList, hk]
      rfl
    obtain ⟨hi, hia⟩ := List.getElem?_eq_some_iff.mp (hmap ha)
    obtain ⟨hj, hjb⟩ := List.getElem?_eq_some_iff.mp (hmap hb)
    rw [← hia, ← hjb]
    exact List.pairwise_iff_getElem.mp hsorted i j hi hj hij
  intro fuel
  induction fuel with
  | zero =>
    -- the bounds have met, which leaves no room for the place
    intro low high hlow hhigh _ hfuel
    omega
  | succ fuel ih =>
    intro low high hlow hhigh hsize hfuel
    rw [Nat.pow_succ] at hfuel
    rw [findBetween, if_neg (by omega)]
    dsimp only
    obtain ⟨found, hfound⟩ : ∃ found, table[(low + high) / 2]? = some found :=
      ⟨_, Array.getElem?_eq_getElem (by omega)⟩
    rw [hfound]
    dsimp only
    rcases Nat.lt_trichotomy place ((low + high) / 2) with h | h | h
    · rw [Nat.compare_eq_lt.mpr (hkeys hplace hfound h)]
      exact ih hlow h (by omega) (by omega)
    · rw [← h, hplace] at hfound
      cases Option.some.inj hfound
      rw [Nat.compare_eq_eq.mpr rfl]
    · rw [Nat.compare_eq_gt.mpr (hkeys hfound hplace h)]
      exact ih h hhigh hsize (by omega)

/-- **In a table whose keys ascend, the entry of every key is found.** -/
theorem find_of_mem (hsorted : (table.toList.map key).Pairwise (· < ·)) (h : entry ∈ table) :
    find (fun e => compare (key entry) (key e)) table = some entry := by
  obtain ⟨place, hlt, hplace⟩ := Array.getElem_of_mem h
  refine findBetween_of_getElem? hsorted (Array.getElem?_eq_some_iff.mpr ⟨hlt, hplace⟩)
    (Nat.zero_le place) hlt (Nat.le_refl _) ?_
  have hlog := Nat.lt_log2_self (n := table.size)
  rw [Nat.pow_succ]
  omega

end Sorted

end PackageCatalog.Text
