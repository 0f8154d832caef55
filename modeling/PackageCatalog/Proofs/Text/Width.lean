import PackageCatalog.Text.Lines
import PackageCatalog.Text.Width

/-!
# The width of parts

A character may join the next one to itself or widen the one before it, so the width of a text is
not the sum of the widths of its parts.  Parts never take more columns than the whole, as long as
the cut is not behind a joiner.

## Main results

* `Text.width_le_append` — the beginning of a text is not wider than the text.
* `Text.width_add_le_append` — **two parts are not wider than the whole**, unless the first ends in
  a joiner.
* `Text.flatMap_clusters` — the clusters of a text make the text.
-/

namespace PackageCatalog.Text

variable {c : Char} {t u : Text}

/-! ### Single characters -/

theorem widthAfter_joiner (last : Option Char) (d : Char) (t : Text) :
    widthAfter last (joiner :: d :: t) = widthAfter last t := by
  rw [widthAfter.eq_def]
  exact if_pos rfl

theorem widthAfter_selector (last : Option Char) (t : Text) :
    widthAfter last (selector :: t) = widening last + widthAfter none t := by
  rw [widthAfter.eq_def]
  exact (if_neg (by decide)).trans (if_pos rfl)

theorem widthAfter_hidden (hc : c ≠ joiner) (hselector : c ≠ selector) (h : charWidth c = 0)
    (last : Option Char) (t : Text) : widthAfter last (c :: t) = widthAfter last t := by
  rw [widthAfter.eq_def]
  exact (if_neg hc).trans ((if_neg hselector).trans (if_pos h))

theorem widthAfter_letter (hc : c ≠ joiner) (hselector : c ≠ selector) (h : charWidth c ≠ 0)
    (last : Option Char) (t : Text) :
    widthAfter last (c :: t) = charWidth c + widthAfter (some c) t := by
  rw [widthAfter.eq_def]
  exact (if_neg hc).trans ((if_neg hselector).trans (if_neg h))

/-! ### Parts -/

/-- A character in front of a text takes no columns away from it. -/
theorem widthAfter_none_le (last : Option Char) (t : Text) :
    widthAfter none t ≤ widthAfter last t := by
  induction last, t using widthAfter.induct with
  | case1 last => exact Nat.le_refl _
  | case2 last => exact Nat.le_refl _
  | case3 last d t ih =>
    rw [widthAfter_joiner, widthAfter_joiner]
    exact ih
  | case4 last t _ ih =>
    rw [widthAfter_selector, widthAfter_selector]
    exact Nat.add_le_add_right (Nat.zero_le _) _
  | case5 last c t hc hselector h ih =>
    rw [widthAfter_hidden hc hselector h, widthAfter_hidden hc hselector h]
    exact ih
  | case6 last c t hc hselector h ih =>
    have hletter := fun last => widthAfter_letter hc hselector h last t
    exact Nat.le_of_eq ((hletter _).trans (hletter _).symm)

theorem widthAfter_le_append (last : Option Char) (u v : Text) :
    widthAfter last u ≤ widthAfter last (u ++ v) := by
  induction last, u using widthAfter.induct with
  | case1 last => exact Nat.zero_le _
  | case2 last => exact Nat.zero_le _
  | case3 last d t ih =>
    rw [List.cons_append, List.cons_append, widthAfter_joiner, widthAfter_joiner]
    exact ih
  | case4 last t _ ih =>
    rw [List.cons_append, widthAfter_selector, widthAfter_selector]
    exact Nat.add_le_add_left ih _
  | case5 last c t hc hselector h ih =>
    rw [List.cons_append, widthAfter_hidden hc hselector h, widthAfter_hidden hc hselector h]
    exact ih
  | case6 last c t hc hselector h ih =>
    rw [List.cons_append, widthAfter_letter hc hselector h, widthAfter_letter hc hselector h]
    exact Nat.add_le_add_left ih _

/-- What is left of a text that does not end in a joiner does not either. -/
theorem getLast?_of_cons (h : (c :: t).getLast? ≠ some joiner) : t.getLast? ≠ some joiner := by
  cases t with
  | nil => nofun
  | cons d t => rwa [List.getLast?_cons_cons] at h

theorem widthAfter_add_le (last : Option Char) {u : Text} (v : Text)
    (h : u.getLast? ≠ some joiner) :
    widthAfter last u + widthAfter none v ≤ widthAfter last (u ++ v) := by
  induction last, u using widthAfter.induct with
  | case1 last =>
    rw [widthAfter, Nat.zero_add]
    exact widthAfter_none_le last v
  | case2 last => exact absurd rfl h
  | case3 last d t ih =>
    rw [List.cons_append, List.cons_append, widthAfter_joiner, widthAfter_joiner]
    exact ih (getLast?_of_cons (getLast?_of_cons h))
  | case4 last t _ ih =>
    rw [List.cons_append, widthAfter_selector, widthAfter_selector, Nat.add_assoc]
    exact Nat.add_le_add_left (ih (getLast?_of_cons h)) _
  | case5 last c t hc hselector hwidth ih =>
    rw [List.cons_append, widthAfter_hidden hc hselector hwidth,
      widthAfter_hidden hc hselector hwidth]
    exact ih (getLast?_of_cons h)
  | case6 last c t hc hselector hwidth ih =>
    rw [List.cons_append, widthAfter_letter hc hselector hwidth,
      widthAfter_letter hc hselector hwidth, Nat.add_assoc]
    exact Nat.add_le_add_left (ih (getLast?_of_cons h)) _

/-- The beginning of a text is not wider than the text. -/
theorem width_le_append (u v : Text) : width u ≤ width (u ++ v) := widthAfter_le_append none u v

theorem width_le_of_prefix (h : u <+: t) : width u ≤ width t := by
  obtain ⟨v, rfl⟩ := h
  exact width_le_append u v

/-- **Two parts are not wider than the whole**, unless the first ends in a joiner. -/
theorem width_add_le_append {u : Text} (v : Text) (h : u.getLast? ≠ some joiner) :
    width u + width v ≤ width (u ++ v) := widthAfter_add_le none v h

/-! ### Clusters -/

theorem flatMap_clustersAfter (current : Cluster) (last : Option Char) (t : Text) :
    (clustersAfter current last t).flatMap Cluster.text = current.text.reverse ++ t := by
  induction current, last, t using clustersAfter.induct with
  | case1 current last => simp [clustersAfter]
  | case2 current last ih => simp [clustersAfter]
  | case3 current last d t ih => simpa [clustersAfter] using ih
  | case4 current last t h ih =>
    rw [clustersAfter.eq_def]
    dsimp only
    rw [if_neg h, if_pos rfl, ih]
    simp
  | case5 current last c t hc hselector h ih =>
    rw [clustersAfter.eq_def]
    dsimp only
    rw [if_neg hc, if_neg hselector, if_pos h, ih]
    simp
  | case6 current last c t hc hselector h ih =>
    rw [clustersAfter.eq_def]
    dsimp only
    rw [if_neg hc, if_neg hselector, if_neg h, List.flatMap_cons, ih]
    simp

/-- The clusters of a text make the text. -/
theorem flatMap_clusters (t : Text) : (clusters t).flatMap Cluster.text = t := by
  cases t with
  | nil => rfl
  | cons c t =>
    rw [clusters]
    split
    · exact flatMap_clustersAfter _ _ _
    · exact flatMap_clustersAfter _ _ _

end PackageCatalog.Text
