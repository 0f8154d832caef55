import PackageCatalog.Order
import Mathlib.Data.List.Basic

/-!
# What sorting does to a list

Sorting rearranges a list and leaves elements that compare as equal in the order in which they
came.  The second half is stated with a relation on such elements: whatever held between equal
elements in the order of the list still holds in the order of the result.

## Main results

* `sortBy_perm` — nothing is lost and nothing is added.
* `pairwise_sortBy` — the result ascends, and equal elements keep their order.
* `eq_of_perm_of_pairwise_before` — such an order has one list only.
* `sortBy_eq_of_ascends` — without equal elements, sorting finds the one ascending list.
* `map_eq_of_perm_of_pairwise` — what the order compares is the same in any two sorted lists.
-/

namespace PackageCatalog

variable {α : Type}

/-! ### Elements -/

theorem insertBy_perm (cmp : α → α → Ordering) (a : α) :
    ∀ l : List α, (insertBy cmp a l).Perm (a :: l) := by
  intro l
  induction l with
  | nil => exact List.Perm.refl _
  | cons b l ih =>
    unfold insertBy
    split
    · exact (ih.cons b).trans (List.Perm.swap a b l)
    · exact List.Perm.refl _

theorem sortBy_perm (cmp : α → α → Ordering) : ∀ l : List α, (sortBy cmp l).Perm l := by
  intro l
  induction l with
  | nil => exact List.Perm.refl _
  | cons a l ih => exact (insertBy_perm cmp a _).trans (ih.cons a)

@[simp] theorem mem_sortBy {cmp : α → α → Ordering} {l : List α} {a : α} :
    a ∈ sortBy cmp l ↔ a ∈ l :=
  (sortBy_perm cmp l).mem_iff

/-! ### Order -/

/-- `a` stands before `b`: it is less, or it is equal and `tie` puts it first. -/
def Before (cmp : α → α → Ordering) (tie : α → α → Prop) (a b : α) : Prop :=
  cmp a b = .lt ∨ (cmp a b = .eq ∧ tie a b)

variable {cmp : α → α → Ordering} {tie : α → α → Prop}

theorem Before.ne_gt {a b : α} (h : Before cmp tie a b) : cmp a b ≠ .gt := by
  rcases h with h | ⟨h, -⟩ <;> rw [h] <;> decide

theorem pairwise_insertBy [Std.TransCmp cmp] {a : α} : ∀ {l : List α},
    (∀ b ∈ l, cmp a b = .eq → tie a b) → l.Pairwise (Before cmp tie) →
      (insertBy cmp a l).Pairwise (Before cmp tie) := by
  intro l
  induction l with
  | nil => intro _ _; exact List.pairwise_singleton _ _
  | cons b l ih =>
    intro htie hl
    obtain ⟨hb, hl'⟩ := List.pairwise_cons.mp hl
    unfold insertBy
    split
    · next hgt =>
      have hgt' : cmp a b = .gt := by simpa using hgt
      refine List.pairwise_cons.mpr
        ⟨?_, ih (fun c hc => htie c (List.mem_cons_of_mem b hc)) hl'⟩
      intro c hc
      rcases List.mem_cons.mp ((insertBy_perm cmp a l).mem_iff.mp hc) with rfl | hc
      · exact Or.inl (Std.OrientedCmp.lt_of_gt hgt')
      · exact hb c hc
    · next hngt =>
      have hab : (cmp a b).isLE := by
        cases h : cmp a b
        · rfl
        · rfl
        · exact absurd h (by simpa using hngt)
      refine List.pairwise_cons.mpr ⟨?_, hl⟩
      intro c hc
      -- what stands behind `b` is not before `a` either
      have hac : (cmp a c).isLE := by
        rcases List.mem_cons.mp hc with rfl | hc'
        · exact hab
        · have hbc : (cmp b c).isLE := by rcases hb c hc' with h | ⟨h, -⟩ <;> rw [h] <;> rfl
          exact Std.TransCmp.isLE_trans hab hbc
      cases h : cmp a c with
      | lt => exact Or.inl h
      | eq => exact Or.inr ⟨h, htie c hc h⟩
      | gt => rw [h] at hac; exact absurd hac (by decide)

/-- **Sorting is stable**: the result ascends, and what held between equal elements in the order
of the list holds between them in the order of the result. -/
theorem pairwise_sortBy [Std.TransCmp cmp] : ∀ {l : List α},
    l.Pairwise (fun a b => cmp a b = .eq → tie a b) →
      (sortBy cmp l).Pairwise (Before cmp tie) := by
  intro l
  induction l with
  | nil => intro _; exact List.Pairwise.nil
  | cons a l ih =>
    intro h
    obtain ⟨ha, hl⟩ := List.pairwise_cons.mp h
    exact pairwise_insertBy (fun b hb => ha b (mem_sortBy.mp hb)) (ih hl)

theorem sortBy_ascends [Std.TransCmp cmp] (l : List α) :
    (sortBy cmp l).Pairwise (fun a b => cmp a b ≠ .gt) := by
  have htie : l.Pairwise (fun a b => cmp a b = .eq → True) :=
    List.pairwise_of_forall (fun _ _ _ => trivial)
  exact (pairwise_sortBy htie).imp Before.ne_gt

/-- An order that has no ties, or breaks them by an asymmetric relation, fixes the list. -/
theorem eq_of_perm_of_pairwise_before [Std.TransCmp cmp] {l₁ l₂ : List α}
    (htie : ∀ a b, tie a b → ¬tie b a) (h₁ : l₁.Pairwise (Before cmp tie))
    (h₂ : l₂.Pairwise (Before cmp tie)) (hp : l₁.Perm l₂) : l₁ = l₂ := by
  refine List.Perm.eq_of_pairwise ?_ h₁ h₂ hp
  intro a b _ _ hab hba
  rcases hab with hab | ⟨heq, hab⟩
  · exact absurd (Std.OrientedCmp.gt_of_lt hab) hba.ne_gt
  · rcases hba with hba | ⟨-, hba⟩
    · rw [Std.OrientedCmp.eq_comm] at heq
      rw [heq] at hba
      exact absurd hba (by decide)
    · exact absurd hba (htie a b hab)

/-- Elements of which no two are equal have one ascending order, and sorting finds it. -/
theorem sortBy_eq_of_ascends [Std.TransCmp cmp] {l₁ l₂ : List α} (hp : l₁.Perm l₂)
    (h : l₂.Pairwise (fun a b => cmp a b = .lt)) : sortBy cmp l₁ = l₂ := by
  have hne : l₂.Pairwise (fun a b => cmp a b ≠ .eq) :=
    h.imp (fun hlt heq => nomatch hlt.symm.trans heq)
  have hties : l₁.Pairwise (fun a b => cmp a b = .eq → False) :=
    hp.symm.pairwise hne (fun hab hba => hab (Std.OrientedCmp.eq_comm.mp hba))
  exact eq_of_perm_of_pairwise_before (fun _ _ h => h.elim) (pairwise_sortBy hties)
    (h.imp Or.inl) ((sortBy_perm cmp l₁).trans hp)

/-- Two ascending lists of the same elements show the same sequence of what is compared. -/
theorem map_eq_of_perm_of_pairwise {β : Type} [Std.TransCmp cmp] {f : α → β}
    (hf : ∀ a b, f a = f b ↔ cmp a b = .eq) {l₁ l₂ : List α} (hp : l₁.Perm l₂)
    (h₁ : l₁.Pairwise (fun a b => cmp a b ≠ .gt)) (h₂ : l₂.Pairwise (fun a b => cmp a b ≠ .gt)) :
    l₁.map f = l₂.map f := by
  have hmap : ∀ {l : List α}, l.Pairwise (fun a b => cmp a b ≠ .gt) →
      (l.map f).Pairwise (fun x y => ∃ a b, f a = x ∧ f b = y ∧ cmp a b ≠ .gt) :=
    fun h => List.pairwise_map.mpr (h.imp (fun hab => ⟨_, _, rfl, rfl, hab⟩))
  refine List.Perm.eq_of_pairwise ?_ (hmap h₁) (hmap h₂) (hp.map f)
  rintro _ _ - - ⟨a, b, rfl, rfl, hab⟩ ⟨b', a', hb, ha, hba⟩
  -- what is compared stands for the elements, so both comparisons are of `a` and `b`
  rw [Std.TransCmp.congr_left ((hf b' b).mp hb), Std.TransCmp.congr_right ((hf a' a).mp ha)] at hba
  refine (hf a b).mpr ?_
  cases h : cmp a b with
  | eq => rfl
  | lt => exact absurd (Std.OrientedCmp.gt_of_lt h) hba
  | gt => exact absurd h hab

end PackageCatalog
