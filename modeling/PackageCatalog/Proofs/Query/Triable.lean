import PackageCatalog.Proofs.Query.Satisfaction

/-!
# Triable predicates

A pattern that is too long is an error when it is tried.  No pattern of a triable predicate is, so
that trying it ends in its truth.  Taking a predicate apart, or leaving out what cannot matter,
brings no pattern in: what comes of a triable predicate is triable.

## Main results

* `Predicate.attempt_eq_ok` — **trying a triable predicate finds its truth.**
* `Predicate.isTriable_pruned`, `Predicate.isTriable_settled` — leaving parts out.
* `Predicate.isTriable_of_mem_conjuncts`, `Predicate.isTriable_of_mem_disjuncts` — taking apart.
-/

namespace PackageCatalog.Predicate

variable {p q : Predicate} {ps : List Predicate}

theorem isTriable_all_iff : (all ps).isTriable = true ↔ ∀ p ∈ ps, p.isTriable = true := by
  rw [isTriable, areTriable_iff]

theorem isTriable_any_iff : (any ps).isTriable = true ↔ ∀ p ∈ ps, p.isTriable = true := by
  rw [isTriable, areTriable_iff]

/-! ### Trying -/

theorem attemptAll_eq_ok {row : Row}
    (h : ∀ p ∈ ps, p.attempt row = .ok (p.holds row)) :
    attemptAll row ps = .ok (allHold row ps) := by
  induction ps with
  | nil => rfl
  | cons p ps ih =>
    obtain ⟨hp, hps⟩ := List.forall_mem_cons.mp h
    rw [attemptAll, hp, allHold, ih hps]
    cases p.holds row <;> rfl

theorem attemptAny_eq_ok {row : Row}
    (h : ∀ p ∈ ps, p.attempt row = .ok (p.holds row)) :
    attemptAny row ps = .ok (anyHolds row ps) := by
  induction ps with
  | nil => rfl
  | cons p ps ih =>
    obtain ⟨hp, hps⟩ := List.forall_mem_cons.mp h
    rw [attemptAny, hp, anyHolds, ih hps]
    cases p.holds row <;> rfl

/-- **Trying a triable predicate finds its truth.** -/
theorem attempt_eq_ok (row : Row) (h : p.isTriable = true) :
    p.attempt row = .ok (p.holds row) := by
  induction p using Predicate.induction with
  | term field value whole =>
    have hshort : (!whole && tooLong value) = false := by
      cases whole <;> simp_all [isTriable]
    rw [attempt, hshort, holds]
    rfl
  | all ps ih =>
    rw [attempt, holds]
    exact attemptAll_eq_ok (fun p hp => ih p hp (isTriable_all_iff.mp h p hp))
  | any ps ih =>
    rw [attempt, holds]
    exact attemptAny_eq_ok (fun p hp => ih p hp (isTriable_any_iff.mp h p hp))
  | other value => rfl

/-! ### Taking apart -/

theorem conjunctsOf_eq_flatMap (ps : List Predicate) : conjunctsOf ps = ps.flatMap conjuncts := by
  induction ps with
  | nil => rfl
  | cons p ps ih => rw [conjunctsOf, ih, List.flatMap_cons]

theorem disjunctsOf_eq_flatMap (ps : List Predicate) : disjunctsOf ps = ps.flatMap disjuncts := by
  induction ps with
  | nil => rfl
  | cons p ps ih => rw [disjunctsOf, ih, List.flatMap_cons]

theorem isTriable_of_mem_conjuncts (h : p.isTriable = true) (hq : q ∈ p.conjuncts) :
    q.isTriable = true := by
  induction p using Predicate.induction with
  | all ps ih =>
    cases ps with
    | nil => rw [List.mem_singleton.mp hq]; exact h
    | cons p ps =>
      rw [conjuncts, conjunctsOf_eq_flatMap, ← List.flatMap_cons] at hq
      obtain ⟨r, hr, hq⟩ := List.mem_flatMap.mp hq
      exact ih r hr (isTriable_all_iff.mp h r hr) hq
  | any ps ih =>
    match ps with
    | [] => rw [List.mem_singleton.mp hq]; exact h
    | [p] =>
      have hp := List.mem_singleton_self p
      exact ih p hp (isTriable_any_iff.mp h p hp) hq
    | _ :: _ :: _ => rw [List.mem_singleton.mp hq]; exact h
  | term _ _ _ => rw [List.mem_singleton.mp hq]; exact h
  | other _ => rw [List.mem_singleton.mp hq]; exact h

theorem isTriable_of_mem_disjuncts (h : p.isTriable = true) (hq : q ∈ p.disjuncts) :
    q.isTriable = true := by
  induction p using Predicate.induction with
  | any ps ih =>
    cases ps with
    | nil => rw [List.mem_singleton.mp hq]; exact h
    | cons p ps =>
      rw [disjuncts, disjunctsOf_eq_flatMap, ← List.flatMap_cons] at hq
      obtain ⟨r, hr, hq⟩ := List.mem_flatMap.mp hq
      exact ih r hr (isTriable_any_iff.mp h r hr) hq
  | all ps ih =>
    match ps with
    | [] => rw [List.mem_singleton.mp hq]; exact h
    | [p] =>
      have hp := List.mem_singleton_self p
      exact ih p hp (isTriable_all_iff.mp h p hp) hq
    | _ :: _ :: _ => rw [List.mem_singleton.mp hq]; exact h
  | term _ _ _ => rw [List.mem_singleton.mp hq]; exact h
  | other _ => rw [List.mem_singleton.mp hq]; exact h

/-! ### Leaving parts out -/

theorem prunedAll_eq_map (ps : List Predicate) : prunedAll ps = ps.map pruned := by
  induction ps with
  | nil => rfl
  | cons p ps ih => rw [prunedAll, ih, List.map_cons]

theorem settledParts_eq_map (ps : List Predicate) : settledParts ps = ps.map settled := by
  induction ps with
  | nil => rfl
  | cons p ps ih => rw [settledParts, ih, List.map_cons]

/-- What a run of clauses is left with are clauses of it, or the empty disjunction. -/
theorem mem_prunedOnto {done : List Predicate} (h : q ∈ prunedOnto done ps) :
    q ∈ done ∨ q ∈ ps ∨ q = any [] := by
  induction ps generalizing done with
  | nil => exact Or.inl h
  | cons p ps ih =>
    rw [prunedOnto] at h
    split at h
    · rcases ih h with h | h | h
      · exact Or.inr (Or.inr (List.mem_singleton.mp h))
      · exact Or.inr (Or.inl (List.mem_cons_of_mem p h))
      · exact Or.inr (Or.inr h)
    · rcases ih h with h | h | h
      · rcases List.mem_append.mp h with h | h
        · exact Or.inl h
        · exact Or.inr (Or.inl (List.mem_cons.mpr (Or.inl (List.mem_singleton.mp h))))
      · exact Or.inr (Or.inl (List.mem_cons_of_mem p h))
      · exact Or.inr (Or.inr h)

theorem isTriable_ofClauses (h : ∀ p ∈ ps, p.isTriable = true) :
    (ofClauses ps).isTriable = true := by
  unfold ofClauses
  split
  · exact h _ (List.mem_singleton_self _)
  · exact isTriable_all_iff.mpr h

theorem isTriable_ofAlternatives (h : ∀ p ∈ ps, p.isTriable = true) :
    (ofAlternatives ps).isTriable = true := by
  unfold ofAlternatives
  split
  · exact h _ (List.mem_singleton_self _)
  · exact isTriable_any_iff.mpr h

theorem isTriable_pruned (h : p.isTriable = true) : p.pruned.isTriable = true := by
  induction p using Predicate.induction with
  | all ps ih =>
    cases ps with
    | nil => exact h
    | cons p ps =>
      have hparts : ∀ q ∈ (p :: ps).map pruned, q.isTriable = true := by
        intro q hq
        obtain ⟨r, hr, rfl⟩ := List.mem_map.mp hq
        exact ih r hr (isTriable_all_iff.mp h r hr)
      rw [pruned, prunedAll_eq_map]
      refine isTriable_ofClauses ?_
      intro q hq
      -- the empty disjunction, which may have come in, has no pattern at all
      rcases mem_prunedOnto hq with hq | hq | rfl
      · exact hparts q (List.mem_cons.mpr (Or.inl (List.mem_singleton.mp hq)))
      · exact hparts q (List.mem_cons_of_mem _ hq)
      · rfl
  | any ps ih =>
    rw [pruned, prunedAll_eq_map]
    refine isTriable_ofAlternatives ?_
    intro q hq
    obtain ⟨r, hr, rfl⟩ := List.mem_map.mp hq
    exact ih r hr (isTriable_any_iff.mp h r hr)
  | term _ _ _ => exact h
  | other _ => exact h

theorem isTriable_settled (h : p.isTriable = true) : p.settled.isTriable = true := by
  induction p using Predicate.induction with
  | all ps ih =>
    rw [settled, settledParts_eq_map]
    split
    · rfl
    · refine isTriable_all_iff.mpr ?_
      intro q hq
      obtain ⟨r, hr, rfl⟩ := List.mem_map.mp (List.mem_filter.mp hq).1
      exact ih r hr (isTriable_all_iff.mp h r hr)
  | any ps ih =>
    rw [settled, settledParts_eq_map]
    split
    · rfl
    · refine isTriable_any_iff.mpr ?_
      intro q hq
      obtain ⟨r, hr, rfl⟩ := List.mem_map.mp (List.mem_filter.mp hq).1
      exact ih r hr (isTriable_any_iff.mp h r hr)
  | term _ _ _ => exact h
  | other _ => exact h

end PackageCatalog.Predicate
