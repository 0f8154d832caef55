import PackageCatalog.Proofs.Query.Filters
import Mathlib.Data.List.Forall2

/-!
# The depth of a query

The parser takes an expression of so many levels and no more.  A comparison has three levels; each
pair of conditions that are joined has one level more than the higher of them, and conditions are
joined from the left.  Every term of a search calls the matcher, so that nothing is folded away, and
the levels of its expression are a matter of the numbers of its terms alone.

## Main definitions

* `Sql.joinedLevels` — the levels of conditions that are joined from the left.
* `Sql.Takes` — the levels that a condition takes.
* `SearchOptions.clauses`, `SearchOptions.clauseLevels` — the clauses of filters, and their levels.
* `SearchOptions.levels` — the levels that the filters of a search take.

## Main results

* `Sql.Takes.all`, `Sql.Takes.any` — the levels of a connective from those of its children.
* `Sql.fits_all_iff` — when a conjunction fits.
* `SearchOptions.fits_compile_iff` — **the filters of a search fit when their levels are below the
  limit.**
* `SearchOptions.levels_lt` — how many terms always fit.
* `SearchOptions.le_levels_of_clauses`, `SearchOptions.le_levels_of_choice` — how many never do.
-/

namespace PackageCatalog

namespace Sql

/-! ### Levels -/

/-- The levels of conditions that are joined from the left: each pair has one more than the higher
of the two.  Without conditions there is a constant, which has one. -/
def joinedLevels : List Nat → Nat
  | [] => 1
  | l :: ls => ls.foldl (fun n l => max n l + 1) l

theorem add_length_le_foldl : ∀ (ls : List Nat) (n : Nat),
    n + ls.length ≤ ls.foldl (fun n l => max n l + 1) n := by
  intro ls
  induction ls with
  | nil => intro n; exact Nat.le_refl n
  | cons l ls ih =>
    intro n
    rw [List.foldl_cons, List.length_cons]
    have := ih (max n l + 1)
    omega

theorem foldl_le : ∀ (ls : List Nat) (n bound : Nat), n ≤ bound → (∀ l ∈ ls, l ≤ bound) →
    ls.foldl (fun n l => max n l + 1) n ≤ bound + ls.length := by
  intro ls
  induction ls with
  | nil => exact fun n bound hn _ => hn
  | cons l ls ih =>
    intro n bound hn hls
    obtain ⟨hl, hls⟩ := List.forall_mem_cons.mp hls
    have := ih (max n l + 1) (bound + 1) (by omega) (fun l hl => by have := hls l hl; omega)
    rw [List.foldl_cons, List.length_cons]
    omega

theorem le_foldl_of_mem : ∀ {ls : List Nat} {l : Nat}, l ∈ ls → ∀ n,
    l + 1 ≤ ls.foldl (fun n l => max n l + 1) n := by
  intro ls
  induction ls with
  | nil => exact fun {l} h => absurd h List.not_mem_nil
  | cons k ls ih =>
    intro l h n
    rw [List.foldl_cons]
    rcases List.mem_cons.mp h with rfl | h
    · have := add_length_le_foldl ls (max n l + 1)
      omega
    · exact ih h _

/-- Joined conditions of at least three levels have at least two levels more than they are many. -/
theorem add_length_le_joinedLevels {ls : List Nat} (hne : ls ≠ []) (h : ∀ l ∈ ls, 3 ≤ l) :
    ls.length + 2 ≤ joinedLevels ls := by
  obtain ⟨l, ls, rfl⟩ := List.exists_cons_of_ne_nil hne
  have := add_length_le_foldl ls l
  have := h l List.mem_cons_self
  rw [joinedLevels, List.length_cons]
  omega

theorem le_joinedLevels {ls : List Nat} {l : Nat} (h : l ∈ ls) : l ≤ joinedLevels ls := by
  cases ls with
  | nil => cases h
  | cons k ls =>
    rw [joinedLevels]
    rcases List.mem_cons.mp h with rfl | h
    · exact Nat.le_trans (Nat.le_add_right _ _) (add_length_le_foldl ls l)
    · exact Nat.le_trans (Nat.le_succ l) (le_foldl_of_mem h k)

theorem joinedLevels_le {ls : List Nat} {bound : Nat} (hne : ls ≠ []) (h : ∀ l ∈ ls, l ≤ bound) :
    joinedLevels ls + 1 ≤ bound + ls.length := by
  obtain ⟨l, ls, rfl⟩ := List.exists_cons_of_ne_nil hne
  obtain ⟨hl, hls⟩ := List.forall_mem_cons.mp h
  have := foldl_le ls l bound hl hls
  rw [joinedLevels, List.length_cons]
  omega

/-- Comparisons that are joined. -/
theorem joinedLevels_replicate (k : Nat) : joinedLevels (List.replicate (k + 1) 3) = k + 3 := by
  have hne : List.replicate (k + 1) 3 ≠ [] := List.cons_ne_nil 3 _
  have heq : ∀ l ∈ List.replicate (k + 1) 3, l = 3 := fun l hl => List.eq_of_mem_replicate hl
  have hle := joinedLevels_le hne (fun l hl => Nat.le_of_eq (heq l hl))
  have hge := add_length_le_joinedLevels hne (fun l hl => Nat.le_of_eq (heq l hl).symm)
  rw [List.length_replicate] at hle hge
  omega

/-! ### Conditions -/

/-- A condition takes so many levels, if there are as many, and calls the matcher. -/
structure Takes (p : Predicate) (levels : Nat) : Prop where
  depth : depth p = if levels ≤ depthLimit then some ⟨levels, false, true⟩ else none
  matches_ : p.needsIndex = true

theorem takes_token (f : Field) (v : Text) : Takes (.token f v) 3 := ⟨rfl, rfl⟩

/-- Joining a condition that calls the matcher to others is never folded. -/
theorem join_eq (folds : Bool) (m n : Nat) (calls : Bool) :
    Depth.join folds ⟨m, false, true⟩ ⟨n, false, calls⟩ =
      if max m n + 1 ≤ depthLimit then some ⟨max m n + 1, false, true⟩ else none := by
  unfold Depth.join
  dsimp only
  rw [Bool.or_self, Bool.and_false, Bool.false_and, if_neg Bool.false_ne_true, Bool.true_or]
  by_cases h : max m n + 1 ≤ depthLimit
  · rw [if_pos h, if_neg (Nat.not_lt.mpr h)]
  · rw [if_neg h, if_pos (Nat.not_le.mp h)]

theorem depthOnto_eq {folds : Bool} {ps : List Predicate} {ls : List Nat}
    (h : List.Forall₂ Takes ps ls) : ∀ {n : Nat}, n ≤ depthLimit →
      depthOnto folds ⟨n, false, true⟩ ps =
        if ls.foldl (fun n l => max n l + 1) n ≤ depthLimit
        then some ⟨ls.foldl (fun n l => max n l + 1) n, false, true⟩ else none := by
  induction h with
  | nil =>
    intro n hn
    rw [depthOnto, List.foldl_nil, if_pos hn]
  | @cons p l ps ls hp _ ih =>
    intro n hn
    have hmore := add_length_le_foldl ls (max n l + 1)
    rw [depthOnto, hp.depth, List.foldl_cons]
    by_cases hl : l ≤ depthLimit
    · rw [if_pos hl, Option.bind_some, join_eq]
      by_cases hjoin : max n l + 1 ≤ depthLimit
      · rw [if_pos hjoin, Option.bind_some, ih hjoin]
      · rw [if_neg hjoin, Option.bind_none, if_neg (by omega)]
    · rw [if_neg hl, Option.bind_none, if_neg (by omega)]

variable {p : Predicate} {ps : List Predicate} {l : Nat} {ls : List Nat}

theorem bind_depthOnto_eq {folds : Bool} (h : List.Forall₂ Takes (p :: ps) (l :: ls)) :
    (depth p).bind (fun d => depthOnto folds d ps) =
      if joinedLevels (l :: ls) ≤ depthLimit
      then some ⟨joinedLevels (l :: ls), false, true⟩ else none := by
  obtain ⟨hp, hps⟩ := List.forall₂_cons.mp h
  have hmore := add_length_le_foldl ls l
  rw [hp.depth, joinedLevels]
  by_cases hl : l ≤ depthLimit
  · rw [if_pos hl, Option.bind_some, depthOnto_eq hps hl]
  · rw [if_neg hl, Option.bind_none, if_neg (by omega)]

/-- **The levels of a conjunction.** -/
theorem Takes.all (h : List.Forall₂ Takes (p :: ps) (l :: ls)) :
    Takes (.all (p :: ps)) (joinedLevels (l :: ls)) where
  depth := by rw [Sql.depth, bind_depthOnto_eq h]
  matches_ := by
    rw [Predicate.needsIndex, Predicate.someNeedsIndex, (List.forall₂_cons.mp h).1.matches_]
    rfl

/-- **The levels of a disjunction.** -/
theorem Takes.any (h : List.Forall₂ Takes (p :: ps) (l :: ls)) :
    Takes (.any (p :: ps)) (joinedLevels (l :: ls)) where
  depth := by rw [Sql.depth, bind_depthOnto_eq h]
  matches_ := by
    rw [Predicate.needsIndex, Predicate.someNeedsIndex, (List.forall₂_cons.mp h).1.matches_]
    rfl

/-- A condition with the matcher fits when one level is left to join it to the text index. -/
theorem Takes.fits_iff (h : Takes p l) (hl : 3 ≤ l) : fits p = true ↔ l < depthLimit := by
  rw [fits, h.depth]
  by_cases hlimit : l ≤ depthLimit
  · rw [if_pos hlimit]
    dsimp only
    rw [h.matches_, if_pos rfl, Depth.ofTerm, Bool.not_true, join_eq]
    by_cases hjoin : max l 3 + 1 ≤ depthLimit
    · rw [if_pos hjoin]
      exact iff_of_true rfl (by omega)
    · rw [if_neg hjoin]
      exact iff_of_false Bool.false_ne_true (by omega)
  · rw [if_neg hlimit]
    exact iff_of_false Bool.false_ne_true (by omega)

/-- A conjunction fits when its levels are below the limit.  Without children it has one. -/
theorem fits_all_iff (h : List.Forall₂ Takes ps ls) (hthree : ∀ l ∈ ls, 3 ≤ l) :
    fits (.all ps) = true ↔ joinedLevels ls < depthLimit := by
  cases h with
  | nil => exact iff_of_true rfl (by decide)
  | cons hp hps =>
    have hmore := add_length_le_joinedLevels (List.cons_ne_nil _ _) hthree
    rw [List.length_cons] at hmore
    exact (Takes.all (.cons hp hps)).fits_iff (by omega)

/-- A keyword is looked for in three fields. -/
theorem takes_anyField (f g h : Field) (v : Text) : Takes (.anyField [f, g, h] v) 5 :=
  Takes.any (.cons (takes_token f v) (.cons (takes_token g v) (.cons (takes_token h v) .nil)))

theorem takes_map {f : Text → Predicate} (h : ∀ v, Takes (f v) l) (values : List Text) :
    List.Forall₂ Takes (values.map f) (values.map (fun _ => l)) := by
  rw [List.forall₂_map_left_iff, List.forall₂_map_right_iff, List.forall₂_same]
  exact fun v _ => h v

/-- A choice among values of a field. -/
theorem takes_anyOf (f : Field) (v : Text) (vs : List Text) :
    Takes (.anyOf f (v :: vs)) (vs.length + 3) := by
  have hlevels : joinedLevels ((v :: vs).map (fun _ => 3)) = vs.length + 3 := by
    rw [List.map_const', List.length_cons, joinedLevels_replicate]
  rw [← hlevels]
  exact Takes.any (takes_map (takes_token f) (v :: vs))

end Sql

/-! ### The filters of a search -/

namespace SearchOptions

/-- The clauses of the filters, in the order in which they are joined. -/
def clauses (o : SearchOptions) : List Predicate :=
  o.patterns.map (.token .content) ++ o.keywords.map (.anyField [.content, .restpath, .package]) ++
    (if o.packages.isEmpty then [] else [.anyOf .package o.packages]) ++
    o.paths.map (.token .path) ++ o.restpaths.map (.token .restpath) ++
    (if o.suffixes.isEmpty then [] else [.anyOf .suffix o.suffixes])

/-- The levels of a category of which one term is enough: none without terms. -/
def choiceLevels (values : List Text) : List Nat :=
  if values.isEmpty then [] else [values.length + 2]

/-- The levels of the clauses of the filters, in their order. -/
def clauseLevels (o : SearchOptions) : List Nat :=
  o.patterns.map (fun _ => 3) ++ o.keywords.map (fun _ => 5) ++ choiceLevels o.packages ++
    o.paths.map (fun _ => 3) ++ o.restpaths.map (fun _ => 3) ++ choiceLevels o.suffixes

/-- The levels that the filters of a search take. -/
def levels (o : SearchOptions) : Nat := Sql.joinedLevels o.clauseLevels

theorem takes_choice (f : Field) (values : List Text) :
    List.Forall₂ Sql.Takes (if values.isEmpty then [] else [Predicate.anyOf f values])
      (choiceLevels values) := by
  cases values with
  | nil => exact .nil
  | cons v vs => exact .cons (Sql.takes_anyOf f v vs) .nil

theorem length_choiceLevels_le (values : List Text) :
    (choiceLevels values).length ≤ min 1 values.length := by
  cases values with
  | nil => exact Nat.le_refl 0
  | cons v vs => exact Nat.le_min.mpr ⟨Nat.le_refl 1, Nat.le_add_left 1 vs.length⟩

variable {o : SearchOptions} {values : List Text} {l : Nat}

theorem eq_of_mem_choiceLevels (h : l ∈ choiceLevels values) :
    1 ≤ values.length ∧ l = values.length + 2 := by
  cases values with
  | nil => exact absurd h List.not_mem_nil
  | cons v vs => exact ⟨Nat.le_add_left 1 vs.length, List.mem_singleton.mp h⟩

theorem three_le_of_mem_choiceLevels (h : l ∈ choiceLevels values) : 3 ≤ l := by
  obtain ⟨hlength, rfl⟩ := eq_of_mem_choiceLevels h
  exact Nat.add_le_add_right hlength 2

theorem mem_choiceLevels (h : values ≠ []) : values.length + 2 ∈ choiceLevels values := by
  cases values with
  | nil => exact absurd rfl h
  | cons v vs => exact List.mem_singleton_self _

/-- Every clause has the levels of a comparison, or more. -/
theorem three_le_of_mem_clauseLevels : ∀ l ∈ o.clauseLevels, 3 ≤ l := by
  simp only [clauseLevels, List.forall_mem_append, List.forall_mem_map]
  exact ⟨⟨⟨⟨⟨fun _ _ => Nat.le_refl 3, fun _ _ => by decide⟩,
    fun _ => three_le_of_mem_choiceLevels⟩, fun _ _ => Nat.le_refl 3⟩,
    fun _ _ => Nat.le_refl 3⟩, fun _ => three_le_of_mem_choiceLevels⟩

theorem takes_clauses (o : SearchOptions) :
    List.Forall₂ Sql.Takes o.clauses o.clauseLevels := by
  unfold clauses clauseLevels
  refine List.rel_append (List.rel_append (List.rel_append (List.rel_append (List.rel_append
    ?_ ?_) ?_) ?_) ?_) ?_
  · exact Sql.takes_map (Sql.takes_token .content) o.patterns
  · exact Sql.takes_map (Sql.takes_anyField .content .restpath .package) o.keywords
  · exact takes_choice .package o.packages
  · exact Sql.takes_map (Sql.takes_token .path) o.paths
  · exact Sql.takes_map (Sql.takes_token .restpath) o.restpaths
  · exact takes_choice .suffix o.suffixes

/-- **The filters of a search fit when their levels are below the limit.** -/
theorem fits_compile_iff (o : SearchOptions) :
    Sql.fits o.compile = true ↔ o.levels < Sql.depthLimit :=
  Sql.fits_all_iff (takes_clauses o) three_le_of_mem_clauseLevels

/-! ### Numbers of terms -/

/-- So many terms always fit, whichever categories they are in. -/
theorem levels_lt (h : o.terms.length ≤ 995) : o.levels < Sql.depthLimit := by
  by_cases hnil : o.clauseLevels = []
  · rw [levels, hnil]
    decide
  · have hpackages := length_choiceLevels_le o.packages
    have hsuffixes := length_choiceLevels_le o.suffixes
    -- the highest clause is a keyword, or the choice among all packages or all suffixes
    have hbound : ∀ l ∈ o.clauseLevels,
        l ≤ max 5 (max (o.packages.length + 2) (o.suffixes.length + 2)) := by
      simp only [clauseLevels, List.forall_mem_append, List.forall_mem_map]
      refine ⟨⟨⟨⟨⟨?_, ?_⟩, fun l hl => ?_⟩, ?_⟩, ?_⟩, fun l hl => ?_⟩
      · exact fun _ _ => by omega
      · exact fun _ _ => by omega
      · have := (eq_of_mem_choiceLevels hl).2
        omega
      · exact fun _ _ => by omega
      · exact fun _ _ => by omega
      · have := (eq_of_mem_choiceLevels hl).2
        omega
    have hle := Sql.joinedLevels_le hnil hbound
    simp only [clauseLevels, terms, List.length_append, List.length_map] at hle h
    simp only [levels, clauseLevels, Sql.depthLimit]
    omega

/-- So many clauses never fit. -/
theorem le_levels_of_clauses
    (h : 998 ≤ o.patterns.length + o.keywords.length + o.paths.length + o.restpaths.length) :
    Sql.depthLimit ≤ o.levels := by
  have hlength : o.patterns.length + o.keywords.length + o.paths.length + o.restpaths.length ≤
      o.clauseLevels.length := by
    simp only [clauseLevels, List.length_append, List.length_map]
    omega
  have hne : o.clauseLevels ≠ [] := List.ne_nil_of_length_pos (by omega)
  have hle := Sql.add_length_le_joinedLevels hne three_le_of_mem_clauseLevels
  rw [levels, Sql.depthLimit]
  omega

/-- So many packages, or suffixes, never fit. -/
theorem le_levels_of_choice (h : values = o.packages ∨ values = o.suffixes)
    (hlength : 998 ≤ values.length) : Sql.depthLimit ≤ o.levels := by
  have hchoice := mem_choiceLevels (List.ne_nil_of_length_pos (l := values) (by omega))
  have hmem : values.length + 2 ∈ o.clauseLevels := by
    rcases h with rfl | rfl <;> simp [clauseLevels, hchoice]
  have hle := Sql.le_joinedLevels hmem
  rw [levels, Sql.depthLimit]
  omega

end SearchOptions

end PackageCatalog
