import PackageCatalog.Store.Table
import PackageCatalog.Proofs.Sorting
import PackageCatalog.Proofs.Store.KeyOrder
import PackageCatalog.Proofs.Store.Mirror
import PackageCatalog.Proofs.Store.QuietPlan

/-!
# The answers to a query

A query goes over documents joined with the text index, by a plan.  In a sound store what it finds
is, in some order, the documents that satisfy its predicate; the plan settles nothing but that
order.  What is returned is a window of what is found, sorted.

## Main definitions

* `Store.matching` — the documents that satisfy a predicate, in the order of their numbers.
* `Store.found` — the same documents in the order of the plan.

## Main results

* `Store.Sound.mem_matching` — what matches is told by a document's own fields.
* `Store.select_eq_ok` — **a query that returns gives a window of what is found, sorted.**
* `Store.select_of_answerable` — an answerable query returns.
* `Store.Sound.select_perm` — without a window a query returns what matches, in some order.
-/

namespace PackageCatalog

/-! ### The rows that a query goes over -/

/-- Arranging rows loses none and adds none. -/
theorem Plan.arrange_perm (meetings : List Meeting) (rows : List Row) :
    (Plan.arrange meetings rows).Perm rows := by
  unfold Plan.arrange
  have h := (sortBy_perm (fun a b : Nat × Row => compare a.1 b.1) (rows.map (fun row =>
    ((meetings.filterMap (fun m => m.toOption.map (·.1.id))).idxOf row.1.id, row)))).map (·.2)
  refine h.trans ?_
  rw [List.map_map]
  exact List.Perm.of_eq (List.map_id rows)

namespace Store

variable {s : Store} {p : Predicate} {keys : List SortKey}

/-- In a sound store each document is joined with its own index row, and with no other. -/
theorem Sound.rows_eq (hs : s.Sound) (p : Predicate) :
    s.rows p = s.documents.map (fun d => (d, d.indexRow)) := by
  unfold rows
  split
  · rw [List.map_eq_flatMap]
    refine List.flatMap_congr ?_
    intro d hd
    rw [hs.filter_index hd]
    rfl
  · rfl

/-! ### What is found -/

/-- The documents that satisfy a predicate on their own rows, in the order of their numbers. -/
def matching (s : Store) (p : Predicate) : List Document :=
  s.documents.filter (fun d => p.holds (d, d.indexRow))

/-- The documents that a query finds, in the order of its plan. -/
def found (s : Store) (p : Predicate) (keys : List SortKey) (limit : Option Int) : List Document :=
  let rows := s.rows p
  ((Plan.arrange ((Plan.ofQuery p keys limit).walk rows) rows).filter (fun row => p.holds row)).map
    (·.1)

/-- **What matches is told by the documents' own fields.** -/
theorem mem_matching {d : Document} (hp : p.Writable) :
    d ∈ s.matching p ↔ d ∈ s.documents ∧ d.Satisfies p := by
  rw [matching, List.mem_filter, Predicate.holds_own_iff hp]

theorem Sound.nodup_matching (hs : s.Sound) (p : Predicate) : (s.matching p).Nodup :=
  hs.nodup.filter _

/-- The plan settles nothing but the order of what is found. -/
theorem Sound.found_perm (hs : s.Sound) (p : Predicate) (keys : List SortKey)
    (limit : Option Int) : (s.found p keys limit).Perm (s.matching p) := by
  unfold found matching
  have h := ((Plan.arrange_perm ((Plan.ofQuery p keys limit).walk (s.rows p)) (s.rows p)).filter
    (fun row => p.holds row)).map (·.1)
  refine h.trans ?_
  -- the rows are the documents with their own index rows, so nothing is left of the join
  rw [hs.rows_eq p, List.filter_map, List.map_map]
  exact List.Perm.of_eq (List.map_id _)

/-! ### What is returned -/

/-- The window of a query fits the words of the machine. -/
def fitsWindow (offset : Int) (limit : Option Int) : Bool :=
  limit.all fitsWord && fitsWord offset

/-- **A query that returns gives a window of what is found, sorted.** -/
theorem select_eq_ok {offset : Int} {limit : Option Int} {ds : List Document}
    (h : s.select p keys offset limit = .ok ds) :
    ds = window offset limit (sortBy (SortKey.compare keys) (s.found p keys limit)) := by
  unfold select at h
  split at h
  · cases h
  · split at h
    · cases h
    · split at h
      · next hzero =>
        have hzero' : limit = some 0 := by simpa using hzero
        rw [← Except.ok.inj h, hzero']
        simp [window]
      · dsimp only at h
        split at h
        · cases h
        · exact (Except.ok.inj h).symm

/-- An answerable query with a window that fits returns. -/
theorem select_of_answerable (hp : p.Answerable) (keys : List SortKey) {offset : Int}
    {limit : Option Int} (hwindow : fitsWindow offset limit = true) :
    s.select p keys offset limit =
      .ok (window offset limit (sortBy (SortKey.compare keys) (s.found p keys limit))) := by
  have hok : ∃ ds, s.select p keys offset limit = .ok ds := by
    unfold select
    obtain ⟨hlimit, hoffset⟩ := Bool.and_eq_true_iff.mp hwindow
    rw [hp.fits, hlimit, hoffset]
    split
    · next h => exact absurd h (by decide)
    · split
      · next h => exact absurd h (by decide)
      · split
        · exact ⟨_, rfl⟩
        · -- the plan tries triable clauses only, so that no row ends in an error
          dsimp only
          rw [(Plan.quiet_ofQuery hp.triable keys limit).fault?_eq_none]
          exact ⟨_, rfl⟩
  obtain ⟨ds, hds⟩ := hok
  rw [hds, select_eq_ok hds]

theorem window_zero_none {α : Type} (l : List α) : window 0 none l = l := rfl

/-- Without a window a query returns what matches, in some order. -/
theorem Sound.select_perm (hs : s.Sound) {ds : List Document}
    (h : s.select p keys 0 none = .ok ds) : ds.Perm (s.matching p) := by
  rw [select_eq_ok h, window_zero_none]
  exact (sortBy_perm _ _).trans (hs.found_perm p keys none)

end Store

/-! ### Asking a table -/

namespace Table

variable {t : Table} {p : Predicate} {keys : List SortKey} {offset : Int} {limit : Option Int}

theorem view_eq_ok (h : t.access ≠ .closed) : t.view = .ok t.store := by
  unfold view
  split
  · next hclosed => exact absurd hclosed h
  · rfl

/-- A predicate that cannot be written is refused. -/
theorem writable_of_select_eq_ok {ds : List Document}
    (h : t.select p keys offset limit = .ok ds) : p.Writable := by
  unfold select at h
  split at h
  · cases h
  · next c hc => exact ⟨c, hc⟩

theorem select_eq (hp : p.Writable) (h : t.access ≠ .closed) :
    t.select p keys offset limit = t.store.select p keys offset limit := by
  obtain ⟨c, hc⟩ := hp
  simp only [select, hc, view_eq_ok h]

theorem select_eq_ok {ds : List Document} (h : t.select p keys offset limit = .ok ds) :
    t.store.select p keys offset limit = .ok ds := by
  have hp := writable_of_select_eq_ok h
  rw [← select_eq hp, h]
  rintro hclosed
  obtain ⟨c, hc⟩ := hp
  simp [select, hc, view, hclosed] at h

end Table

end PackageCatalog
