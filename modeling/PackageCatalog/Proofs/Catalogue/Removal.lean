import PackageCatalog.Proofs.Search

/-!
# Removing documents

However documents are removed, one by one, by a fragment of their paths, because their files are
gone, or all together, what is left are documents of before, unchanged.  A removal that is
refused halfway keeps what was removed until then.

## Main definitions

* `Table.Thins` — a table that has lost documents and nothing else.
* `Table.Gradual` — a relation that single removals carry from a table to later ones.
* `Table.afterRemovals` — documents removed one after the other, up to one that is refused.

## Main results

* `Table.removeMatching_eq_ok` — removing by a fragment removes all that its search finds.
* `Table.Gradual.afterRemovals`, `Table.Gradual.cleanup`, `Table.Gradual.cleanupPackage` — what
  holds of single removals holds of removals one after the other.
* `Table.thins_remove`, `Table.thins_afterRemovals`, `Table.thins_removeAll`,
  `Table.thins_cleanup` — every kind of removal thins.
-/

namespace PackageCatalog.Table

/-- A table that has lost documents and nothing else. -/
structure Thins (t t' : Table) : Prop where
  access : t'.access = t.access
  saved : t'.saved = t.saved
  reachable : t.store.Reachable → t'.store.Reachable
  kept : ∀ d ∈ t'.store.documents, d ∈ t.store.documents

variable {t t' t'' : Table} {d : Document} {ds : List Document}

theorem Thins.refl (t : Table) : Thins t t := ⟨rfl, rfl, id, fun _ => id⟩

theorem Thins.trans (h : Thins t t') (h' : Thins t' t'') : Thins t t'' where
  access := h'.access.trans h.access
  saved := h'.saved.trans h.saved
  reachable := fun hs => h'.reachable (h.reachable hs)
  kept := fun d hd => h.kept d (h'.kept d hd)

/-! ### One document -/

theorem remove_eq_ok_iff {path : Text} : t.remove path = .ok t' ↔ t.delete path = .ok t' := by
  unfold remove
  cases t.delete path <;> simp [Except.mapError]

theorem thins_remove {path : Text} (h : t.remove path = .ok t') : Thins t t' := by
  obtain ⟨s, hs, rfl⟩ := delete_eq_ok (remove_eq_ok_iff.mp h)
  refine ⟨rfl, rfl, fun hreachable => hreachable.delete hs, ?_⟩
  obtain ⟨old, -, rfl⟩ := Store.delete_eq_ok hs
  exact fun d hd => (Store.mem_without.mp hd).1

/-- A stored document is removed, and the others stay. -/
theorem remove_path (hready : t.access = .ready) (hs : t.store.Sound)
    (hd : d ∈ t.store.documents) : ∃ t', t.remove d.path = .ok t' ∧
      ∀ e ∈ t.store.documents, e.path ≠ d.path → e ∈ t'.store.documents := by
  obtain ⟨s, hdelete, hdocuments⟩ : ∃ s, t.store.delete d.path = .ok s ∧
      s.documents = Store.without d.id t.store.documents := by
    unfold Store.delete
    rw [hs.get?_path hd]
    exact ⟨_, rfl, rfl⟩
  refine ⟨{ t with store := s }, remove_eq_ok_iff.mpr ?_, ?_⟩
  · simp only [delete, execute, hready, hdelete, Except.map, reduceCtorEq, if_false]
  · intro e he hpath
    rw [hdocuments]
    refine Store.mem_without.mpr ⟨he, fun hid => hpath ?_⟩
    rw [hs.eq_of_id he hd hid]

/-! ### Several documents -/

/-- The table after documents are removed one after the other, up to one that is refused. -/
def afterRemovals : Table → List Document → Table
  | t, [] => t
  | t, d :: ds =>
    match t.remove d.path with
    | .error _ => t
    | .ok t' => afterRemovals t' ds

/-- A relation between tables that holds of every table and itself, is carried on from one table
to the next, and holds when a document is removed. -/
structure Gradual (R : Table → Table → Prop) : Prop where
  refl : ∀ t, R t t
  trans : ∀ {t t' t''}, R t t' → R t' t'' → R t t''
  remove : ∀ {t t' path}, t.remove path = .ok t' → R t t'

namespace Gradual

variable {R : Table → Table → Prop}

theorem afterRemovals (hR : Gradual R) : ∀ (ds : List Document) (t : Table),
    R t (t.afterRemovals ds) := by
  intro ds
  induction ds with
  | nil => exact hR.refl
  | cons d ds ih =>
    intro t
    rw [Table.afterRemovals]
    split
    · exact hR.refl t
    · next t' h => exact hR.trans (hR.remove h) (ih t')

theorem sweep (hR : Gradual R) (tree : FileTree) : ∀ (ds : List Document) (t : Table),
    R t (Table.sweep tree t ds).table := by
  intro ds
  induction ds with
  | nil => exact hR.refl
  | cons d ds ih =>
    intro t
    rw [Table.sweep]
    split
    · exact hR.refl t
    · exact ih t
    · split
      · exact hR.refl t
      · next t' h => exact hR.trans (hR.remove h) (ih t')

theorem cleanup (hR : Gradual R) (tree : FileTree) (t : Table) : R t (t.cleanup tree).table := by
  unfold Table.cleanup
  split
  · exact hR.refl t
  · exact hR.sweep tree _ t

theorem cleanupPackage (hR : Gradual R) (tree : FileTree) (package : Text) (t : Table) :
    R t (t.cleanupPackage tree package).table := by
  unfold Table.cleanupPackage
  split
  · exact hR.refl t
  · exact hR.sweep tree _ t

end Gradual

theorem gradual_thins : Gradual Thins := ⟨Thins.refl, Thins.trans, thins_remove⟩

theorem thins_afterRemovals (ds : List Document) (t : Table) : Thins t (t.afterRemovals ds) :=
  gradual_thins.afterRemovals ds t

/-- Stored documents are removed to the last one. -/
theorem removeEach_eq_ok : ∀ {ds : List Document} {t : Table}, t.access = .ready →
    t.store.Reachable → (∀ d ∈ ds, d ∈ t.store.documents) →
      ds.Pairwise (fun d e => d.path ≠ e.path) → t.removeEach ds = .ok (t.afterRemovals ds) := by
  intro ds
  induction ds with
  | nil => intro t _ _ _ _; rfl
  | cons d ds ih =>
    intro t hready hs hmem hpaths
    obtain ⟨hd, hds⟩ := List.forall_mem_cons.mp hmem
    obtain ⟨hd', hpaths'⟩ := List.pairwise_cons.mp hpaths
    obtain ⟨t', ht', hothers⟩ := remove_path hready hs.sound hd
    have hthins := thins_remove ht'
    rw [removeEach, afterRemovals, ht']
    -- the documents that follow have other paths, so that they are still there
    refine ih (hthins.access.trans hready) (hthins.reachable hs) ?_ hpaths'
    exact fun e he => hothers e (hds e he) (hd' e he).symm

/-- **Removing by a fragment removes all that its search finds**: none of the removals is
refused. -/
theorem removeMatching_eq_ok {fragment : Text} (hready : t.access = .ready)
    (hs : t.store.Reachable) (h : t.search { paths := [fragment] } = .ok ds) :
    t.removeMatching fragment = .ok (t.afterRemovals ds, ds) := by
  obtain ⟨hnodup, hmem⟩ := mem_search_iff hs.sound ⟨rfl, rfl⟩ h
  have hstored : ∀ d ∈ ds, d ∈ t.store.documents := fun d hd => ((hmem d).mp hd).1
  have hpaths : ds.Pairwise (fun d e => d.path ≠ e.path) := by
    refine List.Pairwise.imp_of_mem ?_ hnodup
    exact fun hd he hne hpath => hne (hs.sound.eq_of_path (hstored _ hd) (hstored _ he) hpath)
  unfold removeMatching
  rw [h]
  dsimp only
  rw [removeEach_eq_ok hready hs hstored hpaths]

theorem thins_cleanup (tree : FileTree) (t : Table) : Thins t (t.cleanup tree).table :=
  gradual_thins.cleanup tree t

theorem thins_cleanupPackage (tree : FileTree) (package : Text) (t : Table) :
    Thins t (t.cleanupPackage tree package).table := gradual_thins.cleanupPackage tree package t

theorem removeAll_eq_ok_iff {n : Nat} :
    t.removeAll = .ok (t', n) ↔ t.deleteAll = .ok (t', n) := by
  unfold removeAll
  cases t.deleteAll <;> simp [Except.mapError]

/-- All documents are removed. -/
theorem thins_removeAll {n : Nat} (hs : t.store.Sound) (h : t.removeAll = .ok (t', n)) :
    Thins t t' := by
  obtain ⟨-, rfl⟩ := deleteAll_eq_ok (removeAll_eq_ok_iff.mp h)
  refine ⟨rfl, rfl, fun hreachable => hreachable.deleteAll, ?_⟩
  rw [hs.deleteAll_eq]
  exact fun d hd => absurd hd List.not_mem_nil

end PackageCatalog.Table
