import PackageCatalog.Catalog
import PackageCatalog.Proofs.Query.Filters
import PackageCatalog.Proofs.Store.Faithful

/-!
# What a search returns

A search is the selection of the documents that pass the filters, by package and by path below it.
What it returns is told by the filters alone; which terms stand first in a category, and which
stand there twice, is not seen.

## Main definitions

* `SearchOptions.Unwindowed` — filters that ask for all answers.
* `Document.place` — what a search is sorted by.

## Main results

* `Table.search_accepts` — **a search returns the documents that its filters accept, and more
  terms make fewer or more of them as the categories say.**
-/

namespace PackageCatalog

/-- Filters that ask for all answers. -/
structure SearchOptions.Unwindowed (o : SearchOptions) : Prop where
  offset : o.offset = 0
  limit : o.limit = none

/-- What a search is sorted by: the package, and the path below it. -/
def Document.place (d : Document) : Text × Text := (d.package, d.restpath)

/-- Two places are the same when the order of a search does not tell them apart. -/
theorem Document.place_eq_iff (a b : Document) :
    a.place = b.place ↔ SortKey.compare lexicalOrder a b = .eq := by
  rw [SortKey.compare_eq_eq_iff]
  simp [SortKey.Agree, lexicalOrder, place, Contents.get]

namespace Table

variable {t : Table} {o o' : SearchOptions} {ds ds' : List Document}

theorem search_eq_ok_iff :
    t.search o = .ok ds ↔
      t.select o.compile lexicalOrder o.offset (o.limit.map Int.ofNat) = .ok ds := by
  unfold search
  cases t.select o.compile lexicalOrder o.offset (o.limit.map Int.ofNat) <;> simp [Except.mapError]

theorem select_of_search (ho : o.Unwindowed) (h : t.search o = .ok ds) :
    t.select o.compile lexicalOrder 0 none = .ok ds := by
  have hselect := search_eq_ok_iff.mp h
  rw [ho.offset, ho.limit] at hselect
  exact hselect

theorem mem_search_iff (hs : t.store.Sound) (ho : o.Unwindowed) (h : t.search o = .ok ds) :
    ds.Nodup ∧ ∀ d, d ∈ ds ↔ d ∈ t.store.documents ∧ o.Accepts d := by
  obtain ⟨hnodup, hmem⟩ := mem_select_iff hs (select_of_search ho h)
  refine ⟨hnodup, fun d => ?_⟩
  rw [hmem, SearchOptions.satisfies_compile_iff]

theorem exists_search (hopen : t.access ≠ .closed) (ho : o.Unwindowed) (hlimits : o.WithinLimits) :
    ∃ ds, t.search o = .ok ds := by
  obtain ⟨ds, hds⟩ := exists_select hopen (SearchOptions.answerable_compile hlimits) lexicalOrder
  refine ⟨ds, search_eq_ok_iff.mpr ?_⟩
  rw [ho.offset, ho.limit]
  exact hds

/-- What a search returns ascends by package and by path below it. -/
theorem pairwise_search (ho : o.Unwindowed) (h : t.search o = .ok ds) :
    ds.Pairwise (fun a b => SortKey.compare lexicalOrder a b ≠ .gt) := by
  have hds := Store.select_eq_ok (select_eq_ok (select_of_search ho h))
  rw [Store.window_zero_none] at hds
  rw [hds]
  exact sortBy_ascends _

/-- **A search within the limits returns each document once that passes the filters, and no
other.**  Filters with the same terms in each category return the same documents, in the same
order of places.  More patterns, keywords, paths or restpaths never add a document, and more
packages or suffixes, where there are some, never take one away. -/
theorem search_accepts (t : Table) (hs : t.store.Reachable) (hopen : t.access ≠ .closed) :
    (∀ o : SearchOptions, o.Unwindowed → o.WithinLimits →
      ∃ ds, t.search o = .ok ds ∧ ds.Nodup ∧
        ∀ d, d ∈ ds ↔ d ∈ t.store.documents ∧ o.Accepts d) ∧
    (∀ (o o' : SearchOptions) (ds ds' : List Document), o.Unwindowed → o'.Unwindowed →
      t.search o = .ok ds → t.search o' = .ok ds' →
        (o.SameTerms o' → ds.Perm ds' ∧ ds.map Document.place = ds'.map Document.place) ∧
        (o.Narrows o' → ∀ d ∈ ds', d ∈ ds) ∧
        (o.Widens o' → ∀ d ∈ ds, d ∈ ds')) := by
  constructor
  · intro o ho hlimits
    obtain ⟨ds, hds⟩ := exists_search hopen ho hlimits
    exact ⟨ds, hds, mem_search_iff hs.sound ho hds⟩
  · intro o o' ds ds' ho ho' h h'
    obtain ⟨hnodup, hmem⟩ := mem_search_iff hs.sound ho h
    obtain ⟨hnodup', hmem'⟩ := mem_search_iff hs.sound ho' h'
    refine ⟨fun hsame => ?_, fun hnarrow d hd => ?_, fun hwide d hd => ?_⟩
    · have hperm : ds.Perm ds' := by
        refine (List.perm_ext_iff_of_nodup hnodup hnodup').mpr (fun d => ?_)
        rw [hmem, hmem', hsame.accepts_iff]
      exact ⟨hperm, map_eq_of_perm_of_pairwise Document.place_eq_iff hperm (pairwise_search ho h)
        (pairwise_search ho' h')⟩
    · obtain ⟨hstored, haccepts⟩ := (hmem' d).mp hd
      exact (hmem d).mpr ⟨hstored, hnarrow.accepts haccepts⟩
    · obtain ⟨hstored, haccepts⟩ := (hmem d).mp hd
      exact (hmem' d).mpr ⟨hstored, hwide.accepts haccepts⟩

/-- A second pattern leaves one of two documents. -/
theorem search_accepts_twins :
    ∃ ds ds', twins.search { patterns := [['x']] } = .ok ds ∧
      twins.search { patterns := [['x'], ['y']] } = .ok ds' ∧
      (ds.length = 2 ∧ ds'.length = 1) ∧ ∀ d ∈ ds', d ∈ ds := by
  obtain ⟨-, hpairs⟩ := search_accepts twins reachable_twins access_twins
  have hone : twins.search { patterns := [['x']] } = .ok twins.store.documents := by rfl
  have htwo : twins.search { patterns := [['x'], ['y']] } =
    .ok (twins.store.documents.drop 1) := by rfl
  refine ⟨_, _, hone, htwo, by decide, ?_⟩
  refine (hpairs _ _ _ _ ⟨rfl, rfl⟩ ⟨rfl, rfl⟩ hone htwo).2.1 ?_
  exact ⟨by decide, by decide, .refl _, by decide, by decide, .refl _⟩

end Table

end PackageCatalog
