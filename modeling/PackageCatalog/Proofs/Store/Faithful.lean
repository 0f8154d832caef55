import PackageCatalog.Proofs.Store.Answers
import PackageCatalog.Proofs.Store.Statement

/-!
# The join is faithful

The store keeps the texts of a document twice, and a query that looks for a part of a text reads
the second copy.  That this is not seen is the subject of this module: after any run of
statements, in whatever order, refused or not, inside transactions or outside them, a query
answers as if it read the documents alone.

## Main results

* `Table.mem_select_iff` — what a query on a sound store returns.
* `Table.faithful_afterAll` — **after any run of statements the text index mirrors the documents,
  and a query returns the documents whose own fields satisfy it.**
-/

namespace PackageCatalog

namespace Table

variable {t : Table} {p : Predicate} {keys : List SortKey} {ds : List Document}

/-- A query without a window returns each document once that satisfies its predicate, and no
other. -/
theorem mem_select_iff (hs : t.store.Sound) (h : t.select p keys 0 none = .ok ds) :
    ds.Nodup ∧ ∀ d, d ∈ ds ↔ d ∈ t.store.documents ∧ d.Satisfies p := by
  have hperm := hs.select_perm (select_eq_ok h)
  refine ⟨hperm.nodup_iff.mpr (hs.nodup_matching p), fun d => ?_⟩
  rw [hperm.mem_iff, Store.mem_matching (writable_of_select_eq_ok h)]

/-- An answerable query without a window returns. -/
theorem exists_select (hopen : t.access ≠ .closed) (hp : p.Answerable) (keys : List SortKey) :
    ∃ ds, t.select p keys 0 none = .ok ds := by
  rw [select_eq hp.writable hopen]
  exact ⟨_, Store.select_of_answerable hp keys rfl⟩

/-- **After any run of statements the text index holds one row for each document, with its number
and its texts as they are, and no other row; and a query through the join returns each document
once whose own fields satisfy its predicate, and no other document.**  Every query that can be
written and keeps within the limits does return. -/
theorem faithful_afterAll (sts : List Statement) :
    let t := ({} : Table).afterAll sts
    (t.store.index = t.store.documents.map Document.indexRow ∧
      (t.store.index.map (·.id)).Nodup) ∧
    (∀ (p : Predicate) (keys : List SortKey) (ds : List Document),
      t.select p keys 0 none = .ok ds →
        ds.Nodup ∧ ∀ d, d ∈ ds ↔ d ∈ t.store.documents ∧ d.Satisfies p) ∧
    (∀ (p : Predicate) (keys : List SortKey), p.Answerable →
      ∃ ds, t.select p keys 0 none = .ok ds) := by
  intro t
  have hs : t.store.Sound := (intact_empty.afterAll sts).store.sound
  have hopen : t.access ≠ .closed := by
    rw [show t.access = .ready from access_afterAll sts]
    decide
  have hids : (t.store.documents.map (fun d => d.id)).Nodup :=
    List.pairwise_map.mpr (hs.ascending.imp (fun hlt => Nat.ne_of_lt hlt))
  refine ⟨⟨hs.mirrored, ?_⟩, fun p keys ds h => mem_select_iff hs h,
    fun p keys hp => exists_select hopen hp keys⟩
  rw [hs.mirrored, List.map_map]
  exact hids

/-- A document that is given another path and package in a transaction, while a second one under
its new path is refused, is found by its new package. -/
theorem faithful_afterAll_moved :
    let t := ({} : Table).afterAll [putting "/p/a" "p" "a" "x", .start,
      .update "/p/a".toList [("path".toList, .text "/q/a".toList), ("package".toList, .text ['q'])],
      putting "/q/a" "q" "a" "x", .commit]
    t.store.documents.map (fun d => d.path) = ["/q/a".toList] ∧
      ∃ ds, t.select (.token .package ['q']) [] 0 none = .ok ds ∧ ds.Nodup ∧
        ∀ d, d ∈ ds ↔ d ∈ t.store.documents ∧ d.Satisfies (.token .package ['q']) := by
  intro t
  obtain ⟨-, hmem, hreturns⟩ := faithful_afterAll [putting "/p/a" "p" "a" "x", .start,
    .update "/p/a".toList [("path".toList, .text "/q/a".toList), ("package".toList, .text ['q'])],
    putting "/q/a" "q" "a" "x", .commit]
  have hp : (Predicate.token .package ['q']).Answerable := ⟨⟨_, rfl⟩, by decide, by decide⟩
  obtain ⟨ds, hds⟩ := hreturns _ [] hp
  exact ⟨by decide, ds, hds, hmem _ _ _ hds⟩

end Table

end PackageCatalog
