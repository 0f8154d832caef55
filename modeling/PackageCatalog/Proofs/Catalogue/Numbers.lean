import PackageCatalog.Proofs.Catalogue.Runs

/-!
# The numbers of documents

Every document is stored under a number.  The store remembers the last number that it gave, also
when the document is gone, and never goes back behind it: a number belongs to one document from
its insertion to its removal, and to none after that.

## Main definitions

* `Store.Outlives` — a later store: it has given no fewer numbers, and under those that had been
  given before it has no document that was not there.

## Main results

* `Store.outlives_insert`, `Store.outlives_update`, `Store.outlives_delete` — each change leads to a
  later store.
* `Table.Kept.outlives_afterCalls` — **no run of calls gives a number again.**
* `Table.law_of_numbers` — what this means for the documents of a run.
-/

namespace PackageCatalog

/-! ### Later stores -/

namespace Store

/-- A store that came later: the numbers given before are given for good, and a document under one
of them was there before, with the same path. -/
structure Outlives (s s' : Store) : Prop where
  given : s.lastId ≤ s'.lastId
  known : ∀ d' ∈ s'.documents, d'.id ≤ s.lastId → ∃ d ∈ s.documents, d.id = d'.id ∧ d.path = d'.path

variable {s s' s'' : Store} {path : Text} {values : List (Field × Datum)}

theorem Outlives.refl (s : Store) : Outlives s s := ⟨Nat.le_refl _, fun d hd _ => ⟨d, hd, rfl, rfl⟩⟩

theorem Outlives.trans (h : Outlives s s') (h' : Outlives s' s'') : Outlives s s'' := by
  refine ⟨Nat.le_trans h.given h'.given, ?_⟩
  intro d'' hd'' hid
  obtain ⟨d', hd', hid', hpath'⟩ := h'.known d'' hd'' (Nat.le_trans hid h.given)
  obtain ⟨d, hd, hid₂, hpath₂⟩ := h.known d' hd' (hid' ▸ hid)
  exact ⟨d, hd, hid₂.trans hid', hpath₂.trans hpath'⟩

/-- A store that has lost documents and given no number is a later one. -/
theorem outlives_of_subset (hlast : s'.lastId = s.lastId)
    (hsubset : ∀ d ∈ s'.documents, d ∈ s.documents) : Outlives s s' :=
  ⟨Nat.le_of_eq hlast.symm, fun d hd _ => ⟨d, hsubset d hd, rfl, rfl⟩⟩

theorem outlives_insert (h : s.insert values = .ok s') : Outlives s s' := by
  obtain ⟨c, -, -, rfl⟩ := insert_eq_ok h
  refine ⟨Nat.le_succ _, ?_⟩
  intro d hd hid
  rcases List.mem_append.mp hd with hd | hd
  · exact ⟨d, hd, rfl, rfl⟩
  · -- the new document has the number after the last one
    rw [List.mem_singleton.mp hd] at hid
    exact absurd hid (Nat.not_succ_le_self _)

/-- An update that leaves the path as it is keeps the number with it. -/
theorem outlives_update (h : s.update path values = .ok s')
    (hpath : ∀ old c, changedContents old values = .ok c → c.path = old.path) : Outlives s s' := by
  obtain ⟨old, c, hold, hc, -, rfl⟩ := update_eq_ok h
  refine ⟨Nat.le_refl _, ?_⟩
  intro d hd _
  rcases mem_replaced hd with rfl | ⟨hd, -⟩
  · exact ⟨old, mem_of_get?_eq_some hold, rfl, (hpath _ _ hc).symm⟩
  · exact ⟨d, hd, rfl, rfl⟩

theorem outlives_delete (h : s.delete path = .ok s') : Outlives s s' := by
  obtain ⟨old, -, rfl⟩ := delete_eq_ok h
  exact outlives_of_subset rfl (fun d hd => (mem_without.mp hd).1)

theorem outlives_deleteAll (s : Store) : Outlives s s.deleteAll.1 := by
  obtain ⟨hdocuments, hlast⟩ := foldl_afterDelete_documents s.documents { s with documents := [] }
  refine outlives_of_subset hlast ?_
  intro d hd
  rw [show s.deleteAll.1.documents = [] from hdocuments] at hd
  exact absurd hd List.not_mem_nil

/-- A document under a path that is free has, later, a number that was not given yet. -/
theorem Outlives.lastId_lt_of_new (h : Outlives s s') {d' : Document} (hd' : d' ∈ s'.documents)
    (hnew : s.get? d'.path = none) : s.lastId < d'.id := by
  refine Nat.lt_of_not_le fun hid => ?_
  obtain ⟨e, he, -, hpath⟩ := h.known d' hd' hid
  exact get?_eq_none_iff.mp hnew e he hpath

/-- Under one number there is one path, now and later. -/
theorem Outlives.path_eq (h : Outlives s s') (hs : s.Sound) {d d' : Document}
    (hd : d ∈ s.documents) (hd' : d' ∈ s'.documents) (hid : d'.id = d.id) : d'.path = d.path := by
  obtain ⟨e, he, hid', hpath⟩ := h.known d' hd' (hid ▸ hs.bounded d hd)
  rw [← hpath, hs.eq_of_id he hd (hid'.trans hid)]

end Store

/-! ### Adding a file -/

/-- Adding a file leads to a later store. -/
theorem Candidate.outlives_settle {c : Candidate} {detect : Detector} {tree : FileTree}
    {s s' : Store} {r : AddResult} (h : c.settle detect tree s = .ok (s', r)) :
    s.Outlives s' := by
  obtain ⟨-, ⟨-, rfl⟩ | ⟨content, -, ⟨-, hinsert⟩ | ⟨-, hupdate⟩⟩⟩ := settle_eq_ok h
  · exact Store.Outlives.refl _
  · exact Store.outlives_insert hinsert
  · refine Store.outlives_update hupdate ?_
    rintro old _ ⟨⟩
    rfl

namespace Table

variable {t : Table} {detect : Detector}

theorem Kept.outlives_addInTransaction (ht : t.Kept) (tree : FileTree)
    (directory rest : NativeName) (name : Option NativeName) :
    t.store.Outlives (t.addInTransaction detect tree directory rest name).1.store := by
  cases hprepare : Candidate.prepare detect tree directory rest name with
  | error e =>
    rw [addInTransaction_of_refused hprepare]
    exact Store.Outlives.refl _
  | ok c =>
    rw [addInTransaction_eq_ending ht.ready ht.closed hprepare]
    cases hsettle : c.settle detect tree t.store with
    | error e => exact Store.Outlives.refl _
    | ok r => exact Candidate.outlives_settle hsettle

/-! ### Runs -/

theorem outlives_remove {t' : Table} {path : Text} (h : t.remove path = .ok t') :
    t.store.Outlives t'.store := by
  obtain ⟨s, hs, rfl⟩ := delete_eq_ok (remove_eq_ok_iff.mp h)
  exact Store.outlives_delete hs

theorem gradual_outlives : Gradual (fun t t' => t.store.Outlives t'.store) where
  refl := fun t => Store.Outlives.refl t.store
  trans := Store.Outlives.trans
  remove := outlives_remove

/-- A call leads to a later store. -/
theorem Kept.outlives_afterCall (ht : t.Kept) (c : Call) :
    t.store.Outlives (t.afterCall detect c).store := by
  unfold Table.afterCall
  split
  · exact ht.outlives_addInTransaction c.tree _ _ _
  · split
    · next h => exact outlives_remove h
    · exact Store.Outlives.refl _
  · split
    · exact gradual_outlives.afterRemovals _ t
    · exact Store.Outlives.refl _
  · split
    · next r h =>
      obtain ⟨t', n⟩ := r
      rw [(deleteAll_eq_ok (removeAll_eq_ok_iff.mp h)).2]
      exact t.store.outlives_deleteAll
    · exact Store.Outlives.refl _
  · exact gradual_outlives.cleanup c.tree t
  · exact gradual_outlives.cleanupPackage c.tree _ t

/-- **No run of calls gives a number again.** -/
theorem Kept.outlives_afterCalls (calls : List Call) : ∀ {t : Table}, t.Kept →
    t.store.Outlives (t.afterCalls detect calls).store := by
  induction calls with
  | nil => intro t _; exact Store.Outlives.refl _
  | cons c calls ih =>
    intro t ht
    rw [afterCalls_cons]
    exact (ht.outlives_afterCall c).trans (ih (ht.afterCall c))

/-- The table after the first calls of a run is followed by the one after all of them. -/
theorem afterCalls_append (calls later : List Call) :
    t.afterCalls detect (calls ++ later) = (t.afterCalls detect calls).afterCalls detect later :=
  List.foldl_append

/-- **After any run of calls from the empty table, whatever failed in it**:

* the rows are listed by strictly ascending numbers, and no two of them have the same path;
* as long as a key is not removed its row keeps its number;
* a row that is inserted later gets a greater number than every row of now;
* a number of now stands later for nothing but the path it stands for now, and only if the row was
  there all the time. -/
theorem law_of_numbers (detect : Detector) (calls : List Call) :
    let t := ({} : Table).afterCalls detect calls
    (t.documents = .ok t.store.documents ∧
      t.store.documents.Pairwise (fun d e => d.id < e.id) ∧
      t.store.documents.Pairwise (fun d e => d.path ≠ e.path)) ∧
    (∀ (later : List Call) (path : Text) (d d' : Document), t.store.get? path = some d →
      (∀ before, before <+: later →
        ((t.afterCalls detect before).store.get? path).isSome = true) →
      (t.afterCalls detect later).store.get? path = some d' → d'.id = d.id) ∧
    (∀ (later : List Call) (c : Call) (d' : Document),
      (t.afterCalls detect later).store.get? d'.path = none →
      d' ∈ (t.afterCalls detect (later ++ [c])).store.documents →
      ∀ d ∈ t.store.documents, d.id < d'.id) ∧
    (∀ (later : List Call) (d d' : Document), d ∈ t.store.documents →
      d' ∈ (t.afterCalls detect later).store.documents → d'.id = d.id →
      d'.path = d.path ∧ ∀ before, before <+: later →
        ∃ e ∈ (t.afterCalls detect before).store.documents, e.id = d.id ∧ e.path = d.path) := by
  intro t
  have ht : t.Kept := kept_empty.afterCalls calls
  have hs := ht.reachable.sound
  refine ⟨⟨?_, hs.ascending, hs.distinct⟩, ?_, ?_, ?_⟩
  · rw [documents, view, ht.ready]
    rfl
  · exact fun later path d d' hd hpresent hd' => (ht.continues_afterCalls hd hpresent hd').id
  · intro later c d' hnew hd' d hd
    -- every number of now was given before the call that inserts
    have hlater : (t.afterCalls detect later).Kept := ht.afterCalls later
    have hgiven : d.id ≤ (t.afterCalls detect later).store.lastId :=
      Nat.le_trans (hs.bounded d hd) (ht.outlives_afterCalls later).given
    rw [afterCalls_append] at hd'
    exact Nat.lt_of_le_of_lt hgiven ((hlater.outlives_afterCall c).lastId_lt_of_new hd' hnew)
  · intro later d d' hd hd' hid
    refine ⟨(ht.outlives_afterCalls later).path_eq hs hd hd' hid, ?_⟩
    rintro before ⟨rest, rfl⟩
    rw [afterCalls_append] at hd'
    have hbefore : t.store.Outlives (t.afterCalls detect before).store :=
      ht.outlives_afterCalls before
    have hgiven : d'.id ≤ (t.afterCalls detect before).store.lastId :=
      hid ▸ Nat.le_trans (hs.bounded d hd) hbefore.given
    obtain ⟨e, he, heid, -⟩ :=
      ((ht.afterCalls before).outlives_afterCalls rest).known d' hd' hgiven
    exact ⟨e, he, heid.trans hid, hbefore.path_eq hs hd he (heid.trans hid)⟩

/-- The call that removes the file of such a tree. -/
def removing : Call := ⟨.remove "/p/a".toList, lone 1000⟩

/-- A file that is added, removed and added again is stored under a greater number than before. -/
theorem law_of_numbers_again :
    let t := ({} : Table).afterCalls (Detector.constant none) [adding 1000]
    ∃ d ∈ t.store.documents,
      ∃ d' ∈ (t.afterCalls (Detector.constant none) [removing, adding 1000]).store.documents,
        d'.path = d.path ∧ d.id < d'.id := by
  intro t
  obtain ⟨-, -, hnew, -⟩ := law_of_numbers (Detector.constant none) [adding 1000]
  let d : Document := ⟨⟨"/p/a".toList, ['p'], ['a'], ['x'], .number (.ofNanoseconds 1000), []⟩, 1⟩
  have hd : d ∈ t.store.documents := by decide +kernel
  have hd' : { d with id := 2 } ∈
      (t.afterCalls (Detector.constant none) ([removing] ++ [adding 1000])).store.documents := by
    decide +kernel
  exact ⟨d, hd, _, hd', rfl, hnew [removing] (adding 1000) _ (by decide +kernel) hd' d hd⟩

end Table

end PackageCatalog
