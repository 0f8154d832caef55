import PackageCatalog.Proofs.Paging

/-!
# Tables with the same contents

Two tables may hold the same documents under other numbers, and in another order.  A search does
not see the numbers: in both it accepts the same documents, and it sorts them by package and by
path below it.  What is left to differ is the order of documents of one place.

## Main definitions

* `Store.Alike` — stores with the same documents up to their numbers.
* `SearchOptions.Untied` — no two documents that filters accept have one place.
* `SearchOptions.SameButTies` — what two searches return differs in the order of ties only.
* `Table.SearchedAlike` — tables in which searches come to the same, except for ties.

## Main results

* `SearchOptions.sameButTies_of_perm` — windows of the same documents.
* `Table.sameButTies_of_alike` — **in tables with the same contents a search returns the same,
  except for ties.**
-/

namespace PackageCatalog

/-- Stores with the same documents, up to their numbers. -/
def Store.Alike (s s' : Store) : Prop :=
  (s.documents.map (·.toContents)).Perm (s'.documents.map (·.toContents))

/-- The place of a document is read off its fields. -/
def Contents.place (c : Contents) : Text × Text := (c.package, c.restpath)

namespace SearchOptions

variable {o : SearchOptions} {d e : Document}

/-- What filters accept is told by the fields alone. -/
theorem Accepts.of_toContents_eq (h : o.Accepts d) (he : e.toContents = d.toContents) :
    o.Accepts e := by
  obtain ⟨patterns, keywords, packages, paths, restpaths, suffixes⟩ := h
  rw [← he] at patterns keywords packages paths restpaths suffixes
  exact ⟨patterns, keywords, packages, paths, restpaths, suffixes⟩

/-- No two documents that the filters accept have the same place. -/
def Untied (o : SearchOptions) (s : Store) : Prop :=
  ∀ d ∈ s.documents, ∀ e ∈ s.documents, o.Accepts d → o.Accepts e → d.place = e.place → d = e

/-- What two searches return, of which the first was in the store `s`, differs in the numbers of
the documents and in the order of documents of one place only. -/
structure SameButTies (o : SearchOptions) (s : Store) (ds ds' : List Document) : Prop where
  /-- Place for place the answers are the same, also where a window cuts through a tie. -/
  places : ds.map Document.place = ds'.map Document.place
  /-- All answers together are the same documents. -/
  contents : o.Unwindowed → (ds.map (·.toContents)).Perm (ds'.map (·.toContents))
  /-- Without ties there is no difference. -/
  untied : o.Untied s → ds.map (·.toContents) = ds'.map (·.toContents)

end SearchOptions

namespace Store

variable {s s' : Store} {o : SearchOptions}

theorem Alike.symm (h : s.Alike s') : s'.Alike s := List.Perm.symm h

/-- A document has its like in a store with the same contents. -/
theorem Alike.exists_like (h : s.Alike s') {d : Document} (hd : d ∈ s.documents) :
    ∃ d' ∈ s'.documents, d'.toContents = d.toContents :=
  List.mem_map.mp ((List.Perm.mem_iff h).mp (List.mem_map_of_mem hd))

theorem Sound.nodup_contents (hs : s.Sound) : (s.documents.map (·.toContents)).Nodup := by
  refine List.pairwise_map.mpr (hs.distinct.imp (fun hne h => hne ?_))
  exact congrArg Contents.path h

/-- Stores are alike when under every path they have the same fields. -/
theorem alike_of_get? (hs : s.Sound) (hs' : s'.Sound)
    (h : ∀ path, (s.get? path).map (·.toContents) = (s'.get? path).map (·.toContents)) :
    s.Alike s' := by
  have hsub : ∀ {s s' : Store}, s.Sound →
      (∀ path, (s.get? path).map (·.toContents) = (s'.get? path).map (·.toContents)) →
        ∀ c, c ∈ s.documents.map (·.toContents) → c ∈ s'.documents.map (·.toContents) := by
    intro s s' hs h c hc
    obtain ⟨d, hd, rfl⟩ := List.mem_map.mp hc
    have hpath := h d.path
    rw [hs.get?_path hd, Option.map_some] at hpath
    obtain ⟨d', hd', hsame⟩ := Option.map_eq_some_iff.mp hpath.symm
    exact hsame ▸ List.mem_map_of_mem (mem_of_get?_eq_some hd')
  refine (List.perm_ext_iff_of_nodup hs.nodup_contents hs'.nodup_contents).mpr (fun c => ?_)
  exact ⟨hsub hs h c, hsub hs' (fun path => (h path).symm) c⟩

/-- What is found in stores with the same contents are the same documents. -/
theorem Alike.found_perm (h : s.Alike s') (hs : s.Sound) (hs' : s'.Sound) (o : SearchOptions) :
    ((s.found o.compile lexicalOrder (o.limit.map Int.ofNat)).map (·.toContents)).Perm
      ((s'.found o.compile lexicalOrder (o.limit.map Int.ofNat)).map (·.toContents)) := by
  have hmem : ∀ {s s' : Store}, s.Alike s' → ∀ c,
      c ∈ (s.matching o.compile).map (·.toContents) →
        c ∈ (s'.matching o.compile).map (·.toContents) := by
    intro s s' h c hc
    obtain ⟨d, hd, rfl⟩ := List.mem_map.mp hc
    obtain ⟨hstored, hsat⟩ := (mem_matching (SearchOptions.writable_compile o)).mp hd
    obtain ⟨d', hd', hsame⟩ := h.exists_like hstored
    rw [← hsame]
    refine List.mem_map_of_mem ((mem_matching (SearchOptions.writable_compile o)).mpr ⟨hd', ?_⟩)
    rw [SearchOptions.satisfies_compile_iff] at hsat ⊢
    exact hsat.of_toContents_eq hsame
  have hnodup : ∀ {s : Store}, s.Sound → ((s.matching o.compile).map (·.toContents)).Nodup :=
    fun hs => hs.nodup_contents.sublist (List.filter_sublist.map _)
  have hmatching : ((s.matching o.compile).map (·.toContents)).Perm
      ((s'.matching o.compile).map (·.toContents)) :=
    (List.perm_ext_iff_of_nodup (hnodup hs) (hnodup hs')).mpr
      (fun c => ⟨hmem h c, hmem h.symm c⟩)
  exact (((hs.found_perm _ _ _).map _).trans hmatching).trans ((hs'.found_perm _ _ _).map _).symm

end Store

/-! ### Sorted lists of the same documents -/

/-- Sorted lists of the same documents show the same places. -/
theorem map_place_sortBy {l l' : List Document}
    (h : (l.map (·.toContents)).Perm (l'.map (·.toContents))) :
    (sortBy (SortKey.compare lexicalOrder) l).map Document.place =
      (sortBy (SortKey.compare lexicalOrder) l').map Document.place := by
  -- neither the order nor the places are about the numbers, so that all may have the same one
  let blank : Document → Document := fun d => { d with id := 0 }
  have hblank : ∀ l : List Document, (l.map blank).map Document.place = l.map Document.place :=
    fun l => List.map_map
  have hperm : ((sortBy (SortKey.compare lexicalOrder) l).map blank).Perm
      ((sortBy (SortKey.compare lexicalOrder) l').map blank) := by
    have hsorted := (((sortBy_perm (SortKey.compare lexicalOrder) l).map
        (·.toContents)).trans h).trans
      ((sortBy_perm (SortKey.compare lexicalOrder) l').map (·.toContents)).symm
    have hnumbered := hsorted.map (fun c : Contents => ({ c with id := 0 } : Document))
    rwa [List.map_map, List.map_map] at hnumbered
  have hascends : ∀ l : List Document,
      ((sortBy (SortKey.compare lexicalOrder) l).map blank).Pairwise
        (fun a b => SortKey.compare lexicalOrder a b ≠ .gt) := by
    intro l
    have hsorted : (sortBy (SortKey.compare lexicalOrder) l).Pairwise
        (fun a b => SortKey.compare lexicalOrder a b ≠ .gt) := sortBy_ascends l
    exact List.pairwise_map.mpr (hsorted.imp id)
  have hplaces := map_eq_of_perm_of_pairwise Document.place_eq_iff hperm (hascends l) (hascends l')
  rwa [hblank, hblank] at hplaces

/-- Lists of the same things that look the same are the same, if different things look different. -/
theorem map_eq_of_perm_of_map_eq {α β γ : Type} {f : α → β} {g : β → γ} {l l' : List α}
    (hperm : (l.map f).Perm (l'.map f)) (hsame : l.map (g ∘ f) = l'.map (g ∘ f))
    (hinj : ∀ a ∈ l, ∀ b ∈ l, g (f a) = g (f b) → f a = f b) : l.map f = l'.map f := by
  have hlength : (l.map f).length = (l'.map f).length := hperm.length_eq
  refine List.ext_getElem hlength (fun i hi hi' => ?_)
  obtain ⟨b, hb, hbi⟩ := List.mem_map.mp (hperm.mem_iff.mpr (List.getElem_mem hi'))
  rw [List.length_map] at hi hi'
  have hlook : g (f l[i]) = g (f l'[i]) := by
    have hget := List.getElem_of_eq hsame (i := i) (by rwa [List.length_map])
    rwa [List.getElem_map, List.getElem_map] at hget
  rw [List.getElem_map] at hbi
  rw [List.getElem_map, List.getElem_map, ← hbi]
  exact hinj _ (List.getElem_mem hi) b hb (by rw [hbi, hlook])

theorem takeUpTo_map {α β : Type} (f : α → β) (limit : Option Nat) (l : List α) :
    takeUpTo limit (l.map f) = (takeUpTo limit l).map f := by
  cases limit with
  | none => rfl
  | some n => exact (List.map_take).symm

/-- Windows of the same documents, sorted, differ in ties only. -/
theorem SearchOptions.sameButTies_of_perm {o : SearchOptions} {s : Store} {l l' : List Document}
    (h : (l.map (·.toContents)).Perm (l'.map (·.toContents)))
    (hl : ∀ d ∈ l, d ∈ s.documents ∧ o.Accepts d) :
    o.SameButTies s (takeUpTo o.limit ((sortBy (SortKey.compare lexicalOrder) l).drop o.offset))
      (takeUpTo o.limit ((sortBy (SortKey.compare lexicalOrder) l').drop o.offset)) := by
  have hplaces := map_place_sortBy h
  have hsorted := (((sortBy_perm (SortKey.compare lexicalOrder) l).map
      (·.toContents)).trans h).trans
    ((sortBy_perm (SortKey.compare lexicalOrder) l').map (·.toContents)).symm
  refine ⟨?_, fun ho => ?_, fun huntied => ?_⟩
  · rw [← takeUpTo_map, ← takeUpTo_map, List.map_drop, List.map_drop, hplaces]
  · rw [ho.offset, ho.limit]
    exact hsorted
  · -- without ties the place of a document tells which one it is
    have hsame := map_eq_of_perm_of_map_eq (f := fun d : Document => d.toContents)
      (g := Contents.place) hsorted hplaces (fun d hd e he hplace => ?_)
    · rw [← takeUpTo_map, ← takeUpTo_map, List.map_drop, List.map_drop, hsame]
    · obtain ⟨hd, hda⟩ := hl d (mem_sortBy.mp hd)
      obtain ⟨he, hea⟩ := hl e (mem_sortBy.mp he)
      rw [huntied d hd e he hda hea hplace]

namespace Table

variable {t t' : Table} {o : SearchOptions} {ds ds' : List Document}

/-- **In tables with the same contents a search returns the same, except for ties.** -/
theorem sameButTies_of_alike (h : t.store.Alike t'.store) (hs : t.store.Sound)
    (hs' : t'.store.Sound) (hds : t.search o = .ok ds) (hds' : t'.search o = .ok ds') :
    o.SameButTies t.store ds ds' := by
  rw [search_eq_of_ok hds, search_eq_of_ok hds']
  refine SearchOptions.sameButTies_of_perm (h.found_perm hs hs' o) (fun d hd => ?_)
  have hmatching := ((hs.found_perm _ _ _).mem_iff).mp hd
  obtain ⟨hstored, hsat⟩ := (Store.mem_matching (SearchOptions.writable_compile o)).mp hmatching
  exact ⟨hstored, SearchOptions.satisfies_compile_iff.mp hsat⟩

/-- Searches in two tables come to the same, except for ties: what they return is the same, and
within the limits both return. -/
structure SearchedAlike (t t' : Table) : Prop where
  same : ∀ (o : SearchOptions) (ds ds' : List Document), t.search o = .ok ds →
    t'.search o = .ok ds' → o.SameButTies t.store ds ds'
  returns : ∀ o : SearchOptions, o.WithinLimits →
    Store.fitsWindow o.offset (o.limit.map Int.ofNat) = true →
      (∃ ds, t.search o = .ok ds) ∧ ∃ ds', t'.search o = .ok ds'

theorem searchedAlike_of_alike (h : t.store.Alike t'.store) (hs : t.store.Sound)
    (hs' : t'.store.Sound) (hopen : t.access ≠ .closed) (hopen' : t'.access ≠ .closed) :
    t.SearchedAlike t' := by
  refine ⟨fun o ds ds' => sameButTies_of_alike h hs hs', fun o hlimits hwindow => ?_⟩
  have hp := SearchOptions.answerable_compile hlimits
  have hsearch : ∀ {t : Table}, t.access ≠ .closed → ∃ ds, t.search o = .ok ds := fun hopen =>
    ⟨_, search_eq_ok_iff.mpr ((select_eq hp.writable hopen).trans
      (Store.select_of_answerable hp lexicalOrder hwindow))⟩
  exact ⟨hsearch hopen, hsearch hopen'⟩

end Table

end PackageCatalog
