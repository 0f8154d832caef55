import PackageCatalog.Proofs.Catalogue.Removal

/-!
# Sweeping

A sweep goes over documents and removes those whose file is gone.  When it returns, it has removed
just these, each of them once, and has seen the files of the others.

## Main definitions

* `FileTree.misses`, `Document.gone` — a name that leads nowhere, a document of which this is so.
* `Document.Present` — a document whose path leads to an entry.
* `Table.Sweeps` — what a sweep that returns has done.

## Main results

* `Table.sweeps_of_failure_eq_none` — **a sweep that returns has removed the documents whose file is
  gone, and no other.**
* `Table.sweep_of_present` — when no file is gone, a sweep does nothing.
* `Table.exists_removeEach` — stored documents can be removed one after the other.
* `Table.mem_packageDocuments_iff` — the documents of a package.
-/

namespace PackageCatalog

/-! ### Names that lead nowhere -/

/-- Whether the system says of a name that it leads nowhere. -/
def FileTree.misses (tree : FileTree) (name : NativeName) : Bool :=
  match tree.stat name with
  | .error (.system .noEntry _) => true
  | .error (.system .notDirectory _) => true
  | _ => false

/-- Whether the path of a document leads nowhere. -/
def Document.gone (tree : FileTree) (d : Document) : Bool :=
  tree.misses (NativeName.ofText d.path)

/-- The path of a document leads to an entry. -/
def Document.Present (tree : FileTree) (d : Document) : Prop :=
  ∃ entry, tree.stat (NativeName.ofText d.path) = .ok entry

variable {tree : FileTree} {d : Document} {ds : List Document}

/-- The system says neither that a path leads somewhere nor that it leads nowhere. -/
theorem isGone_eq_error {path : Text} {e : Failure} (h : isGone tree path = .error e) :
    ∃ f, tree.stat (NativeName.ofText path) = .error f ∧ e = .file f ∧
      (∀ name, f ≠ .system .noEntry name) ∧ ∀ name, f ≠ .system .notDirectory name := by
  unfold isGone at h
  split at h
  · cases h
  · cases h
  · cases h
  · next f hentry hdirectory hf =>
    exact ⟨f, hf, (Except.error.inj h).symm, hentry, hdirectory⟩

theorem isGone_eq_true_iff : isGone tree d.path = .ok true ↔ d.gone tree = true := by
  unfold isGone Document.gone FileTree.misses
  split <;> simp_all

theorem isGone_eq_false_iff : isGone tree d.path = .ok false ↔ d.Present tree := by
  unfold isGone Document.Present
  split <;> simp_all

theorem Document.Present.gone_eq_false (h : d.Present tree) : d.gone tree = false := by
  obtain ⟨entry, hentry⟩ := h
  rw [gone, FileTree.misses, hentry]

/-- Taking a document out of a sound store leaves one less. -/
theorem Store.Sound.length_without {s : Store} (hs : s.Sound) (hd : d ∈ s.documents) :
    (without d.id s.documents).length + 1 = s.documents.length := by
  have hperm : (d :: without d.id s.documents).Perm s.documents := by
    have hnodup : (d :: without d.id s.documents).Nodup :=
      List.nodup_cons.mpr ⟨fun h => (mem_without.mp h).2 rfl, hs.nodup.filter _⟩
    refine (List.perm_ext_iff_of_nodup hnodup hs.nodup).mpr (fun e => ?_)
    rw [List.mem_cons, mem_without]
    constructor
    · rintro (rfl | ⟨he, -⟩)
      · exact hd
      · exact he
    · intro he
      by_cases hid : e.id = d.id
      · exact Or.inl (hs.eq_of_id he hd hid)
      · exact Or.inr ⟨he, hid⟩
  rw [← hperm.length_eq, List.length_cons]

namespace Table

variable {t t' : Table}

/-- A stored document that is removed is gone from the table, and nothing else is. -/
theorem mem_of_remove (hs : t.store.Sound) (hd : d ∈ t.store.documents)
    (h : t.remove d.path = .ok t') :
    (∀ e, e ∈ t'.store.documents ↔ e ∈ t.store.documents ∧ e ≠ d) ∧
      t'.store.documents.length + 1 = t.store.documents.length := by
  obtain ⟨s, hdelete, rfl⟩ := delete_eq_ok (remove_eq_ok_iff.mp h)
  obtain ⟨old, hold, rfl⟩ := Store.delete_eq_ok hdelete
  cases (hs.get?_path hd).symm.trans hold
  refine ⟨fun e => ?_, hs.length_without hd⟩
  rw [Store.mem_without]
  refine and_congr_right (fun he => not_congr ⟨hs.eq_of_id he hd, ?_⟩)
  rintro rfl
  rfl

/-! ### Several documents -/

/-- Stored documents that are removed one after the other are gone from the table, and nothing else
is. -/
theorem exists_removeEach : ∀ {ds : List Document} {t : Table}, t.access = .ready →
    t.store.Reachable → (∀ d ∈ ds, d ∈ t.store.documents) → ds.Nodup →
      ∃ t', t.removeEach ds = .ok t' ∧ Thins t t' ∧
        ∀ d, d ∈ t'.store.documents ↔ d ∈ t.store.documents ∧ d ∉ ds := by
  intro ds
  induction ds with
  | nil =>
    intro t _ _ _ _
    exact ⟨t, rfl, Thins.refl t, fun d => (and_iff_left List.not_mem_nil).symm⟩
  | cons d ds ih =>
    intro t hready hs hmem hnodup
    obtain ⟨hd, hds⟩ := List.forall_mem_cons.mp hmem
    obtain ⟨hnew, hnodup⟩ := List.nodup_cons.mp hnodup
    obtain ⟨t₁, hremove, -⟩ := remove_path hready hs.sound hd
    have hthins := thins_remove hremove
    have hmem₁ := (mem_of_remove hs.sound hd hremove).1
    have hds₁ : ∀ e ∈ ds, e ∈ t₁.store.documents := by
      intro e he
      refine (hmem₁ e).mpr ⟨hds e he, ?_⟩
      rintro rfl
      exact hnew he
    obtain ⟨t', hremoves, hthins', hmem'⟩ :=
      ih (hthins.access.trans hready) (hthins.reachable hs) hds₁ hnodup
    refine ⟨t', ?_, hthins.trans hthins', fun e => ?_⟩
    · rw [removeEach, hremove]
      exact hremoves
    · rw [hmem', hmem₁, List.mem_cons, not_or, and_assoc]

/-- What a sweep over documents has done when it returns. -/
structure Sweeps (tree : FileTree) (t : Table) (ds : List Document) (s : Sweep) : Prop where
  removed : s.removed = ds.filter (fun d => d.gone tree)
  kept : ∀ d, d ∈ s.table.store.documents ↔ d ∈ t.store.documents ∧ d ∉ s.removed
  length : s.table.store.documents.length + s.removed.length = t.store.documents.length
  present : ∀ d ∈ ds, d ∉ s.removed → d.Present tree

/-- A document whose file is there is passed over. -/
theorem Sweeps.cons_of_present {s : Sweep} (h : Sweeps tree t ds s) (hd : d.Present tree) :
    Sweeps tree t (d :: ds) s where
  removed := by
    rw [List.filter_cons_of_neg (by rw [hd.gone_eq_false]; exact Bool.false_ne_true), h.removed]
  kept := h.kept
  length := h.length
  present := fun e he hkept => by
    rcases List.mem_cons.mp he with rfl | he
    · exact hd
    · exact h.present e he hkept

/-- A document whose file is gone is removed before the others. -/
theorem Sweeps.cons_of_gone {s : Sweep} (h : Sweeps tree t' ds s) (hs : t.store.Sound)
    (hmem : d ∈ t.store.documents) (hremove : t.remove d.path = .ok t') (hd : d.gone tree = true) :
    Sweeps tree t (d :: ds)
      { s with reported := d :: s.reported, removed := d :: s.removed } where
  removed := by rw [List.filter_cons_of_pos hd, h.removed]
  kept := fun e => by
    rw [h.kept, (mem_of_remove hs hmem hremove).1, List.mem_cons, not_or, and_assoc]
  length := by
    have hlength := (mem_of_remove hs hmem hremove).2
    rw [← h.length] at hlength
    rw [List.length_cons]
    omega
  present := fun e he hkept => by
    obtain ⟨hne, hkept⟩ := not_or.mp (mt List.mem_cons.mpr hkept)
    rcases List.mem_cons.mp he with rfl | he
    · exact absurd rfl hne
    · exact h.present e he hkept

/-- **A sweep that returns has removed the documents whose file is gone, and no other.** -/
theorem sweeps_of_failure_eq_none : ∀ {ds : List Document} {t : Table}, t.store.Reachable →
    (∀ d ∈ ds, d ∈ t.store.documents) → ds.Nodup → (sweep tree t ds).failure = none →
      Sweeps tree t ds (sweep tree t ds) := by
  intro ds
  induction ds with
  | nil =>
    intro t _ _ _ _
    exact ⟨rfl, fun d => (and_iff_left List.not_mem_nil).symm, rfl,
      fun _ h => absurd h List.not_mem_nil⟩
  | cons d ds ih =>
    intro t hs hmem hnodup hreturns
    obtain ⟨hd, hds⟩ := List.forall_mem_cons.mp hmem
    obtain ⟨hnew, hnodup⟩ := List.nodup_cons.mp hnodup
    rw [sweep] at hreturns ⊢
    split at hreturns
    · cases hreturns
    · next hgone =>
      exact (ih hs hds hnodup hreturns).cons_of_present (isGone_eq_false_iff.mp hgone)
    · next hgone =>
      split at hreturns
      · cases hreturns
      · next t' hremove =>
        have hthins := thins_remove hremove
        -- the documents that follow are others, so that they are still there
        have hds' : ∀ e ∈ ds, e ∈ t'.store.documents := by
          intro e he
          refine ((mem_of_remove hs.sound hd hremove).1 e).mpr ⟨hds e he, ?_⟩
          rintro rfl
          exact hnew he
        exact (ih (hthins.reachable hs) hds' hnodup hreturns).cons_of_gone hs.sound hd hremove
          (isGone_eq_true_iff.mp hgone)

/-- When no file is gone, a sweep does nothing. -/
theorem sweep_of_present : ∀ {ds : List Document}, (∀ d ∈ ds, d.Present tree) →
    sweep tree t ds = ⟨t, [], [], none⟩ := by
  intro ds
  induction ds with
  | nil => intro _; rfl
  | cons d ds ih =>
    intro h
    obtain ⟨hd, hds⟩ := List.forall_mem_cons.mp h
    rw [sweep, isGone_eq_false_iff.mpr hd]
    exact ih hds

/-! ### The documents of a package -/

theorem answerable_package (package : Text) : (Predicate.equals .package package).Answerable :=
  ⟨⟨_, rfl⟩, rfl, rfl⟩

theorem satisfies_package_iff {package : Text} :
    d.Satisfies (.equals .package package) ↔ d.package = package := by
  rw [Document.satisfies_equals_iff rfl, Contents.get, Cell.text.injEq]

/-- The documents of a package, each of them once. -/
theorem mem_packageDocuments_iff {package : Text} (hs : t.store.Sound)
    (h : t.packageDocuments package = .ok ds) :
    ds.Nodup ∧ ∀ d, d ∈ ds ↔ d ∈ t.store.documents ∧ d.package = package := by
  obtain ⟨hnodup, hmem⟩ := mem_select_iff hs h
  refine ⟨hnodup, fun d => ?_⟩
  rw [hmem, satisfies_package_iff]

theorem exists_packageDocuments (hopen : t.access ≠ .closed) (package : Text) :
    ∃ ds, t.packageDocuments package = .ok ds :=
  exists_select hopen (answerable_package package) _

/-- The documents of a package are given by a table that is open. -/
theorem access_of_packageDocuments {package : Text} (h : t.packageDocuments package = .ok ds) :
    t.access ≠ .closed := by
  intro hclosed
  obtain ⟨c, hc⟩ := (answerable_package package).writable
  simp [packageDocuments, select, hc, view, hclosed] at h

/-- The cleanup of a package that returns is a sweep over its documents. -/
theorem sweeps_of_cleanupPackage {package : Text} (hs : t.store.Reachable)
    (h : (t.cleanupPackage tree package).failure = none) :
    ∃ ds, t.packageDocuments package = .ok ds ∧
      Sweeps tree t ds (t.cleanupPackage tree package) := by
  unfold cleanupPackage at h ⊢
  cases hds : t.packageDocuments package with
  | error e =>
    rw [hds] at h
    cases h
  | ok ds =>
    rw [hds] at h
    obtain ⟨hnodup, hmem⟩ := mem_packageDocuments_iff hs.sound hds
    exact ⟨ds, rfl, sweeps_of_failure_eq_none hs (fun d hd => ((hmem d).mp hd).1) hnodup h⟩

end Table

end PackageCatalog
