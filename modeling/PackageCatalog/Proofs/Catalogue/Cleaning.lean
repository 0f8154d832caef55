import PackageCatalog.Proofs.Catalogue.Runs
import PackageCatalog.Proofs.Catalogue.Telling

/-!
# Cleanups

A cleanup asks the system for every document of its scope, which is the whole table or a package,
and removes those whose path leads nowhere.  It ends early at a document of which the system says
neither that it is there nor that it is not; what was removed until then stays removed.  No
document is visited twice, so that none is missing when its turn comes.

## Main definitions

* `Document.InScope` — a document that a cleanup is about.
* `Table.Covers` — the documents that a cleanup goes over.
* `Table.Passes` — a cleanup gets past a document.
* `Table.cleanupEach` — cleanups of several packages, one after the other.

## Main results

* `Table.cleanupTold_cases` — **a cleanup returns, or is stopped.**
* `Table.cleanupEach_eq` — cleanups of packages remove what is gone of them.
* `Table.law_of_cleanup` — **what a cleanup does when it returns and when it is stopped, what a
  second one does, and what the cleanups of all packages come to.**
-/

namespace PackageCatalog

/-- A document is in the scope of a cleanup: of the whole table, or of a package. -/
def Document.InScope (d : Document) (scope : Option Text) : Prop :=
  ∀ package ∈ scope, d.package = package

variable {tree : FileTree} {d : Document} {ds : List Document} {e : Failure}

/-! ### What the system says of a document -/

theorem isGone_eq_gone {b : Bool} (h : isGone tree d.path = .ok b) : b = d.gone tree := by
  cases b with
  | true => exact (isGone_eq_true_iff.mp h).symm
  | false => exact (isGone_eq_false_iff.mp h).gone_eq_false.symm

/-- A document of which the system says that it cannot be looked at. -/
theorem exists_stat_of_isGone (h : isGone tree d.path = .error e) :
    ∃ f, tree.stat (NativeName.ofText d.path) = .error f ∧ d.gone tree = false ∧ e = .file f := by
  obtain ⟨f, hf, rfl, hentry, hdirectory⟩ := isGone_eq_error h
  refine ⟨f, hf, ?_, rfl⟩
  unfold Document.gone FileTree.misses
  rw [hf]
  split
  · next name heq => exact absurd (Except.error.inj heq) (hentry name)
  · next name heq => exact absurd (Except.error.inj heq) (hdirectory name)
  · rfl

namespace Table

variable {σ : Type} {t : Table} {hear : σ → Table → Document → σ} {s : σ} {scope : Option Text}

/-! ### One cleanup -/

/-- The documents that a cleanup goes over: those of its scope, each once. -/
structure Covers (t : Table) (scope : Option Text) (ds : List Document) : Prop where
  visited : t.visited scope = .ok ds
  nodup : ds.Nodup
  mem_iff : ∀ d, d ∈ ds ↔ d ∈ t.store.documents ∧ d.InScope scope

theorem Covers.stored (hcovers : t.Covers scope ds) : ∀ d ∈ ds, d ∈ t.store.documents :=
  fun d hd => ((hcovers.mem_iff d).mp hd).1

/-- A table that is open can be cleaned up. -/
theorem exists_covers (hopen : t.access ≠ .closed) (hs : t.store.Sound) (scope : Option Text) :
    ∃ ds, t.Covers scope ds := by
  cases scope with
  | none =>
    refine ⟨t.store.documents, ?_, hs.nodup, fun d => by simp [Document.InScope]⟩
    rw [Table.visited, documents, view_eq_ok hopen]
    rfl
  | some package =>
    obtain ⟨ds, hds⟩ := exists_packageDocuments hopen package
    obtain ⟨hnodup, hmem⟩ := mem_packageDocuments_iff hs hds
    exact ⟨ds, hds, hnodup, fun d => by simp [hmem, Document.InScope]⟩

/-- A closed table cannot be cleaned up, for its documents cannot be read. -/
theorem cleanupTold_of_closed (h : t.access = .closed) (tree : FileTree)
    (hear : σ → Table → Document → σ) (s : σ) (scope : Option Text) :
    t.cleanupTold tree hear s scope = ⟨t, s, .error (.store .closed)⟩ := by
  have hvisited : t.visited scope = .error .closed := by
    cases scope with
    | none => simp [visited, documents, view, h, Except.map]
    | some package =>
      obtain ⟨⟨c, hc⟩, -, -⟩ := answerable_package package
      simp [visited, packageDocuments, select, view, h, hc]
  rw [cleanupTold, hvisited]

/-- A cleanup gets past a document: it can be looked at, and if its path leads nowhere, the table
can be written. -/
def Passes (t : Table) (tree : FileTree) (d : Document) : Prop :=
  isGone tree d.path = .ok (d.gone tree) ∧ (d.gone tree = true → t.access = .ready)

/-- A cleanup gets past all documents, or there is a first one at which it ends. -/
theorem passes_or_not (t : Table) (tree : FileTree) (ds : List Document) :
    (∀ d ∈ ds, t.Passes tree d) ∨ ∃ before d after, ds = before ++ d :: after ∧
      (∀ d ∈ before, t.Passes tree d) ∧ ¬t.Passes tree d := by
  induction ds with
  | nil => exact Or.inl (by simp)
  | cons d ds ih =>
    by_cases hd : t.Passes tree d
    · rcases ih with hds | ⟨before, d', after, rfl, hbefore, hd'⟩
      · exact Or.inl (List.forall_mem_cons.mpr ⟨hd, hds⟩)
      · exact Or.inr ⟨d :: before, d', after, rfl, List.forall_mem_cons.mpr ⟨hd, hbefore⟩, hd'⟩
    · exact Or.inr ⟨[], d, ds, rfl, by simp, hd⟩

/-- What stops a cleanup at a document: the system, or that the table cannot be written. -/
theorem of_not_passes (h : ¬t.Passes tree d) :
    (∃ e, isGone tree d.path = .error e) ∨ isGone tree d.path = .ok true ∧ t.access ≠ .ready := by
  cases htest : isGone tree d.path with
  | error e => exact Or.inl ⟨e, rfl⟩
  | ok b =>
    right
    obtain rfl := isGone_eq_gone htest
    by_cases hgone : d.gone tree = true
    · refine ⟨by rw [hgone], fun hready => h ⟨htest, fun _ => hready⟩⟩
    · exact absurd ⟨htest, fun h => absurd h hgone⟩ h

/-- Nothing is removed from a table that cannot be written. -/
theorem remove_of_not_ready (h : t.access ≠ .ready) (path : Text) :
    ∃ refusal, (refusal = .closed ∨ refusal = .locked) ∧
      t.remove path = .error (.store refusal) := by
  rw [remove, delete, execute]
  cases haccess : t.access with
  | ready => exact absurd haccess h
  | busy => exact ⟨.locked, Or.inr rfl, rfl⟩
  | closed => exact ⟨.closed, Or.inl rfl, rfl⟩

/-- A cleanup that gets past all its documents. -/
theorem cleanupTold_of_passes (hs : t.store.Sound) (hcovers : t.Covers scope ds)
    (hpass : ∀ d ∈ ds, t.Passes tree d) (s : σ) :
    t.cleanupTold tree hear s scope =
      ⟨t.lacking (ds.filter (·.gone tree)), t.told hear s (ds.filter (·.gone tree)),
        .ok (ds.filter (·.gone tree)).length⟩ := by
  rw [cleanupTold, hcovers.visited]
  exact removeTold_of_tested (fun d hd => (hpass d hd).2) hs hcovers.stored hcovers.nodup
    (fun d hd => (hpass d hd).1) s

/-- **A cleanup returns, or is stopped.**  When it returns, it has got past all its documents, and
those whose path leads nowhere were removed.  When the system stops it, it is at a document that
cannot be looked at, and those before it whose path leads nowhere were removed.  Else the table
could not be written. -/
theorem cleanupTold_cases (hs : t.store.Sound) (hcovers : t.Covers scope ds) (tree : FileTree)
    (hear : σ → Table → Document → σ) (s : σ) :
    let run := t.cleanupTold tree hear s scope
    ((∀ d ∈ ds, t.Passes tree d) ∧ run.outcome = .ok (ds.filter (·.gone tree)).length ∧
      Removes t hear s (ds.filter (·.gone tree)) run) ∨
    (∃ before d after e, ds = before ++ d :: after ∧ (∀ d ∈ before, t.Passes tree d) ∧
      isGone tree d.path = .error e ∧ run.outcome = .error e ∧
      Removes t hear s (before.filter (·.gone tree)) run) ∨
    t.access ≠ .ready ∧
      ∃ refusal, (refusal = .closed ∨ refusal = .locked) ∧
        run.outcome = .error (.store refusal) := by
  intro run
  rcases passes_or_not t tree ds with hpass | ⟨before, d, after, rfl, hpass, hstop⟩
  · left
    have hrun : run = _ := cleanupTold_of_passes hs hcovers hpass s
    rw [hrun]
    refine ⟨hpass, rfl, removes_lacking hs (hcovers.nodup.filter _) ?_ _⟩
    intro d hd
    exact hcovers.stored d (List.mem_filter.mp hd).1
  · right
    have hbefore : ∀ d ∈ before, d ∈ t.store.documents := by
      intro d hd
      exact hcovers.stored d (List.mem_append_left _ hd)
    have honce : before.Nodup := (List.nodup_append.mp hcovers.nodup).1
    have hready : ∀ d ∈ before, d.gone tree = true → t.access = .ready :=
      fun d hd => (hpass d hd).2
    have htest : ∀ d ∈ before, isGone tree d.path = .ok (d.gone tree) :=
      fun d hd => (hpass d hd).1
    have hrun : run = t.removeTold (fun d => isGone tree d.path) hear s (before ++ d :: after) := by
      show t.cleanupTold tree hear s scope = _
      rw [cleanupTold, hcovers.visited]
    rcases of_not_passes hstop with ⟨e, hfailed⟩ | ⟨hgone, hnot⟩
    · -- the system cannot tell whether the document is there
      left
      rw [removeTold_of_failed hready hs hbefore honce htest hfailed] at hrun
      rw [hrun]
      refine ⟨before, d, after, e, rfl, hpass, hfailed, rfl, ?_⟩
      apply removes_lacking hs (honce.filter _)
      intro d hd
      exact hbefore d (List.mem_filter.mp hd).1
    · -- the document is gone, and its removal is refused
      right
      refine ⟨hnot, ?_⟩
      obtain ⟨refusal, hrefusal, hremove⟩ :=
        remove_of_not_ready (t := t.lacking (before.filter (·.gone tree))) hnot d.path
      refine ⟨refusal, hrefusal, ?_⟩
      rw [hrun, removeTold_append (d :: after) hready hs hbefore honce htest]
      simp only [removeTold, hgone, hremove, Except.map]

/-! ### What a cleanup comes to -/

namespace Covers

variable {n : Nat}

/-- A cleanup that returns has got past all its documents. -/
theorem returned (hcovers : t.Covers scope ds) (hs : t.store.Sound)
    (hn : (t.cleanupTold tree hear s scope).outcome = .ok n) :
    (∀ d ∈ ds, t.Passes tree d) ∧ n = (ds.filter (·.gone tree)).length ∧
      Removes t hear s (ds.filter (·.gone tree)) (t.cleanupTold tree hear s scope) := by
  rcases cleanupTold_cases hs hcovers tree hear s with ⟨hpass, hok, hremoves⟩ |
    ⟨_, _, _, _, -, -, -, he, -⟩ | ⟨-, _, -, he⟩
  · exact ⟨hpass, Except.ok.inj (hn.symm.trans hok), hremoves⟩
  · cases hn.symm.trans he
  · cases hn.symm.trans he

/-- What a cleanup that returns has left in its scope is there. -/
theorem present (hcovers : t.Covers scope ds) (hs : t.store.Sound)
    (hn : (t.cleanupTold tree hear s scope).outcome = .ok n) :
    ∀ d ∈ (t.cleanupTold tree hear s scope).table.store.documents, d.InScope scope →
      d.Present tree := by
  obtain ⟨hpass, -, hremoves⟩ := hcovers.returned hs hn
  intro d hd hscope
  obtain ⟨hd, hkept⟩ := (hremoves.kept d).mp hd
  have hds := (hcovers.mem_iff d).mpr ⟨hd, hscope⟩
  apply isGone_eq_false_iff.mp
  rw [(hpass d hds).1]
  exact congrArg _ (eq_false_of_ne_true fun hgone => hkept (List.mem_filter.mpr ⟨hds, hgone⟩))

/-- A cleanup that ends early cannot write the table, or is stopped by the system at a document. -/
theorem stopped (hcovers : t.Covers scope ds) (hs : t.store.Sound)
    (he : (t.cleanupTold tree hear s scope).outcome = .error e) :
    (t.access ≠ .ready ∧ (e = .store .closed ∨ e = .store .locked)) ∨
    ∃ before d after f, ds = before ++ d :: after ∧
      (∀ d' ∈ before, d'.gone tree = true ∨ d'.Present tree) ∧
      tree.stat (NativeName.ofText d.path) = .error f ∧ d.gone tree = false ∧ e = .file f ∧
      Removes t hear s (before.filter (·.gone tree)) (t.cleanupTold tree hear s scope) ∧
      ∀ later ∈ d :: after,
        later ∈ (t.cleanupTold tree hear s scope).table.store.documents := by
  rcases cleanupTold_cases hs hcovers tree hear s with ⟨-, hok, -⟩ |
    ⟨before, d, after, e', rfl, hpass, hfailed, hstopped, hremoves⟩ |
    ⟨hnot, refusal, hrefusal, hstopped⟩
  · cases he.symm.trans hok
  · right
    cases he.symm.trans hstopped
    obtain ⟨f, hf, hthere, hfile⟩ := exists_stat_of_isGone hfailed
    refine ⟨before, d, after, f, rfl, ?_, hf, hthere, hfile, hremoves, ?_⟩
    · intro d' hd'
      cases hgone : d'.gone tree with
      | true => exact Or.inl rfl
      | false => exact Or.inr (isGone_eq_false_iff.mp ((hpass d' hd').1.trans (by rw [hgone])))
    · intro later hlater
      refine (hremoves.kept later).mpr
        ⟨hcovers.stored later (List.mem_append_right _ hlater), fun hgone => ?_⟩
      have hapart := (List.nodup_append.mp hcovers.nodup).2.2
      exact hapart later (List.mem_filter.mp hgone).1 later hlater rfl
  · left
    cases he.symm.trans hstopped
    exact ⟨hnot, hrefusal.imp (congrArg _) (congrArg _)⟩

/-- After a cleanup that returns another one finds nothing to remove. -/
theorem again {s' : σ} (hcovers : t.Covers scope ds) (hopen : t.access ≠ .closed)
    (hs : t.store.Sound) (hn : (t.cleanupTold tree hear s scope).outcome = .ok n) :
    (t.cleanupTold tree hear s scope).table.cleanupTold tree hear s' scope =
      ⟨(t.cleanupTold tree hear s scope).table, s', .ok 0⟩ := by
  obtain ⟨hpass, -, hremoves⟩ := hcovers.returned hs hn
  rw [hremoves.table]
  have hsound : (t.lacking (ds.filter (·.gone tree))).store.Sound := sound_lacking hs _
  obtain ⟨left, hleft⟩ :=
    exists_covers (t := t.lacking (ds.filter (·.gone tree))) hopen hsound scope
  -- what is left in the scope is there
  have hkept : ∀ d ∈ left, d ∈ ds ∧ d ∉ ds.filter (·.gone tree) := by
    intro d hd
    obtain ⟨hd, hscope⟩ := (hleft.mem_iff d).mp hd
    rw [← hremoves.table] at hd
    obtain ⟨hd, hkept⟩ := (hremoves.kept d).mp hd
    exact ⟨(hcovers.mem_iff d).mpr ⟨hd, hscope⟩, hkept⟩
  have hnone : left.filter (·.gone tree) = [] := by
    rw [List.filter_eq_nil_iff]
    intro d hd hgone
    exact (hkept d hd).2 (List.mem_filter.mpr ⟨(hkept d hd).1, hgone⟩)
  have hpass' : ∀ d ∈ left, (t.lacking (ds.filter (·.gone tree))).Passes tree d :=
    fun d hd => hpass d (hkept d hd).1
  rw [cleanupTold_of_passes hsound hleft hpass', hnone, lacking_nil]
  rfl

end Covers

/-! ### Cleanups of several packages -/

/-- The packages are cleaned up one after the other, and the documents that were removed counted. -/
def cleanupEach (tree : FileTree) : Table → List Text → Table × Except Failure Nat
  | t, [] => (t, .ok 0)
  | t, package :: packages =>
    let sweep := t.cleanupPackage tree package
    match sweep.outcome with
    | .error e => (sweep.table, .error e)
    | .ok n =>
      let rest := cleanupEach tree sweep.table packages
      (rest.1, rest.2.map (n + ·))

/-- A package is cleaned up with nobody listening. -/
theorem Covers.cleanupPackage {package : Text} (hcovers : t.Covers (some package) ds)
    (hs : t.store.Sound) (hpass : ∀ d ∈ ds, t.Passes tree d) :
    (t.cleanupPackage tree package).table = t.lacking (ds.filter (·.gone tree)) ∧
      (t.cleanupPackage tree package).outcome = .ok (ds.filter (·.gone tree)).length := by
  have hrun : t.cleanupTold tree (fun (s : Unit) _ _ => s) () (some package) = _ :=
    cleanupTold_of_passes hs hcovers hpass ()
  obtain ⟨htable, houtcome⟩ := cleanupTold_eq t tree (fun (s : Unit) _ _ => s) () (some package)
  rw [hrun] at htable houtcome
  exact ⟨htable.symm, houtcome.symm⟩

/-- **Cleanups of packages remove what is gone of them**, if they get past all documents. -/
theorem cleanupEach_eq (packages : List Text) : ∀ {t : Table}, t.access ≠ .closed →
    t.store.Sound → (∀ d ∈ t.store.documents, t.Passes tree d) →
      ∃ gone, gone.Nodup ∧
        (∀ d, d ∈ gone ↔ d ∈ t.store.documents ∧ d.package ∈ packages ∧ d.gone tree = true) ∧
        t.cleanupEach tree packages = (t.lacking gone, .ok gone.length) := by
  induction packages with
  | nil =>
    intro t _ _ _
    exact ⟨[], List.nodup_nil, by simp, by rw [lacking_nil]; rfl⟩
  | cons package packages ih =>
    intro t hopen hs hpass
    obtain ⟨ds, hcovers⟩ := exists_covers hopen hs (some package)
    have hstored := hcovers.stored
    obtain ⟨hafter, hsweep⟩ := hcovers.cleanupPackage hs (fun d hd => hpass d (hstored d hd))
    -- what the first cleanup takes away is missing in the later ones
    let first := ds.filter (·.gone tree)
    have hfirst : ∀ d ∈ first, d ∈ t.store.documents :=
      fun d hd => hstored d (List.mem_filter.mp hd).1
    have hleft : ∀ d, d ∈ (t.lacking first).store.documents ↔ d ∈ t.store.documents ∧ d ∉ first :=
      fun d => mem_lacking hs hfirst
    obtain ⟨gone, honce, hgone, heach⟩ := ih (t := t.lacking first) hopen (sound_lacking hs first)
      (fun d hd => hpass d ((hleft d).mp hd).1)
    refine ⟨first ++ gone, ?_, ?_, ?_⟩
    · refine List.nodup_append.mpr ⟨hcovers.nodup.filter _, honce, ?_⟩
      rintro d hd _ he rfl
      exact ((hleft d).mp ((hgone d).mp he).1).2 hd
    · intro d
      rw [List.mem_append, hgone, hleft, List.mem_filter, hcovers.mem_iff, List.mem_cons]
      simp only [Document.InScope, Option.mem_def, Option.some.injEq, forall_eq']
      by_cases hfirst : d ∈ first
      · have hd := List.mem_filter.mp hfirst
        have hscope := ((hcovers.mem_iff d).mp hd.1).2 package rfl
        simp [hstored d hd.1, hscope, hd.2]
      · have hnot : ¬((d ∈ t.store.documents ∧ d.package = package) ∧ d.gone tree = true) := by
          rintro ⟨⟨hd, hpackage⟩, h⟩
          refine hfirst (List.mem_filter.mpr ⟨(hcovers.mem_iff d).mpr ⟨hd, ?_⟩, h⟩)
          simpa [Document.InScope] using hpackage
        tauto
    · rw [cleanupEach]
      dsimp only
      rw [hsweep, hafter, heach]
      dsimp only
      rw [lacking_lacking, List.length_append]
      rfl

/-- Where a cleanup of the whole table returns, cleanups of all packages come to the same. -/
theorem Covers.each {n : Nat} (hcovers : t.Covers none ds) (hopen : t.access ≠ .closed)
    (hs : t.store.Sound) (hn : (t.cleanupTold tree hear s none).outcome = .ok n)
    {packages : List Text} (hpackages : ∀ d ∈ t.store.documents, d.package ∈ packages) :
    t.cleanupEach tree packages = ((t.cleanupTold tree hear s none).table, .ok n) := by
  obtain ⟨hpass, hlength, hremoves⟩ := hcovers.returned hs hn
  have hall : ∀ d, d ∈ ds ↔ d ∈ t.store.documents :=
    fun d => by simp [hcovers.mem_iff, Document.InScope]
  obtain ⟨gone, honce, hgone, heach⟩ := cleanupEach_eq packages hopen hs
    (fun d hd => hpass d ((hall d).mpr hd))
  -- both remove the documents whose path leads nowhere
  have hsame : ∀ d, d ∈ gone ↔ d ∈ ds.filter (·.gone tree) := by
    intro d
    rw [hgone, List.mem_filter, hall]
    constructor
    · rintro ⟨hd, -, h⟩
      exact ⟨hd, h⟩
    · rintro ⟨hd, h⟩
      exact ⟨hd, hpackages d hd, h⟩
  have hperm := (List.perm_ext_iff_of_nodup honce (hcovers.nodup.filter _)).mpr hsame
  rw [heach, hremoves.table, lacking_congr hsame, hperm.length_eq, hlength]

/-! ### The law -/

/-- **The law of cleanups**, for every table, every file tree and every listener that sees the table
and changes neither.

* With its listener a cleanup comes to what it does without.
* When it returns, it has removed the documents of its scope whose path leads nowhere, each of them
  after it was told, and its answer is their number; of the others the system has said that they are
  there.
* When it is stopped, and not because the table cannot be read or written, it is by the system at
  one of the documents that it goes over.  What was removed are the documents before whose path
  leads nowhere; that one and the later ones are still there.
* After a cleanup that returns another one finds nothing to remove.
* Where a cleanup of the whole table returns, cleanups of all packages instead of it, one after the
  other in any order, come to the same table and to the same number. -/
theorem law_of_cleanup (t : Table) (ht : t.store.Reachable) (tree : FileTree)
    (hear : σ → Table → Document → σ) (s : σ) (scope : Option Text) :
    let run := t.cleanupTold tree hear s scope
    (run.table = (t.cleanupOf tree scope).table ∧
      run.outcome = (t.cleanupOf tree scope).outcome) ∧
    (∀ n, run.outcome = .ok n → ∃ gone,
      (∀ d, d ∈ gone ↔ d ∈ t.store.documents ∧ d.InScope scope ∧ d.gone tree = true) ∧
      n = gone.length ∧ Removes t hear s gone run ∧
      ∀ d ∈ run.table.store.documents, d.InScope scope → d.Present tree) ∧
    (∀ e, run.outcome = .error e →
      (t.access ≠ .ready ∧ (e = .store .closed ∨ e = .store .locked)) ∨
      ∃ before d after f, t.visited scope = .ok (before ++ d :: after) ∧
        (∀ d', d' ∈ before ++ d :: after ↔ d' ∈ t.store.documents ∧ d'.InScope scope) ∧
        (∀ d' ∈ before, d'.gone tree = true ∨ d'.Present tree) ∧
        tree.stat (NativeName.ofText d.path) = .error f ∧ d.gone tree = false ∧ e = .file f ∧
        Removes t hear s (before.filter (·.gone tree)) run ∧
        ∀ later ∈ d :: after, later ∈ run.table.store.documents) ∧
    (∀ n, run.outcome = .ok n →
      ∀ s', run.table.cleanupTold tree hear s' scope = ⟨run.table, s', .ok 0⟩) ∧
    (scope = none → ∀ n, run.outcome = .ok n → ∀ packages : List Text,
      (∀ d ∈ t.store.documents, d.package ∈ packages) →
        t.cleanupEach tree packages = (run.table, .ok n)) := by
  intro run
  have hs := ht.sound
  -- a closed table is not cleaned up, so that one of which a cleanup returns is open
  have hopen : ∀ n, run.outcome = .ok n → t.access ≠ .closed := by
    intro n hn hclosed
    cases hn.symm.trans (congrArg Telling.outcome (cleanupTold_of_closed hclosed tree hear s scope))
  refine ⟨cleanupTold_eq t tree hear s scope, ?_, ?_, ?_, ?_⟩
  · intro n hn
    obtain ⟨ds, hcovers⟩ := exists_covers (hopen n hn) hs scope
    obtain ⟨-, hlength, hremoves⟩ := hcovers.returned hs hn
    refine ⟨_, fun d => ?_, hlength, hremoves, hcovers.present hs hn⟩
    rw [List.mem_filter, hcovers.mem_iff, and_assoc]
  · intro e he
    by_cases hclosed : t.access = .closed
    · left
      cases he.symm.trans
        (congrArg Telling.outcome (cleanupTold_of_closed hclosed tree hear s scope))
      exact ⟨by simp [hclosed], Or.inl rfl⟩
    · obtain ⟨ds, hcovers⟩ := exists_covers hclosed hs scope
      apply (hcovers.stopped hs he).imp_right
      rintro ⟨before, d, after, f, rfl, hbefore, hstop⟩
      exact ⟨before, d, after, f, hcovers.visited, hcovers.mem_iff, hbefore, hstop⟩
  · intro n hn s'
    obtain ⟨ds, hcovers⟩ := exists_covers (hopen n hn) hs scope
    exact hcovers.again (hopen n hn) hs hn
  · rintro rfl n hn packages hpackages
    obtain ⟨ds, hcovers⟩ := exists_covers (hopen n hn) hs none
    exact hcovers.each (hopen n hn) hs hn hpackages

/-- Two of three files are gone: both are told in their order, and cleanups of the two packages come
to the same. -/
theorem law_of_cleanup_lone :
    let t := ({} : Table).afterAll [putting "/p/a" "p" "a" "x", putting "/q/b" "q" "b" "x",
      putting "/p/c" "p" "c" "x"]
    let run := t.cleanupTold (lone 1000) (fun heard _ d => heard ++ [d.path]) [] none
    run.outcome = .ok 2 ∧ run.heard = ["/q/b".toList, "/p/c".toList] ∧
      t.cleanupEach (lone 1000) [['q'], ['p']] = (run.table, .ok 2) := by
  intro t run
  have hof : run.outcome.toOption = some 2 := rfl
  have hreturned : run.outcome = .ok 2 := by
    cases houtcome : run.outcome with
    | error e => simp [houtcome, Except.toOption] at hof
    | ok n => simpa [houtcome, Except.toOption] using hof
  obtain ⟨-, -, -, -, heach⟩ := law_of_cleanup t (intact_empty.afterAll _).store (lone 1000)
    (fun heard _ d => heard ++ [d.path]) [] none
  exact ⟨hreturned, rfl, heach rfl 2 hreturned _ (by decide)⟩

end Table

end PackageCatalog
