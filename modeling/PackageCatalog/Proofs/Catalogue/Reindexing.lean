import PackageCatalog.Proofs.Catalogue.Indexing
import PackageCatalog.Proofs.Names

/-!
# Indexing a package twice

When a package is indexed again at once, every file is expected to be unchanged and every row to
stay.  This is so exactly when the first run has not swept a row that it had put for a file of its
own scan: a sweep asks the system for the key of a row, which need not be a name of the file.
Names whose octets are UTF-8 are safe, since there the key has the octets of the name.

## Main definitions

* `IndexRun.Idle` — a run that changes nothing and finds every file unchanged.
* `Table.IsCurrent` — a file of a package has a row that is not older.
* `PackageConfig.nameOf` — the absolute name of a file of a package.
* `Table.Leaves` — what a run that returns leaves to the next one.

## Main results

* `Table.Adding.isCurrent` — after a run of adds every file that was added has a current row.
* `Table.idle_of_isCurrent`, `Table.isCurrent_of_idle` — a run is idle when every file has a current
  row, and only then.
* `Table.isCurrent_iff_not_swept` — after a run a file has its current row unless that was swept.
* `Table.idle_again_iff` — **a second run is idle exactly when the first one has swept no row of a
  file that it had found, and it is when all names are UTF-8.**
-/

namespace PackageCatalog

/-- A run that changes nothing, and finds every one of its files unchanged. -/
structure IndexRun.Idle (run : IndexRun) (t : Table) (files : Nat) : Prop where
  returned : run.failure = none
  table : run.table = t
  newfile : run.tally.get "newfile".toList = 0
  update : run.tally.get "update".toList = 0
  unchanged : run.tally.get "unchanged".toList = files
  removed : run.tally.get "removed".toList = 0

/-- The absolute name of a file of a package. -/
def PackageConfig.nameOf (p : PackageConfig) (rest : NativeName) : NativeName :=
  absoluteName (Path.join (NativeName.ofText p.path) rest)

namespace Table

variable {detect : Detector} {tree : FileTree} {p : PackageConfig} {t t' : Table}
  {rest : NativeName} {results : List (NativeName × AddResult)} {d : Document}

/-! ### Files with a current row -/

/-- A file of a package has a row that is not older. -/
def IsCurrent (detect : Detector) (tree : FileTree) (p : PackageConfig) (t : Table)
    (rest : NativeName) : Prop :=
  ∃ c : Candidate, c.Describes detect tree (NativeName.ofText p.path) rest
      (some (NativeName.ofText p.name)) ∧
    AddResult.unchanged.Answers (t.store.get? c.path) c.stamp

/-- A file with a current row is unchanged. -/
theorem addOf_of_isCurrent (hready : t.access = .ready) (hclosed : t.saved = none)
    (h : IsCurrent detect tree p t rest) : t.addOf detect tree p rest = (t, .ok .unchanged) := by
  obtain ⟨c, hc, hrow⟩ := h
  rw [addOf, addInTransaction_eq_ending hready hclosed (Candidate.prepare_eq_ok_iff.mpr hc),
    Candidate.settle_of_current hrow]
  rfl

/-- A file that is unchanged has a current row, and leaves the table as it was. -/
theorem isCurrent_of_addOf (ht : t.store.Reachable)
    (h : t.addOf detect tree p rest = (t', .ok .unchanged)) :
    t' = t ∧ IsCurrent detect tree p t rest := by
  obtain ⟨c, s', hc, -, -, hsettle, rfl⟩ := add_eq_ok (addOf_eq_ok_iff.mp h)
  have hsettled := Candidate.settled_of_settle ht hsettle
  refine ⟨?_, c, hc, hsettled.answer⟩
  rw [hsettled.unchanged rfl]

namespace Adding

/-- A run of adds leaves it as it was what the connection may do. -/
theorem access_eq (h : Adding detect tree p t results t') :
    t'.access = t.access ∧ t'.saved = t.saved := by
  induction h with
  | done t => exact ⟨rfl, rfl⟩
  | add hadd _ ih =>
    obtain ⟨c, s', -, -, -, -, rfl⟩ := add_eq_ok (addOf_eq_ok_iff.mp hadd)
    exact ih

/-- Where a file was added, the connection may write, and is in no transaction. -/
theorem ready (h : Adding detect tree p t results t') (hne : results ≠ []) :
    t'.access = .ready ∧ t'.saved = none := by
  obtain ⟨haccess, hsaved⟩ := h.access_eq
  cases h with
  | done => exact absurd rfl hne
  | add hadd _ =>
    obtain ⟨c, s', -, hready, hclosed, -, -⟩ := add_eq_ok (addOf_eq_ok_iff.mp hadd)
    exact ⟨haccess.trans hready, hsaved.trans hclosed⟩

/-- A run of adds keeps rows that are not older than other files. -/
theorem current_of_current (h : Adding detect tree p t results t') (ht : t.store.Reachable)
    {path : Text} {stamp : Double} (hrow : AddResult.unchanged.Answers (t.store.get? path) stamp) :
    AddResult.unchanged.Answers (t'.store.get? path) stamp := by
  induction h with
  | done t => exact hrow
  | add hadd _ ih =>
    obtain ⟨c, -, hsettled⟩ := settled_of_add ht (addOf_eq_ok_iff.mp hadd)
    exact ih hsettled.reachable (hsettled.current_of_current ht.sound hrow)

/-- **After a run of adds every file that was added has a current row.** -/
theorem isCurrent (h : Adding detect tree p t results t') (ht : t.store.Reachable) :
    ∀ rest ∈ results.map Prod.fst, IsCurrent detect tree p t' rest := by
  induction h with
  | done t => exact fun _ h => absurd h List.not_mem_nil
  | add hadd hadding ih =>
    obtain ⟨c, hc, hsettled⟩ := settled_of_add ht (addOf_eq_ok_iff.mp hadd)
    refine List.forall_mem_cons.mpr ⟨⟨c, hc, ?_⟩, ih hsettled.reachable⟩
    exact hadding.current_of_current hsettled.reachable hsettled.current

/-- Files that are all unchanged have current rows, and leave the table as it was. -/
theorem eq_of_unchanged (h : Adding detect tree p t results t') (ht : t.store.Reachable)
    (hall : ∀ x ∈ results, x.2 = .unchanged) :
    t' = t ∧ ∀ rest ∈ results.map Prod.fst, IsCurrent detect tree p t rest := by
  induction h with
  | done t => exact ⟨rfl, fun _ h => absurd h List.not_mem_nil⟩
  | add hadd _ ih =>
    obtain ⟨hr, hrs⟩ := List.forall_mem_cons.mp hall
    dsimp only at hr
    subst hr
    obtain ⟨rfl, hcurrent⟩ := isCurrent_of_addOf ht hadd
    obtain ⟨hsame, hcurrents⟩ := ih ht hrs
    exact ⟨hsame, List.forall_mem_cons.mpr ⟨hcurrent, hcurrents⟩⟩

/-- Files that all have current rows are unchanged. -/
theorem of_isCurrent (hready : t.access = .ready) (hclosed : t.saved = none) :
    ∀ {rests : List NativeName}, (∀ rest ∈ rests, IsCurrent detect tree p t rest) →
      Adding detect tree p t (rests.map (fun rest => (rest, .unchanged))) t := by
  intro rests
  induction rests with
  | nil => intro _; exact .done t
  | cons rest rests ih =>
    intro h
    obtain ⟨hrest, hrests⟩ := List.forall_mem_cons.mp h
    exact .add (addOf_of_isCurrent hready hclosed hrest) (ih hrests)

end Adding

/-! ### The second run -/

/-- When every file of a scan has a current row, and no document of the package is without its
file, a run is idle. -/
theorem idle_of_isCurrent (ht : t.store.Reachable) (hopen : t.access ≠ .closed)
    (hready : (p.crawler.scan tree).1 ≠ [] → t.access = .ready ∧ t.saved = none)
    (hscanned : (p.crawler.scan tree).2 = none)
    (hpresent : ∀ d ∈ t.store.documents, d.package = p.name → d.Present tree)
    (hcurrent : ∀ rest ∈ (p.crawler.scan tree).1, IsCurrent detect tree p t rest) :
    (t.indexPackage detect tree p).Idle t (p.crawler.scan tree).1.length := by
  -- every file that is found is added, and its row stays as it is
  have hadding : Adding detect tree p t
      ((p.crawler.scan tree).1.map (fun rest => (rest, AddResult.unchanged))) t := by
    cases hfound : (p.crawler.scan tree).1 with
    | nil => exact .done t
    | cons rest rests =>
      obtain ⟨haccess, hclosed⟩ := hready (by rw [hfound]; exact List.cons_ne_nil _ _)
      rw [hfound] at hcurrent
      exact .of_isCurrent haccess hclosed hcurrent
  have hfound : (p.crawler.scan tree).1 =
      ((p.crawler.scan tree).1.map (fun rest => (rest, AddResult.unchanged))).map Prod.fst := by
    rw [List.map_map]
    exact (List.map_id _).symm
  obtain ⟨ds, hds⟩ := exists_packageDocuments hopen p.name
  -- the sweep finds every file of the package in its place
  have hcleanup : t.cleanupPackage tree p.name = ⟨t, [], [], none⟩ := by
    rw [cleanupPackage, hds]
    refine sweep_of_present (fun d hd => ?_)
    obtain ⟨hstored, hpackage⟩ := ((mem_packageDocuments_iff ht.sound hds).2 d).mp hd
    exact hpresent d hstored hpackage
  have hreturns : (t.cleanupPackage tree p.name).failure = none := by rw [hcleanup]
  have hbalanced := balanced_closing ht hadding hfound hreturns
  have hrun := indexPackage_of_added hadding hfound hscanned
  rw [← hrun] at hbalanced
  rw [closing_of_returned hreturns, hcleanup] at hrun
  -- the tally has what the additions returned, and they all returned the same
  have houtcome : ∀ r : AddResult, (t.indexPackage detect tree p).tally.get r.name.toList =
      (p.crawler.scan tree).1.countP (fun _ => AddResult.unchanged == r) := by
    intro r
    rw [hbalanced.outcomes, hrun, List.countP_map]
    rfl
  have hsize := hbalanced.size
  have hnew : (t.indexPackage detect tree p).tally.get "newfile".toList = 0 :=
    (houtcome .new).trans (List.countP_eq_zero.mpr (by simp))
  refine ⟨by rw [hrun], by rw [hrun], hnew,
    (houtcome .updated).trans (List.countP_eq_zero.mpr (by simp)),
    (houtcome .unchanged).trans (List.countP_eq_length.mpr (by simp)), ?_⟩
  rw [show (t.indexPackage detect tree p).table = t by rw [hrun]] at hsize
  omega

/-- In an idle run every file of the scan has a current row. -/
theorem isCurrent_of_idle (ht : t.store.Reachable) {n : Nat}
    (h : (t.indexPackage detect tree p).Idle t n) :
    ∀ rest ∈ (p.crawler.scan tree).1, IsCurrent detect tree p t rest := by
  obtain ⟨-, t', results, hadding, hfound, hrun, hcleanup⟩ := added_of_failure_eq_none h.returned
  have hbalanced := balanced_closing ht hadding hfound hcleanup
  have hresults : (closing tree p t' results).results = results := by
    rw [closing_of_returned hcleanup]
  have hcount : ∀ r : AddResult, (t.indexPackage detect tree p).tally.get r.name.toList = 0 →
      ∀ x ∈ results, x.2 ≠ r := by
    intro r hzero x hx
    rw [hrun, hbalanced.outcomes, hresults] at hzero
    simpa using List.countP_eq_zero.mp hzero x hx
  have hall : ∀ x ∈ results, x.2 = .unchanged := by
    intro x hx
    have hnew := hcount .new h.newfile x hx
    have hupdated := hcount .updated h.update x hx
    obtain ⟨rest, r⟩ := x
    cases r with
    | new => exact absurd rfl hnew
    | updated => exact absurd rfl hupdated
    | unchanged => rfl
  rw [hfound]
  exact (hadding.eq_of_unchanged ht hall).2

/-! ### The sweep of the first run -/

/-- **After a sweep a file has its current row unless that was swept.** -/
theorem isCurrent_iff_not_swept {ds : List Document} {s : Sweep} (ht : t.store.Sound)
    (hs : s.table.store.Sound) (hds : ∀ d ∈ ds, d ∈ t.store.documents)
    (hsweeps : Sweeps tree t ds s) (hcurrent : IsCurrent detect tree p t rest) :
    IsCurrent detect tree p s.table rest ↔
      ∀ key, keyOf detect (p.nameOf rest) = .ok key → ∀ d ∈ s.removed, d.path ≠ key := by
  obtain ⟨c, hc, old, x, hrow, hx, hlt⟩ := hcurrent
  obtain ⟨hstored, hpath⟩ := ht.get?_eq_some_iff.mp hrow
  have hkey : keyOf detect (p.nameOf rest) = .ok c.path := by
    rw [PackageConfig.nameOf, ← hc.filename]
    exact hc.path
  have hremoved : ∀ d ∈ s.removed, d ∈ t.store.documents := by
    intro d hd
    rw [hsweeps.removed] at hd
    exact hds d (List.mem_filter.mp hd).1
  constructor
  · rintro ⟨c', hc', e, y, hrow', -, -⟩ key hkey' d hd rfl
    cases hc.unique hc'
    obtain ⟨he, hepath⟩ := hs.get?_eq_some_iff.mp hrow'
    obtain ⟨he, hkept⟩ := (hsweeps.kept e).mp he
    have hdpath : e.path = d.path := hepath.trans (Except.ok.inj (hkey.symm.trans hkey'))
    rw [ht.eq_of_path he (hremoved d hd) hdpath] at hkept
    exact hkept hd
  · intro hnot
    have hkept : old ∈ s.table.store.documents :=
      (hsweeps.kept old).mpr ⟨hstored, fun hd => hnot c.path hkey old hd hpath⟩
    exact ⟨c, hc, old, x, hs.get?_eq_some_iff.mpr ⟨hkept, hpath⟩, hx, hlt⟩

/-- The row of a file whose name is UTF-8 is not swept: its key leads to the file. -/
theorem not_swept_of_isUtf8 {ds : List Document} {s : Sweep} (hsweeps : Sweeps tree t ds s)
    (hcurrent : IsCurrent detect tree p t rest) (hname : (p.nameOf rest).IsUtf8) :
    ∀ key, keyOf detect (p.nameOf rest) = .ok key → ∀ d ∈ s.removed, d.path ≠ key := by
  rintro key hkey d hd rfl
  obtain ⟨c, hc, -⟩ := hcurrent
  obtain ⟨entry, hentry, -⟩ := hc.stamp
  rw [hc.filename] at hentry
  rw [PackageConfig.nameOf, keyOf_absoluteName] at hkey
  have hpresent : d.Present tree := ⟨entry, FileTree.stat_ofText hname hkey hentry⟩
  rw [hsweeps.removed] at hd
  have hgone := (List.mem_filter.mp hd).2
  rw [hpresent.gone_eq_false] at hgone
  cases hgone

/-- What an indexing run that returns leaves to the next one. -/
structure Leaves (detect : Detector) (tree : FileTree) (p : PackageConfig) (run : IndexRun) :
    Prop where
  scanned : (p.crawler.scan tree).2 = none
  reachable : run.table.store.Reachable
  opened : run.table.access ≠ .closed
  ready : (p.crawler.scan tree).1 ≠ [] → run.table.access = .ready ∧ run.table.saved = none
  present : ∀ d ∈ run.table.store.documents, d.package = p.name → d.Present tree
  current : ∀ rest ∈ (p.crawler.scan tree).1, (IsCurrent detect tree p run.table rest ↔
    ∀ key, keyOf detect (p.nameOf rest) = .ok key → ∀ d ∈ run.swept, d.path ≠ key)
  spared : ∀ rest ∈ (p.crawler.scan tree).1, (p.nameOf rest).IsUtf8 →
    ∀ key, keyOf detect (p.nameOf rest) = .ok key → ∀ d ∈ run.swept, d.path ≠ key

theorem leaves_of_returned (ht : t.store.Reachable)
    (hreturns : (t.indexPackage detect tree p).failure = none) :
    Leaves detect tree p (t.indexPackage detect tree p) := by
  obtain ⟨hscanned, t', results, hadding, hfound, hrun, hcleanup⟩ :=
    added_of_failure_eq_none hreturns
  have hbalanced := balanced_closing ht hadding hfound hcleanup
  have ht' := hadding.reachable ht
  obtain ⟨ds, hds, hsweeps⟩ := sweeps_of_cleanupPackage ht' hcleanup
  obtain ⟨-, hmem⟩ := mem_packageDocuments_iff ht'.sound hds
  have hthins := thins_cleanupPackage tree p.name t'
  have hreachable := hthins.reachable ht'
  have hcurrent : ∀ rest ∈ (p.crawler.scan tree).1, IsCurrent detect tree p t' rest := by
    rw [hfound]
    exact hadding.isCurrent ht
  rw [closing_of_returned hcleanup] at hrun hbalanced
  rw [hrun]
  refine ⟨hscanned, hreachable, ?_, fun hne => ?_, hbalanced.present, fun rest hrest => ?_,
    fun rest hrest => not_swept_of_isUtf8 hsweeps (hcurrent rest hrest)⟩
  · rw [hthins.access]
    exact access_of_packageDocuments hds
  · -- the cleanup leaves the table as free as the adds have found it
    rw [hfound] at hne
    obtain ⟨haccess, hclosed⟩ := hadding.ready (fun h => hne (by rw [h]; rfl))
    exact ⟨hthins.access.trans haccess, hthins.saved.trans hclosed⟩
  · exact isCurrent_iff_not_swept ht'.sound hreachable.sound (fun d hd => ((hmem d).mp hd).1)
      hsweeps (hcurrent rest hrest)

/-- **A package that is indexed again at once, after a run that returned, is idle exactly when the
first run has swept no row that stands under the key of a file of its scan.**  When the absolute
name of every file of the scan is UTF-8, it is. -/
theorem idle_again_iff (t : Table) (ht : t.store.Reachable) (detect : Detector) (tree : FileTree)
    (p : PackageConfig) (hreturns : (t.indexPackage detect tree p).failure = none) :
    let run := t.indexPackage detect tree p
    let again := run.table.indexPackage detect tree p
    let found := (p.crawler.scan tree).1
    (again.Idle run.table found.length ↔ ∀ rest ∈ found, ∀ key,
      keyOf detect (p.nameOf rest) = .ok key → ∀ d ∈ run.swept, d.path ≠ key) ∧
    ((∀ rest ∈ found, (p.nameOf rest).IsUtf8) → again.Idle run.table found.length) := by
  intro run again found
  have hleaves : Leaves detect tree p run := leaves_of_returned ht hreturns
  have hidle : again.Idle run.table found.length ↔ ∀ rest ∈ found, ∀ key,
      keyOf detect (p.nameOf rest) = .ok key → ∀ d ∈ run.swept, d.path ≠ key := by
    constructor
    · intro h rest hrest
      exact (hleaves.current rest hrest).mp (isCurrent_of_idle hleaves.reachable h rest hrest)
    · intro h
      exact idle_of_isCurrent hleaves.reachable hleaves.opened hleaves.ready hleaves.scanned
        hleaves.present (fun rest hrest => (hleaves.current rest hrest).mpr (h rest hrest))
  exact ⟨hidle, fun hnames => hidle.mpr
    (fun rest hrest => hleaves.spared rest hrest (hnames rest hrest))⟩

/-- The second run over a file with a UTF-8 name is idle. -/
theorem idle_again_lone :
    let run := ({} : Table).indexPackage (Detector.constant none) (lone 1000) belowP
    run.failure = none ∧
      (run.table.indexPackage (Detector.constant none) (lone 1000) belowP).Idle run.table 1 := by
  intro run
  have hisNone : run.failure.isNone = true := rfl
  have hreturns : run.failure = none := Option.isNone_iff_eq_none.mp hisNone
  have hfound : (belowP.crawler.scan (lone 1000)).1 = [NativeName.ofText ['a']] := by
    rfl
  obtain ⟨-, hutf8⟩ := idle_again_iff {} .empty (Detector.constant none) (lone 1000) belowP hreturns
  rw [hfound] at hutf8
  refine ⟨hreturns, hutf8 (List.forall_mem_singleton.mpr ⟨"/p/a".toList, ?_⟩)⟩
  rfl

/-- A tree with one file, `/p/é` in Latin-1. -/
def latin : FileTree :=
  ⟨[([[0x70]], .directory 0), ([[0x70], [0xE9]], .file (.octets [0x78]) 1000)]⟩

/-- The key of a file whose name is Latin-1 leads nowhere, so that each run puts the row of the
file again, and sweeps it. -/
theorem not_idle_again_latin :
    let run := ({} : Table).indexPackage (Detector.constant (some "latin-1".toList)) latin belowP
    let again := run.table.indexPackage (Detector.constant (some "latin-1".toList)) latin belowP
    run.failure = none ∧ again.failure = none ∧
      again.tally = [("newfile".toList, 1), ("removed".toList, 1)] ∧
      ¬again.Idle run.table (belowP.crawler.scan latin).1.length := by
  intro run again
  have hrun : run.failure.isNone = true := rfl
  have hagain : again.failure.isNone = true := rfl
  have htally : again.tally = [("newfile".toList, 1), ("removed".toList, 1)] := rfl
  refine ⟨Option.isNone_iff_eq_none.mp hrun, Option.isNone_iff_eq_none.mp hagain, htally, ?_⟩
  intro hidle
  have hnew := hidle.newfile
  rw [htally] at hnew
  exact absurd hnew (by decide)

end Table

end PackageCatalog
