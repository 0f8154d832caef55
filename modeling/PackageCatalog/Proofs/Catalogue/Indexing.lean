import PackageCatalog.Proofs.Catalogue.Runs
import PackageCatalog.Proofs.Catalogue.Sweeping

/-!
# Indexing a package

An indexing run adds the files of a scan one after the other, counts their outcomes, and sweeps
the documents of the package.  A failure of the scan or of an add ends it with the table of the
adds before; when it returns, its counts account for the scan and for the size of the table.

## Main definitions

* `Table.addOf`, `Table.Adding` — one file of a package that is added, and a run of such adds that
  all return.
* `Tally.ofResults` — the outcomes of adds counted.
* `Table.Balanced` — the counts of an indexing run that returns.

## Main results

* `Table.addEach_of_adding`, `Table.adding_addEach` — the loop over the files is a run of adds up to
  the first that fails.
* `Tally.get_ofResults` — what the tally says of an outcome.
* `Table.Adding.length_eq` — a run of adds makes one row for each new file.
* `Table.law_of_indexing` — **an indexing run that returns is balanced, and one that fails in the
  scan or in an add leaves the table of the adds before.**
-/

namespace PackageCatalog

/-! ### Tallies -/

namespace Tally

variable {kind k : Text} {tally : Tally}

theorem get_cons (entry : Text × Nat) (tally : Tally) :
    get (entry :: tally) kind = if entry.1 == kind then entry.2 else get tally kind := by
  unfold get
  rw [List.find?_cons]
  cases entry.1 == kind <;> rfl

/-- One more of a kind changes the number of that kind alone. -/
theorem get_add (k kind : Text) : ∀ tally : Tally,
    get (add k tally) kind = get tally kind + if k = kind then 1 else 0 := by
  intro tally
  induction tally with
  | nil =>
    rw [add, get_cons]
    by_cases h : k = kind <;> simp [h, get]
  | cons entry tally ih =>
    obtain ⟨l, n⟩ := entry
    rw [add, get_cons]
    by_cases hl : l = k
    · subst hl
      rw [if_pos BEq.rfl, get_cons]
      by_cases h : l = kind <;> simp [h]
    · rw [if_neg (by simpa using hl), get_cons, ih]
      by_cases h : l = kind
      · subst h
        simp [Ne.symm hl]
      · simp [h]

/-- The outcomes of adds counted, as an indexing run does. -/
def ofResults (results : List (NativeName × AddResult)) : Tally :=
  results.foldl (fun (tally : Tally) r => tally.add r.2.name.toList) []

theorem name_eq_iff (r r' : AddResult) : r.name.toList = r'.name.toList ↔ r = r' := by
  cases r <;> cases r' <;> decide

/-- A tally of outcomes says how often each occurred. -/
theorem get_ofResults (r : AddResult) (results : List (NativeName × AddResult)) :
    get (ofResults results) r.name.toList = results.countP (fun x => x.2 == r) := by
  have hfold : ∀ (results : List (NativeName × AddResult)) (tally : Tally),
      get (results.foldl (fun (tally : Tally) r => tally.add r.2.name.toList) tally)
        r.name.toList = get tally r.name.toList + results.countP (fun x => x.2 == r) := by
    intro results
    induction results with
    | nil => intro tally; rfl
    | cons x results ih =>
      intro tally
      rw [List.foldl_cons, ih, get_add, List.countP_cons]
      simp only [name_eq_iff, beq_iff_eq]
      omega
  rw [ofResults, hfold]
  exact Nat.zero_add _

/-- The kinds of a tally with one more are that kind and those of before. -/
theorem mem_kinds_add (k : Text) : ∀ {tally : Tally} {l : Text},
    l ∈ (add k tally).map Prod.fst → l = k ∨ l ∈ tally.map Prod.fst := by
  intro tally
  induction tally with
  | nil => intro l h; exact Or.inl (List.mem_singleton.mp h)
  | cons entry tally ih =>
    intro l h
    rw [add] at h
    split at h
    · exact Or.inr h
    · rcases List.mem_cons.mp h with rfl | h
      · exact Or.inr List.mem_cons_self
      · exact (ih h).imp_right (List.mem_cons_of_mem _)

/-- The kinds of a tally of outcomes are names of outcomes. -/
theorem mem_kinds_ofResults (results : List (NativeName × AddResult)) {l : Text}
    (h : l ∈ (ofResults results).map Prod.fst) : ∃ r : AddResult, l = r.name.toList := by
  have hfold : ∀ (results : List (NativeName × AddResult)) (tally : Tally),
      (∀ l ∈ tally.map Prod.fst, ∃ r : AddResult, l = r.name.toList) →
        ∀ l ∈ (results.foldl (fun (tally : Tally) r => tally.add r.2.name.toList) tally).map
          Prod.fst, ∃ r : AddResult, l = r.name.toList := by
    intro results
    induction results with
    | nil => intro tally htally; exact htally
    | cons x results ih =>
      intro tally htally
      refine ih _ (fun l hl => ?_)
      rcases mem_kinds_add _ hl with rfl | hl
      · exact ⟨x.2, rfl⟩
      · exact htally l hl
  exact hfold results [] (fun _ h => absurd h List.not_mem_nil) l h

/-- A kind that is counted for the first time is put at the end. -/
theorem get_append_self {n : Nat} (h : k ∉ tally.map Prod.fst) :
    get (tally ++ [(k, n)]) k = n := by
  have hnone : tally.find? (fun e => e.1 == k) = none := by
    refine List.find?_eq_none.mpr (fun e he hk => h ?_)
    exact List.mem_map.mpr ⟨e, he, eq_of_beq hk⟩
  simp [get, List.find?_append, hnone]

theorem get_append_of_ne {n : Nat} (h : k ≠ kind) :
    get (tally ++ [(k, n)]) kind = get tally kind := by
  simp [get, List.find?_append, h]

/-- Every add has one of the three outcomes. -/
theorem countP_outcomes (results : List (NativeName × AddResult)) :
    results.countP (fun x => x.2 == .new) + results.countP (fun x => x.2 == .updated) +
      results.countP (fun x => x.2 == .unchanged) = results.length := by
  induction results with
  | nil => rfl
  | cons x results ih =>
    obtain ⟨rest, r⟩ := x
    cases r <;> simp <;> omega

end Tally

namespace Table

variable {detect : Detector} {tree : FileTree} {p : PackageConfig} {t t' t'' : Table}
  {rest : NativeName} {r : AddResult} {results : List (NativeName × AddResult)}

/-! ### Adds one after the other -/

/-- A file of a package is added, step by step, with the table that this leaves and how it ends. -/
def addOf (detect : Detector) (tree : FileTree) (p : PackageConfig) (t : Table)
    (rest : NativeName) : Table × Except Failure AddResult :=
  t.addInTransaction detect tree (NativeName.ofText p.path) rest (some (NativeName.ofText p.name))

theorem addOf_eq_ok_iff :
    t.addOf detect tree p rest = (t', .ok r) ↔
      t.add detect tree (NativeName.ofText p.path) rest (some (NativeName.ofText p.name)) =
        .ok (t', r) := by
  rw [addOf, addInTransaction_eq]
  split
  · next h => simp [h]
  · next h => simp [h]

/-- An add that fails leaves the table as it was. -/
theorem addOf_eq_error_iff {e : Failure} :
    t.addOf detect tree p rest = (t', .error e) ↔ t' = t ∧
      t.add detect tree (NativeName.ofText p.path) rest (some (NativeName.ofText p.name)) =
        .error e := by
  rw [addOf, addInTransaction_eq]
  split
  · next h => simp [h, eq_comm]
  · next h => simp [h]

/-- Files of a package that are added one after the other, each with its outcome, and all of them
return. -/
inductive Adding (detect : Detector) (tree : FileTree) (p : PackageConfig) :
    Table → List (NativeName × AddResult) → Table → Prop
  | done (t : Table) : Adding detect tree p t [] t
  | add {t t' t'' : Table} {rest : NativeName} {r : AddResult}
      {results : List (NativeName × AddResult)} :
    t.addOf detect tree p rest = (t', .ok r) → Adding detect tree p t' results t'' →
      Adding detect tree p t ((rest, r) :: results) t''

/-- The first of several files is added before the others. -/
theorem addEach_cons {more : List NativeName} :
    addEach detect tree p t (rest :: more) =
      match t.add detect tree (NativeName.ofText p.path) rest
        (some (NativeName.ofText p.name)) with
      | .error e => (t, [], some e)
      | .ok (t', r) =>
        ((addEach detect tree p t' more).1, (rest, r) :: (addEach detect tree p t' more).2.1,
          (addEach detect tree p t' more).2.2) := by
  -- the equation that `rw` would look for is slow to prove: it evaluates the add
  rfl

/-- The loop over the files goes on after a run of adds as from the table that this leaves. -/
theorem addEach_of_adding (h : Adding detect tree p t results t') (more : List NativeName) :
    addEach detect tree p t (results.map Prod.fst ++ more) =
      ((addEach detect tree p t' more).1, results ++ (addEach detect tree p t' more).2.1,
        (addEach detect tree p t' more).2.2) := by
  induction h with
  | done t => rfl
  | add hadd _ ih =>
    rw [List.map_cons, List.cons_append, addEach_cons, addOf_eq_ok_iff.mp hadd]
    dsimp only
    rw [ih, List.cons_append]

/-- The loop over the files is a run of adds, up to the first that fails. -/
theorem adding_addEach (detect : Detector) (tree : FileTree) (p : PackageConfig) :
    ∀ (rests : List NativeName) (t : Table),
    Adding detect tree p t (addEach detect tree p t rests).2.1 (addEach detect tree p t rests).1 ∧
      ((addEach detect tree p t rests).2.2 = none →
        (addEach detect tree p t rests).2.1.map Prod.fst = rests) := by
  intro rests
  induction rests with
  | nil => intro t; exact ⟨.done t, fun _ => rfl⟩
  | cons rest rests ih =>
    intro t
    rw [addEach_cons]
    split
    · exact ⟨.done t, fun h => nomatch h⟩
    · next t' r hadd =>
      obtain ⟨hadding, hall⟩ := ih t'
      refine ⟨.add (addOf_eq_ok_iff.mpr hadd) hadding, fun h => ?_⟩
      rw [List.map_cons, hall h]

namespace Adding

/-- What a run of adds does to the number of rows, and what it keeps. -/
theorem reachable (h : Adding detect tree p t results t') (ht : t.store.Reachable) :
    t'.store.Reachable := by
  induction h with
  | done t => exact ht
  | add hadd _ ih =>
    obtain ⟨c, -, hsettled⟩ := settled_of_add ht (addOf_eq_ok_iff.mp hadd)
    exact ih hsettled.reachable

/-- **A run of adds makes one row for each new file.** -/
theorem length_eq (h : Adding detect tree p t results t') (ht : t.store.Reachable) :
    t'.store.documents.length =
      t.store.documents.length + results.countP (fun x => x.2 == .new) := by
  induction h with
  | done t => rfl
  | add hadd _ ih =>
    obtain ⟨c, -, hsettled⟩ := settled_of_add ht (addOf_eq_ok_iff.mp hadd)
    rw [ih hsettled.reachable, hsettled.length, List.countP_cons, AddResult.growth, Nat.add_assoc,
      Nat.add_comm _ (List.countP _ _)]

end Adding

/-! ### The whole run -/

/-- The cleanup at the end of an indexing run. -/
def closing (tree : FileTree) (p : PackageConfig) (t : Table)
    (results : List (NativeName × AddResult)) : IndexRun :=
  let s := t.cleanupPackage tree p.name
  match s.failure with
  | some e => ⟨s.table, results, Tally.ofResults results, s.removed, some e⟩
  | none =>
    ⟨s.table, results, Tally.ofResults results ++ [("removed".toList, s.removed.length)], s.removed,
      none⟩

theorem closing_of_returned (h : (t.cleanupPackage tree p.name).failure = none) :
    closing tree p t results = ⟨(t.cleanupPackage tree p.name).table, results,
      Tally.ofResults results ++
        [("removed".toList, (t.cleanupPackage tree p.name).removed.length)],
      (t.cleanupPackage tree p.name).removed, none⟩ := by
  dsimp only [closing]
  rw [h]

/-- An indexing run is its loop over the files of the scan, and the cleanup, if nothing has failed
before. -/
theorem indexPackage_eq (detect : Detector) (tree : FileTree) (p : PackageConfig) (t : Table) :
    t.indexPackage detect tree p =
      match (addEach detect tree p t (p.crawler.scan tree).1).2.2.or (p.crawler.scan tree).2 with
      | some e =>
        ⟨(addEach detect tree p t (p.crawler.scan tree).1).1,
          (addEach detect tree p t (p.crawler.scan tree).1).2.1,
          Tally.ofResults (addEach detect tree p t (p.crawler.scan tree).1).2.1, [], some e⟩
      | none =>
        closing tree p (addEach detect tree p t (p.crawler.scan tree).1).1
          (addEach detect tree p t (p.crawler.scan tree).1).2.1 := by
  rfl

/-- **A run that is stopped by an add** leaves the table of the adds before. -/
theorem indexPackage_of_add_failed {more : List NativeName} {e : Failure}
    (hadding : Adding detect tree p t results t')
    (hfound : (p.crawler.scan tree).1 = results.map Prod.fst ++ rest :: more)
    (hfailed : (t'.addOf detect tree p rest).2 = .error e) :
    (t'.addOf detect tree p rest).1 = t' ∧
      t.indexPackage detect tree p = ⟨t', results, Tally.ofResults results, [], some e⟩ := by
  obtain ⟨hkept, hadd⟩ := addOf_eq_error_iff.mp (Prod.ext rfl hfailed :
    t'.addOf detect tree p rest = ((t'.addOf detect tree p rest).1, .error e))
  refine ⟨hkept, ?_⟩
  rw [indexPackage_eq, hfound, addEach_of_adding hadding, addEach_cons, hadd]
  dsimp only
  rw [List.append_nil]
  rfl

/-- **A run that is stopped by the scan** leaves the table of the adds of all files before. -/
theorem indexPackage_of_scan_failed {e : Failure} (hadding : Adding detect tree p t results t')
    (hfound : (p.crawler.scan tree).1 = results.map Prod.fst)
    (hstopped : (p.crawler.scan tree).2 = some e) :
    t.indexPackage detect tree p = ⟨t', results, Tally.ofResults results, [], some e⟩ := by
  have hall := addEach_of_adding hadding []
  rw [List.append_nil] at hall
  rw [indexPackage_eq, hfound, hall, hstopped]
  dsimp only [addEach]
  rw [List.append_nil]
  rfl

/-- A run that nothing has stopped ends with the cleanup. -/
theorem indexPackage_of_added (hadding : Adding detect tree p t results t')
    (hfound : (p.crawler.scan tree).1 = results.map Prod.fst)
    (hscanned : (p.crawler.scan tree).2 = none) :
    t.indexPackage detect tree p = closing tree p t' results := by
  have hall := addEach_of_adding hadding []
  rw [List.append_nil] at hall
  rw [indexPackage_eq, hfound, hall, hscanned]
  dsimp only [addEach]
  rw [List.append_nil]
  rfl

/-- A run that returns has added the files of the scan, and swept the package. -/
theorem added_of_failure_eq_none (h : (t.indexPackage detect tree p).failure = none) :
    (p.crawler.scan tree).2 = none ∧ ∃ t' results, Adding detect tree p t results t' ∧
      (p.crawler.scan tree).1 = results.map Prod.fst ∧
      t.indexPackage detect tree p = closing tree p t' results ∧
      (t'.cleanupPackage tree p.name).failure = none := by
  obtain ⟨hadding, hall⟩ :=
    adding_addEach detect tree p (p.crawler.scan tree).1 t
  have heq := indexPackage_eq detect tree p t
  cases hstopped :
    (addEach detect tree p t (p.crawler.scan tree).1).2.2.or (p.crawler.scan tree).2 with
  | some e =>
    rw [hstopped] at heq
    rw [heq] at h
    cases h
  | none =>
    obtain ⟨hadds, hscanned⟩ := Option.or_eq_none_iff.mp hstopped
    rw [hstopped] at heq
    refine ⟨hscanned, _, _, hadding, (hall hadds).symm, heq, ?_⟩
    rw [heq] at h
    dsimp only [closing] at h
    split at h
    · cases h
    · next hnone => exact hnone

/-- The counts of an indexing run that returns, given the table after all its adds: they account
for the files that were found, for the documents that were removed, and for the size of the
table. -/
structure Balanced (tree : FileTree) (p : PackageConfig) (t t' : Table) (run : IndexRun) :
    Prop where
  outcomes : ∀ r : AddResult,
    run.tally.get r.name.toList = run.results.countP (fun x => x.2 == r)
  counted : run.tally.get "newfile".toList + run.tally.get "update".toList +
    run.tally.get "unchanged".toList = (p.crawler.scan tree).1.length
  removed : run.tally.get "removed".toList =
    t'.store.documents.countP (fun d => d.package == p.name && d.gone tree)
  size : run.table.store.documents.length + run.tally.get "removed".toList =
    t.store.documents.length + run.tally.get "newfile".toList
  present : ∀ d ∈ run.table.store.documents, d.package = p.name → d.Present tree

theorem balanced_closing (ht : t.store.Reachable) (hadding : Adding detect tree p t results t')
    (hfound : (p.crawler.scan tree).1 = results.map Prod.fst)
    (hreturns : (t'.cleanupPackage tree p.name).failure = none) :
    Balanced tree p t t' (closing tree p t' results) := by
  have ht' := hadding.reachable ht
  obtain ⟨ds, hds, hsweeps⟩ := sweeps_of_cleanupPackage ht' hreturns
  obtain ⟨hnodup, hmem⟩ := mem_packageDocuments_iff ht'.sound hds
  rw [closing_of_returned hreturns]
  generalize t'.cleanupPackage tree p.name = s at hsweeps
  -- the tally has a count for each outcome, and one more for what was removed
  have houtcomes : ∀ r : AddResult,
      (Tally.ofResults results ++ [("removed".toList, s.removed.length)]).get r.name.toList =
        results.countP (fun x => x.2 == r) := by
    intro r
    rw [Tally.get_append_of_ne (by cases r <;> decide), Tally.get_ofResults]
  have hremoved : (Tally.ofResults results ++ [("removed".toList, s.removed.length)]).get
      "removed".toList = s.removed.length := by
    refine Tally.get_append_self (fun h => ?_)
    obtain ⟨r, hr⟩ := Tally.mem_kinds_ofResults results h
    revert hr
    cases r <;> decide
  refine ⟨houtcomes, ?_, ?_, ?_, ?_⟩
  · rw [hfound, List.length_map, ← Tally.countP_outcomes results]
    exact congrArg₂ _ (congrArg₂ _ (houtcomes .new) (houtcomes .updated)) (houtcomes .unchanged)
  · -- what was removed are the documents of the package that are gone, in some order
    have hperm : s.removed.Perm
        (t'.store.documents.filter (fun d => d.package == p.name && d.gone tree)) := by
      rw [hsweeps.removed]
      refine (List.perm_ext_iff_of_nodup (hnodup.filter _) (ht'.sound.nodup.filter _)).mpr ?_
      intro d
      rw [List.mem_filter, List.mem_filter, hmem, Bool.and_eq_true, beq_iff_eq, and_assoc]
    rw [hremoved, hperm.length_eq, List.countP_eq_length_filter]
  · have hlength := hadding.length_eq ht
    rw [← houtcomes] at hlength
    rw [hremoved, hsweeps.length]
    exact hlength
  · intro d hd hpackage
    obtain ⟨hstored, hkept⟩ := (hsweeps.kept d).mp hd
    exact hsweeps.present d ((hmem d).mpr ⟨hstored, hpackage⟩) hkept

/-- **The law of an indexing run**, for every file tree and every package.

* When it returns, the scan was not stopped, all its files were added, and the counts balance.
* When the add of a file fails, that add leaves no trace, and the run ends with the table of the
  adds before: no later file is touched, and nothing is swept.
* When the scan fails after files that are all added, the run ends with the table of these adds,
  and nothing is swept. -/
theorem law_of_indexing (t : Table) (ht : t.store.Reachable) (detect : Detector) (tree : FileTree)
    (p : PackageConfig) :
    let run := t.indexPackage detect tree p
    let found := (p.crawler.scan tree).1
    (run.failure = none → (p.crawler.scan tree).2 = none ∧
      ∃ t', Adding detect tree p t run.results t' ∧ found = run.results.map Prod.fst ∧
        Balanced tree p t t' run) ∧
    (∀ (results : List (NativeName × AddResult)) (t' : Table) (rest : NativeName)
      (more : List NativeName) (e : Failure), Adding detect tree p t results t' →
      found = results.map Prod.fst ++ rest :: more →
      (t'.addOf detect tree p rest).2 = .error e →
      (t'.addOf detect tree p rest).1 = t' ∧ run.table = t' ∧ run.results = results ∧
        run.swept = [] ∧ run.failure = some e) ∧
    (∀ (results : List (NativeName × AddResult)) (t' : Table) (e : Failure),
      Adding detect tree p t results t' → found = results.map Prod.fst →
      (p.crawler.scan tree).2 = some e →
      run.table = t' ∧ run.results = results ∧ run.swept = [] ∧ run.failure = some e) := by
  intro run found
  -- a run returns, stops at a file that cannot be added, or stops with its walk
  refine ⟨fun hreturns => ?_, ?_, ?_⟩
  · obtain ⟨hscanned, t', results, hadding, hfound, hrun, hcleanup⟩ :=
      added_of_failure_eq_none hreturns
    have hresults : run.results = results := by
      rw [show run = _ from hrun, closing_of_returned hcleanup]
    refine ⟨hscanned, t', ?_, ?_, ?_⟩
    · rw [hresults]
      exact hadding
    · rw [hresults]
      exact hfound
    · rw [show run = _ from hrun]
      exact balanced_closing ht hadding hfound hcleanup
  · intro results t' rest more e hadding hfound hfailed
    obtain ⟨hkept, hrun⟩ := indexPackage_of_add_failed hadding hfound hfailed
    rw [show run = _ from hrun]
    exact ⟨hkept, rfl, rfl, rfl, rfl⟩
  · intro results t' e hadding hfound hstopped
    rw [show run = _ from indexPackage_of_scan_failed hadding hfound hstopped]
    exact ⟨rfl, rfl, rfl, rfl⟩

/-- The package of all files below `/p`. -/
def belowP : PackageConfig := { name := ['p'], path := ['/', 'p'] }

/-- A run that finds one file, and a document of the package whose file is gone. -/
theorem law_of_indexing_swept :
    let t := ({} : Table).afterAll [putting "/p/b" "p" "b" "x"]
    let run := t.indexPackage (Detector.constant none) (lone 1000) belowP
    run.failure = none ∧
      run.tally = [("newfile".toList, 1), ("removed".toList, 1)] ∧
      ∃ t', Adding (Detector.constant none) (lone 1000) belowP t run.results t' ∧
        Balanced (lone 1000) belowP t t' run := by
  intro t run
  have hisNone : run.failure.isNone = true := by decide +kernel
  have hreturns : run.failure = none := Option.isNone_iff_eq_none.mp hisNone
  obtain ⟨hlaw, -, -⟩ := law_of_indexing t (intact_empty.afterAll _).store
    (Detector.constant none) (lone 1000) belowP
  obtain ⟨-, t', hadding, -, hbalanced⟩ := hlaw hreturns
  exact ⟨hreturns, by decide +kernel, t', hadding, hbalanced⟩

end Table

end PackageCatalog
