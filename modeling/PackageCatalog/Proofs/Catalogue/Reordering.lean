import PackageCatalog.Proofs.Alike
import PackageCatalog.Proofs.Catalogue.Rows
import PackageCatalog.Proofs.Catalogue.Reindexing
import Mathlib.Data.List.Pairwise

/-!
# Adding in any order

Files with keys of their own can be added in any order: each has the same outcome, and the tables
differ in nothing but which new document has which of the new numbers.  With packages it is the
same as far as a search can tell.  Their sweeps make no difference: a row whose key leads nowhere
is swept in every order, whichever of the packages puts it there, and whichever sweeps it first.

A package without a name is a special case.  Its documents go by the name of its directory, and its
own sweep does not take them, while that of a package with this name does.  So it is disjoint from
that one only if all of its keys lead to something.

## Main definitions

* `AddCall.Distinct` — files with keys of their own.
* `Store.SameButNew` — two later states of a store that differ in the numbers of new documents.
* `PackageConfig.Disjoint` — packages that have no document in common.
* `PackageConfig.pass` — what indexing a package makes of the row under a key.
* `Table.Indexes` — packages indexed one after the other.

## Main results

* `Table.addAll_perm` — files with keys of their own can be added in any order.
* `Table.alike_of_indexes` — disjoint packages can be indexed in any order.
* `Table.law_of_reordering` — **the order in which files are added, or packages indexed, is not
  seen by a search, except for ties.**
-/

namespace PackageCatalog

/-! ### Files with keys of their own -/

namespace AddCall

variable {detect : Detector} {tree : FileTree} {calls calls' : List AddCall}

/-- Files with keys of their own. -/
def Distinct (detect : Detector) (calls : List AddCall) : Prop :=
  calls.Pairwise (fun a b => a.key? detect ≠ b.key? detect)

/-- Of files with keys of their own one at most has a given key. -/
theorem Distinct.filter_eq (h : Distinct detect calls) (hperm : calls.Perm calls') (path : Text) :
    calls.filter (fun c => c.key? detect = some path) =
      calls'.filter (fun c => c.key? detect = some path) := by
  have hkeys : ∀ c ∈ calls.filter (fun c => c.key? detect = some path),
      c.key? detect = some path := fun c hc => of_decide_eq_true (List.mem_filter.mp hc).2
  have hdistinct := List.Pairwise.filter (fun c => decide (c.key? detect = some path)) h
  have hfilter := hperm.filter (fun c => decide (c.key? detect = some path))
  generalize calls.filter (fun c => c.key? detect = some path) = own at *
  match own with
  | [] => exact (List.nil_perm.mp hfilter).symm
  | [c] => exact List.singleton_perm.mp hfilter
  | a :: b :: own =>
    obtain ⟨hab, -⟩ := List.pairwise_cons.mp hdistinct
    have hsame := (hkeys a List.mem_cons_self).trans
      (hkeys b (List.mem_cons_of_mem a List.mem_cons_self)).symm
    exact absurd hsame (hab b List.mem_cons_self)

end AddCall

/-- Two later states of a store that are the same up to the numbers of the documents that are new in
them: the documents are the same up to their numbers, the numbers in use are the same, and every
document under an old number is in both. -/
structure Store.SameButNew (s s₁ s₂ : Store) : Prop where
  alike : s₁.Alike s₂
  numbers : s₁.documents.map (·.id) = s₂.documents.map (·.id)
  lastId : s₁.lastId = s₂.lastId
  old : ∀ d, d.id ≤ s.lastId → (d ∈ s₁.documents ↔ d ∈ s₂.documents)

namespace Table

variable {detect : Detector} {tree : FileTree} {t t₁ t₂ : Table} {calls calls' : List AddCall}
  {results results' : List (AddCall × AddResult)}

/-- Among files with keys of their own each has the outcome that is right before the first one is
added. -/
theorem yields_of_addAll (hs : t.store.Reachable) (hdistinct : AddCall.Distinct detect calls)
    (h : t.addAll detect tree calls = .ok (t₁, results)) :
    ∀ x ∈ results, x.1.Yields detect tree t.store x.2 := by
  induction calls generalizing t results with
  | nil =>
    cases h
    exact fun _ h => absurd h List.not_mem_nil
  | cons c calls ih =>
    obtain ⟨t', r, rest, hadd, hrest, rfl⟩ := addAll_cons_eq_ok_iff.mp h
    obtain ⟨⟨k, hk, hsettled⟩, -⟩ := spec_of_add hs hadd
    obtain ⟨hc, hcalls⟩ := List.pairwise_cons.mp hdistinct
    have hall := (addedAll_of_addAll hsettled.reachable hrest).all
    refine List.forall_mem_cons.mpr ⟨AddCall.yields_of_settled hk hsettled, fun x hx => ?_⟩
    refine (ih hsettled.reachable hcalls hrest x hx).of_get?_eq (fun path hpath => ?_)
    have hne := hc x.1 (hall ▸ List.mem_map_of_mem hx)
    rw [hpath, AddCall.key?_of_describes hk] at hne
    exact (hsettled.get?_of_ne hs.sound (fun h => hne (congrArg some h.symm))).symm

/-- Files with keys of their own have one outcome each. -/
theorem perm_of_yields (hdistinct : AddCall.Distinct detect calls) (hperm : calls.Perm calls')
    (hall : results.map Prod.fst = calls) (hall' : results'.map Prod.fst = calls')
    (h : ∀ x ∈ results, x.1.Yields detect tree t.store x.2)
    (h' : ∀ x ∈ results', x.1.Yields detect tree t.store x.2) : results.Perm results' := by
  -- no file is there twice, so that membership is all there is to show
  have hnodup : (results.map Prod.fst).Nodup := by
    rw [hall]
    refine hdistinct.imp ?_
    rintro a b hab rfl
    exact hab rfl
  have hperm' : (results.map Prod.fst).Perm (results'.map Prod.fst) := by rwa [hall, hall']
  have hsub : ∀ {rs rs' : List (AddCall × AddResult)},
      (∀ x ∈ rs, x.1.Yields detect tree t.store x.2) →
      (∀ x ∈ rs', x.1.Yields detect tree t.store x.2) →
      (∀ c, c ∈ rs.map Prod.fst → c ∈ rs'.map Prod.fst) → ∀ x ∈ rs, x ∈ rs' := by
    intro rs rs' hrs hrs' hcalls x hx
    obtain ⟨y, hy, hyx⟩ := List.mem_map.mp (hcalls x.1 (List.mem_map_of_mem hx))
    have houtcome := hrs' y hy
    rw [hyx] at houtcome
    rwa [← show y = x from Prod.ext hyx (houtcome.unique (hrs x hx))]
  refine (List.perm_ext_iff_of_nodup hnodup.of_map (hperm'.nodup_iff.mp hnodup).of_map).mpr ?_
  exact fun x => ⟨hsub h h' (fun c => hperm'.mem_iff.mp) x,
    hsub h' h (fun c => hperm'.mem_iff.mpr) x⟩

/-- Files with keys of their own that can each be added can be added one after the other. -/
theorem exists_addAll (hready : calls ≠ [] → t.access = .ready ∧ t.saved = none)
    (hs : t.store.Reachable) (hdistinct : AddCall.Distinct detect calls)
    (h : ∀ c ∈ calls, ∃ r, c.Yields detect tree t.store r) :
    ∃ t₁ results, t.addAll detect tree calls = .ok (t₁, results) := by
  induction calls generalizing t with
  | nil => exact ⟨t, [], rfl⟩
  | cons c calls ih =>
    obtain ⟨haccess, hclosed⟩ := hready (List.cons_ne_nil c calls)
    obtain ⟨⟨r, hr⟩, hrest⟩ := List.forall_mem_cons.mp h
    obtain ⟨hc, hcalls⟩ := List.pairwise_cons.mp hdistinct
    obtain ⟨t', hadd⟩ := exists_add haccess hclosed hs hr
    obtain ⟨⟨k, hk, hsettled⟩, -, -, -, ht'⟩ := spec_of_add hs hadd
    -- the other files have keys of their own, so what holds of them holds after the add
    obtain ⟨t₁, results, hresults⟩ := ih (t := t') (fun _ => by rw [ht']; exact ⟨haccess, hclosed⟩)
      hsettled.reachable hcalls (fun c' hc' => by
        obtain ⟨r', hr'⟩ := hrest c' hc'
        refine ⟨r', hr'.of_get?_eq (fun path hpath => ?_)⟩
        have hne := hc c' hc'
        rw [hpath, AddCall.key?_of_describes hk] at hne
        exact hsettled.get?_of_ne hs.sound (fun h => hne (congrArg some h.symm)))
    exact ⟨t₁, (c, r) :: results,
      addAll_cons_eq_ok_iff.mpr ⟨t', r, results, hadd, hresults, rfl⟩⟩

/-- A document under an old number is one of the old ones, as a run of adds has left it. -/
theorem AddedAll.exists_old (h : t.AddedAll calls t₁ results) {d : Document}
    (hd : d ∈ t₁.store.documents) (hid : d.id ≤ t.store.lastId) :
    ∃ e ∈ t.store.documents, e.id = d.id := by
  have hmem := List.mem_map_of_mem (f := fun d : Document => d.id) hd
  rw [h.ids, List.mem_append, List.mem_range'_1] at hmem
  rcases hmem with hmem | hmem
  · exact List.mem_map.mp hmem
  · omega

theorem AddedAll.mem_of_rows (h₁ : t.AddedAll calls t₁ results) (h₂ : t.AddedAll calls' t₂ results')
    (hs : t.store.Sound) (hrows : ∀ path, (t₁.store.get? path).map (·.toContents) =
      (t₂.store.get? path).map (·.toContents)) {d : Document} (hd : d ∈ t₁.store.documents)
    (hid : d.id ≤ t.store.lastId) : d ∈ t₂.store.documents := by
  obtain ⟨e, he, heid⟩ := h₁.exists_old hd hid
  obtain ⟨d₁, hd₁, hid₁⟩ := h₁.numbered e.path e (hs.get?_path he)
  obtain ⟨d₂, hd₂, hid₂⟩ := h₂.numbered e.path e (hs.get?_path he)
  -- both rows have the number of the old one, and the same fields
  have hdd₁ : d₁ = d := h₁.reachable.sound.eq_of_id (Store.mem_of_get?_eq_some hd₁) hd
    (hid₁.trans heid)
  have hsame := hrows e.path
  rw [hd₁, hd₂, Option.map_some, Option.map_some, Option.some.injEq] at hsame
  have hdd₂ : d₂ = d₁ := by
    cases d₁
    cases d₂
    cases hsame
    exact congrArg _ (hid₂.trans hid₁.symm)
  rw [← hdd₁, ← hdd₂]
  exact Store.mem_of_get?_eq_some hd₂

/-- **Files with keys of their own can be added in any order.** -/
theorem addAll_perm (hs : t.store.Reachable) (hdistinct : AddCall.Distinct detect calls)
    (hperm : calls.Perm calls') (h : t.addAll detect tree calls = .ok (t₁, results)) :
    ∃ t₂ results', t.addAll detect tree calls' = .ok (t₂, results') ∧
      results'.map Prod.fst = calls' ∧ results.Perm results' ∧
      t.store.SameButNew t₁.store t₂.store ∧ t₂ = { t₁ with store := t₂.store } ∧
      t₂.store.Reachable := by
  have hdone := addedAll_of_addAll hs h
  have hdistinct' : AddCall.Distinct detect calls' := hperm.pairwise hdistinct (fun h => h.symm)
  have hyields := yields_of_addAll hs hdistinct h
  obtain ⟨t₂, results', h'⟩ : ∃ t₂ results', t.addAll detect tree calls' = .ok (t₂, results') := by
    refine exists_addAll (fun hne => hdone.ready (fun hnil => hne ?_)) hs hdistinct'
      (fun c hc => ?_)
    · rw [hnil] at hperm
      exact List.nil_perm.mp hperm
    · have hmem := hperm.mem_iff.mpr hc
      rw [← hdone.all] at hmem
      obtain ⟨x, hx, rfl⟩ := List.mem_map.mp hmem
      exact ⟨x.2, hyields x hx⟩
  have hdone' := addedAll_of_addAll hs h'
  have hyields' := yields_of_addAll hs hdistinct' h'
  have hresults : results.Perm results' :=
    perm_of_yields hdistinct hperm hdone.all hdone'.all hyields hyields'
  -- equal counts of new files take up the same numbers
  have hcount : results.countP (fun x => x.2 == .new) = results'.countP (fun x => x.2 == .new) :=
    hresults.countP_eq _
  have hrows : ∀ path, (t₁.store.get? path).map (·.toContents) =
      (t₂.store.get? path).map (·.toContents) := by
    intro path
    rw [row_addAll hs h, row_addAll hs h', hdistinct.filter_eq hperm]
  refine ⟨t₂, results', h', hdone'.all, hresults, ⟨?_, ?_, ?_, fun d hid => ⟨?_, ?_⟩⟩, ?_,
    hdone'.reachable⟩
  · exact Store.alike_of_get? hdone.reachable.sound hdone'.reachable.sound hrows
  · rw [hdone.ids, hdone'.ids, hcount]
  · rw [hdone.lastId, hdone'.lastId, hcount]
  · exact fun hd => hdone.mem_of_rows hdone' hs.sound hrows hd hid
  · exact fun hd => hdone'.mem_of_rows hdone hs.sound (fun path => (hrows path).symm) hd hid
  · rw [hdone.table, hdone'.table]

end Table

/-! ### Packages -/

/-- A fold over things in any order: where an invariant holds that every step keeps, any two steps
commute. -/
theorem foldl_eq_of_perm {α β : Type} {f : β → α → β} {I : β → Prop} {l l' : List α}
    (hperm : l.Perm l') : ∀ {z : β}, I z → (∀ x ∈ l, ∀ z, I z → I (f z x)) →
      (∀ x ∈ l, ∀ y ∈ l, ∀ z, I z → f (f z x) y = f (f z y) x) → l.foldl f z = l'.foldl f z := by
  induction hperm with
  | nil => exact fun _ _ _ => rfl
  | cons x _ ih =>
    intro z hz hkeep hcomm
    obtain ⟨hx, hkeep⟩ := List.forall_mem_cons.mp hkeep
    exact ih (hx z hz) hkeep (fun y hy y' hy' => hcomm y (List.mem_cons_of_mem x hy) y'
      (List.mem_cons_of_mem x hy'))
  | swap x y l =>
    intro z hz _ hcomm
    rw [List.foldl_cons, List.foldl_cons, List.foldl_cons, List.foldl_cons,
      hcomm y List.mem_cons_self x (List.mem_cons_of_mem y List.mem_cons_self) z hz]
  | trans h _ ih ih' =>
    intro z hz hkeep hcomm
    refine (ih hz hkeep hcomm).trans (ih' hz (fun x hx => hkeep x (h.mem_iff.mpr hx)) ?_)
    exact fun x hx y hy => hcomm x (h.mem_iff.mpr hx) y (h.mem_iff.mpr hy)

namespace PackageConfig

variable {detect : Detector} {tree : FileTree} {p q : PackageConfig} {row : Option Contents}
  {path : Text}

/-- The files of a package as they are added. -/
def calls (p : PackageConfig) (rests : List NativeName) : List AddCall :=
  rests.map (fun rest => ⟨NativeName.ofText p.path, rest, some (NativeName.ofText p.name)⟩)

/-- The files that a scan of a package finds, as they are added. -/
def found (p : PackageConfig) (tree : FileTree) : List AddCall := p.calls (p.crawler.scan tree).1

/-- Packages without a key in common. -/
def Apart (detect : Detector) (tree : FileTree) (p q : PackageConfig) : Prop :=
  ∀ c ∈ p.found tree, ∀ c' ∈ q.found tree, c.key? detect ≠ c'.key? detect

/-- The documents of a package go by a name: by its own, or by that of its directory if it has
none. -/
def FilesUnder (detect : Detector) (p : PackageConfig) (name : Text) : Prop :=
  nameText detect (Candidate.packageName (NativeName.ofText p.path)
    (some (NativeName.ofText p.name))) = .ok name

/-- A package finds a file whose key leads nowhere, and its documents do not go by its own name: its
sweep does not take what was put there. -/
structure Strays (detect : Detector) (tree : FileTree) (p : PackageConfig) (path : Text) :
    Prop where
  elsewhere : ¬p.FilesUnder detect p.name
  found : ∃ c ∈ p.found tree, c.key? detect = some path
  gone : tree.misses (NativeName.ofText path) = true

/-- Where the documents of `p` stray, none of `q` is there, and what comes there does not go by the
name of `q`. -/
def Spares (detect : Detector) (tree : FileTree) (t : Table) (q p : PackageConfig) : Prop :=
  ∀ path, p.Strays detect tree path → ¬p.FilesUnder detect q.name ∧
    ∀ d ∈ t.store.documents, d.path = path → d.package ≠ q.name

/-- Disjoint packages: they have no key in common, and neither sweeps up the documents of the
other that have strayed. -/
structure Disjoint (detect : Detector) (tree : FileTree) (t : Table) (p q : PackageConfig) :
    Prop where
  apart : Apart detect tree p q
  spares : q.Spares detect tree t p
  spared : p.Spares detect tree t q

theorem Disjoint.symm {t : Table} (h : Disjoint detect tree t p q) : Disjoint detect tree t q p :=
  ⟨fun c hc c' hc' => (h.apart c' hc' c hc).symm, h.spared, h.spares⟩

theorem filesUnder_name (h : p.name ≠ []) : p.FilesUnder detect p.name := by
  obtain ⟨a, n, hn⟩ := List.exists_cons_of_ne_nil h
  rw [FilesUnder, show Candidate.packageName (NativeName.ofText p.path)
    (some (NativeName.ofText p.name)) = NativeName.ofText p.name by rw [hn]; rfl]
  exact nameText_of_toBytes? (NativeName.toBytes?_ofText p.name)

/-- The documents of packages that have names do not stray. -/
theorem disjoint_of_named {t : Table} (hp : p.name ≠ []) (hq : q.name ≠ [])
    (h : Apart detect tree p q) : Disjoint detect tree t p q :=
  ⟨h, fun _ hstrays => absurd (filesUnder_name hp) hstrays.elsewhere,
    fun _ hstrays => absurd (filesUnder_name hq) hstrays.elsewhere⟩

/-- What the adds of a package make of the row under a key. -/
def refresh (detect : Detector) (tree : FileTree) (path : Text) (p : PackageConfig)
    (row : Option Contents) : Option Contents :=
  ((p.found tree).filter (fun c => c.key? detect = some path)).foldl
    (AddCall.refresh detect tree) row

/-- What the sweep of a package makes of the row under a key: a row of the package goes when the key
leads nowhere. -/
def sweep (tree : FileTree) (path : Text) (p : PackageConfig) (row : Option Contents) :
    Option Contents :=
  row.filter (fun c => !(c.package == p.name && tree.misses (NativeName.ofText path)))

/-- What indexing a package makes of the row under a key. -/
def pass (detect : Detector) (tree : FileTree) (path : Text) (row : Option Contents)
    (p : PackageConfig) : Option Contents :=
  p.sweep tree path (p.refresh detect tree path row)

theorem sweep_of_present (h : tree.misses (NativeName.ofText path) = false) :
    p.sweep tree path row = row := by
  cases row with
  | none => rfl
  | some c => simp [sweep, h]

theorem sweep_eq_none (h : tree.misses (NativeName.ofText path) = true) {c : Contents}
    (hc : c.package = p.name) : p.sweep tree path (some c) = none := by
  simp [sweep, h, hc]

theorem sweep_of_ne {c : Contents} (hc : c.package ≠ p.name) :
    p.sweep tree path (some c) = some c := by
  simp [sweep, hc]

/-- What a sweep leaves was there. -/
theorem mem_of_mem_sweep {c : Contents} (h : c ∈ p.sweep tree path row) : c ∈ row :=
  (Option.mem_filter_iff.mp h).1

/-- A sweep leaves a row of another package. -/
theorem sweep_eq_self (h : ∀ c ∈ row, c.package ≠ p.name) : p.sweep tree path row = row := by
  cases row with
  | none => rfl
  | some c => exact sweep_of_ne (h c rfl)

/-- A file leaves the row under its key, or puts one there that goes by the name of its package. -/
theorem refresh_call_cases {c : AddCall} (hc : c ∈ p.found tree) (row : Option Contents) :
    c.refresh detect tree row = row ∨
      ∃ d, c.refresh detect tree row = some d ∧ p.FilesUnder detect d.package := by
  obtain ⟨rest, -, rfl⟩ := List.mem_map.mp hc
  unfold AddCall.refresh
  split
  · exact Or.inl rfl
  · next k hk =>
    split
    · exact Or.inl rfl
    · next content _ =>
      split
      · exact Or.inr ⟨k.contents content, rfl, (Candidate.prepare_eq_ok_iff.mp hk).package⟩
      · exact Or.inl rfl

/-- The adds of a package leave the row under a key, or put one of the package there. -/
theorem refresh_cases (row : Option Contents) :
    p.refresh detect tree path row = row ∨
      ∃ d, p.refresh detect tree path row = some d ∧ p.FilesUnder detect d.package := by
  have hfold : ∀ (calls : List AddCall), (∀ c ∈ calls, c ∈ p.found tree) →
      ∀ row, calls.foldl (AddCall.refresh detect tree) row = row ∨
        ∃ d, calls.foldl (AddCall.refresh detect tree) row = some d ∧
          p.FilesUnder detect d.package := by
    intro calls
    induction calls with
    | nil => exact fun _ row => Or.inl rfl
    | cons c calls ih =>
      intro hcalls row
      obtain ⟨hc, hcalls⟩ := List.forall_mem_cons.mp hcalls
      rw [List.foldl_cons]
      rcases ih hcalls (c.refresh detect tree row) with h | h
      · rw [h]
        exact refresh_call_cases hc row
      · exact Or.inr h
  exact hfold _ (fun c hc => (List.mem_filter.mp hc).1) row

theorem refresh_eq_self (h : ¬∃ c ∈ p.found tree, c.key? detect = some path)
    (row : Option Contents) : p.refresh detect tree path row = row := by
  have hnone : (p.found tree).filter (fun c => c.key? detect = some path) = [] :=
    List.filter_eq_nil_iff.mpr (fun c hc hkey => h ⟨c, hc, of_decide_eq_true hkey⟩)
  rw [refresh, hnone, List.foldl_nil]

/-- A row after a package was indexed was there, or goes by the name of the package. -/
theorem mem_pass_cases {c : Contents} (h : c ∈ p.pass detect tree path row) :
    c ∈ row ∨ p.FilesUnder detect c.package := by
  have hrefresh : c ∈ p.refresh detect tree path row := mem_of_mem_sweep h
  have hcases : p.refresh detect tree path row = row ∨
      ∃ d, p.refresh detect tree path row = some d ∧ p.FilesUnder detect d.package :=
    refresh_cases row
  rcases hcases with hrow | ⟨d, hd, hfiles⟩
  · exact Or.inl (hrow ▸ hrefresh)
  · rw [hd] at hrefresh
    cases hrefresh
    exact Or.inr hfiles

/-- Where nothing strays a package leaves the row under a key, or takes what it has put there. -/
theorem refresh_or_swept (h : ¬p.Strays detect tree path)
    (hgone : tree.misses (NativeName.ofText path) = true) (row : Option Contents) :
    p.refresh detect tree path row = row ∨
      p.sweep tree path (p.refresh detect tree path row) = none := by
  by_cases hfound : ∃ c ∈ p.found tree, c.key? detect = some path
  · have hown : p.FilesUnder detect p.name := by
      by_contra helsewhere
      exact h ⟨helsewhere, hfound, hgone⟩
    refine (refresh_cases row).imp_right ?_
    rintro ⟨d, hd, hfiles⟩
    rw [hd, sweep_eq_none hgone (Except.ok.inj (hfiles.symm.trans hown))]
  · exact Or.inl (refresh_eq_self hfound row)

/-- A package without a file under a key does nothing to the row there but sweep it; whether it
does so before or after another package is indexed makes no difference where nothing strays. -/
theorem pass_comm_of_not_strays (hp : ¬p.Strays detect tree path)
    (hq : ∀ row, q.refresh detect tree path row = row) (row : Option Contents) :
    q.pass detect tree path (p.pass detect tree path row) =
      p.pass detect tree path (q.pass detect tree path row) := by
  simp only [pass, hq]
  by_cases hgone : tree.misses (NativeName.ofText path) = true
  · -- the file is gone: the row of `p` is not put, or swept at once
    have hput := refresh_or_swept hp hgone
    have hnone : p.sweep tree path (p.refresh detect tree path none) = none := by
      rcases hput none with h | h
      · rw [h]
        rfl
      · exact h
    cases row with
    | none =>
      rw [hnone]
      exact hnone.symm
    | some c =>
      by_cases hpackage : c.package = q.name
      · -- `q` sweeps the row, before or after
        rw [sweep_eq_none hgone hpackage, hnone]
        rcases hput (some c) with h | h
        · rw [h]
          by_cases hpackage' : c.package = p.name
          · rw [sweep_eq_none hgone hpackage']
            rfl
          · rw [sweep_of_ne hpackage', sweep_eq_none hgone hpackage]
        · rw [h]
          rfl
      · rw [sweep_of_ne hpackage]
        rcases hput (some c) with h | h
        · rw [h]
          by_cases hpackage' : c.package = p.name
          · rw [sweep_eq_none hgone hpackage']
            rfl
          · rw [sweep_of_ne hpackage', sweep_of_ne hpackage]
        · rw [h]
          rfl
  · have hpresent := Bool.eq_false_iff.mpr hgone
    simp only [sweep_of_present hpresent]

/-- No document of another package is where the documents of one of the packages stray. -/
def Clear (detect : Detector) (tree : FileTree) (packages : List PackageConfig) (path : Text)
    (row : Option Contents) : Prop :=
  ∀ p ∈ packages, ∀ q ∈ packages, p ≠ q → p.Strays detect tree path →
    ∀ c ∈ row, c.package ≠ q.name

section Clear

variable {t : Table} {packages : List PackageConfig}

/-- Of two disjoint packages one has no file with a given key. -/
theorem Disjoint.refresh_eq_self (h : Disjoint detect tree t p q)
    (hfound : ∃ c ∈ p.found tree, c.key? detect = some path) (row : Option Contents) :
    q.refresh detect tree path row = row := by
  refine PackageConfig.refresh_eq_self (fun hfound' => ?_) row
  obtain ⟨c, hc, hkey⟩ := hfound
  obtain ⟨c', hc', hkey'⟩ := hfound'
  exact h.apart c hc c' hc' (hkey.trans hkey'.symm)

/-- Indexing one of several disjoint packages keeps a row clear. -/
theorem Clear.pass (h : Clear detect tree packages path row)
    (hdisjoint : ∀ p ∈ packages, ∀ q ∈ packages, p ≠ q → Disjoint detect tree t p q)
    {x : PackageConfig} (hx : x ∈ packages) :
    Clear detect tree packages path (x.pass detect tree path row) := by
  intro p hp q hq hpq hstrays c hc
  by_cases hxp : x = p
  · subst hxp
    rcases mem_pass_cases hc with hc | hfiles
    · exact h x hx q hq hpq hstrays c hc
    · rintro hname
      exact ((hdisjoint x hx q hq hpq).spares path hstrays).1 (hname ▸ hfiles)
  · -- `x` has no file with the key, and so puts nothing there
    have hidle := (hdisjoint p hp x hx (Ne.symm hxp)).refresh_eq_self hstrays.found row
    rw [PackageConfig.pass, hidle] at hc
    exact h p hp q hq hpq hstrays c (mem_of_mem_sweep hc)

/-- What a package puts where its documents stray is left by the sweep of another, as is what was
there before. -/
theorem Clear.pass_comm_of_strays (h : Clear detect tree packages path row)
    (hdisjoint : ∀ p ∈ packages, ∀ q ∈ packages, p ≠ q → Disjoint detect tree t p q)
    (hp : p ∈ packages) (hq : q ∈ packages) (hpq : p ≠ q) (hstrays : p.Strays detect tree path) :
    q.pass detect tree path (p.pass detect tree path row) =
      p.pass detect tree path (q.pass detect tree path row) := by
  have hleft : ∀ {row}, Clear detect tree packages path row →
      q.pass detect tree path row = row := by
    intro row hclear
    rw [PackageConfig.pass, (hdisjoint p hp q hq hpq).refresh_eq_self hstrays.found,
      sweep_eq_self (hclear p hp q hq hpq hstrays)]
  rw [hleft h, hleft (h.pass hdisjoint hp)]

/-- **Disjoint packages can be indexed in either order**, as far as a clear row goes. -/
theorem Clear.pass_comm (h : Clear detect tree packages path row)
    (hdisjoint : ∀ p ∈ packages, ∀ q ∈ packages, p ≠ q → Disjoint detect tree t p q)
    (hp : p ∈ packages) (hq : q ∈ packages) :
    q.pass detect tree path (p.pass detect tree path row) =
      p.pass detect tree path (q.pass detect tree path row) := by
  by_cases hpq : p = q
  · rw [hpq]
  by_cases hstrays : p.Strays detect tree path
  · exact h.pass_comm_of_strays hdisjoint hp hq hpq hstrays
  by_cases hstrays' : q.Strays detect tree path
  · exact (h.pass_comm_of_strays hdisjoint hq hp (Ne.symm hpq) hstrays').symm
  · -- one of the two has no file with the key
    by_cases hfound : ∃ c ∈ p.found tree, c.key? detect = some path
    · exact pass_comm_of_not_strays hstrays ((hdisjoint p hp q hq hpq).refresh_eq_self hfound) row
    · exact (pass_comm_of_not_strays hstrays' (PackageConfig.refresh_eq_self hfound) row).symm

end Clear

end PackageConfig

namespace Table

variable {detect : Detector} {tree : FileTree} {t t' t₁ t₂ : Table} {p : PackageConfig}

/-- A run of adds of the files of a package is a run of adds. -/
theorem addAll_of_adding {results : List (NativeName × AddResult)}
    (h : Adding detect tree p t results t') :
    ∃ rs, t.addAll detect tree (p.calls (results.map Prod.fst)) = .ok (t', rs) := by
  induction h with
  | done t => exact ⟨[], rfl⟩
  | add hadd _ ih =>
    obtain ⟨rs, hrs⟩ := ih
    exact ⟨_, addAll_cons_eq_ok_iff.mpr ⟨_, _, rs, addOf_eq_ok_iff.mp hadd, hrs, rfl⟩⟩

/-- What a sweep that returns makes of the row under a key. -/
theorem row_cleanupPackage (hs : t.store.Reachable)
    (h : (t.cleanupPackage tree p.name).failure = none) (path : Text) :
    ((t.cleanupPackage tree p.name).table.store.get? path).map (·.toContents) =
      p.sweep tree path ((t.store.get? path).map (·.toContents)) := by
  obtain ⟨ds, hds, hsweeps⟩ := sweeps_of_cleanupPackage hs h
  obtain ⟨-, hmem⟩ := mem_packageDocuments_iff hs.sound hds
  have hs' := ((thins_cleanupPackage tree p.name t).reachable hs).sound
  generalize t.cleanupPackage tree p.name = s at hsweeps hs'
  have hkept : ∀ d, d ∈ s.table.store.documents ↔
      d ∈ t.store.documents ∧ ¬(d.package = p.name ∧ d.gone tree = true) := by
    intro d
    rw [hsweeps.kept, hsweeps.removed, List.mem_filter, hmem, and_assoc]
    exact and_congr_right (fun hd => not_congr (and_iff_right hd))
  -- a row is left exactly when it is of another package or its file is there
  cases hrow : t.store.get? path with
  | none =>
    have hnone : s.table.store.get? path = none := by
      refine Store.get?_eq_none_iff.mpr (fun d hd => ?_)
      exact Store.get?_eq_none_iff.mp hrow d ((hkept d).mp hd).1
    rw [hnone]
    rfl
  | some e =>
    obtain ⟨hstored, rfl⟩ := hs.sound.get?_eq_some_iff.mp hrow
    by_cases hgone : e.package = p.name ∧ e.gone tree = true
    · have hnone : s.table.store.get? e.path = none := by
        refine Store.get?_eq_none_iff.mpr (fun d hd hpath => ?_)
        obtain ⟨hd, hstays⟩ := (hkept d).mp hd
        rw [hs.sound.eq_of_path hd hstored hpath] at hstays
        exact hstays hgone
      rw [hnone]
      exact (PackageConfig.sweep_eq_none hgone.2 hgone.1).symm
    · rw [hs'.get?_path ((hkept e).mpr ⟨hstored, hgone⟩)]
      rcases not_and_or.mp hgone with hpackage | hpresent
      · exact (PackageConfig.sweep_of_ne hpackage).symm
      · exact (PackageConfig.sweep_of_present (Bool.eq_false_iff.mpr hpresent)).symm

/-- What indexing a package, when it returns, makes of the row under a key. -/
theorem row_indexPackage (hs : t.store.Reachable)
    (h : (t.indexPackage detect tree p).failure = none) (path : Text) :
    ((t.indexPackage detect tree p).table.store.get? path).map (·.toContents) =
      p.pass detect tree path ((t.store.get? path).map (·.toContents)) := by
  obtain ⟨-, t', results, hadding, hfound, hrun, hcleanup⟩ := added_of_failure_eq_none h
  have hs' := hadding.reachable hs
  obtain ⟨rs, hrs⟩ := addAll_of_adding hadding
  have hrow := row_addAll hs hrs path
  rw [← hfound] at hrow
  rw [hrun, closing_of_returned hcleanup, PackageConfig.pass, PackageConfig.refresh,
    PackageConfig.found, ← hrow]
  exact row_cleanupPackage hs' hcleanup path

/-- Packages are indexed one after the other, and every run returns. -/
inductive Indexes (detect : Detector) (tree : FileTree) : Table → List PackageConfig → Table → Prop
  | done (t : Table) : Indexes detect tree t [] t
  | index {t t' : Table} {p : PackageConfig} {packages : List PackageConfig} :
    (t.indexPackage detect tree p).failure = none →
      Indexes detect tree (t.indexPackage detect tree p).table packages t' →
        Indexes detect tree t (p :: packages) t'

variable {packages packages' : List PackageConfig}

/-- Indexing packages keeps a store reachable, and what the connection may do. -/
theorem Indexes.reachable (h : Indexes detect tree t packages t') (hs : t.store.Reachable) :
    t'.store.Reachable ∧ t'.access = t.access := by
  induction h with
  | done t => exact ⟨hs, rfl⟩
  | @index t t' p packages hreturns _ ih =>
    obtain ⟨-, t₁, results, hadding, hfound, hrun, hcleanup⟩ := added_of_failure_eq_none hreturns
    have hthins := thins_cleanupPackage tree p.name t₁
    have htable : (t.indexPackage detect tree p).table = (t₁.cleanupPackage tree p.name).table := by
      rw [hrun, closing_of_returned hcleanup]
    rw [htable] at ih
    obtain ⟨hreachable, haccess⟩ := ih (hthins.reachable (hadding.reachable hs))
    exact ⟨hreachable, haccess.trans (hthins.access.trans hadding.access_eq.1)⟩

/-- What indexing packages makes of the row under a key. -/
theorem Indexes.row (h : Indexes detect tree t packages t') (hs : t.store.Reachable)
    (path : Text) : (t'.store.get? path).map (·.toContents) =
      packages.foldl (PackageConfig.pass detect tree path)
        ((t.store.get? path).map (·.toContents)) := by
  induction h with
  | done t => rfl
  | index hreturns _ ih =>
    have hone := (Indexes.index hreturns (.done _)).reachable hs
    rw [ih hone.1, row_indexPackage hs hreturns, List.foldl_cons]

/-- **Disjoint packages can be indexed in any order.** -/
theorem alike_of_indexes (hs : t.store.Reachable)
    (hdisjoint : packages.Pairwise (PackageConfig.Disjoint detect tree t))
    (hperm : packages.Perm packages') (h₁ : Indexes detect tree t packages t₁)
    (h₂ : Indexes detect tree t packages' t₂) : t₁.store.Alike t₂.store := by
  have hall : ∀ p ∈ packages, ∀ q ∈ packages, p ≠ q →
      PackageConfig.Disjoint detect tree t p q := by
    have hsymm : Std.Symm (PackageConfig.Disjoint detect tree t) := ⟨fun p q h => h.symm⟩
    exact fun p hp q hq hpq => hdisjoint.forall hp hq hpq
  refine Store.alike_of_get? (h₁.reachable hs).1.sound (h₂.reachable hs).1.sound (fun path => ?_)
  rw [h₁.row hs, h₂.row hs]
  refine foldl_eq_of_perm (I := PackageConfig.Clear detect tree packages path) hperm ?_
    (fun p hp row hrow => hrow.pass hall hp)
    (fun p hp q hq row hrow => hrow.pass_comm hall hp hq)
  intro p hp q hq hpq hstrays c hc
  obtain ⟨d, hd, rfl⟩ := Option.map_eq_some_iff.mp hc
  obtain ⟨hstored, hpath⟩ := hs.sound.get?_eq_some_iff.mp hd
  exact ((hall p hp q hq hpq).spares path hstrays).2 d hstored hpath

/-! ### The law -/

/-- **The law of reordering**, for every reachable table and every file tree.

* Files with keys of their own that can be added one after the other can be added in every other
  order.  Each has the same outcome; the tables are the same up to the numbers of the documents that
  are new; and searches in them come to the same, except for ties.
* When disjoint packages are indexed in two orders, and all runs return, the tables hold the same
  documents up to their numbers, and searches in them come to the same, except for ties. -/
theorem law_of_reordering (t : Table) (hs : t.store.Reachable) (detect : Detector)
    (tree : FileTree) :
    (∀ (calls calls' : List AddCall) (t₁ : Table) (results : List (AddCall × AddResult)),
      AddCall.Distinct detect calls → calls.Perm calls' →
      t.addAll detect tree calls = .ok (t₁, results) →
      ∃ t₂ results', t.addAll detect tree calls' = .ok (t₂, results') ∧
        results.map Prod.fst = calls ∧ results'.map Prod.fst = calls' ∧ results.Perm results' ∧
        t.store.SameButNew t₁.store t₂.store ∧ t₂ = { t₁ with store := t₂.store } ∧
        (t.access ≠ .closed → t₁.SearchedAlike t₂)) ∧
    (∀ (packages packages' : List PackageConfig) (t₁ t₂ : Table),
      packages.Pairwise (PackageConfig.Disjoint detect tree t) → packages.Perm packages' →
      Indexes detect tree t packages t₁ → Indexes detect tree t packages' t₂ →
      t₁.store.Alike t₂.store ∧ (t.access ≠ .closed → t₁.SearchedAlike t₂)) := by
  constructor
  · intro calls calls' t₁ results hdistinct hperm h
    obtain ⟨t₂, results', h', hall', hresults, hsame, ht₂, hs₂⟩ :=
      addAll_perm hs hdistinct hperm h
    have hdone := addedAll_of_addAll hs h
    refine ⟨t₂, results', h', hdone.all, hall', hresults, hsame, ht₂, fun hopen => ?_⟩
    have haccess : t₁.access = t.access := by rw [hdone.table]
    have haccess' : t₂.access = t.access := by rw [ht₂, ← haccess]
    exact searchedAlike_of_alike hsame.alike hdone.reachable.sound hs₂.sound (haccess ▸ hopen)
      (haccess' ▸ hopen)
  · intro packages packages' t₁ t₂ hdisjoint hperm h₁ h₂
    have halike := alike_of_indexes hs hdisjoint hperm h₁ h₂
    obtain ⟨hs₁, haccess₁⟩ := h₁.reachable hs
    obtain ⟨hs₂, haccess₂⟩ := h₂.reachable hs
    exact ⟨halike, fun hopen => searchedAlike_of_alike halike hs₁.sound hs₂.sound
      (haccess₁ ▸ hopen) (haccess₂ ▸ hopen)⟩

/-- A tree with two files, `/p/a` and `/p/b`. -/
def pair : FileTree :=
  ⟨[([[0x70]], .directory 0), ([[0x70], [0x61]], .file (.octets [0x78]) 1000),
    ([[0x70], [0x62]], .file (.octets [0x79]) 2000)]⟩

/-- The call that adds a file below `/p`. -/
def addingBelow (rest : Text) : AddCall :=
  ⟨NativeName.ofText ['/', 'p'], NativeName.ofText rest, none⟩

/-- Two new files can be added in the other order, too: both are new again, and the tables look
alike. -/
theorem law_of_reordering_pair :
    let detect := Detector.constant none
    ∃ t₁ t₂ results', ({} : Table).addAll detect pair [addingBelow ['a'], addingBelow ['b']] =
        .ok (t₁, [(addingBelow ['a'], .new), (addingBelow ['b'], .new)]) ∧
      ({} : Table).addAll detect pair [addingBelow ['b'], addingBelow ['a']] = .ok (t₂, results') ∧
      results'.Perm [(addingBelow ['a'], .new), (addingBelow ['b'], .new)] ∧
      t₁.store.Alike t₂.store ∧ t₁.SearchedAlike t₂ := by
  intro detect
  have hdistinct : AddCall.Distinct detect [addingBelow ['a'], addingBelow ['b']] := by
    refine List.pairwise_pair.mpr ?_
    decide +kernel
  have houtcomes : ((({} : Table).addAll detect pair
      [addingBelow ['a'], addingBelow ['b']]).toOption.map Prod.snd) =
        some [(addingBelow ['a'], .new), (addingBelow ['b'], .new)] := by decide +kernel
  obtain ⟨⟨t₁, results⟩, hrun, hresults⟩ := Option.map_eq_some_iff.mp houtcomes
  cases hresults
  cases hadd : ({} : Table).addAll detect pair [addingBelow ['a'], addingBelow ['b']] with
  | error e =>
    rw [hadd] at hrun
    cases hrun
  | ok run =>
    rw [hadd] at hrun
    cases hrun
    obtain ⟨hfiles, -⟩ := law_of_reordering {} .empty detect pair
    obtain ⟨t₂, results', hadd', -, -, hperm, hsame, -, hsearched⟩ :=
      hfiles _ [addingBelow ['b'], addingBelow ['a']] t₁ _ hdistinct (.swap _ _ _) hadd
    exact ⟨t₁, t₂, results', rfl, hadd', hperm.symm, hsame.alike, hsearched (by decide)⟩

end Table

end PackageCatalog
