import PackageCatalog.Proofs.Catalogue.Divided
import PackageCatalog.Proofs.Catalogue.Indexing
import PackageCatalog.Proofs.Path

/-!
# What the catalogue fails with

Of the failures of an operation some are those that the commands have to tell: the catalogue's own,
and those of the system.  A question to the table never ends in one of them, apart from short paths
without a package; a document that is stored can be removed; and what stops an indexing run is of
the system or about an encoding.

## Main definitions

* `Failure.isTold` — a failure that a command has to tell.
* `StoreError.isMissing` — the only refusal of the store that is one.

## Main results

* `Store.select_eq_error` — what a query can end in.
* `Table.isMissing_of_select` — no selection ends in one.
* `Table.isTold_below_iff` — **asking for what is below a short path ends in one exactly for those
  that start with a slash.**
* `Table.isTold_of_remove` — the removal of a stored document never does.
* `Table.isCaught_of_indexPackage` — **what an indexing run is stopped by, and is to be told, is of
  the system or about an encoding.**
-/

namespace PackageCatalog

/-- Whether a failure is one that a command has to tell: one of the catalogue or of the system. -/
def Failure.isTold (e : Failure) : Bool := e.isOwn || e.isSystem

/-- Whether the store has no document under a path. -/
def StoreError.isMissing : StoreError → Bool
  | .notFound _ => true
  | _ => false

@[simp] theorem Failure.isTold_store (e : StoreError) : (Failure.store e).isTold = e.isMissing := by
  cases e <;> rfl

/-! ### Selections -/

namespace Predicate

/-- Trying a predicate can only end in an error because of a pattern that is too long. -/
theorem eq_patternTooLong_of_attempt {row : Row} {p : Predicate} {e : StoreError}
    (h : p.attempt row = .error e) : e = .patternTooLong := by
  induction p using Predicate.induction generalizing e with
  | term field value whole =>
    rw [attempt] at h
    split at h
    · exact (Except.error.inj h).symm
    · cases h
  | all ps ih =>
    rw [attempt] at h
    induction ps with
    | nil => cases h
    | cons p ps ihs =>
      rw [attemptAll] at h
      split at h
      · next hp =>
        cases h
        exact ih p List.mem_cons_self hp
      · exact ihs (fun q hq => ih q (List.mem_cons_of_mem p hq)) h
      · cases h
  | any ps ih =>
    rw [attempt] at h
    induction ps with
    | nil => cases h
    | cons p ps ihs =>
      rw [attemptAny] at h
      split at h
      · next hp =>
        cases h
        exact ih p List.mem_cons_self hp
      · cases h
      · exact ihs (fun q hq => ih q (List.mem_cons_of_mem p hq)) h
  | other value => cases h

end Predicate

namespace Route

/-- Meetings of which none is an error but for a pattern that is too long. -/
def Tried (ms : List Meeting) : Prop := ∀ e, Except.error e ∈ ms → e = .patternTooLong

theorem Tried.flatMap {α : Type} {l : List α} {f : α → List Meeting}
    (h : ∀ a ∈ l, Tried (f a)) : Tried (l.flatMap f) := by
  intro e he
  obtain ⟨a, ha, he⟩ := List.mem_flatMap.mp he
  exact h a ha e he

theorem tried_meet (tests : List Predicate) (row : Row) : Tried (meet tests row) := by
  intro e he
  unfold meet at he
  split at he
  · cases List.mem_singleton.mp he
  · cases he
  · next e' h =>
    cases List.mem_singleton.mp he
    have hall : (Predicate.all tests).attempt row = .error e := by
      rw [Predicate.attempt]
      exact h
    exact Predicate.eq_patternTooLong_of_attempt hall

theorem Tried.meetAgain {ms : List Meeting} (h : Tried ms) (tests : List Predicate) :
    Tried (ms.flatMap (meetAgain tests)) := by
  refine Tried.flatMap (fun m hm => ?_)
  cases m with
  | ok row => exact tried_meet tests row
  | error e =>
    intro e' he'
    cases List.mem_singleton.mp he'
    exact h e hm

mutual

theorem tried_walk : ∀ (route : Route) (rows : List Row), Tried (walk route rows)
  | along fields lookups tests, rows => by
    rw [walk]
    exact Tried.flatMap (fun row _ => tried_meet tests row)
  | branches parts tests, rows => by
    rw [walk]
    refine Tried.meetAgain (fun e he => ?_) tests
    exact tried_walkAll parts rows e (mem_of_mem_firstMeetings he)

theorem tried_walkAll : ∀ (routes : List Route) (rows : List Row), Tried (walkAll routes rows)
  | [], rows => fun e he => by
    rw [walkAll] at he
    cases he
  | part :: parts, rows => fun e he => by
    rw [walkAll] at he
    rcases List.mem_append.mp he with he | he
    · exact tried_walk part rows e he
    · exact tried_walkAll parts rows e he

end

end Route

namespace Plan

theorem tried_walkWithin : ∀ (routes : List Route) {m : Meeting},
    (∀ e, m = .error e → e = .patternTooLong) → Route.Tried (walkWithin routes m) := by
  intro routes
  induction routes with
  | nil =>
    intro m hm e he
    cases m with
    | error e' =>
      cases List.mem_singleton.mp he
      exact hm e rfl
    | ok row => cases List.mem_singleton.mp he
  | cons route routes ih =>
    intro m hm
    cases m with
    | error e' =>
      intro e he
      rw [walkWithin] at he
      cases List.mem_singleton.mp he
      exact hm _ rfl
    | ok row =>
      rw [walkWithin]
      refine Route.Tried.flatMap (fun m hmem => ih ?_)
      rintro e rfl
      exact Route.tried_walk route [row] e hmem

theorem tried_walk (plan : Plan) (rows : List Row) : Route.Tried (plan.walk rows) := by
  unfold walk
  refine Route.Tried.flatMap (fun m hm => tried_walkWithin plan.inner ?_)
  rintro e rfl
  refine Route.tried_walk plan.outer rows e ?_
  split at hm
  · exact List.mem_reverse.mp hm
  · exact hm

theorem mem_of_fault? {plan : Plan} {needed : Option Nat} {e : StoreError} :
    ∀ {ms : List Meeting} {found : Nat} {last : Option Document},
      plan.fault? needed found last ms = some e → Except.error e ∈ ms := by
  intro ms
  induction ms with
  | nil => intro found last h; cases h
  | cons m ms ih =>
    intro found last h
    unfold fault? at h
    dsimp only at h
    split at h
    · cases h
    · split at h
      · cases h
        exact List.mem_cons_self
      · split at h
        · cases h
        · exact List.mem_cons_of_mem _ (ih h)

end Plan

/-- All that a query can end in: an expression that is too deep, a window that does not fit, or a
pattern that is too long; and such a pattern is met only where answers are asked for. -/
theorem Store.select_eq_error {s : Store} {p : Predicate} {keys : List SortKey} {offset : Int}
    {limit : Option Int} {e : StoreError} (h : s.select p keys offset limit = .error e) :
    (Sql.fits p = false ∧ e = .tooDeep) ∨
    (Sql.fits p = true ∧ fitsWindow offset limit = false ∧ e = .tooLarge) ∨
    (Sql.fits p = true ∧ fitsWindow offset limit = true ∧ limit ≠ some 0 ∧ p.isTriable = false ∧
      e = .patternTooLong) := by
  unfold select at h
  split at h
  · next hfits =>
    cases h
    exact Or.inl ⟨by simpa using hfits, rfl⟩
  · next hfits =>
    have hfits : Sql.fits p = true := by simpa using hfits
    rw [← Bool.not_and, ← fitsWindow] at h
    split at h
    · next hwindow =>
      cases h
      exact Or.inr (Or.inl ⟨hfits, by simpa using hwindow, rfl⟩)
    · next hwindow =>
      have hwindow : fitsWindow offset limit = true := by simpa using hwindow
      split at h
      · cases h
      · next hzero =>
        dsimp only at h
        split at h
        · next e' hfault =>
          cases h
          refine Or.inr (Or.inr ⟨hfits, hwindow, by simpa using hzero, ?_,
            Plan.tried_walk _ _ e (Plan.mem_of_fault? hfault)⟩)
          -- going over rows by the plan of a triable predicate would end in no error
          refine Bool.eq_false_iff.mpr (fun htriable => ?_)
          rw [(Plan.quiet_ofQuery htriable keys limit).fault?_eq_none] at hfault
          cases hfault
        · cases h

theorem Store.isMissing_of_select {s : Store} {p : Predicate} {keys : List SortKey} {offset : Int}
    {limit : Option Int} {e : StoreError} (h : s.select p keys offset limit = .error e) :
    e.isMissing = false := by
  obtain ⟨-, rfl⟩ | ⟨-, -, rfl⟩ | ⟨-, -, -, -, rfl⟩ := select_eq_error h <;> rfl

namespace Table

variable {t t' : Table} {e : Failure}

theorem isMissing_of_view {e : StoreError} (h : t.view = .error e) : e.isMissing = false := by
  unfold view at h
  split at h
  · cases h
    rfl
  · cases h

/-- No selection ends in a failure that is to be told. -/
theorem isMissing_of_select {p : Predicate} {keys : List SortKey} {offset : Int}
    {limit : Option Int} {e : StoreError} (h : t.select p keys offset limit = .error e) :
    e.isMissing = false := by
  unfold select at h
  split at h
  · cases h
    rfl
  · split at h
    · next hview =>
      cases h
      exact isMissing_of_view hview
    · exact Store.isMissing_of_select h

/-- A refusal of the store is told only when a document is missing. -/
theorem isTold_of_mapError {α : Type} {r : Except StoreError α}
    (hr : ∀ e, r = .error e → e.isMissing = false) (h : r.mapError Failure.store = .error e) :
    e.isTold = false := by
  cases r with
  | error e' =>
    cases h
    rw [Failure.isTold_store]
    exact hr e' rfl
  | ok a => cases h

theorem isTold_of_search {o : SearchOptions} (h : t.search o = .error e) : e.isTold = false :=
  isTold_of_mapError (fun _ => isMissing_of_select) h

/-- What only looks at the store is refused when the connection is closed. -/
theorem isMissing_of_map_view {α : Type} {f : Store → α} {e : StoreError}
    (h : t.view.map f = .error e) : e.isMissing = false := by
  cases hview : t.view with
  | error e' =>
    rw [hview] at h
    cases h
    exact isMissing_of_view hview
  | ok s =>
    rw [hview] at h
    cases h

theorem isTold_of_documents (h : t.documents.mapError Failure.store = .error e) :
    e.isTold = false :=
  isTold_of_mapError (fun _ => isMissing_of_map_view) h

theorem isTold_of_size (h : t.size.mapError Failure.store = .error e) : e.isTold = false :=
  isTold_of_mapError (fun _ => isMissing_of_map_view) h

theorem isTold_of_packageDocuments {package : Text}
    (h : (t.packageDocuments package).mapError Failure.store = .error e) : e.isTold = false :=
  isTold_of_mapError (fun _ => isMissing_of_select) h

theorem isTold_of_packageCounts (h : t.packageCounts = .error e) : e.isTold = false := by
  refine isTold_of_mapError (fun e' h' => ?_) h
  unfold countBy at h'
  split at h'
  · cases h'
    rfl
  · exact isMissing_of_map_view h'

/-! ### Short paths -/

/-- **Asking for what is below a short path** ends in a failure that is to be told exactly when the
short path starts with a slash. -/
theorem isTold_below_iff (t : Table) (s : Option Text) :
    (∃ e, t.below s = .error e ∧ e.isTold = true) ↔ ∃ rest, s = some ('/' :: rest) := by
  have hask : ∀ {p : Predicate} {e : Failure},
      (t.select p [] 0 none).mapError Failure.store = .error e → e.isTold = false :=
    isTold_of_mapError (fun _ => isMissing_of_select)
  constructor
  · rintro ⟨e, he, htold⟩
    rcases s with _ | s
    · exact absurd (hask he) (by rw [htold]; exact nofun)
    rcases below_cases t s with ⟨-, h⟩ | ⟨hne, hpackage, h⟩ | ⟨-, h⟩
    · exact absurd (hask (h ▸ he)) (by rw [htold]; exact nofun)
    · obtain ⟨c, rest, rfl⟩ := List.exists_cons_of_ne_nil hne
      obtain rfl : c = '/' := by
        simpa [PathAlphabet.slash] using Path.splitShort_fst_eq_nil_iff.mp hpackage c rfl
      exact ⟨rest, rfl⟩
    · exact absurd (hask (h ▸ he)) (by rw [htold]; exact nofun)
  · rintro ⟨rest, rfl⟩
    refine ⟨.badShortpath (some ('/' :: rest)), below_of_no_package (List.cons_ne_nil _ _) ?_, rfl⟩
    exact Path.splitShort_fst_eq_nil_iff.mpr (fun c hc => beq_iff_eq.mpr (Option.some.inj hc).symm)

/-! ### Removal -/

/-- The removal of a stored document ends in no failure that is to be told. -/
theorem isTold_of_remove {d : Document} (hs : t.store.Sound) (hd : d ∈ t.store.documents)
    (h : t.remove d.path = .error e) : e.isTold = false := by
  cases haccess : t.access with
  | ready =>
    obtain ⟨t', hremove, -⟩ := remove_path haccess hs hd
    rw [hremove] at h
    cases h
  | busy =>
    simp only [remove, delete, execute, haccess, Except.mapError, if_true] at h
    cases h
    rfl
  | closed =>
    simp only [remove, delete, execute, haccess, Except.mapError] at h
    cases h
    rfl

end Table

/-! ### Indexing -/

/-- A failure that is caught around an indexing run, if it is to be told at all. -/
def Failure.IsCaught (e : Failure) : Prop := e.isTold = true → (e.isSystem || e.isEncoding) = true

namespace Failure

theorem isCaught_file (e : FileError) : (file e).IsCaught := by
  cases e with
  | system errno name => exact fun _ => rfl
  | embeddedNul => exact nofun
  | unencodable => exact nofun

theorem isCaught_read (e : ReadError) : e.toFailure.IsCaught := by
  cases e with
  | file e => exact isCaught_file e
  | undecodable e => exact fun _ => rfl

theorem isCaught_of_isTold {e : Failure} (h : e.isTold = false) : e.IsCaught := by
  intro htold
  rw [h] at htold
  cases htold

theorem isCaught_store {e : StoreError} (h : e.isMissing = false) : (store e).IsCaught :=
  isCaught_of_isTold (by rw [isTold_store, h])

end Failure

namespace Candidate

variable {c : Candidate} {detect : Detector} {tree : FileTree} {directory rest : NativeName}
  {name : Option NativeName} {s : Store} {e : Failure}

theorem bind_eq_error_iff {ε α β : Type} {r : Except ε α} {f : α → Except ε β} {e : ε} :
    r >>= f = .error e ↔ r = .error e ∨ ∃ a, r = .ok a ∧ f a = .error e := by
  cases r with
  | error e' =>
    constructor
    · rintro ⟨⟩
      exact Or.inl rfl
    · rintro (⟨⟨⟩⟩ | ⟨_, ⟨⟩, _⟩)
      rfl
  | ok a =>
    constructor
    · exact fun h => Or.inr ⟨a, rfl, h⟩
    · rintro (⟨⟨⟩⟩ | ⟨_, ⟨⟩, h⟩)
      exact h

theorem isCaught_of_mapError {ε α : Type} {f : ε → Failure} {r : Except ε α}
    (hf : ∀ e, (f e).IsCaught) (h : r.mapError f = .error e) : e.IsCaught := by
  cases r with
  | error e' =>
    cases h
    exact hf e'
  | ok a => cases h

theorem isCaught_of_prepare (h : prepare detect tree directory rest name = .error e) :
    e.IsCaught := by
  unfold prepare at h
  rcases bind_eq_error_iff.mp h with h | ⟨path, -, h⟩
  · exact isCaught_of_mapError Failure.isCaught_read h
  rcases bind_eq_error_iff.mp h with h | ⟨package, -, h⟩
  · exact isCaught_of_mapError Failure.isCaught_read h
  rcases bind_eq_error_iff.mp h with h | ⟨restpath, -, h⟩
  · exact isCaught_of_mapError Failure.isCaught_read h
  rcases bind_eq_error_iff.mp h with h | ⟨entry, -, h⟩
  · exact isCaught_of_mapError Failure.isCaught_file h
  · cases h

theorem isCaught_of_insert {content : Text} {e : StoreError}
    (h : s.insert (c.values content ++ [(.path, .text c.path)]) = .error e) :
    (Failure.store e).IsCaught := by
  refine Failure.isCaught_store ?_
  unfold Store.insert at h
  rw [newContents_values] at h
  dsimp only at h
  split at h
  · cases h
    rfl
  · cases h

/-- A document that was looked up is not missing when it is brought up to date. -/
theorem isCaught_of_update {old : Document} {content : Text} {e : StoreError}
    (hold : s.get? c.path = some old) (h : s.update c.path (c.values content) = .error e) :
    (Failure.store e).IsCaught := by
  refine Failure.isCaught_store ?_
  unfold Store.update at h
  rw [hold] at h
  dsimp only at h
  rw [changedContents_values (Store.path_of_get?_eq_some hold)] at h
  dsimp only at h
  split at h
  · cases h
    rfl
  · cases h

/-- What adding a file fails with inside the transaction. -/
theorem isCaught_of_settle (h : c.settle detect tree s = .error e) : e.IsCaught := by
  rcases settle_eq_error h with ⟨e', -, rfl⟩ | ⟨content, e', hinsert, rfl⟩ |
    ⟨old, content, e', hold, hupdate, rfl⟩ | rfl
  · exact Failure.isCaught_read _
  · exact isCaught_of_insert hinsert
  · exact isCaught_of_update hold hupdate
  · exact nofun

end Candidate

namespace Table

variable {t t' : Table} {e : Failure} {detect : Detector} {tree : FileTree} {p : PackageConfig}

theorem isCaught_of_add {directory rest : NativeName} {name : Option NativeName}
    (h : t.add detect tree directory rest name = .error e) : e.IsCaught := by
  unfold add at h
  split at h
  · next hprepare =>
    cases h
    exact Candidate.isCaught_of_prepare hprepare
  · split at h
    · next hstart =>
      cases h
      refine Failure.isCaught_store ?_
      unfold startTransaction at hstart
      split at hstart
      · cases hstart
        rfl
      · cases hstart
        rfl
      · split at hstart
        · cases hstart
          rfl
        · cases hstart
    · split at h
      · next hsettle =>
        cases h
        exact Candidate.isCaught_of_settle hsettle
      · cases h

theorem isCaught_of_addEach : ∀ {rests : List NativeName} {t : Table},
    (addEach detect tree p t rests).2.2 = some e → e.IsCaught := by
  intro rests
  induction rests with
  | nil => intro t h; cases h
  | cons rest rests ih =>
    intro t h
    rw [addEach_cons] at h
    split at h
    · next hadd =>
      cases h
      exact isCaught_of_add hadd
    · exact ih h

theorem isCaught_of_sightAll {c : Crawler} : ∀ {paths : List Glob.RestPath},
    (c.sightAll tree paths).2 = some e → e.IsCaught := by
  intro paths
  induction paths with
  | nil => intro h; cases h
  | cons path paths ih =>
    intro h
    rw [Crawler.sightAll] at h
    split at h
    · cases h
      exact Failure.isCaught_file _
    · exact ih h

theorem isCaught_of_scan {c : Crawler} (h : (c.scan tree).2 = some e) : e.IsCaught := by
  have hsightings : (c.sightings tree).2 = some e := h
  unfold Crawler.sightings at hsightings
  dsimp only at hsightings
  split at hsightings
  · cases hsightings
    exact Failure.isCaught_file _
  · cases hsightings
  · split at hsightings
    · cases hsightings
      exact nofun
    · split at hsightings
      · cases hsightings
        exact Failure.isCaught_file _
      · exact isCaught_of_sightAll hsightings

theorem isCaught_of_isGone {path : Text} (h : isGone tree path = .error e) : e.IsCaught := by
  obtain ⟨f, -, rfl, -⟩ := isGone_eq_error h
  exact Failure.isCaught_file f

/-- Documents that are still stored after another one was removed. -/
theorem stored_of_remove {d : Document} {ds : List Document} (hs : t.store.Sound)
    (hstored : ∀ e ∈ d :: ds, e ∈ t.store.documents) (hnodup : (d :: ds).Nodup)
    (h : t.remove d.path = .ok t') : ∀ e ∈ ds, e ∈ t'.store.documents := by
  obtain ⟨hd, hds⟩ := List.forall_mem_cons.mp hstored
  intro e he
  refine ((mem_of_remove hs hd h).1 e).mpr ⟨hds e he, ?_⟩
  rintro rfl
  exact (List.nodup_cons.mp hnodup).1 he

/-- What stops a sweep over stored documents is of the system, if it is to be told. -/
theorem isCaught_of_sweep : ∀ {ds : List Document} {t : Table}, t.store.Reachable →
    (∀ d ∈ ds, d ∈ t.store.documents) → ds.Nodup → (sweep tree t ds).failure = some e →
      e.IsCaught := by
  intro ds
  induction ds with
  | nil => intro t _ _ _ h; cases h
  | cons d ds ih =>
    intro t hs hstored hnodup h
    obtain ⟨hd, hds⟩ := List.forall_mem_cons.mp hstored
    rw [sweep] at h
    split at h
    · next hgone =>
      cases h
      exact isCaught_of_isGone hgone
    · exact ih hs hds (List.nodup_cons.mp hnodup).2 h
    · split at h
      · next hremove =>
        cases h
        exact Failure.isCaught_of_isTold (isTold_of_remove hs.sound hd hremove)
      · next t' hremove =>
        exact ih ((thins_remove hremove).reachable hs)
          (stored_of_remove hs.sound hstored hnodup hremove) (List.nodup_cons.mp hnodup).2 h

theorem isCaught_of_cleanupPackage {package : Text} (hs : t.store.Reachable)
    (h : (t.cleanupPackage tree package).failure = some e) : e.IsCaught := by
  unfold cleanupPackage at h
  split at h
  · next hds =>
    cases h
    exact Failure.isCaught_store (isMissing_of_select hds)
  · next ds hds =>
    obtain ⟨hnodup, hmem⟩ := mem_packageDocuments_iff hs.sound hds
    exact isCaught_of_sweep hs (fun d hd => ((hmem d).mp hd).1) hnodup h

theorem closing_eq (tree : FileTree) (p : PackageConfig) (t : Table)
    (results : List (NativeName × AddResult)) :
    (closing tree p t results).table = (t.cleanupPackage tree p.name).table ∧
      (closing tree p t results).failure = (t.cleanupPackage tree p.name).failure := by
  unfold closing
  dsimp only
  split
  · next h => exact ⟨rfl, h.symm⟩
  · next h => exact ⟨rfl, h.symm⟩

/-- **What stops an indexing run**, if it is to be told, is of the system or about an encoding; and
the table that it leaves is sound. -/
theorem isCaught_of_indexPackage (detect : Detector) (tree : FileTree) (p : PackageConfig)
    (hs : t.store.Reachable) :
    (t.indexPackage detect tree p).table.store.Reachable ∧
      ∀ e, (t.indexPackage detect tree p).failure = some e → e.IsCaught := by
  obtain ⟨hadding, -⟩ := adding_addEach detect tree p (p.crawler.scan tree).1 t
  have hadded := hadding.reachable hs
  rw [indexPackage_eq]
  split
  · next e' hstopped =>
    refine ⟨hadded, ?_⟩
    rintro e ⟨⟩
    rcases Option.or_eq_some_iff.mp hstopped with h | ⟨-, h⟩
    · exact isCaught_of_addEach h
    · exact isCaught_of_scan h
  · obtain ⟨htable, hfailure⟩ := closing_eq tree p
      (addEach detect tree p t (p.crawler.scan tree).1).1
      (addEach detect tree p t (p.crawler.scan tree).1).2.1
    rw [htable, hfailure]
    exact ⟨(thins_cleanupPackage tree p.name _).reachable hadded,
      fun e h => isCaught_of_cleanupPackage hadded h⟩

end Table

end PackageCatalog
