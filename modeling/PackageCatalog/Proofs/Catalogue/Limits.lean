import PackageCatalog.Query.Options
import PackageCatalog.Proofs.Query.Contents
import PackageCatalog.Proofs.Query.Depth
import PackageCatalog.Proofs.Catalogue.Failures
import PackageCatalog.Proofs.Paging

/-!
# The limits of a search

The options of a search are not bounded: any numbers of terms, terms of any length, and windows that
begin and end anywhere are admitted.  The engine behind it has limits.  An expression may have so
many levels, the numbers of a window have to be words of the machine, and a pattern that is tried
may have so many octets.  A search that keeps within them returns; one that does not ends in the
error of the first limit, except that a long pattern is no error as long as no row is tried with it.

## Main definitions

* `SearchOptions.FitsWords` — the numbers of the window are words of the machine.

## Main results

* `SearchOptions.ofRecord_toRecord` — all options are admitted.
* `Table.search_eq_error` — what a search can end in.
* `Table.law_of_limits` — **which searches return, and what the others end in.**
* `Table.not_beyond_words` — **an offset that is admitted and no word of the machine is an error.**
-/

namespace PackageCatalog

/-! ### What is admitted -/

namespace Checked

variable {α : Type}

theorem each_text (ts : List Text) (n : Nat) : each text n (ts.map Datum.text) = .ok ts := by
  induction ts generalizing n with
  | nil => rfl
  | cons t ts ih =>
    rw [List.map_cons, each, ih]
    rfl

theorem natural_ofNat (n : Nat) : natural (.integer n) = .ok n := by
  rw [natural, nonNegative, if_neg (by omega)]
  rfl

theorem fieldOr_eq_ok {default a : α} {read : Datum → Checked α} {name : String}
    {entries : List (Text × Datum)} {d : Datum} (h : Datum.lookup? name.toList entries = some d)
    (hread : read d = .ok a) : fieldOr default read name entries = .ok a := by
  rw [fieldOr, h]
  dsimp only
  rw [hread]
  rfl

end Checked

namespace SearchOptions

/-- All options are admitted: they are read back from their own record. -/
theorem ofRecord_toRecord (o : SearchOptions) : ofRecord o.toRecord = .ok o := by
  have htexts : ∀ (name : String) (ts : List Text),
      Datum.lookup? name.toList o.toRecord = some (.list (ts.map .text)) →
        Checked.fieldOr [] (Checked.list Checked.text) name o.toRecord = .ok ts :=
    fun _ ts h => Checked.fieldOr_eq_ok h (Checked.each_text ts 0)
  have hoffset : Checked.fieldOr 0 Checked.natural "offset" o.toRecord = .ok o.offset :=
    Checked.fieldOr_eq_ok (d := .integer o.offset) rfl (Checked.natural_ofNat o.offset)
  have hlimit : Checked.fieldOr none Checked.naturalOrNull "limit" o.toRecord = .ok o.limit := by
    cases hlimit : o.limit with
    | none => exact Checked.fieldOr_eq_ok (d := .null) (by simp only [toRecord, hlimit]; rfl) rfl
    | some n =>
      refine Checked.fieldOr_eq_ok (d := .integer n) (by simp only [toRecord, hlimit]; rfl) ?_
      rw [Checked.naturalOrNull, Checked.natural_ofNat]
      exact nofun
  have hknown : unknownKeys o.toRecord = .ok () := rfl
  unfold ofRecord
  dsimp only
  rw [htexts "patterns" o.patterns rfl, htexts "keywords" o.keywords rfl,
    htexts "packages" o.packages rfl, htexts "paths" o.paths rfl,
    htexts "restpaths" o.restpaths rfl, htexts "suffixes" o.suffixes rfl, hoffset, hlimit, hknown]
  rfl

/-! ### What a search ends in -/

/-- The numbers of the window are words of the machine. -/
structure FitsWords (o : SearchOptions) : Prop where
  offset : o.offset < 2 ^ 63
  limit : ∀ n ∈ o.limit, n < 2 ^ 63

theorem fitsWindow_iff {o : SearchOptions} :
    Store.fitsWindow o.offset (o.limit.map Int.ofNat) = true ↔ o.FitsWords := by
  rw [Store.fitsWindow_ofNat_iff]
  exact ⟨fun h => ⟨h.1, h.2⟩, fun h => ⟨h.offset, h.limit⟩⟩

end SearchOptions

namespace Store

variable {s : Store} {p : Predicate} {keys : List SortKey} {offset : Int} {limit : Option Int}

theorem select_of_deep (h : Sql.fits p = false) :
    s.select p keys offset limit = .error .tooDeep := by
  rw [select, h]
  rfl

theorem select_of_large (hfits : Sql.fits p = true) (h : fitsWindow offset limit = false) :
    s.select p keys offset limit = .error .tooLarge := by
  rw [select, hfits, Bool.not_true, if_neg Bool.false_ne_true, ← Bool.not_and, ← fitsWindow, h]
  rfl

end Store

namespace Table

variable {t : Table} {o : SearchOptions}

theorem search_eq (hopen : t.access ≠ .closed) (o : SearchOptions) :
    t.search o = (t.store.select o.compile lexicalOrder o.offset
      (o.limit.map Int.ofNat)).mapError Failure.store := by
  rw [search, select_eq (SearchOptions.writable_compile o) hopen]

theorem search_of_deep (hopen : t.access ≠ .closed) (h : Sql.depthLimit ≤ o.levels) :
    t.search o = .error (.store .tooDeep) := by
  have hfits : Sql.fits o.compile = false := by
    rw [← Bool.not_eq_true, SearchOptions.fits_compile_iff]
    exact Nat.not_lt.mpr h
  rw [search_eq hopen, Store.select_of_deep hfits]
  rfl

theorem search_of_large (hopen : t.access ≠ .closed) (hlevels : o.levels < Sql.depthLimit)
    (h : ¬o.FitsWords) : t.search o = .error (.store .tooLarge) := by
  have hwindow : Store.fitsWindow o.offset (o.limit.map Int.ofNat) = false := by
    rwa [← Bool.not_eq_true, SearchOptions.fitsWindow_iff]
  have hfits := (SearchOptions.fits_compile_iff o).mpr hlevels
  rw [search_eq hopen, Store.select_of_large hfits hwindow]
  rfl

/-- All that a search can end in, each with the limit that it is about. -/
theorem search_eq_error (hopen : t.access ≠ .closed) {e : Failure} (h : t.search o = .error e) :
    (Sql.depthLimit ≤ o.levels ∧ e = .store .tooDeep) ∨
    (o.levels < Sql.depthLimit ∧ ¬o.FitsWords ∧ e = .store .tooLarge) ∨
    (o.levels < Sql.depthLimit ∧ o.FitsWords ∧ o.limit ≠ some 0 ∧
      (∃ v ∈ o.terms, tooLong v = true) ∧ e = .store .patternTooLong) := by
  rw [search_eq hopen] at h
  cases hselect : t.store.select o.compile lexicalOrder o.offset (o.limit.map Int.ofNat) with
  | ok ds =>
    rw [hselect] at h
    cases h
  | error e' =>
    rw [hselect] at h
    cases h
    have hcases := Store.select_eq_error hselect
    rw [← Bool.not_eq_true, ← Bool.not_eq_true (Store.fitsWindow _ _),
      SearchOptions.fits_compile_iff, SearchOptions.fitsWindow_iff, Nat.not_lt] at hcases
    rcases hcases with ⟨hlevels, rfl⟩ | ⟨hlevels, hwords, rfl⟩ |
      ⟨hlevels, hwords, hlimit, htriable, rfl⟩
    · exact Or.inl ⟨hlevels, rfl⟩
    · exact Or.inr (Or.inl ⟨hlevels, hwords, rfl⟩)
    · refine Or.inr (Or.inr ⟨hlevels, hwords, fun hzero => hlimit (by rw [hzero]; rfl), ?_, rfl⟩)
      by_contra hshort
      refine Bool.false_ne_true (htriable.symm.trans (SearchOptions.isTriable_compile ?_))
      exact fun v hv => Bool.eq_false_iff.mpr (fun hlong => hshort ⟨v, hv, hlong⟩)

/-- A search within all limits returns. -/
theorem exists_search_of_fits (hopen : t.access ≠ .closed) (hlevels : o.levels < Sql.depthLimit)
    (hwords : o.FitsWords) (hterms : o.limit = some 0 ∨ ∀ v ∈ o.terms, tooLong v = false) :
    ∃ ds, t.search o = .ok ds := by
  cases h : t.search o with
  | ok ds => exact ⟨ds, rfl⟩
  | error e =>
    rcases search_eq_error hopen h with ⟨hdeep, -⟩ | ⟨-, hlarge, -⟩ |
      ⟨-, -, hlimit, ⟨v, hv, hlong⟩, -⟩
    · exact absurd hlevels (Nat.not_lt.mpr hdeep)
    · exact absurd hwords hlarge
    · rcases hterms with hzero | hshort
      · exact absurd hzero hlimit
      · exact absurd (hlong.symm.trans (hshort v hv)) nofun

/-! ### What a search returns -/

theorem takeUpTo_sublist {α : Type} (limit : Option Nat) (l : List α) :
    (takeUpTo limit l).Sublist l := by
  cases limit with
  | none => exact List.Sublist.refl l
  | some n => exact List.take_sublist n l

theorem length_takeUpTo_le {α : Type} {limit : Option Nat} {n : Nat} (hn : n ∈ limit) (l : List α) :
    (takeUpTo limit l).length ≤ n := by
  rw [Option.mem_def.mp hn]
  exact List.length_take_le n l

/-- Whatever its window, a search returns documents that its filters accept, each once. -/
theorem mem_of_search (hs : t.store.Sound) {ds : List Document} (h : t.search o = .ok ds) :
    ds.Nodup ∧ ∀ d ∈ ds, d ∈ t.store.documents ∧ o.Accepts d := by
  have hsublist := (takeUpTo_sublist o.limit _).trans (List.drop_sublist o.offset
    (sortBy (SortKey.compare lexicalOrder) (t.store.found o.compile lexicalOrder
      (o.limit.map Int.ofNat))))
  rw [← search_eq_of_ok h] at hsublist
  have hperm := (sortBy_perm (SortKey.compare lexicalOrder) _).trans
    (hs.found_perm o.compile lexicalOrder (o.limit.map Int.ofNat))
  refine ⟨(hperm.nodup_iff.mpr (hs.nodup_matching _)).sublist hsublist, fun d hd => ?_⟩
  have hmatching := hperm.mem_iff.mp (hsublist.subset hd)
  rwa [Store.mem_matching (SearchOptions.writable_compile o),
    SearchOptions.satisfies_compile_iff] at hmatching

/-! ### The law -/

/-- **Which searches return**, for every open table and all options, each of which is admitted.

* A search returns when its filters take less than a thousand levels, the numbers of its window are
  below 2⁶³, and either no answers are asked for or no term is too long.
* In particular it does with at most 995 terms of at most 12499 characters each.
* Filters of a thousand levels or more, and no others, are refused as too deep: always those with
  998 patterns, keywords, paths and restpaths together, and those with 998 packages or suffixes.
* Filters that fit with a window that does not, and no others, are refused as too large.
* Nothing else goes wrong, but that a pattern is too long.
* What a search returns are documents that its filters accept, each once and no more than asked
  for. -/
theorem law_of_limits (t : Table) (hopen : t.access ≠ .closed) (o : SearchOptions) :
    SearchOptions.ofRecord o.toRecord = .ok o ∧
    (o.levels < Sql.depthLimit → o.FitsWords →
      o.limit = some 0 ∨ (∀ v ∈ o.terms, tooLong v = false) → ∃ ds, t.search o = .ok ds) ∧
    (o.terms.length ≤ 995 → (∀ v ∈ o.terms, v.length ≤ 12499) → o.FitsWords →
      ∃ ds, t.search o = .ok ds) ∧
    (t.search o = .error (.store .tooDeep) ↔ Sql.depthLimit ≤ o.levels) ∧
    (998 ≤ o.patterns.length + o.keywords.length + o.paths.length + o.restpaths.length ∨
      998 ≤ o.packages.length ∨ 998 ≤ o.suffixes.length →
        t.search o = .error (.store .tooDeep)) ∧
    (t.search o = .error (.store .tooLarge) ↔ o.levels < Sql.depthLimit ∧ ¬o.FitsWords) ∧
    (∀ e, t.search o = .error e →
      e = .store .tooDeep ∨ e = .store .tooLarge ∨ e = .store .patternTooLong) ∧
    ∀ ds, t.search o = .ok ds →
      (t.store.Reachable → ds.Nodup ∧ ∀ d ∈ ds, d ∈ t.store.documents ∧ o.Accepts d) ∧
      ∀ n ∈ o.limit, ds.length ≤ n := by
  refine ⟨o.ofRecord_toRecord, exists_search_of_fits hopen, fun hnumber hlength hwords => ?_,
    ⟨fun h => ?_, search_of_deep hopen⟩, fun h => search_of_deep hopen ?_,
    ⟨fun h => ?_, fun h => search_of_large hopen h.1 h.2⟩, fun e h => ?_,
    fun ds h => ⟨fun hs => mem_of_search hs.sound h, fun n hn => ?_⟩⟩
  · exact exists_search_of_fits hopen (SearchOptions.levels_lt hnumber) hwords
      (Or.inr fun v hv => tooLong_eq_false (hlength v hv))
  · obtain ⟨hlevels, -⟩ | ⟨-, -, he⟩ | ⟨-, -, -, -, he⟩ := search_eq_error hopen h
    · exact hlevels
    · cases he
    · cases he
  · rcases h with h | h | h
    · exact SearchOptions.le_levels_of_clauses h
    · exact SearchOptions.le_levels_of_choice (Or.inl rfl) h
    · exact SearchOptions.le_levels_of_choice (Or.inr rfl) h
  · obtain ⟨-, he⟩ | ⟨hlevels, hwords, -⟩ | ⟨-, -, -, -, he⟩ := search_eq_error hopen h
    · cases he
    · exact ⟨hlevels, hwords⟩
    · cases he
  · obtain ⟨-, he⟩ | ⟨-, -, he⟩ | ⟨-, -, -, -, he⟩ := search_eq_error hopen h
    · exact Or.inl he
    · exact Or.inr (Or.inl he)
    · exact Or.inr (Or.inr he)
  · rw [search_eq_of_ok h]
    exact length_takeUpTo_le hn _

/-- The last window that fits leaves nothing of two documents, and 998 packages are too many. -/
theorem law_of_limits_twins :
    twins.access ≠ .closed ∧
      (∃ ds, twins.search { offset := 2 ^ 63 - 1, limit := some (2 ^ 63 - 1) } = .ok ds) ∧
      twins.search { packages := List.replicate 998 ['p'] } = .error (.store .tooDeep) := by
  refine ⟨access_twins, ?_, ?_⟩
  · obtain ⟨-, -, hreturns, -⟩ := law_of_limits twins access_twins
      { offset := 2 ^ 63 - 1, limit := some (2 ^ 63 - 1) }
    exact hreturns (by decide) (by decide) ⟨by decide, by decide⟩
  · obtain ⟨-, -, -, -, hdeep, -⟩ := law_of_limits twins access_twins
      { packages := List.replicate 998 ['p'] }
    exact hdeep (Or.inr (Or.inl (Nat.le_of_eq List.length_replicate.symm)))

/-- **An offset that is admitted and is no word of the machine is an error**, though there is
nothing behind it in a table of one document. -/
theorem not_beyond_words :
    let o : SearchOptions := { offset := 2 ^ 63 }
    SearchOptions.ofRecord [("offset".toList, .integer o.offset)] = .ok o ∧
      (({} : Table).afterCalls (Detector.constant none) [adding 1000]).search o =
        .error (.store .tooLarge) := by
  intro o
  have ht : (({} : Table).afterCalls (Detector.constant none) [adding 1000]).Kept :=
    kept_empty.afterCalls _
  refine ⟨rfl, search_of_large (by rw [ht.ready]; exact nofun) (by decide) ?_⟩
  exact fun h => absurd h.offset (by decide)

end Table

end PackageCatalog
