import PackageCatalog.Proofs.Search
import Mathlib.Algebra.Group.Nat.Defs

/-!
# Windows and pages

A selection returns a window of one sorted list.  How documents stand in that list whose keys are
equal is up to the plan, and a plan may change with the limit.  Where it does not, a window is cut
from the same list whatever its bounds, and the pages of a search put together are the search.
Even where it does, pages lose no document and double none, since the offset is nothing that a
plan depends on.

## Main definitions

* `Store.BreaksTiesBy` — documents with equal keys are found in the order of a rank.
* `Store.ranked` — what matches, by sort keys and then by rank.
* `takeUpTo` — the beginning of a list up to a limit, if there is one.
* `Table.Pages` — the pages of a search up to the first empty one.

## Main results

* `Store.Sound.sortBy_found` — sorting what is found gives the one list by keys and rank.
* `Table.Pages.flatten_eq` — pages put together are the rest of the sorted list.
* `Table.select_windows_and_pages` — **a selection is a window of the sorted list, and the pages
  of a search put together are the search.**
-/

namespace PackageCatalog

/-! ### Windows -/

/-- The beginning of a list up to a limit, if there is one. -/
def takeUpTo {α : Type} (limit : Option Nat) (l : List α) : List α :=
  match limit with
  | none => l
  | some n => l.take n

/-- A window with natural bounds drops and then takes. -/
theorem window_ofNat {α : Type} (offset : Nat) (limit : Option Nat) (l : List α) :
    window offset (limit.map Int.ofNat) l = takeUpTo limit (l.drop offset) := by
  cases limit with
  | none => rfl
  | some n =>
    have hn : ¬Int.ofNat n < 0 := Int.not_lt.mpr (Int.natCast_nonneg n)
    simp only [window, Option.map_some, if_neg hn]
    rfl

theorem fitsWord_ofNat_iff {n : Nat} : fitsWord n = true ↔ n < 2 ^ 63 := by
  simp only [fitsWord, decide_eq_true_eq]
  omega

theorem Store.fitsWindow_ofNat_iff {offset : Nat} {limit : Option Nat} :
    fitsWindow offset (limit.map Int.ofNat) = true ↔
      offset < 2 ^ 63 ∧ ∀ n ∈ limit, n < 2 ^ 63 := by
  have hlimit : (limit.map Int.ofNat).all fitsWord = true ↔ ∀ n ∈ limit, n < 2 ^ 63 := by
    cases limit with
    | none => simp
    | some n => simp [fitsWord_ofNat_iff]
  rw [fitsWindow, Bool.and_eq_true, hlimit, fitsWord_ofNat_iff, and_comm]

/-! ### One order for all limits -/

namespace Store

variable {s : Store} {rank : Document → Nat} {p : Predicate} {keys : List SortKey}

/-- Under a limit, documents with equal keys are found in the order of a rank. -/
def BreaksTiesBy (s : Store) (rank : Document → Nat) (p : Predicate) (keys : List SortKey)
    (limit : Option Nat) : Prop :=
  (s.found p keys (limit.map Int.ofNat)).Pairwise
    (fun a b => SortKey.compare keys a b = .eq → rank a < rank b)

instance (s : Store) (rank : Document → Nat) (p : Predicate) (keys : List SortKey)
    (limit : Option Nat) : Decidable (s.BreaksTiesBy rank p keys limit) :=
  inferInstanceAs (Decidable (List.Pairwise _ _))

/-- A rank that no two documents of a store share. -/
def Ranks (s : Store) (rank : Document → Nat) : Prop :=
  ∀ a ∈ s.documents, ∀ b ∈ s.documents, rank a = rank b → a = b

/-- The numbers of the documents are such a rank. -/
theorem Sound.ranks_id (hs : s.Sound) : s.Ranks Document.id :=
  fun _ ha _ hb hid => hs.eq_of_id ha hb hid

/-- What matches, by sort keys, and by rank where the keys are equal. -/
def ranked (s : Store) (rank : Document → Nat) (p : Predicate) (keys : List SortKey) :
    List Document :=
  sortBy (SortKey.compare keys) (sortBy (fun a b => compare (rank a) (rank b)) (s.matching p))

theorem ranked_perm (s : Store) (rank : Document → Nat) (p : Predicate) (keys : List SortKey) :
    (s.ranked rank p keys).Perm (s.matching p) :=
  (sortBy_perm _ _).trans (sortBy_perm _ _)

instance (rank : Document → Nat) :
    Std.TransCmp (fun a b : Document => compare (rank a) (rank b)) where
  eq_swap := by intro a b; exact (Nat.compare_swap (rank b) (rank a)).symm
  isLE_trans := by
    intro a b c hab hbc
    rw [Nat.isLE_compare] at *
    exact Nat.le_trans hab hbc

theorem Sound.pairwise_ranked (hs : s.Sound) (hrank : s.Ranks rank) (p : Predicate)
    (keys : List SortKey) : (s.ranked rank p keys).Pairwise
      (Before (SortKey.compare keys) (fun a b => rank a < rank b)) := by
  -- no two documents that match have the same rank, so that sorting by it leaves no tie
  have hdistinct : (s.matching p).Pairwise
      (fun a b => compare (rank a) (rank b) = .eq → False) := by
    refine List.Pairwise.imp_of_mem ?_ (hs.nodup_matching p)
    intro a b ha hb hne heq
    exact hne (hrank a (List.mem_filter.mp ha).1 b (List.mem_filter.mp hb).1
      (Nat.compare_eq_eq.mp heq))
  refine pairwise_sortBy ((pairwise_sortBy hdistinct).imp ?_)
  rintro a b (hlt | ⟨-, hfalse⟩) -
  · exact Nat.compare_eq_lt.mp hlt
  · exact hfalse.elim

/-- **Sorting what is found gives the one list by keys and rank**, whatever the limit, if ties are
broken by that rank. -/
theorem Sound.sortBy_found (hs : s.Sound) (hrank : s.Ranks rank) {limit : Option Nat}
    (hties : s.BreaksTiesBy rank p keys limit) :
    sortBy (SortKey.compare keys) (s.found p keys (limit.map Int.ofNat)) =
      s.ranked rank p keys := by
  refine eq_of_perm_of_pairwise_before (fun a b hab => Nat.lt_asymm hab) (pairwise_sortBy hties)
    (hs.pairwise_ranked hrank p keys) ?_
  exact (sortBy_perm _ _).trans ((hs.found_perm p keys _).trans (ranked_perm s rank p keys).symm)

end Store

/-! ### Pages -/

namespace SearchOptions

/-- The same filters, asking for all answers. -/
def unwindowed (o : SearchOptions) : SearchOptions := { o with offset := 0, limit := none }

/-- The same filters, asking for one page. -/
def page (o : SearchOptions) (n offset : Nat) : SearchOptions :=
  { o with offset, limit := some n }

theorem unwindowed_unwindowed (o : SearchOptions) : o.unwindowed.Unwindowed := ⟨rfl, rfl⟩

/-- What filters accept is not a matter of the window. -/
theorem accepts_unwindowed_iff {o : SearchOptions} {d : Document} :
    o.unwindowed.Accepts d ↔ o.Accepts d := by
  constructor
  · exact fun h => ⟨h.patterns, h.keywords, h.packages, h.paths, h.restpaths, h.suffixes⟩
  · exact fun h => ⟨h.patterns, h.keywords, h.packages, h.paths, h.restpaths, h.suffixes⟩

end SearchOptions

namespace Table

variable {t : Table} {o : SearchOptions} {n : Nat}

/-- The pages of a search from an offset, up to the first one that is empty. -/
inductive Pages (t : Table) (o : SearchOptions) (n : Nat) : Nat → List (List Document) → Prop
  | done {offset : Nat} : t.search (o.page n offset) = .ok [] → Pages t o n offset []
  | more {offset : Nat} {page : List Document} {pages : List (List Document)} :
    t.search (o.page n offset) = .ok page → page ≠ [] → Pages t o n (offset + n) pages →
      Pages t o n offset (page :: pages)

/-- The answers of a search that has pages of some size, sorted, before any page is cut. -/
def pageable (t : Table) (o : SearchOptions) (n : Nat) : List Document :=
  sortBy (SortKey.compare lexicalOrder)
    (t.store.found o.compile lexicalOrder ((some n).map Int.ofNat))

/-- The offset of a search is nothing that the list depends on from which its answers are cut. -/
theorem search_eq_of_ok {ds : List Document} (h : t.search o = .ok ds) :
    ds = takeUpTo o.limit ((sortBy (SortKey.compare lexicalOrder)
      (t.store.found o.compile lexicalOrder (o.limit.map Int.ofNat))).drop o.offset) := by
  rw [Store.select_eq_ok (select_eq_ok (search_eq_ok_iff.mp h))]
  exact window_ofNat o.offset o.limit _

/-- A page is cut from the same list whatever its offset. -/
theorem page_eq {offset : Nat} {page : List Document}
    (h : t.search (o.page n offset) = .ok page) :
    page = ((t.pageable o n).drop offset).take n := search_eq_of_ok h

/-- **Pages put together are the rest of the sorted list.** -/
theorem Pages.flatten_eq (hn : 1 ≤ n) {offset : Nat} {pages : List (List Document)}
    (h : t.Pages o n offset pages) : pages.flatten = (t.pageable o n).drop offset := by
  induction h with
  | done hsearch =>
    have hempty := page_eq hsearch
    rcases List.take_eq_nil_iff.mp hempty.symm with hzero | hrest
    · omega
    · exact hrest.symm
  | more hsearch _ _ ih =>
    -- a page and what follows it are `take` and `drop` of the same rest
    rw [List.flatten_cons, ih, page_eq hsearch, ← List.drop_drop, List.take_append_drop]

theorem search_page_of_withinLimits (hopen : t.access ≠ .closed) (ho : o.WithinLimits)
    {offset : Nat} (hoffset : offset < 2 ^ 63) (hn : n < 2 ^ 63) :
    t.search (o.page n offset) = .ok (((t.pageable o n).drop offset).take n) := by
  have hp := SearchOptions.answerable_compile ho
  have hlimit : ∀ m ∈ some n, m < 2 ^ 63 := fun m hm => Option.some.inj hm ▸ hn
  have hselect := Store.select_of_answerable (s := t.store) hp lexicalOrder
    (Store.fitsWindow_ofNat_iff.mpr ⟨hoffset, hlimit⟩)
  rw [window_ofNat] at hselect
  refine search_eq_ok_iff.mpr ?_
  exact (select_eq hp.writable hopen).trans hselect

/-- A search within the limits can be gone through page by page, and that comes to an end. -/
theorem exists_pages (hopen : t.access ≠ .closed) (ho : o.WithinLimits) (hn : 1 ≤ n)
    (hsize : (t.pageable o n).length + n < 2 ^ 63) : ∀ (left offset : Nat),
      (t.pageable o n).length - offset ≤ left → offset < 2 ^ 63 →
        ∃ pages, t.Pages o n offset pages := by
  -- the induction is on how many answers are left behind the offset
  intro left
  induction left with
  | zero =>
    intro offset hleft hoffset
    refine ⟨[], .done ?_⟩
    rw [search_page_of_withinLimits hopen ho hoffset (by omega), List.drop_eq_nil_of_le (by omega),
      List.take_nil]
  | succ left ih =>
    intro offset hleft hoffset
    have hsearch := search_page_of_withinLimits hopen ho hoffset (n := n) (by omega)
    by_cases hend : (t.pageable o n).length ≤ offset
    · rw [List.drop_eq_nil_of_le hend, List.take_nil] at hsearch
      exact ⟨[], .done hsearch⟩
    · obtain ⟨pages, hpages⟩ := ih (offset + n) (by omega) (by omega)
      refine ⟨_, .more hsearch ?_ hpages⟩
      rw [Ne, List.take_eq_nil_iff, List.drop_eq_nil_iff]
      omega

/-! ### Selections and searches -/

/-- One list by keys and rank, of which a selection is a window for every offset and limit under
which ties are broken by that rank. -/
theorem exists_sorted (hs : t.store.Sound) (hopen : t.access ≠ .closed)
    {rank : Document → Nat} (hrank : t.store.Ranks rank) {p : Predicate} (hp : p.Writable)
    (keys : List SortKey) :
    ∃ sorted : List Document,
      sorted.Nodup ∧ (∀ d, d ∈ sorted ↔ d ∈ t.store.documents ∧ d.Satisfies p) ∧
      sorted.Pairwise (fun a b =>
        SortKey.Precedes keys a b ∨ (SortKey.Agree keys a b ∧ rank a < rank b)) ∧
      ∀ (offset : Nat) (limit : Option Nat), offset < 2 ^ 63 → (∀ n ∈ limit, n < 2 ^ 63) →
        t.store.BreaksTiesBy rank p keys limit →
          (∀ ds, t.select p keys offset (limit.map Int.ofNat) = .ok ds →
            ds = takeUpTo limit (sorted.drop offset)) ∧
          (p.Answerable → t.select p keys offset (limit.map Int.ofNat) =
            .ok (takeUpTo limit (sorted.drop offset))) := by
  have hperm := t.store.ranked_perm rank p keys
  refine ⟨t.store.ranked rank p keys, hperm.nodup_iff.mpr (hs.nodup_matching p), ?_, ?_, ?_⟩
  · intro d
    rw [hperm.mem_iff, Store.mem_matching hp]
  · refine (hs.pairwise_ranked hrank p keys).imp ?_
    rintro a b (hlt | ⟨heq, hab⟩)
    · exact Or.inl (SortKey.compare_eq_lt_iff.mp hlt)
    · exact Or.inr ⟨SortKey.compare_eq_eq_iff.mp heq, hab⟩
  · intro offset limit hoffset hlimit hties
    rw [← window_ofNat, ← hs.sortBy_found hrank hties]
    constructor
    · exact fun ds h => Store.select_eq_ok (select_eq_ok h)
    · intro hanswerable
      rw [select_eq hp hopen]
      exact Store.select_of_answerable hanswerable keys
        (Store.fitsWindow_ofNat_iff.mpr ⟨hoffset, hlimit⟩)

theorem search_unwindowed_eq {all : List Document} (h : t.search o.unwindowed = .ok all) :
    all = sortBy (SortKey.compare lexicalOrder)
      (t.store.found o.compile lexicalOrder ((none : Option Nat).map Int.ofNat)) := by
  have hall := search_eq_of_ok h
  rw [show o.unwindowed.limit = none from rfl, show o.unwindowed.offset = 0 from rfl,
    show o.unwindowed.compile = o.compile from rfl, takeUpTo, List.drop_zero] at hall
  exact hall

theorem pageable_perm (hs : t.store.Sound) : (t.pageable o n).Perm (t.store.matching o.compile) :=
  (sortBy_perm _ _).trans (hs.found_perm _ _ _)

/-- What the pages of a search put together have to do with the search. -/
theorem Pages.flatten_search (hs : t.store.Sound) (hn : 1 ≤ n) {pages : List (List Document)}
    {all : List Document} (hpages : t.Pages o n 0 pages) (hall : t.search o.unwindowed = .ok all) :
    pages.flatten.Perm all ∧ pages.flatten.map Document.place = all.map Document.place := by
  have hflat : pages.flatten = t.pageable o n := hpages.flatten_eq hn
  have hperm : pages.flatten.Perm all := by
    rw [hflat, search_unwindowed_eq hall]
    exact (pageable_perm hs).trans (((sortBy_perm _ _).trans (hs.found_perm _ _ _)).symm)
  refine ⟨hperm, map_eq_of_perm_of_pairwise Document.place_eq_iff hperm ?_
    (pairwise_search o.unwindowed_unwindowed hall)⟩
  rw [hflat]
  exact sortBy_ascends _

/-- **A selection is a window, by its offset and its limit, of one list of all that matches,
sorted by the keys**, each in its own direction, as long as ties are broken in one fixed order of
the rows.  **The pages of a search, put together up to the first empty one, are the search**: each
document that passes the filters once, by package and by path below it.  If ties are broken in
another order for pages than for the search, they are still the same documents at the same
places. -/
theorem select_windows_and_pages (t : Table) (hs : t.store.Reachable) (hopen : t.access ≠ .closed)
    (rank : Document → Nat) (hrank : t.store.Ranks rank) :
    (∀ (p : Predicate) (keys : List SortKey),
      (¬p.Writable → ∀ offset limit ds, t.select p keys offset limit ≠ .ok ds) ∧
      (p.Writable → ∃ sorted : List Document,
        sorted.Nodup ∧ (∀ d, d ∈ sorted ↔ d ∈ t.store.documents ∧ d.Satisfies p) ∧
        sorted.Pairwise (fun a b =>
          SortKey.Precedes keys a b ∨ (SortKey.Agree keys a b ∧ rank a < rank b)) ∧
        ∀ (offset : Nat) (limit : Option Nat), offset < 2 ^ 63 → (∀ n ∈ limit, n < 2 ^ 63) →
          t.store.BreaksTiesBy rank p keys limit →
            (∀ ds, t.select p keys offset (limit.map Int.ofNat) = .ok ds →
              ds = takeUpTo limit (sorted.drop offset)) ∧
            (p.Answerable → t.select p keys offset (limit.map Int.ofNat) =
              .ok (takeUpTo limit (sorted.drop offset))))) ∧
    (∀ (o : SearchOptions) (n : Nat) (all : List Document) (pages : List (List Document)), 1 ≤ n →
      t.search o.unwindowed = .ok all → t.Pages o n 0 pages →
        (all.Nodup ∧ (∀ d, d ∈ all ↔ d ∈ t.store.documents ∧ o.Accepts d) ∧
          all.Pairwise (fun a b => ¬SortKey.Precedes lexicalOrder b a)) ∧
        pages.flatten.Perm all ∧ pages.flatten.map Document.place = all.map Document.place ∧
        (t.store.BreaksTiesBy rank o.compile lexicalOrder none →
          t.store.BreaksTiesBy rank o.compile lexicalOrder (some n) → pages.flatten = all)) ∧
    (∀ (o : SearchOptions) (n : Nat), 1 ≤ n → o.WithinLimits →
      t.store.documents.length + n < 2 ^ 63 →
        (∃ all, t.search o.unwindowed = .ok all) ∧ ∃ pages, t.Pages o n 0 pages) := by
  have hsound := hs.sound
  refine ⟨fun p keys => ⟨?_, fun hp => exists_sorted hsound hopen hrank hp keys⟩, ?_, ?_⟩
  · exact fun hp offset limit ds h => hp (writable_of_select_eq_ok h)
  · intro o n all pages hn hall hpages
    obtain ⟨hnodup, hmem⟩ := mem_search_iff hsound o.unwindowed_unwindowed hall
    obtain ⟨hperm, hplaces⟩ := hpages.flatten_search hsound hn hall
    refine ⟨⟨hnodup, fun d => ?_, ?_⟩, hperm, hplaces, ?_⟩
    · rw [hmem, SearchOptions.accepts_unwindowed_iff]
    · refine (pairwise_search o.unwindowed_unwindowed hall).imp ?_
      intro a b hab hlt
      exact hab (Std.OrientedCmp.gt_of_lt (SortKey.compare_eq_lt_iff.mpr hlt))
    · intro hall' hpage'
      have hflat : pages.flatten = t.pageable o n := hpages.flatten_eq hn
      rw [hflat, search_unwindowed_eq hall, hsound.sortBy_found hrank hall', pageable,
        hsound.sortBy_found hrank hpage']
  · intro o n hn ho hsize
    refine ⟨exists_search hopen o.unwindowed_unwindowed ⟨ho.fits, ho.short⟩, ?_⟩
    -- a page is asked for behind fewer documents than there are
    have hlength : (t.pageable o n).length ≤ t.store.documents.length := by
      rw [(pageable_perm hsound).length_eq]
      exact List.length_filter_le _ _
    exact exists_pages hopen ho hn (by omega) _ 0 (Nat.le_refl _) (by decide)

/-- Two documents at one place come on two pages, in the order in which the search has them. -/
theorem select_windows_and_pages_twins :
    ∃ pages, twins.Pages { patterns := [['x']] } 1 0 pages ∧ pages.length = 2 ∧
      twins.search { patterns := [['x']] } = .ok pages.flatten := by
  have hall : twins.search { patterns := [['x']] } = .ok twins.store.documents := by rfl
  have hpages : twins.Pages { patterns := [['x']] } 1 0
      [twins.store.documents.take 1, twins.store.documents.drop 1] := by
    refine .more (by rfl) (by decide) (.more (by rfl) (by decide) (.done (by rfl)))
  obtain ⟨-, hflat, -⟩ := select_windows_and_pages twins reachable_twins access_twins Document.id
    reachable_twins.sound.ranks_id
  obtain ⟨-, -, -, hsame⟩ := hflat { patterns := [['x']] } 1 _ _ (by decide) hall hpages
  exact ⟨_, hpages, rfl, by rw [hsame (by decide) (by decide), hall]⟩

end Table

end PackageCatalog
