import PackageCatalog.Proofs.Catalogue.Below
import PackageCatalog.Proofs.Paging
import PackageCatalog.Proofs.Text.CodeOrder

/-!
# One order for listing and search

A search has its answers sorted by the store, which compares the octets of packages and restpaths.
A listing takes the documents as they come and sorts them itself, by code points.  Both orders are
one, and where two documents stand at one place both take the older one first, so that the two
lists are the same.

## Main definitions

* `Plan.alongOnly` — a plan that goes over all rows in the order of some fields.
* `Session.showFound` — documents that are found, shown as they come.

## Main results

* `Plan.arrange_ok` — rows that are met without an error are arranged as they are met.
* `Store.Sound.breaksTiesBy_id` — a plan along the sort keys breaks ties by number.
* `compare_lexicalOrder` — the order of a search, by code points.
* `Table.law_of_listing` — **a listing in its order is a search without filters.**
-/

namespace PackageCatalog

/-! ### Rows as they are met -/

/-- **Rows that are all met without an error are arranged as they are met.** -/
theorem Plan.arrange_ok {met rows : List Row} (hperm : met.Perm rows)
    (hnodup : (met.map (·.1.id)).Nodup) : Plan.arrange (met.map .ok) rows = met := by
  let ids := met.map (·.1.id)
  let placed := fun row : Row => (ids.idxOf row.1.id, row)
  let byPlace := fun a b : Nat × Row => compare a.1 b.1
  have : Std.TransCmp byPlace := inferInstanceAs (Std.TransCmp (compareOn Prod.fst))
  have hids : (met.map (Except.ok (ε := StoreError))).filterMap
      (fun m => m.toOption.map (·.1.id)) = ids := by
    rw [List.filterMap_map]
    exact List.filterMap_eq_map_iff_forall_eq_some.mpr (fun _ _ => rfl)
  -- the place of a row is where it is met, so that rows in their places ascend without a tie
  have hplaced : (met.map placed).Pairwise (fun a b => a.1 < b.1) := by
    rw [List.pairwise_map, List.pairwise_iff_getElem]
    intro i j hi hj hij
    have hplace : ∀ {k : Nat} (hk : k < met.length), ids.idxOf met[k].1.id = k := by
      intro k hk
      have hget := hnodup.idxOf_getElem k (by rwa [List.length_map])
      rwa [List.getElem_map] at hget
    show ids.idxOf met[i].1.id < ids.idxOf met[j].1.id
    rw [hplace hi, hplace hj]
    exact hij
  have hsorted : sortBy byPlace (rows.map placed) = met.map placed :=
    sortBy_eq_of_ascends (hperm.map placed).symm (hplaced.imp Nat.compare_eq_lt.mpr)
  show (sortBy byPlace (rows.map fun row => (_, row))).map (·.2) = met
  rw [hids]
  show (sortBy byPlace (rows.map placed)).map (·.2) = met
  rw [hsorted, List.map_map]
  exact List.map_id met

/-! ### Rows along fields -/

/-- A plan that goes over all rows in the order of some fields, and of numbers after them. -/
def Plan.alongOnly (fields : List Field) : Plan where
  outer := .along fields [] [.everything]
  inner := []
  backwards := false
  settled := fields.map (⟨·, false⟩)
  inOrder := true

instance (fields : List Field) : Std.TransCmp (Route.compareAlong fields) :=
  inferInstanceAs (Std.TransCmp
    (compareLex (SortKey.compare (fields.map (⟨·, false⟩))) (compareOn Document.id)))

instance (fields : List Field) :
    Std.TransCmp (fun a b : Row => Route.compareAlong fields a.1 b.1) where
  eq_swap {a b} := @Std.OrientedCmp.eq_swap _ (Route.compareAlong fields) _ a.1 b.1
  isLE_trans {a b c} := @Std.TransCmp.isLE_trans _ (Route.compareAlong fields) _ a.1 b.1 c.1

/-- Along fields every row is met, in their order. -/
theorem Plan.walk_alongOnly (fields : List Field) (rows : List Row) :
    (Plan.alongOnly fields).walk rows =
      (sortBy (fun a b => Route.compareAlong fields a.1 b.1) rows).map .ok := by
  have hall : rows.filter (fun row => ([] : List Predicate).all (Predicate.reaches row)) = rows :=
    List.filter_eq_self.mpr (fun _ _ => rfl)
  show ((sortBy (fun a b => Route.compareAlong fields a.1 b.1)
    (rows.filter fun row => ([] : List Predicate).all (Predicate.reaches row))).flatMap
      (Route.meet [.everything])).flatMap (Plan.walkWithin []) = _
  rw [hall, List.flatMap_assoc, List.map_eq_flatMap]
  rfl

namespace Store

variable {s : Store} {p : Predicate}

/-- **Along the sort keys, ties are broken by number**: the older document comes first. -/
theorem Sound.breaksTiesBy_id (hs : s.Sound) (fields : List Field) (limit : Option Nat)
    (hplan : Plan.ofQuery p (fields.map (⟨·, false⟩)) (limit.map Int.ofNat) = .alongOnly fields) :
    s.BreaksTiesBy Document.id p (fields.map (⟨·, false⟩)) limit := by
  let along := sortBy (fun a b : Row => Route.compareAlong fields a.1 b.1) (s.rows p)
  have hperm : along.Perm (s.rows p) := sortBy_perm _ _
  have hnodup : (along.map (·.1.id)).Nodup := by
    rw [(hperm.map _).nodup_iff, hs.rows_eq p, List.map_map]
    exact List.pairwise_map.mpr (hs.ascending.imp Nat.ne_of_lt)
  have hfound : s.found p (fields.map (⟨·, false⟩)) (limit.map Int.ofNat) =
      (along.filter (fun row => p.holds row)).map (·.1) := by
    unfold found
    dsimp only
    rw [hplan, Plan.walk_alongOnly, Plan.arrange_ok hperm hnodup]
  -- what is met later is not less, and where the keys are equal its number is greater
  have hascends : along.Pairwise (fun a b => Route.compareAlong fields a.1 b.1 ≠ .gt ∧
      a.1.id ≠ b.1.id) := (sortBy_ascends _).and (List.pairwise_map.mp hnodup)
  rw [BreaksTiesBy, hfound, List.pairwise_map]
  refine (hascends.filter _).imp ?_
  rintro a b ⟨hle, hne⟩ heq
  rw [Route.compareAlong, heq] at hle
  have hid : compare a.1.id b.1.id ≠ .gt := hle
  rw [Ne, Nat.compare_eq_gt] at hid
  omega

end Store

/-! ### Packages and restpaths -/

/-- The order of a search, by code points. -/
theorem compare_lexicalOrder (a b : Document) : SortKey.compare lexicalOrder a b =
    (Text.codeOrder a.package b.package).then (Text.codeOrder a.restpath b.restpath) := by
  have hthen : ∀ o : Ordering, o.then .eq = o := fun o => by cases o <;> rfl
  show (Utf8.order a.package b.package).then ((Utf8.order a.restpath b.restpath).then .eq) = _
  rw [Utf8.order_eq_codeOrder, Utf8.order_eq_codeOrder, hthen]

theorem inOrder_eq (ds : List Document) :
    inOrder ds = sortBy (SortKey.compare lexicalOrder) ds := by
  have hcompare : SortKey.compare lexicalOrder = fun a b =>
      (Text.codeOrder a.package b.package).then (Text.codeOrder a.restpath b.restpath) :=
    funext fun a => funext fun b => compare_lexicalOrder a b
  rw [hcompare]
  rfl

/-- What a listing puts in order ascends by package, and by the path below it. -/
theorem pairwise_inOrder (ds : List Document) : (inOrder ds).Pairwise (fun a b =>
    a.package < b.package ∨ (a.package = b.package ∧ ¬b.restpath < a.restpath)) := by
  rw [inOrder_eq]
  refine (sortBy_ascends ds).imp ?_
  intro a b h
  rw [compare_lexicalOrder] at h
  cases hpackage : Text.codeOrder a.package b.package with
  | lt => exact Or.inl ((Text.codeOrder_eq_lt_iff _ _).mp hpackage)
  | gt =>
    rw [hpackage] at h
    exact absurd rfl h
  | eq =>
    rw [hpackage] at h
    refine Or.inr ⟨(Text.codeOrder_eq_eq_iff _ _).mp hpackage, fun hlt => h ?_⟩
    have hcodes := (Text.codeOrder_eq_lt_iff b.restpath a.restpath).mpr hlt
    have hgt : Text.compareCodes Char.toNat a.restpath b.restpath = .gt :=
      Std.OrientedCmp.gt_of_lt hcodes
    exact hgt

/-! ### The listing and the search -/

namespace Session

/-- What is found is shown as it comes, with sizes and dates. -/
def showFound (found : Except Failure (List Document)) : Action Unit := do
  let ds ← orRefuse found
  if ds.isEmpty then say (styled "yellow" "No files found.".toList)
  else showGrid (← attempt (sizeListing ds))

/-- A listing shows what is below a short path, put in order. -/
theorem course_listDocuments (shortpath : Option Text) (s : Session) :
    course (listDocuments shortpath) s =
      course (showFound ((s.table.below shortpath).map inOrder)) s := by
  rw [listDocuments, course_bind_of_ok course_get]
  cases s.table.below shortpath with
  | error e =>
    obtain ⟨stop, printed, hstop⟩ := exists_course_orRefuse e s
    rw [showFound, Except.map, course_bind_of_error hstop, course_bind_of_error hstop]
  | ok ds =>
    have hempty : (inOrder ds).isEmpty = ds.isEmpty := (sortBy_perm _ ds).isEmpty_eq
    show course (if ds.isEmpty then _ else _) s = course (if (inOrder ds).isEmpty then _ else _) s
    rw [hempty]

end Session

namespace Table

variable {t : Table} {ds : List Document}

/-- Without filters the documents are gone over along the index of the order, and without an order
by their numbers. -/
theorem plan_search : Plan.ofQuery .everything lexicalOrder none =
    .alongOnly [.package, .restpath] := rfl

theorem plan_below : Plan.ofQuery .everything [] none = .alongOnly [] := rfl

theorem below_none : t.below none = (t.select .everything [] 0 none).mapError Failure.store := rfl

theorem search_all :
    t.search {} = (t.select .everything lexicalOrder 0 none).mapError Failure.store := rfl

theorem select_closed (hclosed : t.access = .closed) {p : Predicate} (hp : p.Writable)
    (keys : List SortKey) (offset : Int) (limit : Option Int) :
    t.select p keys offset limit = .error .closed := by
  obtain ⟨c, hc⟩ := hp
  simp only [select, hc, view, hclosed]

/-- What is below no short path, in order, is what a search without filters returns. -/
theorem search_all_eq (hs : t.store.Sound) : t.search {} = (t.below none).map inOrder := by
  have hwritable := Predicate.answerable_everything.writable
  rw [search_all, below_none]
  by_cases hopen : t.access = .closed
  · rw [select_closed hopen hwritable, select_closed hopen hwritable]
    rfl
  have hselect : ∀ keys, t.select .everything keys 0 none =
      .ok (sortBy (SortKey.compare keys) (t.store.found .everything keys none)) := fun keys =>
    (select_eq hwritable hopen).trans
      (Store.select_of_answerable Predicate.answerable_everything keys rfl)
  rw [hselect, hselect]
  show Except.ok _ = Except.ok (inOrder _)
  rw [inOrder_eq]
  -- either list ascends, and breaks ties by the number of the documents
  have hsearch := pairwise_sortBy (hs.breaksTiesBy_id [.package, .restpath] none plan_search)
  have hbelow := pairwise_sortBy (hs.breaksTiesBy_id [] none plan_below)
  refine congrArg _ (eq_of_perm_of_pairwise_before (fun a b hab => Nat.lt_asymm hab) hsearch
    (pairwise_sortBy (hbelow.imp ?_)) ?_)
  · rintro a b (hlt | ⟨-, hid⟩) -
    · cases hlt
    · exact hid
  · refine (sortBy_perm _ _).trans ((hs.found_perm _ _ none).trans ?_)
    exact ((sortBy_perm _ _).trans ((sortBy_perm _ _).trans (hs.found_perm _ _ none))).symm

/-- **A listing in its order is a search without filters**, document by document, whether the table
is open or closed.  The listing compares code points and the search compares octets of UTF-8; that
makes no difference for any two texts, nor for any list of documents.  What both return is every
document once, by package and then by the path below it; and the listing shows exactly what it
would show if it took the answers of the search as they come. -/
theorem law_of_listing (t : Table) (hs : t.store.Reachable) :
    (∀ s u : Text, (Utf8.encode s < Utf8.encode u ↔ s < u) ∧ Utf8.order s u = Text.codeOrder s u) ∧
    (∀ ds : List Document, inOrder ds = sortBy (SortKey.compare lexicalOrder) ds) ∧
    t.search {} = (t.below none).map inOrder ∧
    (t.access ≠ .closed → ∃ ds, t.search {} = .ok ds ∧ ds.Nodup ∧
      (∀ d, d ∈ ds ↔ d ∈ t.store.documents) ∧
      ds.Pairwise (fun a b =>
        a.package < b.package ∨ (a.package = b.package ∧ ¬b.restpath < a.restpath))) ∧
    (∀ session : Session, session.table = t →
      Session.course (Session.listDocuments none) session =
        Session.course (Session.showFound (t.search {})) session) := by
  have hsearch := search_all_eq hs.sound
  refine ⟨fun s u => ⟨Utf8.encode_lt_encode_iff s u, Utf8.order_eq_codeOrder s u⟩, inOrder_eq,
    hsearch, fun hopen => ?_, ?_⟩
  · obtain ⟨ds, hbelow, hnodup, hmem⟩ := exists_below_all hs.sound hopen (s := none) (Or.inl rfl)
    have hperm : (inOrder ds).Perm ds := sortBy_perm _ ds
    refine ⟨inOrder ds, by rw [hsearch, hbelow]; rfl, hperm.nodup_iff.mpr hnodup, fun d => ?_,
      pairwise_inOrder ds⟩
    rw [hperm.mem_iff, hmem]
  · rintro session rfl
    rw [Session.course_listDocuments, hsearch]

/-- A table with a package beyond U+FFFF, and with a path that is a beginning of another. -/
def mixed : Table :=
  ({} : Table).afterAll [putting "/a" "😀" "r" "x", putting "/b" "\uFFFD" "r/s" "x",
    putting "/c" "\uFFFD" "r" "x"]

/-- U+1F600 comes behind U+FFFD, though it begins with a lower unit in UTF-16, and a path comes
before the one that it is a beginning of. -/
theorem law_of_listing_mixed :
    ∃ ds, mixed.search {} = .ok ds ∧ (mixed.below none).map inOrder = .ok ds ∧
      ds.map Document.id = [3, 2, 1] := by
  obtain ⟨-, -, hsearch, -⟩ := law_of_listing mixed (intact_empty.afterAll _).store
  exact ⟨_, hsearch.trans (by rfl), by rfl, by decide +kernel⟩

end Table

end PackageCatalog
