import Mathlib.Algebra.GroupWithZero.Nat
import PackageCatalog.Proofs.Catalogue.Listing
import PackageCatalog.Proofs.Command.Showing

/-!
# Counting documents

A table is counted by its size, by what is read from it in several ways, and package by package.
The counts of packages are the lengths of the runs in a sorted list; so they are looked at for any
list of values that ascends.

## Main definitions

* `Tallies` — a list of values with the number of times that each of them occurs.

## Main results

* `tallies_countRuns` — the runs of a list that ascends.
* `Store.tallies_countBy` — the counts of the values of any field.
* `Table.law_of_counting` — **all ways of counting the documents of a table agree.**
-/

namespace PackageCatalog

/-! ### Tallies -/

variable {c d : Cell} {cs cs' : List Cell} {rs : List (Cell × Nat)} {n : Nat}

theorem Cell.Precedes.ne (h : c.Precedes d) : c ≠ d := by
  rintro rfl
  have heq : Cell.order c c = .eq := Cell.order_eq_eq_iff.mpr rfl
  rw [Cell.order_eq_lt_iff.mpr h] at heq
  cases heq

/-- A tally of values: each of them once and in ascending order, with the number of times that it
occurs among them. -/
structure Tallies (cs : List Cell) (rs : List (Cell × Nat)) : Prop where
  ascends : (rs.map Prod.fst).Pairwise Cell.Precedes
  keys : ∀ c, c ∈ rs.map Prod.fst ↔ c ∈ cs
  counts : ∀ r ∈ rs, cs.count r.1 = r.2
  total : (rs.map Prod.snd).sum = cs.length

namespace Tallies

/-- A tally does not depend on the order of the values. -/
theorem perm (h : Tallies cs rs) (hp : cs.Perm cs') : Tallies cs' rs where
  ascends := h.ascends
  keys c := (h.keys c).trans hp.mem_iff
  counts r hr := (hp.count_eq r.1).symm.trans (h.counts r hr)
  total := h.total.trans hp.length_eq

/-- One more of the least value. -/
theorem again (h : Tallies cs ((d, n) :: rs)) : Tallies (d :: cs) ((d, n + 1) :: rs) where
  ascends := h.ascends
  keys c := by
    rw [List.map_cons, List.mem_cons, List.mem_cons, ← h.keys c, List.map_cons, List.mem_cons,
      or_self_left]
  counts r hr := by
    obtain ⟨hfirst, -⟩ := List.pairwise_cons.mp h.ascends
    rcases List.mem_cons.mp hr with rfl | hr
    · rw [List.count_cons_self, h.counts (d, n) List.mem_cons_self]
    · have hne := (hfirst r.1 (List.mem_map_of_mem hr)).ne
      rw [List.count_cons_of_ne hne, h.counts r (List.mem_cons_of_mem _ hr)]
  total := by
    have htotal := h.total
    rw [List.map_cons, List.sum_cons] at htotal
    rw [List.map_cons, List.sum_cons, List.length_cons, ← htotal]
    omega

/-- A value before all others. -/
theorem fresh (h : Tallies cs rs) (hc : ∀ d ∈ rs.map Prod.fst, c.Precedes d) :
    Tallies (c :: cs) ((c, 1) :: rs) where
  ascends := List.pairwise_cons.mpr ⟨hc, h.ascends⟩
  keys d := by rw [List.map_cons, List.mem_cons, List.mem_cons, h.keys d]
  counts r hr := by
    rcases List.mem_cons.mp hr with rfl | hr
    · have hnone : c ∉ cs := fun hmem => (hc c ((h.keys c).mpr hmem)).ne rfl
      rw [List.count_cons_self, List.count_eq_zero.mpr hnone]
    · have hne := (hc r.1 (List.mem_map_of_mem hr)).ne
      rw [List.count_cons_of_ne hne, h.counts r hr]
  total := by
    rw [List.map_cons, List.sum_cons, h.total, List.length_cons, Nat.add_comm]

end Tallies

/-- **The runs of values that ascend** are a tally of them. -/
theorem tallies_countRuns : ∀ {cs : List Cell}, cs.Pairwise (fun c d => Cell.order c d ≠ .gt) →
    Tallies cs (Store.countRuns cs) := by
  intro cs
  induction cs with
  | nil => exact fun _ => ⟨.nil, fun _ => Iff.rfl, fun _ hr => absurd hr List.not_mem_nil, rfl⟩
  | cons c cs ih =>
    intro h
    obtain ⟨hc, hcs⟩ := List.pairwise_cons.mp h
    have htally := ih hcs
    rw [Store.countRuns]
    split
    · next hruns =>
      rw [hruns] at htally
      exact htally.fresh (fun _ hd => absurd hd List.not_mem_nil)
    · next d n rest hruns =>
      rw [hruns] at htally
      split
      · next heq =>
        obtain rfl := Cell.order_eq_eq_iff.mp (eq_of_beq heq)
        exact htally.again
      · next hne =>
        -- the first value is before the first of the others, and that one before the rest
        refine htally.fresh (fun e he => ?_)
        have hd : Cell.order c d = .lt := by
          have hgt := hc d ((htally.keys d).mp List.mem_cons_self)
          cases horder : Cell.order c d with
          | lt => rfl
          | eq => exact absurd (by rw [horder]; rfl) hne
          | gt => exact absurd horder hgt
        rcases List.mem_cons.mp he with rfl | he
        · exact Cell.order_eq_lt_iff.mp hd
        · have hde := (List.pairwise_cons.mp htally.ascends).1 e he
          exact Cell.order_eq_lt_iff.mp
            (Std.TransCmp.lt_trans hd (Cell.order_eq_lt_iff.mpr hde))

/-- **The counts of the values of a field** are a tally of them. -/
theorem Store.tallies_countBy (s : Store) (f : Field) :
    Tallies (s.documents.map (fun d => d.get f)) (s.countBy f) :=
  (tallies_countRuns (sortBy_ascends _)).perm (sortBy_perm _ _)

/-- The counts of packages, by their names. -/
theorem Store.exists_packageCounts (s : Store) :
    ∃ counts : List (Text × Nat),
      s.countBy .package = counts.map (fun c => (Cell.text c.1, c.2)) ∧
      ((counts.map Prod.fst).Pairwise (fun p q => Utf8.encode p < Utf8.encode q) ∧
        ∀ p, p ∈ counts.map Prod.fst ↔ ∃ d ∈ s.documents, d.package = p) ∧
      (∀ c ∈ counts, (s.documents.filter (fun d => d.package = c.1)).length = c.2) ∧
      (counts.map Prod.snd).sum = s.documents.length := by
  have htally := s.tallies_countBy .package
  have htext : ∀ r ∈ s.countBy .package, (Cell.text r.1.plain, r.2) = r := by
    intro r hr
    obtain ⟨d, -, hd⟩ := List.mem_map.mp ((htally.keys r.1).mp (List.mem_map_of_mem hr))
    rw [← Prod.eta r, ← hd]
    rfl
  -- every key is the name of a package
  obtain ⟨counts, hcounts⟩ : ∃ counts : List (Text × Nat),
      s.countBy .package = counts.map (fun c => (Cell.text c.1, c.2)) := by
    refine ⟨(s.countBy .package).map (fun r => (r.1.plain, r.2)), ?_⟩
    rw [List.map_map]
    exact ((List.map_congr_left htext).trans (List.map_id _)).symm
  have hkeys : (counts.map (fun c => (Cell.text c.1, c.2))).map Prod.fst =
      (counts.map Prod.fst).map Cell.text := by
    rw [List.map_map, List.map_map]
    rfl
  rw [hcounts] at htally
  refine ⟨counts, hcounts, ⟨?_, fun p => ?_⟩, fun c hc => ?_, ?_⟩
  · have hascends := htally.ascends
    rw [hkeys] at hascends
    exact List.Pairwise.of_map Cell.text (fun _ _ h => h) hascends
  · have hmem := htally.keys (.text p)
    rw [hkeys, List.mem_map_of_injective (fun _ _ => Cell.text.inj)] at hmem
    rw [hmem, List.mem_map]
    exact exists_congr (fun d => and_congr_right (fun _ => ⟨Cell.text.inj, congrArg Cell.text⟩))
  · have hcount := htally.counts _ (List.mem_map_of_mem hc)
    rw [← hcount, List.count, List.countP_map, List.countP_eq_length_filter]
    refine congrArg List.length (List.filter_congr (fun d _ => ?_))
    rw [Bool.eq_iff_iff, decide_eq_true_iff, Function.comp_apply, beq_iff_eq]
    exact ⟨congrArg Cell.text, Cell.text.inj⟩
  · have htotal := htally.total
    rw [List.length_map, List.map_map] at htotal
    exact htotal

/-! ### Ways of counting -/

namespace Table

variable {t : Table}

/-- The rows of a table, as they are dumped. -/
def dump (t : Table) : Except StoreError (List Contents) :=
  t.documents.map (fun ds => ds.map (·.toContents))

/-- What is printed of a dump is one line for each row. -/
theorem course_dumpDocuments {s : Session} {ds : List Document} (h : s.table.documents = .ok ds) :
    ∃ s', Session.course Session.dumpDocuments s = (.ok (), s') ∧
      s'.printed.length = s.printed.length + ds.length := by
  have hask : s.table.documents.mapError Failure.store = .ok ds := by rw [h]; rfl
  rw [Session.dumpDocuments, Session.course_bind_of_ok (Session.course_ask_of_ok hask),
    Session.note, Session.course_bind_of_ok (Session.course_modify _)]
  refine ⟨_, Session.course_bind_of_ok (Session.course_forIn
    (p := fun d => [Layout.page (s.gallery.drawn d.shownRow)]) (fun d _ ts => ?_)), ?_⟩
  · rw [Session.course_bind_of_ok (Session.course_sayPlain _), Session.printing_printing]
    rfl
  · simp [Session.printing, Nat.add_comm]

theorem documents_eq (hopen : t.access ≠ .closed) : t.documents = .ok t.store.documents := by
  rw [documents, view_eq_ok hopen]
  rfl

/-- Lists of the same documents, each of them once, are equally long. -/
theorem length_eq_of_mem_iff {ds es : List Document} (hds : ds.Nodup) (hes : es.Nodup)
    (h : ∀ d, d ∈ ds ↔ d ∈ es) : ds.length = es.length :=
  ((List.perm_ext_iff_of_nodup hds hes).mpr h).length_eq

/-- **All ways of counting the documents of a table agree**, whatever changes have led to it.

* Its size is the number of its documents, of the rows that are dumped and of the lines that a dump
  prints, of what a search without filters finds, of what is below no short path and below the empty
  one, and it is the sum of the counts of its packages.
* The packages that are counted are those of the documents, each once, in the order of their
  octets.
* The count of a package is the number of its documents; and if the name is not empty and has no
  slash, that is how many are below it. -/
theorem law_of_counting (t : Table) (hs : t.store.Reachable) (hopen : t.access ≠ .closed) :
    ∃ (ds found listed : List Document) (rows : List Contents) (counts : List (Text × Nat)),
      (t.documents = .ok ds ∧ t.dump = .ok rows ∧ t.search {} = .ok found ∧
        t.below (some []) = .ok listed ∧ t.below none = .ok listed ∧
        t.packageCounts = .ok (counts.map (fun c => (Cell.text c.1, c.2)))) ∧
      (t.size = .ok ds.length ∧ rows.length = ds.length ∧ found.length = ds.length ∧
        listed.length = ds.length ∧ (counts.map Prod.snd).sum = ds.length ∧
        ∀ session : Session, session.table = t →
          ∃ s', Session.course Session.dumpDocuments session = (.ok (), s') ∧
            s'.printed.length = session.printed.length + ds.length) ∧
      ((counts.map Prod.fst).Pairwise (fun p q => Utf8.encode p < Utf8.encode q) ∧
        ∀ p, p ∈ counts.map Prod.fst ↔ ∃ d ∈ ds, d.package = p) ∧
      ∀ c ∈ counts, (ds.filter (fun d => d.package = c.1)).length = c.2 ∧
        (c.1 ≠ [] → '/' ∉ c.1 → ∃ es, t.below (some c.1) = .ok es ∧ es.length = c.2) := by
  have hsound := hs.sound
  have hdocuments := documents_eq hopen
  obtain ⟨listed, hlisted, hnodup, hmem⟩ := exists_below_all hsound hopen (s := none) (Or.inl rfl)
  -- what is listed are the documents in another order
  have hlength := length_eq_of_mem_iff hnodup hsound.nodup hmem
  have hsearch : t.search {} = .ok (inOrder listed) := by rw [search_all_eq hsound, hlisted]; rfl
  obtain ⟨counts, hcounts, hkeys, hvalues, htotal⟩ := t.store.exists_packageCounts
  refine ⟨t.store.documents, inOrder listed, listed, _, counts,
    ⟨hdocuments, by rw [dump, hdocuments]; rfl, hsearch, hlisted, hlisted, ?_⟩,
    ⟨by rw [size, view_eq_ok hopen]; rfl, List.length_map _, ?_, hlength, htotal, ?_⟩, hkeys,
    fun c hc => ⟨hvalues c hc, fun hne hfree => ?_⟩⟩
  · rw [packageCounts, countBy, show Field.ofName? Field.package.name.toList =
      some .package from rfl]
    dsimp only
    rw [view_eq_ok hopen, ← hcounts]
    rfl
  · exact (sortBy_perm _ listed).length_eq.trans hlength
  · rintro session rfl
    exact course_dumpDocuments hdocuments
  · obtain ⟨es, hes, hbelow⟩ := mem_below_iff hopen hsound hne hfree
    refine ⟨es, hes, ?_⟩
    rw [← hvalues c hc]
    refine length_eq_of_mem_iff (stored_of_below hsound hes).1 (hsound.nodup.filter _) (fun d => ?_)
    rw [hbelow, List.mem_filter, decide_eq_true_iff]

/-- Two packages of which the first has two documents. -/
theorem law_of_counting_mixed :
    (mixed.store.Reachable ∧ mixed.access ≠ .closed) ∧
      mixed.packageCounts = .ok [(.text "\uFFFD".toList, 2), (.text "😀".toList, 1)] ∧
      ∃ es, mixed.below (some "\uFFFD".toList) = .ok es ∧ es.length = 2 := by
  have hs : mixed.store.Reachable := (intact_empty.afterAll _).store
  have hopen : mixed.access ≠ .closed := by decide +kernel
  obtain ⟨ds, found, listed, rows, counts, ⟨-, -, -, -, -, hcounts⟩, -, -, hbelow⟩ :=
    law_of_counting mixed hs hopen
  have hvalue : mixed.packageCounts =
      .ok [(.text "\uFFFD".toList, 2), (.text "😀".toList, 1)] := by rfl
  have hmem : ("\uFFFD".toList, 2) ∈ counts := by
    rw [hvalue] at hcounts
    have hfirst : (Cell.text "\uFFFD".toList, 2) ∈
        counts.map (fun c => (Cell.text c.1, c.2)) := by
      rw [← Except.ok.inj hcounts]
      exact List.mem_cons_self
    obtain ⟨⟨p, n⟩, hc, heq⟩ := List.mem_map.mp hfirst
    cases heq
    exact hc
  exact ⟨⟨hs, hopen⟩, hvalue, (hbelow _ hmem).2 (by decide) (by decide)⟩

end Table

end PackageCatalog
