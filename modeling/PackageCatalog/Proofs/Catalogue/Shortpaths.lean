import PackageCatalog.Proofs.Catalogue.Contents
import PackageCatalog.Proofs.Catalogue.Divided
import PackageCatalog.Proofs.Command.Removal
import PackageCatalog.Proofs.Command.Stopping
import PackageCatalog.Proofs.Text.Charset

/-!
# Documents by short path

A short path is written from a package and a restpath with a slash between them, and is cut again at
its first slash.  So a package without a slash, and any restpath whatever, come back from the short
path of a document; and the lookup of a short path, which compares both parts exactly, finds a
document at that place when there is one.

## Main definitions

* `Text.namedPlace` — the package and the restpath that a short path names.
* `Predicate.place` — the condition that a document stands at a place.

## Main results

* `Contents.splitShort_shortpath` — **a short path is cut into what it was written from.**
* `Table.exists_findShort` — a lookup returns a document at the place that is named, or none if
  there is none.
* `Candidate.Describes.package_of_directory` — a name that is taken from a directory has no slash.
* `Table.law_of_shortpaths` — **the law of lookups by short path.**
-/

namespace PackageCatalog

/-! ### Short paths -/

/-- The package and the restpath that a short path names; no rest is an empty one. -/
def Text.namedPlace (s : Text) : Text × Text :=
  ((Path.splitShort s).1, (Path.splitShort s).2.getD [])

namespace Contents

variable {c : Contents}

/-- **A short path is cut into what it was written from.** -/
theorem splitShort_shortpath (h : '/' ∉ c.package) :
    Path.splitShort c.shortpath =
      (c.package, if c.restpath = [] then none else some c.restpath) := by
  rw [Path.splitShort_eq_iff]
  refine ⟨Text.free_of_not_mem h, ?_⟩
  unfold shortpath
  by_cases hrest : c.restpath = []
  · rw [if_pos (List.isEmpty_iff.mpr hrest), if_pos hrest]
    exact (List.append_nil _).symm
  · rw [if_neg (mt List.isEmpty_iff.mp hrest), if_neg hrest]
    rfl

theorem namedPlace_shortpath (h : '/' ∉ c.package) :
    Text.namedPlace c.shortpath = (c.package, c.restpath) := by
  rw [Text.namedPlace, splitShort_shortpath h]
  by_cases hrest : c.restpath = []
  · rw [if_pos hrest, hrest]
    rfl
  · rw [if_neg hrest]
    rfl

end Contents

/-! ### Exact lookups -/

/-- The document stands at a place: both its package and its restpath are given. -/
def Predicate.place (package rest : Text) : Predicate :=
  .all [.equals .package package, .equals .restpath rest]

theorem Predicate.answerable_place (package rest : Text) : (place package rest).Answerable :=
  ⟨⟨_, rfl⟩, rfl, rfl⟩

theorem Document.satisfies_place_iff {d : Document} {package rest : Text} :
    d.Satisfies (.place package rest) ↔ d.place = (package, rest) := by
  rw [Predicate.place, satisfies_all_iff, List.forall_mem_cons, List.forall_mem_singleton,
    satisfies_equals_iff rfl, satisfies_equals_iff rfl]
  simp [Contents.get, Document.place]

namespace Table

variable {t : Table} {s : Text}

/-- A lookup asks for one document at the place that is named. -/
theorem findShort_eq (h : (Path.splitShort s).1 ≠ []) :
    t.findShort (some s) =
      ((t.select (.place (Text.namedPlace s).1 (Text.namedPlace s).2) [] 0 (some 1)).mapError
        Failure.store).map List.head? := by
  let first := fun r : Except StoreError (List Document) =>
    (r.mapError Failure.store).map List.head?
  unfold findShort
  rw [divideShort_of_package h]
  dsimp only
  split
  · next e hselect => exact (congrArg first hselect).symm
  · next ds hselect => exact (congrArg first hselect).symm

/-- **A lookup returns a document at the place that is named**, and none only if none stands there.
-/
theorem exists_findShort (hs : t.store.Sound) (hopen : t.access ≠ .closed)
    (h : (Path.splitShort s).1 ≠ []) :
    ∃ found, t.findShort (some s) = .ok found ∧
      (found = none ↔ ∀ d ∈ t.store.documents, d.place ≠ Text.namedPlace s) ∧
      ∀ e ∈ found, e ∈ t.store.documents ∧ e.place = Text.namedPlace s := by
  have hp := Predicate.answerable_place (Text.namedPlace s).1 (Text.namedPlace s).2
  generalize hfound : sortBy (SortKey.compare []) (t.store.found
    (.place (Text.namedPlace s).1 (Text.namedPlace s).2) [] (some 1)) = found at *
  have hselect : t.select (.place (Text.namedPlace s).1 (Text.namedPlace s).2) [] 0 (some 1) =
      .ok (found.take 1) := by
    rw [select_eq hp.writable hopen, Store.select_of_answerable hp [] (by decide), hfound]
    rfl
  have hmem : ∀ d, d ∈ found ↔ d ∈ t.store.documents ∧ d.place = Text.namedPlace s := by
    intro d
    rw [← hfound, mem_sortBy, (hs.found_perm _ _ _).mem_iff, Store.mem_matching hp.writable,
      Document.satisfies_place_iff]
  refine ⟨found.head?, ?_, ?_, fun e he => (hmem e).mp (List.mem_of_mem_head? he)⟩
  · rw [findShort_eq h, hselect]
    show Except.ok (found.take 1).head? = _
    cases found <;> rfl
  · rw [List.head?_eq_none_iff, List.eq_nil_iff_forall_not_mem]
    exact forall_congr' (fun d => by rw [hmem, not_and])

end Table

/-! ### Names of directories -/

namespace Path

open PathAlphabet

/-- The base name of a collapsed name is empty at the root only. -/
theorem collapse_of_baseName_eq_nil {n : NativeName} (h : baseName (collapse n) = []) :
    ∃ k, collapse n = List.replicate (k + 1) slash := by
  unfold collapse at h ⊢
  dsimp only at h ⊢
  generalize hkept : ((segments n).foldl (collapseStep (rootSlashes n != 0)) []).reverse = kept at *
  have hsegment : ∀ s ∈ kept, s ≠ [] ∧ Text.Free slash s := by
    intro s hs
    rw [← hkept, List.mem_reverse] at hs
    obtain ⟨hmem, hidle⟩ := (mem_foldl_collapseStep hs).resolve_left List.not_mem_nil
    refine ⟨?_, Text.free_of_mem_pieces hmem⟩
    rintro rfl
    cases hidle
  split at h
  · -- nothing is left, and the dot that stands for it has a name
    cases h
  · next hne =>
    rw [if_neg hne]
    by_cases hnil : kept = []
    · subst hnil
      obtain ⟨k, hk⟩ : ∃ k, rootSlashes n = k + 1 := by
        refine Nat.exists_eq_succ_of_ne_zero (fun hzero => hne ?_)
        rw [hzero]
        rfl
      exact ⟨k, by rw [hk]; exact List.append_nil _⟩
    · -- the base name is the last segment that is kept
      have hsegments : segments (ofSegments kept) = kept :=
        Text.pieces_joined hnil (fun s hs => (hsegment s hs).2)
      have hlast : baseName (List.replicate (rootSlashes n) slash ++ ofSegments kept) =
          kept.getLast hnil := by
        rw [baseName, segments_replicate_append, hsegments, List.getLast?_append_of_ne_nil _ hnil,
          List.getLast?_eq_some_getLast hnil]
        rfl
      exact absurd (hlast.symm.trans h) (hsegment _ (List.getLast_mem hnil)).1

end Path

/-- **A name has an empty text when it is empty**, or when it is nothing but the mark of the
encoding that it is said to be in. -/
theorem eq_nil_of_nameText {detect : Detector} {n : NativeName} (h : nameText detect n = .ok []) :
    n = [] ∨ ∃ raw guess charset, n.toBytes? = some raw ∧ detect.Says raw guess ∧
      Charset.ofName? guess = some charset ∧ ∃ mark ∈ charset.marks, raw = mark.1 := by
  have hspelled : ∀ {α : Type} {code : Bytes → α → Prop} {bs : Bytes},
      Text.Spells code bs [] → bs = [] := by
    rintro α code bs ⟨⟩
    rfl
  obtain ⟨raw, hraw, hcanonical⟩ := exists_canonical_of_nameText h
  have hnil : raw = [] → n = [] := by
    rintro rfl
    cases n with
    | nil => rfl
    | cons u n =>
      obtain ⟨front, back, hfront, -, happend⟩ := NativeName.toBytes?_cons_eq_some_iff.mp hraw
      exact absurd (List.append_eq_nil_iff.mp happend.symm).1 (NameUnit.ne_nil_of_toBytes? hfront)
  rcases canonical_eq_ok_iff.mp hcanonical with
    hutf8 | ⟨-, guess, charset, hsaid, hname, ⟨mark, hmark, rest, hwritten, hspells⟩ | ⟨-, hspells⟩⟩
  · exact Or.inl (hnil hutf8)
  · refine Or.inr ⟨raw, guess, charset, hraw, hsaid, hname, mark, hmark, ?_⟩
    rw [hwritten, hspelled hspells, List.append_nil]
  · exact Or.inl (hnil (hspelled hspells))

namespace Candidate.Describes

variable {c : Candidate} {detect : Detector} {tree : FileTree} {directory rest : NativeName}

/-- **A package that takes its name from a directory has no slash.** -/
theorem package_of_directory (h : c.Describes detect tree directory rest none) :
    '/' ∉ c.package := by
  intro hslash
  have hmem := mem_of_mem_nameText (by decide) h.package hslash
  have hfree : Text.Free PathAlphabet.slash (Path.baseName (Path.collapse directory)) := by
    unfold Path.baseName
    cases hlast : (Path.segments (Path.collapse directory)).getLast? with
    | none => exact fun _ h => absurd h List.not_mem_nil
    | some last => exact Text.free_of_mem_pieces (List.mem_of_getLast? hlast)
  exact absurd (hfree _ hmem) (by decide)

/-- A package that takes its name from a directory is empty only for the root, and for a name that
is nothing but the mark of the encoding that it is said to be in. -/
theorem package_eq_nil (h : c.Describes detect tree directory rest none) (hempty : c.package = []) :
    (∃ k, Path.collapse directory = List.replicate (k + 1) PathAlphabet.slash) ∨
      ∃ raw guess charset,
        NativeName.toBytes? (Path.baseName (Path.collapse directory)) = some raw ∧
        detect.Says raw guess ∧ Charset.ofName? guess = some charset ∧
          ∃ mark ∈ charset.marks, raw = mark.1 := by
  have hpackage : nameText detect (Path.baseName (Path.collapse directory)) = .ok [] :=
    hempty ▸ h.package
  rcases eq_nil_of_nameText hpackage with hnil | hmark
  · exact Or.inl (Path.collapse_of_baseName_eq_nil hnil)
  · exact Or.inr hmark

end Candidate.Describes

/-! ### The command -/

namespace Session

/-- A command stops at a failure, and nothing changes but what was printed. -/
theorem exists_course_orRefuse {α : Type} (e : Failure) (s : Session) :
    ∃ stop printed,
      course (orRefuse (.error e) : Action α) s = (.error stop, { s with printed }) := by
  unfold orRefuse
  dsimp only
  split
  · rw [course_refuse]
    cases Markup.display s.gallery (errorText e.message) with
    | ok x => exact ⟨_, _, rfl⟩
    | error _ => exact ⟨_, _, rfl⟩
  · exact ⟨_, s.printed, rfl⟩

/-- Showing a document whose short path names no package stops there. -/
theorem exists_course_showDocument {s : Session} {shortpath : Text} {e : Failure}
    (h : s.table.findShort (some shortpath) = .error e) (numbered : Bool) :
    ∃ stop printed, course (showDocument shortpath numbered) s =
      (.error stop, { s with printed }) := by
  obtain ⟨stop, printed, hstop⟩ := exists_course_orRefuse e s
  refine ⟨stop, printed, ?_⟩
  rw [showDocument, course_bind_of_ok course_get, h, course_bind_of_error hstop]

end Session

/-! ### The law -/

namespace Table

/-- **The law of lookups by short path**, for every table that was filled with files.

* The short path of a document whose package is not empty and has no slash is cut into the package
  and the restpath, and looking it up returns a document with both of them.
* A short path that names a package is looked up without a failure.  It finds nothing exactly when
  no document is at the place that it names; what it finds is stored there.
* A short path that is empty, or starts with a slash, is refused; the command that shows a document
  then stops, and leaves the session as it was but for what was printed.
* A package that takes its name from a directory has no slash.  It is empty for the root, and else
  only for a name that is nothing but the mark of the encoding that it is said to be in. -/
theorem law_of_shortpaths (detect : Detector) (calls : List Call) :
    let t := ({} : Table).afterCalls detect calls
    (∀ d ∈ t.store.documents, d.package ≠ [] → '/' ∉ d.package →
      Path.splitShort d.shortpath =
        (d.package, if d.restpath = [] then none else some d.restpath) ∧
      ∃ e ∈ t.store.documents, t.findShort (some d.shortpath) = .ok (some e) ∧
        e.package = d.package ∧ e.restpath = d.restpath) ∧
    (∀ s : Text, (Path.splitShort s).1 ≠ [] →
      ∃ found, t.findShort (some s) = .ok found ∧
        (found = none ↔ ¬∃ d ∈ t.store.documents, d.place = s.namedPlace) ∧
        ∀ e ∈ found, e ∈ t.store.documents ∧ e.place = s.namedPlace) ∧
    (∀ s : Text, s = [] ∨ s.head? = some '/' →
      t.findShort (some s) = .error (.badShortpath (some s)) ∧
      ∀ (session : Session) (numbered : Bool), session.table = t →
        ∃ stop printed, Session.course (Session.showDocument s numbered) session =
          (.error stop, { session with printed })) ∧
    (∀ (tree : FileTree) (directory rest : NativeName) (c : Candidate),
      Candidate.prepare detect tree directory rest none = .ok c →
        '/' ∉ c.package ∧
        (c.package = [] → (∃ k, Path.collapse directory = List.replicate (k + 1) (.char '/')) ∨
          ∃ raw guess charset,
            NativeName.toBytes? (Path.baseName (Path.collapse directory)) = some raw ∧
              detect.Says raw guess ∧ Charset.ofName? guess = some charset ∧
                ∃ mark ∈ charset.marks, raw = mark.1)) := by
  intro t
  have ht : t.Kept := kept_empty.afterCalls calls
  have hopen : t.access ≠ .closed := by simp [ht.ready]
  have hlookup := fun (s : Text) (h : (Path.splitShort s).1 ≠ []) =>
    exists_findShort ht.reachable.sound hopen h
  refine ⟨fun d hd hne hfree => ?_, fun s hs => ?_, fun s hs => ?_,
    fun tree directory rest c hc => ?_⟩
  · have hsplit := Contents.splitShort_shortpath hfree
    refine ⟨hsplit, ?_⟩
    obtain ⟨found, hfound, hnone, hsome⟩ := hlookup d.shortpath (by rw [hsplit]; exact hne)
    rw [Contents.namedPlace_shortpath hfree] at hnone hsome
    cases found with
    | none => exact absurd rfl (hnone.mp rfl d hd)
    | some e =>
      obtain ⟨he, hplace⟩ := hsome e rfl
      exact ⟨e, he, hfound, congrArg Prod.fst hplace, congrArg Prod.snd hplace⟩
  · obtain ⟨found, hfound, hnone, hsome⟩ := hlookup s hs
    refine ⟨found, hfound, ?_, hsome⟩
    simp only [hnone, not_exists, not_and, ne_eq]
  · have hdivide : divideShort (some s) = .error (.badShortpath (some s)) := by
      refine divideShort_eq_error_iff.mpr ⟨?_, rfl⟩
      rcases hs with rfl | hs
      · exact nofun
      · exact fun c hc => Option.some.inj (hc.symm.trans hs)
    have hfind : t.findShort (some s) = .error (.badShortpath (some s)) := by
      rw [findShort, hdivide]
    refine ⟨hfind, ?_⟩
    intro session numbered htable
    exact Session.exists_course_showDocument (htable ▸ hfind) numbered
  · have hdescribes := Candidate.prepare_eq_ok_iff.mp hc
    exact ⟨hdescribes.package_of_directory, hdescribes.package_eq_nil⟩

/-- The one document is found by its short path; its package alone names no document, and a slash
names no package. -/
theorem law_of_shortpaths_lone :
    let t := ({} : Table).afterCalls (Detector.constant none) [adding 1000]
    ∃ d ∈ t.store.documents, (d.package ≠ [] ∧ '/' ∉ d.package) ∧
      (∃ e ∈ t.store.documents, t.findShort (some d.shortpath) = .ok (some e)) ∧
      (Path.splitShort ['p']).1 ≠ [] ∧ t.findShort (some ['p']) = .ok none ∧
      t.findShort (some ['/']) = .error (.badShortpath (some ['/'])) := by
  intro t
  obtain ⟨hown, hlookup, hbad, -⟩ := law_of_shortpaths (Detector.constant none) [adding 1000]
  have hplaces : t.store.documents.map Document.place = [(['p'], ['a'])] := by decide +kernel
  obtain ⟨d, hdocuments, hplace⟩ := List.map_eq_singleton_iff.mp hplaces
  have hd : d ∈ t.store.documents := hdocuments ▸ List.mem_singleton_self d
  have hpackage : d.package = ['p'] := congrArg Prod.fst hplace
  have hne : d.package ≠ [] := by rw [hpackage]; decide
  have hfree : '/' ∉ d.package := by rw [hpackage]; decide
  obtain ⟨-, e, he, hfound, -⟩ := hown d hd hne hfree
  have hp : (Path.splitShort ['p']).1 ≠ [] := by decide
  obtain ⟨found, hlone, hnone, -⟩ := hlookup ['p'] hp
  have hnowhere : found = none := by
    refine hnone.mpr ?_
    rintro ⟨e, he, heplace⟩
    rw [hdocuments, List.mem_singleton] at he
    rw [he, hplace] at heplace
    exact absurd heplace (by decide)
  exact ⟨d, hd, ⟨hne, hfree⟩, ⟨e, he, hfound⟩, hp, hnowhere ▸ hlone, (hbad ['/'] (Or.inr rfl)).1⟩

end Table

end PackageCatalog
