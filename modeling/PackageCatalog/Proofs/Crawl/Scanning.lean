import PackageCatalog.Crawl.Scan
import PackageCatalog.Proofs.Crawl.Selection

/-!
# What a scan yields

Of the selected paths a scan leaves out some by their name, and of the others it yields those of
text files.  It goes through them one after the other and ends at the first that the system does not
look at; nothing but a name that is too long can be the reason for that, or an error of the glob.

## Main definitions

* `Crawler.Yields` — a text file that is neither skipped nor ignored.
* `Crawler.Found` — a path below a directory that passes real directories only.

## Main results

* `Crawler.mem_sightAll`, `Crawler.sightAll_more` — what is met, and what is met with more patterns.
* `Crawler.law_of_scan` — **a scan yields, in order, the text files that it should find.**
-/

namespace PackageCatalog

namespace Glob

open PackageCatalog.Path

variable {a b : RestPath}

/-- Paths that are written from parts ascend as their components do. -/
theorem codes_segments_lt (ha : ∀ s ∈ a, IsPart s) (hb : ∀ s ∈ b, IsPart s)
    (h : codes a < codes b) :
    codes (segments (ofSegments a)) < codes (segments (ofSegments b)) := by
  cases b with
  | nil => exact absurd h (List.not_lt_nil _)
  | cons s b =>
    rw [segments_ofSegments_of_parts (List.cons_ne_nil s b) hb]
    cases a with
    | nil =>
      -- the directory itself is written as one empty segment, and comes before all parts
      obtain ⟨u, s', rfl⟩ := List.exists_cons_of_ne_nil (hb s List.mem_cons_self).ne_nil
      exact .rel .nil
    | cons r a =>
      rwa [segments_ofSegments_of_parts (List.cons_ne_nil r a) ha]

end Glob

namespace Crawler

open PackageCatalog.Path Glob FileTree

variable {tree : FileTree} {base : RealPath} {c : Crawler} {path : RestPath}
  {paths : List RestPath} {rest : NativeName} {found : List Sighting} {more : List Text} {t : Int}

/-! ### One path -/

/-- A text file that is neither skipped nor ignored. -/
structure Yields (c : Crawler) (tree : FileTree) (rest : NativeName) : Prop where
  file : ∃ body changed, tree.stat (nameBelow (tidy c.root) (segments rest)) =
    .ok (.file body changed) ∧ 0 ∉ body.bytes.take 8192
  kept : ∀ part ∈ segments rest, part ∉ skippedNames
  unmatched : ∀ pattern ∈ c.ignore, Wildcard.accepts pattern rest = false ∧
    ∀ last, (segments rest).getLast? = some last → Wildcard.accepts pattern last = false

/-- The paths of the text files that were met. -/
def texts (met : List Sighting) : List NativeName := met.filterMap Sighting.text?

theorem isIgnored_eq_false_iff : c.isIgnored rest = false ↔
    ∀ pattern ∈ c.ignore, Wildcard.accepts pattern rest = false ∧
      ∀ last, (segments rest).getLast? = some last → Wildcard.accepts pattern last = false := by
  obtain ⟨front, last, hlast⟩ :=
    (List.eq_nil_or_concat (segments rest)).resolve_left (Text.pieces_ne_nil _ _)
  have hget : (segments rest).getLast? = some last := by rw [hlast]; simp
  rw [isIgnored, List.any_eq_false]
  simp [baseName, hget]

/-- What is left out of the paths that are written from parts. -/
theorem leavesOut_eq_false_iff (hpath : ∀ s ∈ path, IsPart s) :
    c.leavesOut path = false ↔ (∀ part ∈ segments (ofSegments path), part ∉ skippedNames) ∧
      c.isIgnored (ofSegments path) = false := by
  have hskipped : path.any (fun part => skippedNames.contains part) = false ↔
      ∀ part ∈ segments (ofSegments path), part ∉ skippedNames := by
    by_cases hnil : path = []
    · subst hnil
      exact iff_of_true rfl (by decide)
    · rw [segments_ofSegments_of_parts hnil hpath]
      simp
  rw [leavesOut, Bool.or_eq_false_iff, hskipped]

theorem yields_ofSegments_iff (hpath : ∀ s ∈ path, IsPart s) :
    c.Yields tree (ofSegments path) ↔ c.leavesOut path = false ∧ ∃ body changed,
      tree.stat (nameBelow (tidy c.root) path) = .ok (.file body changed) ∧
        looksBinary body.bytes = false := by
  have hname : nameBelow (tidy c.root) (segments (ofSegments path)) =
      nameBelow (tidy c.root) path := by
    rw [nameBelow, ofSegments_segments, ← nameBelow]
  have hplain : ∀ b : Bytes, looksBinary b = false ↔ 0 ∉ b.take 8192 := by
    intro b
    simp [looksBinary, sniffLength]
  simp only [leavesOut_eq_false_iff hpath, hplain, ← hname]
  constructor
  · rintro ⟨hfile, hkept, hunmatched⟩
    exact ⟨⟨hkept, isIgnored_eq_false_iff.mpr hunmatched⟩, hfile⟩
  · rintro ⟨⟨hkept, hunmatched⟩, hfile⟩
    exact ⟨hfile, hkept, isIgnored_eq_false_iff.mp hunmatched⟩

/-- **What a path adds to a scan**: nothing, or itself where a file is; and a path that cannot be
tested stops the scan. -/
theorem sight_cases (c : Crawler) (tree : FileTree) (path : RestPath) :
    (c.leavesOut path = true ∧ c.sight tree path = .ok []) ∨
    c.leavesOut path = false ∧
      ((∃ e, tree.testEntry (nameBelow (tidy c.root) path) isFileEntry = .error e ∧
          c.sight tree path = .error e) ∨
        (tree.testEntry (nameBelow (tidy c.root) path) isFileEntry = .ok false ∧
          c.sight tree path = .ok []) ∨
        ∃ body changed, tree.stat (nameBelow (tidy c.root) path) = .ok (.file body changed) ∧
          c.sight tree path = .ok [if looksBinary body.bytes then .binaryFile (ofSegments path)
            else .textFile (ofSegments path)]) := by
  rw [sight]
  cases hleft : c.leavesOut path with
  | true => exact Or.inl ⟨rfl, rfl⟩
  | false =>
    refine Or.inr ⟨rfl, ?_⟩
    dsimp only
    rw [if_neg Bool.false_ne_true]
    cases htest : tree.testEntry (nameBelow (tidy c.root) path) isFileEntry with
    | error e => exact Or.inl ⟨e, rfl, rfl⟩
    | ok isFile =>
      cases isFile with
      | false => exact Or.inr (Or.inl ⟨rfl, rfl⟩)
      | true =>
        -- the octets that are looked at are those of the file that passed the test
        obtain ⟨body, changed, hstat⟩ := exists_file_of_testEntry htest
        have hbinary : isBinary tree (nameBelow (tidy c.root) path) =
            .ok (looksBinary body.bytes) := by
          rw [isBinary, FileTree.read, hstat]
        refine Or.inr (Or.inr ⟨body, changed, hstat, ?_⟩)
        rw [hbinary]
        cases looksBinary body.bytes <;> rfl

/-- A path adds itself to a scan or nothing. -/
theorem texts_of_sight (h : c.sight tree path = .ok found) :
    texts found = [] ∨ texts found = [ofSegments path] := by
  obtain ⟨-, hsight⟩ | ⟨-, ⟨e, -, hsight⟩ | ⟨-, hsight⟩ | ⟨body, changed, -, hsight⟩⟩ :=
    sight_cases c tree path
  all_goals
    rw [hsight] at h
    cases h
  · exact Or.inl rfl
  · exact Or.inl rfl
  · cases looksBinary body.bytes with
    | true => exact Or.inl rfl
    | false => exact Or.inr rfl

/-- A path adds itself if it is that of a text file and not left out. -/
theorem mem_texts_of_sight (h : c.sight tree path = .ok found) :
    rest ∈ texts found ↔ rest = ofSegments path ∧ c.leavesOut path = false ∧ ∃ body changed,
      tree.stat (nameBelow (tidy c.root) path) = .ok (.file body changed) ∧
        looksBinary body.bytes = false := by
  obtain ⟨hleft, hsight⟩ |
      ⟨hleft, ⟨e, -, hsight⟩ | ⟨htest, hsight⟩ | ⟨body, changed, hstat, hsight⟩⟩ :=
    sight_cases c tree path
  all_goals
    rw [hsight] at h
    cases h
  · simp [texts, hleft]
  · -- no file is there
    refine iff_of_false List.not_mem_nil ?_
    rintro ⟨-, -, body, changed, hstat, -⟩
    rw [testEntry_of_stat hstat] at htest
    cases htest
  · cases hlooks : looksBinary body.bytes with
    | true => simp [texts, Sighting.text?, hstat, hlooks]
    | false => simp [texts, Sighting.text?, hstat, hlooks, hleft]

/-- A path that is not looked at is too long. -/
theorem sight_eq_error {e : FileError} (h : c.sight tree path = .error e) :
    e = .system .nameTooLong (nameBelow (tidy c.root) path) ∧
      tree.TooLong (nameBelow (tidy c.root) path) := by
  obtain ⟨-, hsight⟩ | ⟨-, ⟨e', htest, hsight⟩ | ⟨-, hsight⟩ | ⟨body, changed, -, hsight⟩⟩ :=
    sight_cases c tree path
  all_goals
    rw [hsight] at h
    cases h
  exact testEntry_eq_error htest

/-! ### All paths -/

theorem texts_append (met met' : List Sighting) : texts (met ++ met') = texts met ++ texts met' :=
  List.filterMap_append

/-- What is met stands in the order of the paths. -/
theorem texts_sightAll_sublist (c : Crawler) (tree : FileTree) (paths : List RestPath) :
    (texts (c.sightAll tree paths).1).Sublist (paths.map ofSegments) := by
  induction paths with
  | nil => exact List.Sublist.refl _
  | cons path paths ih =>
    rw [sightAll]
    split
    · exact List.nil_sublist _
    · next found hfound =>
      dsimp only
      rw [texts_append, List.map_cons]
      rcases texts_of_sight hfound with h | h
      · rw [h]
        exact ih.cons _
      · rw [h]
        exact ih.cons_cons _

theorem exists_sight_of_mem (h : rest ∈ texts (c.sightAll tree paths).1) :
    ∃ path ∈ paths, ∃ found, c.sight tree path = .ok found ∧ rest ∈ texts found := by
  induction paths with
  | nil => cases h
  | cons path paths ih =>
    rw [sightAll] at h
    split at h
    · cases h
    · next found hfound =>
      dsimp only at h
      rw [texts_append] at h
      rcases List.mem_append.mp h with h | h
      · exact ⟨path, List.mem_cons_self, found, hfound, h⟩
      · obtain ⟨path', hpath', hmem⟩ := ih h
        exact ⟨path', List.mem_cons_of_mem path hpath', hmem⟩

/-- When nothing stops the scan, it looks at every path. -/
theorem sight_of_sightAll (hnone : (c.sightAll tree paths).2 = none) (hpath : path ∈ paths) :
    ∃ found, c.sight tree path = .ok found ∧
      ∀ rest ∈ texts found, rest ∈ texts (c.sightAll tree paths).1 := by
  induction paths with
  | nil => cases hpath
  | cons path' paths ih =>
    rw [sightAll] at hnone ⊢
    split at hnone
    · cases hnone
    · next found hfound =>
      dsimp only at hnone ⊢
      rw [texts_append]
      rcases List.mem_cons.mp hpath with rfl | hpath
      · exact ⟨found, hfound, fun rest h => List.mem_append_left _ h⟩
      · obtain ⟨found', hfound', hmem⟩ := ih hnone hpath
        exact ⟨found', hfound', fun rest h => List.mem_append_right _ (hmem rest h)⟩

theorem sightAll_eq_some {failure : Failure} (h : (c.sightAll tree paths).2 = some failure) :
    ∃ path ∈ paths, ∃ e, c.sight tree path = .error e ∧ failure = .file e := by
  induction paths with
  | nil => cases h
  | cons path paths ih =>
    rw [sightAll] at h
    split at h
    · next e he =>
      cases h
      exact ⟨path, List.mem_cons_self, e, he, rfl⟩
    · obtain ⟨path', hpath', hstop⟩ := ih h
      exact ⟨path', List.mem_cons_of_mem path hpath', hstop⟩

/-! ### More patterns -/

/-- The crawler with patterns added to those that it ignores. -/
def ignoring (c : Crawler) (more : List Text) : Crawler := { c with ignore := c.ignore ++ more }

/-- Whether one of some patterns matches a path or its last name. -/
def matchedBy (patterns : List Text) (rest : NativeName) : Bool :=
  patterns.any (fun p => Wildcard.accepts p rest || Wildcard.accepts p (baseName rest))

theorem leavesOut_ignoring : (c.ignoring more).leavesOut path =
    (c.leavesOut path || matchedBy more (ofSegments path)) := by
  have happend : (c.ignoring more).isIgnored (ofSegments path) =
      (c.isIgnored (ofSegments path) || matchedBy more (ofSegments path)) := List.any_append
  rw [leavesOut, leavesOut, happend, Bool.or_assoc]

/-- A path adds nothing when more patterns match it, and the same otherwise. -/
theorem sight_ignoring : (c.ignoring more).sight tree path =
    if matchedBy more (ofSegments path) then .ok [] else c.sight tree path := by
  rw [sight, sight, leavesOut_ignoring]
  cases matchedBy more (ofSegments path) with
  | true => simp
  | false =>
    rw [Bool.or_false]
    rfl

/-- More patterns only take away from what is met. -/
theorem sightAll_ignoring (hnone : (c.sightAll tree paths).2 = none) :
    ((c.ignoring more).sightAll tree paths).2 = none ∧
      texts ((c.ignoring more).sightAll tree paths).1 =
        (texts (c.sightAll tree paths).1).filter (fun rest => !matchedBy more rest) := by
  induction paths with
  | nil => exact ⟨rfl, rfl⟩
  | cons path paths ih =>
    rw [sightAll] at hnone
    split at hnone
    · cases hnone
    · next found hfound =>
      obtain ⟨hnone', htexts⟩ := ih hnone
      have hsight := @sight_ignoring tree c path more
      rw [sightAll, sightAll, hfound, hsight]
      -- the path is matched by its own name, which is all that it adds
      cases hmatched : matchedBy more (ofSegments path) with
      | true =>
        have hgone : (texts found).filter (fun rest => !matchedBy more rest) = [] := by
          rcases texts_of_sight hfound with h | h <;> simp [h, hmatched]
        rw [if_pos rfl]
        refine ⟨hnone', ?_⟩
        dsimp only
        rw [texts_append, texts_append, List.filter_append, hgone, htexts]
        rfl
      | false =>
        have hkept : (texts found).filter (fun rest => !matchedBy more rest) = texts found := by
          rcases texts_of_sight hfound with h | h <;> simp [h, hmatched]
        rw [if_neg Bool.false_ne_true, hfound]
        refine ⟨hnone', ?_⟩
        dsimp only
        rw [texts_append, texts_append, List.filter_append, hkept, htexts]

/-! ### Scans -/

/-- A scan goes through the selected paths, or ends before the first, whatever is ignored. -/
theorem sightings_cases (c : Crawler) (tree : FileTree) (more : List Text) :
    (∃ g paths, Glob.parse c.glob = .ok g ∧ g.select tree (tidy c.root) = .ok paths ∧
      c.sightings tree = c.sightAll tree paths ∧
      (c.ignoring more).sightings tree = (c.ignoring more).sightAll tree paths) ∨
    ∃ failure, c.sightings tree = ([], failure) ∧
      (c.ignoring more).sightings tree = ([], failure) := by
  rw [sightings, sightings, show (c.ignoring more).root = c.root from rfl,
    show (c.ignoring more).glob = c.glob from rfl]
  cases tree.testEntry (tidy c.root) isDirectoryEntry with
  | error e => exact Or.inr ⟨_, rfl, rfl⟩
  | ok isDirectory =>
    cases isDirectory with
    | false => exact Or.inr ⟨_, rfl, rfl⟩
    | true =>
      cases hparse : Glob.parse c.glob with
      | error e => exact Or.inr ⟨_, rfl, rfl⟩
      | ok g =>
        dsimp only
        cases hselect : g.select tree (tidy c.root) with
        | error e => exact Or.inr ⟨_, rfl, rfl⟩
        | ok paths => exact Or.inl ⟨g, paths, rfl, hselect, rfl, rfl⟩

theorem scan_fst : (c.scan tree).1 = texts (c.sightings tree).1 := rfl

theorem scan_snd : (c.scan tree).2 = (c.sightings tree).2 := rfl

/-- What a scan yields ascends, component by component and by code point. -/
theorem pairwise_scan (hwf : tree.WellFormed) (c : Crawler) :
    (c.scan tree).1.Pairwise (fun a b => codes (segments a) < codes (segments b)) := by
  rw [scan_fst]
  rcases c.sightings_cases tree [] with ⟨g, paths, hparse, hselect, h, -⟩ | ⟨failure, h, -⟩
  · have hparts := isPart_of_select hwf hparse hselect
    rw [h]
    refine List.Pairwise.sublist (c.texts_sightAll_sublist tree paths) (List.pairwise_map.mpr ?_)
    exact (pairwise_of_select hselect).imp_of_mem
      (fun ha hb hab => codes_segments_lt (hparts _ ha) (hparts _ hb) hab)
  · rw [h]
    exact List.Pairwise.nil

theorem yields_of_mem_scan (hwf : tree.WellFormed) (h : rest ∈ (c.scan tree).1) :
    c.Yields tree rest := by
  rw [scan_fst] at h
  rcases c.sightings_cases tree [] with ⟨g, paths, hparse, hselect, heq, -⟩ | ⟨failure, heq, -⟩
  · rw [heq] at h
    obtain ⟨path, hpath, found, hfound, hmem⟩ := exists_sight_of_mem h
    obtain ⟨rfl, hyields⟩ := (mem_texts_of_sight hfound).mp hmem
    exact (yields_ofSegments_iff (isPart_of_select hwf hparse hselect path hpath)).mpr hyields
  · rw [heq] at h
    cases h

/-- **More patterns only take away** from what a scan yields. -/
theorem scan_ignoring (hnone : (c.scan tree).2 = none) : (c.ignoring more).scan tree =
    ((c.scan tree).1.filter (fun rest => !matchedBy more rest), none) := by
  rw [scan_snd] at hnone
  refine Prod.ext ?_ ?_
  · rw [scan_fst, scan_fst]
    rcases c.sightings_cases tree more with ⟨g, paths, -, -, h, h'⟩ | ⟨failure, h, h'⟩
    · rw [h] at hnone ⊢
      rw [h']
      exact (sightAll_ignoring hnone).2
    · rw [h, h']
      rfl
  · rw [scan_snd]
    rcases c.sightings_cases tree more with ⟨g, paths, -, -, h, h'⟩ | ⟨failure, h, h'⟩
    · rw [h] at hnone
      rw [h']
      exact (sightAll_ignoring hnone).1
    · rw [h] at hnone
      rw [h']
      exact hnone

/-! ### The scan of all entries -/

/-- A path below a directory that passes real directories only, before its last name. -/
def Below (tree : FileTree) (base : RealPath) (rest : NativeName) : Prop :=
  ∃ ns name, segments rest = (ns ++ [name]).map NativeName.ofBytes ∧
    (∀ n ∈ ns ++ [name], Plain n) ∧ RealWay tree base ns

/-- The scan of all entries goes through what the glob selects. -/
theorem sightings_all (hroot : tree.locate true (tidy c.root) = .ok (.present base (.directory t)))
    (hglob : c.glob = "**/*".toList) :
    c.sightings tree = match Glob.all.select tree (tidy c.root) with
      | .error e => ([], some (.file e))
      | .ok paths => c.sightAll tree paths := by
  have hstat : tree.stat (tidy c.root) = .ok (.directory t) := stat_eq_ok_iff.mpr ⟨_, hroot⟩
  have hparse : Glob.parse c.glob = .ok Glob.all := by
    rw [hglob]
    decide
  rw [sightings, testEntry_of_stat hstat, hparse]
  rfl

/-- A selected path of all entries is a path below the directory, with an entry at its end. -/
theorem below_of_entry (hwf : tree.WellFormed) {ns : List Bytes} {name : Bytes} {e : Entry}
    (hns : RealWay tree base ns) (hentry : tree.entry? (base ++ (ns ++ [name])) = some e) :
    Below tree base (ofSegments ((ns ++ [name]).map NativeName.ofBytes)) := by
  have hnames : ∀ n ∈ ns ++ [name], IsEntryName n :=
    fun n hn => hwf.isEntryName hentry (List.mem_append_right base hn)
  refine ⟨ns, name, segments_ofSegments_of_parts (by simp) ?_, fun n hn => (hnames n hn).plain, hns⟩
  exact forall_isPart_ofBytes (fun n hn => (hnames n hn).plain.isPart)

/-- **The scan of all entries yields the text files below real directories.** -/
theorem mem_scan_all_iff (hwf : tree.WellFormed)
    (hroot : tree.locate true (tidy c.root) = .ok (.present base (.directory t)))
    (hglob : c.glob = "**/*".toList) (hnone : (c.scan tree).2 = none) :
    rest ∈ (c.scan tree).1 ↔ c.Yields tree rest ∧ Below tree base rest := by
  have hsightings := sightings_all hroot hglob
  rw [scan_snd] at hnone
  rw [scan_fst]
  rcases select_all hwf hroot with ⟨paths, hselect, hmem⟩ | ⟨e, -, hselect⟩
  · rw [hselect] at hsightings
    rw [hsightings] at hnone ⊢
    constructor
    · intro h
      obtain ⟨path, hpath, found, hfound, hin⟩ := exists_sight_of_mem h
      obtain ⟨ns, name, e, hns, hentry, rfl⟩ := (hmem path).mp hpath
      obtain ⟨rfl, -⟩ := (mem_texts_of_sight hfound).mp hin
      refine ⟨yields_of_mem_scan hwf ?_, below_of_entry hwf hns hentry⟩
      rwa [scan_fst, hsightings]
    · rintro ⟨hyields, ns, name, hrest, hplain, hns⟩
      obtain ⟨body, changed, hstat, -⟩ := hyields.file
      rw [hrest] at hstat
      -- what is a file there is an entry, so that the glob has selected it
      obtain ⟨e, hentry⟩ := exists_entry_of_stat hwf hroot hns hplain hstat
      obtain ⟨found, hfound, hall⟩ :=
        sight_of_sightAll hnone ((hmem _).mpr ⟨ns, name, e, hns, hentry, rfl⟩)
      have hparts := forall_isPart_ofBytes (fun n hn => (hplain n hn).isPart)
      have heq : rest = ofSegments ((ns ++ [name]).map NativeName.ofBytes) := by
        rw [← hrest, ofSegments_segments]
      rw [heq] at hyields ⊢
      exact hall _ ((mem_texts_of_sight hfound).mpr
        ⟨rfl, (yields_ofSegments_iff hparts).mp hyields⟩)
  · rw [hselect] at hsightings
    rw [hsightings] at hnone
    cases hnone

/-- **The scan of all entries ends early only at a name that is too long.** -/
theorem scan_all_eq_some (hwf : tree.WellFormed)
    (hroot : tree.locate true (tidy c.root) = .ok (.present base (.directory t)))
    (hglob : c.glob = "**/*".toList) {failure : Failure} (h : (c.scan tree).2 = some failure) :
    ∃ e, StopsAt tree base (tidy c.root) e ∧ failure = .file e := by
  have hsightings := sightings_all hroot hglob
  rw [scan_snd] at h
  rcases select_all hwf hroot with ⟨paths, hselect, hmem⟩ | ⟨e, hstops, hselect⟩
  · rw [hselect] at hsightings
    rw [hsightings] at h
    obtain ⟨path, hpath, e, he, rfl⟩ := sightAll_eq_some h
    obtain ⟨ns, name, entry, hns, hentry, rfl⟩ := (hmem path).mp hpath
    obtain ⟨rfl, hlong⟩ := sight_eq_error he
    exact ⟨_, ⟨_, .entry hns hentry, hlong, rfl⟩, rfl⟩
  · rw [hselect] at hsightings
    rw [hsightings] at h
    exact ⟨e, hstops, (Option.some.inj h).symm⟩

/-- **A scan yields, in order, the text files that it should find.**  Whatever the glob is, what is
yielded ascends strictly, is a text file and neither skipped nor ignored, and more patterns to
ignore only take away from it.  The scan of all entries yields all such files below real
directories, unless it comes to a name, or a link, that is too long for the system to be looked at.
-/
theorem law_of_scan (hwf : tree.WellFormed) (c : Crawler) :
    ((c.scan tree).1.Pairwise (fun a b => codes (segments a) < codes (segments b)) ∧
      (∀ rest ∈ (c.scan tree).1, c.Yields tree rest) ∧
      ∀ more, (c.scan tree).2 = none → (c.ignoring more).scan tree =
        ((c.scan tree).1.filter (fun rest => !matchedBy more rest), none)) ∧
    ∀ base t, tree.locate true (tidy c.root) = .ok (.present base (.directory t)) →
      c.glob = "**/*".toList →
        ((c.scan tree).2 = none →
          ∀ rest, rest ∈ (c.scan tree).1 ↔ c.Yields tree rest ∧ Below tree base rest) ∧
        ∀ failure, (c.scan tree).2 = some failure →
          ∃ name, Visits tree base (tidy c.root) name ∧ tree.TooLong name ∧
            failure = .file (.system .nameTooLong name) := by
  refine ⟨⟨pairwise_scan hwf c, fun rest h => yields_of_mem_scan hwf h,
    fun more hnone => scan_ignoring hnone⟩, fun base t hroot hglob => ⟨fun hnone rest => ?_, ?_⟩⟩
  · exact mem_scan_all_iff hwf hroot hglob hnone
  · intro failure h
    obtain ⟨e, ⟨name, hvisits, hlong, rfl⟩, rfl⟩ := scan_all_eq_some hwf hroot hglob h
    exact ⟨name, hvisits, hlong, rfl⟩

/-! ### Trees that are scanned -/

/-- The tree with a directory `p` in the working directory, and entries below it. -/
def belowWorking (entries : List (List String × Entry)) : FileTree :=
  ⟨FileTree.empty.entries ++ (([], .directory recentTime) :: entries).map (fun e =>
    (workingDirectory ++ ("p" :: e.1).map (fun s => Utf8.encode s.toList), e.2))⟩

/-- A crawler of the directory `p`. -/
def ofP : Crawler := { root := NativeName.ofText ['p'], ignore := ["*.o".toList] }

/-- A text file below a directory, links to the file, to the directory, to themselves and to
nothing, an ignored file, a binary file, and a file of a tool. -/
def nested : FileTree := belowWorking [
  (["d"], .directory recentTime),
  (["d", "f"], .file (.octets [0x78]) recentTime),
  (["d", "g.o"], .file (.octets [0x78]) recentTime),
  (["l"], .link (Utf8.encode "d/f".toList)),
  (["e"], .link (Utf8.encode "d".toList)),
  (["c"], .link (Utf8.encode "c".toList)),
  (["n"], .link (Utf8.encode "nowhere".toList)),
  (["b"], .file (.octets [0x78, 0]) recentTime),
  ([".git"], .directory recentTime),
  ([".git", "f"], .file (.octets [0x78]) recentTime)]

/-- The scan of a directory with links. -/
theorem law_of_scan_nested :
    let base := workingDirectory ++ [Utf8.encode ['p']]
    let found := ["d/f", "l"].map (fun s => NativeName.ofText s.toList)
    nested.WellFormed ∧
      nested.locate true (tidy ofP.root) = .ok (.present base (.directory recentTime)) ∧
      ofP.scan nested = (found, none) ∧
      found.Pairwise (fun a b => codes (segments a) < codes (segments b)) ∧
      ∀ rest, rest ∈ found ↔ ofP.Yields nested rest ∧ Below nested base rest := by
  intro base found
  have hwf : nested.WellFormed := by decide +kernel
  have hroot : nested.locate true (tidy ofP.root) =
      .ok (.present base (.directory recentTime)) := by
    decide +kernel
  have hscan : ofP.scan nested = (found, none) :=
    Prod.ext (by decide +kernel) (Option.isNone_iff_eq_none.mp (by decide +kernel))
  obtain ⟨⟨hascends, -, -⟩, hall⟩ := law_of_scan hwf ofP
  obtain ⟨hfound, -⟩ := hall base recentTime hroot rfl
  rw [hscan] at hascends hfound
  exact ⟨hwf, hroot, hscan, hascends, hfound rfl⟩

/-- A text file beside a link whose target is too long to be looked at. -/
def longTarget : FileTree := belowWorking [
  (["a"], .link (List.replicate 256 0x78)),
  (["b"], .file (.octets [0x78]) recentTime)]

/-- The scan of all entries ends at a link with a target that is too long, before it yields the text
file beside it; and it goes on to that file when the link is ignored, if nothing else stops it. -/
theorem unseen_beside_longTarget :
    let base := workingDirectory ++ [Utf8.encode ['p']]
    let b := NativeName.ofText ['b']
    let shallow : Crawler := { ofP with glob := ['*'] }
    longTarget.WellFormed ∧
      longTarget.locate true (tidy ofP.root) = .ok (.present base (.directory recentTime)) ∧
      ofP.Yields longTarget b ∧ Below longTarget base b ∧ b ∉ (ofP.scan longTarget).1 ∧
      b ∉ (shallow.scan longTarget).1 ∧ b ∈ ((shallow.ignoring [['a']]).scan longTarget).1 := by
  intro base b shallow
  refine ⟨by decide +kernel, by decide +kernel, ?_, ?_, by decide +kernel, by decide +kernel,
    by decide +kernel⟩
  · refine ⟨⟨.octets [0x78], recentTime, by decide +kernel, by decide⟩, by decide +kernel, ?_⟩
    exact isIgnored_eq_false_iff.mp (by decide +kernel)
  · refine ⟨[], Utf8.encode ['b'], by decide +kernel, ?_, RealWay.nil⟩
    have hname : IsEntryName (Utf8.encode ['b']) := by decide +kernel
    exact List.forall_mem_singleton.mpr hname.plain

end Crawler

end PackageCatalog
