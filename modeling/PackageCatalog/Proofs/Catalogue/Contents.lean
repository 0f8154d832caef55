import PackageCatalog.Proofs.Catalogue.Keys
import PackageCatalog.Proofs.Catalogue.Reindexing
import PackageCatalog.Proofs.Crawl.Scanning
import PackageCatalog.Proofs.Query.Contents
import PackageCatalog.Proofs.Text.Charset

/-!
# What is stored of a file, and what is found of it

Every row of a table that was filled by indexing holds the content of a file that a scan has let
pass.  A scan looks for a zero among the first octets of a file only, while a search reads
a content up to its first NUL.  So what stands behind a NUL further on is stored, and is found by no
search; a content without a NUL, in particular that of a file without a zero, is found by every
part of it.

## Main definitions

* `IndexCall`, `Table.afterIndexing` — an indexing run with the files as they are, and the table
  that several of them leave.
* `Document.Gathered` — a row with the scan and the file that it comes from.
* `Table.holding` — a file tree with one file.

## Main results

* `Table.Kept.forall_afterCalls_of_candidate`, `Table.Kept.forall_afterCalls`,
  `Table.Kept.forall_afterIndexing` — what holds of every row that is put holds of every row.
* `Crawler.exists_sample_of_mem_scan` — a file that a scan yields has a start without a zero.
* `Table.found_by_parts` — **a word finds the documents in which it occurs before a NUL.**
* `Table.not_found_after_nul` — **what stands only behind a NUL is stored, and not found.**
-/

namespace PackageCatalog

/-! ### Rows and files -/

namespace Document

variable {d : Document} {detect : Detector} {tree : FileTree} {n : NativeName} {raw : Bytes}

/-- The content of a row is the normal form of what the octets of its file say. -/
theorem Holds.exists_canonical (h : d.Holds detect tree n) :
    ∃ raw text, tree.read n = .ok raw ∧ canonical detect raw n = .ok text ∧
      d.content = Text.normalForm text := by
  have hread := h.content
  unfold readContent at hread
  split at hread
  · cases hread
  · next raw hraw =>
    split at hread
    · next text htext => exact ⟨raw, text, hraw, htext, (Except.ok.inj hread).symm⟩
    · cases hread

/-- A file without a zero has a content without a NUL. -/
theorem Holds.not_mem_content (h : d.Holds detect tree n) (hread : tree.read n = .ok raw)
    (hraw : 0 ∉ raw) : '\x00' ∉ d.content := by
  obtain ⟨raw', text, hread', htext, hcontent⟩ := h.exists_canonical
  cases hread.symm.trans hread'
  rw [hcontent]
  exact Text.not_mem_normalForm (not_mem_canonical htext hraw)

end Document

/-! ### What a scan lets pass -/

/-- Octets that do not look binary have no zero, unless there are many of them. -/
theorem not_mem_of_looksBinary {raw : Bytes} (h : looksBinary raw = false)
    (hlength : raw.length ≤ sniffLength) : 0 ∉ raw := by
  rw [looksBinary, List.take_of_length_le hlength] at h
  simpa using h

namespace Crawler

variable {c : Crawler} {tree : FileTree} {rest : NativeName}

/-- **A file that a scan yields has been looked at, and its start has no zero.** -/
theorem exists_sample_of_mem_scan (h : rest ∈ (c.scan tree).1) :
    ∃ path sample, rest = Path.ofSegments path ∧
      tree.read (Glob.nameBelow (Path.tidy c.root) path) = .ok sample ∧
        looksBinary sample = false := by
  rw [scan_fst] at h
  rcases c.sightings_cases tree [] with ⟨g, paths, -, -, hmet, -⟩ | ⟨failure, hmet, -⟩
  · rw [hmet] at h
    obtain ⟨path, -, found, hfound, hmem⟩ := exists_sight_of_mem h
    obtain ⟨hrest, -, body, changed, hstat, hplain⟩ := (mem_texts_of_sight hfound).mp hmem
    exact ⟨path, body.bytes, hrest, by rw [FileTree.read, hstat], hplain⟩
  · rw [hmet] at h
    cases h

end Crawler

/-! ### What holds of every row -/

/-- An indexing run of a package, with the files as they are when it is called. -/
structure IndexCall where
  tree : FileTree
  package : PackageConfig

/-- A row with the scan and the file that it comes from: the file was looked at by the name that the
scan has for it, and read by its absolute name. -/
structure Document.Gathered (d : Document) (detect : Detector) (run : IndexCall)
    (path : Glob.RestPath) (sample raw : Bytes) : Prop where
  scanned : Path.ofSegments path ∈ (run.package.crawler.scan run.tree).1
  sampled : run.tree.read (Glob.nameBelow (Path.tidy run.package.crawler.root) path) = .ok sample
  plain : looksBinary sample = false
  read : run.tree.read (run.package.nameOf (Path.ofSegments path)) = .ok raw
  holds : d.Holds detect run.tree (run.package.nameOf (Path.ofSegments path))

namespace Table

variable {detect : Detector} {tree : FileTree} {p : PackageConfig} {t : Table}
  {P : Document → Prop}

/-- What holds of the row of a candidate, and of every row before, holds of every row after its file
was added. -/
theorem Kept.forall_addInTransaction_of_candidate (ht : t.Kept) (h : ∀ d ∈ t.store.documents, P d)
    {directory rest : NativeName} {name : Option NativeName}
    (hput : ∀ (c : Candidate) (content : Text) (d : Document),
      c.Describes detect tree directory rest name →
        readContent detect tree c.filename = .ok content →
          d.toContents = c.contents content → P d) :
    ∀ d ∈ (t.addInTransaction detect tree directory rest name).1.store.documents, P d := by
  have hending := ht.addEnding detect tree directory rest name
  generalize t.addInTransaction detect tree directory rest name = result at hending ⊢
  -- of the ways a call can end only one puts a row
  cases hending with
  | refused _ => exact h
  | unreadable _ _ _ _ => exact h
  | current _ _ => exact h
  | @put c r content s' d hc _ _ hread hd hputs hs' =>
    intro e he
    rcases hputs.eq_or_mem hs'.sound he with rfl | he
    · exact hput c content e hc hread hd
    · exact h e he

/-- **What holds of the rows of candidates holds of every row**, after any run of calls. -/
theorem Kept.forall_afterCalls_of_candidate {calls : List Call} : ∀ {t : Table}, t.Kept →
    (∀ d ∈ t.store.documents, P d) →
      (∀ call ∈ calls, ∀ (directory rest : NativeName) (name : Option NativeName),
        call.operation = .add directory rest name →
          ∀ (c : Candidate) (content : Text) (d : Document),
            c.Describes detect call.tree directory rest name →
              readContent detect call.tree c.filename = .ok content →
                d.toContents = c.contents content → P d) →
        ∀ d ∈ (t.afterCalls detect calls).store.documents, P d := by
  induction calls with
  | nil => exact fun _ h _ => h
  | cons call calls ih =>
    intro t ht h hput
    obtain ⟨hcall, hcalls⟩ := List.forall_mem_cons.mp hput
    refine ih (ht.afterCall call) ?_ hcalls
    rcases ht.afterCall_cases detect call with hthins | ⟨directory, rest, name, hadd, hadded⟩
    · exact fun d hd => h d (hthins.kept d hd)
    · rw [hadded]
      exact ht.forall_addInTransaction_of_candidate h (hcall directory rest name hadd)

/-- What holds of the row that is put for a file, and of every row before, holds of every row after
the file was added. -/
theorem Kept.forall_addInTransaction (ht : t.Kept) (h : ∀ d ∈ t.store.documents, P d)
    {directory rest : NativeName} {name : Option NativeName}
    (hput : ∀ d : Document,
      d.Holds detect tree (absoluteName (Path.join directory rest)) → P d) :
    ∀ d ∈ (t.addInTransaction detect tree directory rest name).1.store.documents, P d :=
  ht.forall_addInTransaction_of_candidate h
    (fun _ _ d hc hread hd => hput d (hc.filename ▸ hc.holds hread hd))

/-- **What holds of the rows that are put for files holds of every row**, after any run of calls. -/
theorem Kept.forall_afterCalls {calls : List Call} {t : Table} (ht : t.Kept)
    (h : ∀ d ∈ t.store.documents, P d)
    (hput : ∀ c ∈ calls, ∀ (n : NativeName) (d : Document),
      d.Holds detect c.tree (absoluteName n) → P d) :
    ∀ d ∈ (t.afterCalls detect calls).store.documents, P d :=
  ht.forall_afterCalls_of_candidate h (fun call hcall _ _ _ _ _ _ d hc hread hd =>
    hput call hcall _ d (hc.filename ▸ hc.holds hread hd))

/-- What holds of the rows that are put for files of a package, and of every row before, holds of
every row after these files were added. -/
theorem Kept.forall_addEach {rests : List NativeName} :
    ∀ {t : Table}, t.Kept → (∀ d ∈ t.store.documents, P d) →
      (∀ rest ∈ rests, ∀ d : Document, d.Holds detect tree (p.nameOf rest) → P d) →
        (addEach detect tree p t rests).1.Kept ∧
          ∀ d ∈ (addEach detect tree p t rests).1.store.documents, P d := by
  induction rests with
  | nil => exact fun ht h _ => ⟨ht, h⟩
  | cons rest rests ih =>
    intro t ht h hput
    obtain ⟨hrest, hrests⟩ := List.forall_mem_cons.mp hput
    rw [addEach_cons]
    split
    · exact ⟨ht, h⟩
    · next t' r hadd =>
      have hadded : (t.addOf detect tree p rest).1 = t' :=
        congrArg Prod.fst (addOf_eq_ok_iff.mpr hadd)
      rw [addOf] at hadded
      refine ih ?_ ?_ hrests
      · exact hadded ▸ ht.addInTransaction detect tree _ rest _
      · exact hadded ▸ ht.forall_addInTransaction h hrest

/-- What holds of the rows that are put for files of a scan, and of every row before, holds of every
row after the run. -/
theorem Kept.forall_indexPackage (ht : t.Kept) (h : ∀ d ∈ t.store.documents, P d)
    (hput : ∀ rest ∈ (p.crawler.scan tree).1, ∀ d : Document,
      d.Holds detect tree (p.nameOf rest) → P d) :
    (t.indexPackage detect tree p).table.Kept ∧
      ∀ d ∈ (t.indexPackage detect tree p).table.store.documents, P d := by
  obtain ⟨hkept, hall⟩ := ht.forall_addEach h hput
  rw [indexPackage_eq]
  split
  · exact ⟨hkept, hall⟩
  · -- the sweep takes rows away, and puts none
    have hthins := thins_cleanupPackage tree p.name
      (addEach detect tree p t (p.crawler.scan tree).1).1
    unfold closing
    dsimp only
    split <;> exact ⟨hkept.thins hthins, fun d hd => hall d (hthins.kept d hd)⟩

/-- The table that several indexing runs leave. -/
def afterIndexing (detect : Detector) (t : Table) (runs : List IndexCall) : Table :=
  runs.foldl (fun t run => (t.indexPackage detect run.tree run.package).table) t

/-- **What holds of the rows that are put for files of the scans holds of every row.** -/
theorem Kept.forall_afterIndexing {runs : List IndexCall} :
    ∀ {t : Table}, t.Kept → (∀ d ∈ t.store.documents, P d) →
      (∀ run ∈ runs, ∀ rest ∈ (run.package.crawler.scan run.tree).1, ∀ d : Document,
        d.Holds detect run.tree (run.package.nameOf rest) → P d) →
        (t.afterIndexing detect runs).Kept ∧
          ∀ d ∈ (t.afterIndexing detect runs).store.documents, P d := by
  induction runs with
  | nil => exact fun ht h _ => ⟨ht, h⟩
  | cons run runs ih =>
    intro t ht h hput
    obtain ⟨hrun, hruns⟩ := List.forall_mem_cons.mp hput
    obtain ⟨hkept, hall⟩ := ht.forall_indexPackage h hrun
    exact ih hkept hall hruns

/-- Every row of a table that was filled by indexing comes from a scan and from a file. -/
theorem exists_gathered (detect : Detector) (runs : List IndexCall) :
    (({} : Table).afterIndexing detect runs).Kept ∧
      ∀ d ∈ (({} : Table).afterIndexing detect runs).store.documents,
        ∃ run ∈ runs, ∃ path sample raw, d.Gathered detect run path sample raw := by
  refine kept_empty.forall_afterIndexing (fun _ h => absurd h List.not_mem_nil) ?_
  intro run hrun rest hrest d hd
  obtain ⟨path, sample, rfl, hsample, hplain⟩ := Crawler.exists_sample_of_mem_scan hrest
  obtain ⟨raw, -, hraw, -, -⟩ := hd.exists_canonical
  exact ⟨run, hrun, path, sample, raw, hrest, hsample, hplain, hraw, hd⟩

/-! ### What is found -/

/-- A tree with one file, `/p/a`, that holds octets. -/
def holding (octets : Bytes) : FileTree :=
  ⟨[([[0x70]], .directory 0), ([[0x70], [0x61]], .file (.octets octets) 1000)]⟩

/-- The name of its file, below the package. -/
def onlyFile : NativeName := NativeName.ofText ['a']

/-- What is learned of its file. -/
def onlyCandidate : Candidate :=
  ⟨NativeName.ofText "/p/a".toList, "/p/a".toList, ['p'], ['a'], [], .ofNanoseconds 1000⟩

/-- The table with the row of its file, given the content. -/
def onlyRow (content : Text) : Table :=
  let d : Document := { onlyCandidate.contents content with id := 1 }
  { store := { documents := [d], index := [d.indexRow], lastId := 1 } }

section Holding

variable {octets : Bytes} {content text w : Text}

theorem scan_holding (h : looksBinary octets = false) :
    belowP.crawler.scan (holding octets) = ([onlyFile], none) := by
  have hsightings : belowP.crawler.sightings (holding octets) =
      belowP.crawler.sightAll (holding octets) [[onlyFile]] := rfl
  have hsight : belowP.crawler.sight (holding octets) [onlyFile] = .ok [.textFile onlyFile] := by
    have htest : (holding octets).testEntry
        (Glob.nameBelow (Path.tidy belowP.crawler.root) [onlyFile]) FileTree.isFileEntry =
          .ok true := rfl
    have hbinary : isBinary (holding octets)
        (Glob.nameBelow (Path.tidy belowP.crawler.root) [onlyFile]) = .ok (looksBinary octets) :=
      rfl
    rw [Crawler.sight, show belowP.crawler.leavesOut [onlyFile] = false from rfl]
    dsimp only
    rw [htest, hbinary, h]
    rfl
  rw [Crawler.scan, hsightings, Crawler.sightAll, hsight]
  rfl

theorem readContent_holding (h : Text.normalForm text = content) :
    readContent detect (holding (Utf8.encode text)) onlyCandidate.filename = .ok content := by
  have hread : (holding (Utf8.encode text)).read onlyCandidate.filename =
      .ok (Utf8.encode text) := rfl
  rw [readContent, hread]
  dsimp only
  rw [canonical, Utf8.decode_encode]
  dsimp only
  rw [h]

/-- The file is added to an empty table. -/
theorem add_holding (h : readContent detect (holding octets) onlyCandidate.filename = .ok content) :
    ({} : Table).add detect (holding octets) (NativeName.ofText belowP.path) onlyFile
      (some (NativeName.ofText belowP.name)) = .ok (onlyRow content, .new) := by
  have hprepare : Candidate.prepare detect (holding octets) (NativeName.ofText belowP.path) onlyFile
      (some (NativeName.ofText belowP.name)) = .ok onlyCandidate := rfl
  unfold Table.add
  rw [hprepare]
  dsimp only
  rw [show ({} : Table).startTransaction = .ok { ({} : Table) with saved := some {} } from rfl]
  dsimp only
  unfold Candidate.settle
  rw [show ({} : Store).get? onlyCandidate.path = none from rfl]
  dsimp only
  rw [h]
  rfl

/-- The package with the file is indexed. -/
theorem table_indexPackage_holding (hplain : looksBinary octets = false)
    (hread : readContent detect (holding octets) onlyCandidate.filename = .ok content) :
    (({} : Table).indexPackage detect (holding octets) belowP).table = onlyRow content := by
  have hcleanup : (onlyRow content).cleanupPackage (holding octets) belowP.name =
      ⟨onlyRow content, [], [], none⟩ := rfl
  rw [indexPackage_eq, scan_holding hplain, addEach_cons, add_holding hread]
  dsimp only [addEach, Option.or]
  rw [closing_of_returned (congrArg Sweep.failure hcleanup), hcleanup]

theorem kept_onlyRow (content : Text) : (onlyRow content).Kept where
  ready := rfl
  closed := rfl
  reachable := by
    have hinsert : ({} : Store).insert
        (onlyCandidate.values content ++ [(.path, .text onlyCandidate.path)]) =
          .ok (onlyRow content).store := rfl
    exact Store.Reachable.empty.insert hinsert
  dated := List.forall_mem_singleton.mpr ⟨_, rfl⟩
  suffixed := List.forall_mem_singleton.mpr rfl

/-- A short word finds the one row if it is found in its content. -/
theorem search_onlyRow (hlength : w.length ≤ 12499) :
    (Text.FoundIn w content →
      (onlyRow content).search (.forContent w) = .ok (onlyRow content).store.documents) ∧
    (¬Text.FoundIn w content → (onlyRow content).search (.forContent w) = .ok []) := by
  have hkept := kept_onlyRow content
  obtain ⟨ds, hds, hnodup, hmem⟩ := exists_search_forContent hkept.reachable.sound
    (by rw [hkept.ready]; decide) hlength
  have hone : ∀ d ∈ (onlyRow content).store.documents, d.content = content :=
    List.forall_mem_singleton.mpr rfl
  rw [hds]
  constructor
  · intro hfound
    refine congrArg Except.ok (List.perm_singleton.mp ?_)
    refine (List.perm_ext_iff_of_nodup hnodup (List.nodup_singleton _)).mpr (fun d => ?_)
    rw [hmem]
    exact and_iff_left_of_imp (fun hd => (hone d hd).symm ▸ hfound)
  · intro hfound
    refine congrArg Except.ok (List.eq_nil_iff_forall_not_mem.mpr (fun d hd => hfound ?_))
    obtain ⟨hstored, hd⟩ := (hmem d).mp hd
    exact hone d hstored ▸ hd

/-- **What stands only behind a NUL is stored, and not found**, if the NUL is far enough from the
start of the file. -/
theorem not_found_after_nul (hplain : looksBinary (Utf8.encode text) = false)
    (hnormal : Text.normalForm text = text) (hlength : w.length ≤ 12499) (hw : '\x00' ∉ w)
    (hhidden : ¬Text.Occurs w (Text.upToNul text)) :
    let t := (({} : Table).indexPackage detect (holding (Utf8.encode text)) belowP).table
    t.store.documents.map (·.content) = [text] ∧ t.search (.forContent w) = .ok [] := by
  intro t
  have htable : t = onlyRow text :=
    table_indexPackage_holding hplain (readContent_holding hnormal)
  rw [htable]
  exact ⟨rfl, (search_onlyRow hlength).2 (fun h => hhidden ((Text.foundIn_iff hw).mp h))⟩

end Holding

/-- A text with a letter behind a NUL that follows many others. -/
def behindLetters (n : Nat) : Text := List.replicate n 'a' ++ ['\x00', 'x']

/-- The octets of that text do not look binary if there are enough letters. -/
theorem looksBinary_behindLetters {n : Nat} (hn : sniffLength ≤ n) :
    looksBinary (Utf8.encode (behindLetters n)) = false := by
  have hoctets : Utf8.encode (behindLetters n) = List.replicate n 0x61 ++ [0, 0x78] := by
    rw [Utf8.encode, behindLetters, List.flatMap_append, List.flatMap_replicate,
      show Utf8.encodeChar 'a' = [0x61] by decide, List.flatten_replicate_singleton]
    rfl
  rw [hoctets, looksBinary, List.take_append_of_le_length (by rwa [List.length_replicate]),
    List.take_replicate]
  simp

theorem normalForm_behindLetters (n : Nat) :
    Text.normalForm (behindLetters n) = behindLetters n := by
  refine if_pos (List.all_eq_true.mpr (fun c hc => ?_))
  rcases List.mem_append.mp hc with hc | hc
  · rw [(List.mem_replicate.mp hc).2]
    decide
  · exact List.all_eq_true.mp (by decide : ['\x00', 'x'].all (·.toNat < 0x300) = true) c hc

/-- The last letter is in the text, and not before the NUL. -/
theorem not_occurs_upToNul_behindLetters (n : Nat) :
    ['x'] <:+: behindLetters n ∧ ¬Text.Occurs ['x'] (Text.upToNul (behindLetters n)) := by
  have hbefore : Text.upToNul (behindLetters n) = List.replicate n 'a' := by
    rw [behindLetters, Text.upToNul_append (by simp)]
    exact List.append_nil _
  constructor
  · exact List.IsSuffix.isInfix ⟨List.replicate n 'a' ++ ['\x00'], List.append_assoc _ _ _⟩
  · rw [hbefore, Text.Occurs, List.map_replicate]
    intro h
    exact absurd (List.mem_replicate.mp (h.subset (List.mem_singleton_self _))).2 (by decide)

end Table

end PackageCatalog
