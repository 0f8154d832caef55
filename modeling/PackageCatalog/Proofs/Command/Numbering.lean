import PackageCatalog.Proofs.Command.Headings

/-!
# The numbers of lines

A search shows the first hits of a document: the lines whose lower-case form has that of a pattern
in it.  The loop that collects them stops at its bound, which it looks at after each hit.  Every hit
stands behind the number under which the document itself is shown with line numbers.

## Main definitions

* `ContainsAny` — a line contains a pattern in any case.
* `Session.numberMark` — the number of a line, as it is printed before the line.

## Main results

* `collectHits_eq` — the loop takes as many of the hits as it may.
* `Session.course_showDocument_numbered` — all that is printed of a document with line numbers.
* `Session.law_of_hits` — **the hits are the first lines that contain a pattern, with the numbers
  under which they are shown.**
-/

namespace PackageCatalog

/-! ### Hits -/

variable {content : Text} {patterns : List Text} {most : Int}

/-- The lower-case form of a line contains that of one of the patterns. -/
def ContainsAny (patterns : List Text) (line : Text) : Prop :=
  ∃ p ∈ patterns, Text.lower p <:+: Text.lower line

theorem isHit_map_lower_iff {line : Text} :
    isHit (patterns.map Text.lower) line = true ↔ ContainsAny patterns line := by
  simp only [isHit_iff, ContainsAny, List.mem_map, exists_exists_and_eq_and]

instance (patterns : List Text) (line : Text) : Decidable (ContainsAny patterns line) :=
  decidable_of_iff _ isHit_map_lower_iff

/-- The loop takes as many of the hits as it may, and at least one if there is one. -/
theorem collectHits_eq {needles : List Text} : ∀ {rest : List (Text × Nat)} {most : Int},
    1 ≤ most → collectHits needles most rest =
      ((rest.filter (fun l => isHit needles l.1)).take most.toNat).map
        (fun l => (l.2, Text.trim l.1)) := by
  intro rest
  induction rest with
  | nil => intro most _; simp [collectHits]
  | cons l rest ih =>
    intro most hmost
    cases hhit : isHit needles l.1 with
    | false =>
      rw [collectHits, hhit, List.filter_cons_of_neg (by simp [hhit])]
      exact ih hmost
    | true =>
      -- the bound counts this hit, and the rest of the loop has one less to take
      have hnat : most.toNat = (most - 1).toNat + 1 := by omega
      have hkept : (l :: rest).filter (fun l => isHit needles l.1) =
          l :: rest.filter (fun l => isHit needles l.1) := List.filter_cons_of_pos hhit
      rw [collectHits, hhit, if_pos rfl, hkept, hnat, List.take_succ_cons, List.map_cons]
      congr 1
      by_cases hlast : most ≤ 1
      · rw [if_pos hlast, show (most - 1).toNat = 0 by omega]
        rfl
      · rw [if_neg hlast]
        exact ih (by omega)

/-- **The hits are the first lines that contain a pattern.** -/
theorem matchingLines_eq (content : Text) (patterns : List Text) (hmost : 1 ≤ most) :
    matchingLines content patterns most =
      (((numberedLines content).filter (fun l => ContainsAny patterns l.1)).take most.toNat).map
        (fun l => (l.2, Text.trim l.1)) := by
  have hhit : (fun l : Text × Nat => isHit (patterns.map Text.lower) l.1) =
      fun l => decide (ContainsAny patterns l.1) := by
    funext l
    rw [Bool.eq_iff_iff, isHit_map_lower_iff, decide_eq_true_iff]
  rw [matchingLines, collectHits_eq hmost, hhit]

/-! ### Numbers -/

theorem map_fst_numberedLines (content : Text) :
    (numberedLines content).map Prod.fst = Text.lines content := List.zipIdx_map_fst 1 _

/-- Lines are numbered in their order. -/
theorem pairwise_numberedLines (content : Text) :
    (numberedLines content).Pairwise (fun l k => l.2 < k.2) := by
  have hnumbers : ((numberedLines content).map Prod.snd).Pairwise (· < ·) := by
    rw [numberedLines, List.zipIdx_map_snd]
    exact List.pairwise_lt_range'
  exact List.pairwise_map.mp hnumbers

/-- The numbers of the hits ascend. -/
theorem pairwise_matchingLines (content : Text) (patterns : List Text) (hmost : 1 ≤ most) :
    ((matchingLines content patterns most).map Prod.fst).Pairwise (· < ·) := by
  rw [matchingLines_eq content patterns hmost, List.map_map]
  refine List.pairwise_map.mpr ?_
  exact (pairwise_numberedLines content).sublist
    ((List.take_sublist _ _).trans List.filter_sublist)

theorem matchingLines_nil (content : Text) (most : Int) : matchingLines content [] most = [] :=
  matchingLines_eq_nil_iff.mpr (fun _ _ _ hp => absurd hp List.not_mem_nil)

/-! ### The document with its numbers -/

namespace Session

variable {s : Session} {shortpath x : Text} {d : Document}

/-- The number of a line, in the text that stands before it when the document is shown. -/
def numberMark (n : Nat) : Text := lineNumber n ++ " | ".toList

theorem display_numberMark (g : Gallery) (n : Nat) :
    Markup.display g (styled "dim" (lineNumber n ++ " | ".toList)) = .ok (numberMark n) := by
  have hunmarked : ∀ c ∈ numberMark n, Emoji.isMark c = false := by
    intro c hc
    rcases List.mem_append.mp hc with hc | hc
    · exact isMark_of_mem_lineNumber hc
    · have hbar : " | ".toList.all (fun c => !Emoji.isMark c) = true := by decide
      simpa using List.all_eq_true.mp hbar c hc
  obtain ⟨place, hdisplay⟩ := Markup.display_styled_behind (g := g) isStyle_dim
    (v := []) nofun (fun c hc => Emoji.ne_of_isMark_eq_false (hunmarked c hc)) []
  rw [List.nil_append, List.append_nil] at hdisplay
  rw [show lineNumber n ++ " | ".toList = numberMark n from rfl, hdisplay,
    Markup.drawnShown_of_calm (by decide) (g.ignores_of_count_le (by decide)),
    g.drawn_of_unmarked hunmarked, g.drawn_of_count_le (t := []) (Nat.zero_le 1)]
  simp [Except.map]

/-- All that is printed of a document with line numbers. -/
theorem course_showDocument_numbered (hfind : s.table.findShort (some shortpath) = .ok (some d))
    (hlead : Markup.display s.gallery (pathLine d) = .ok x) :
    course (showDocument shortpath true) s =
      (.ok (), s.printing ([Layout.page x, rule ++ ['\n']] ++ (numberedLines d.content).flatMap
        (fun l => [Layout.row (numberMark l.2), Layout.page (s.gallery.drawn l.1)]))) := by
  have hrule : course (say rule) (s.printing [Layout.page x]) =
      (.ok (), s.printing [Layout.page x, rule ++ ['\n']]) := by
    rw [← page_rule]
    exact course_say_of_ok (display_rule _)
  rw [course_showDocument_of_found hfind, course_bind_of_ok (course_say_of_ok hlead),
    course_bind_of_ok hrule, ← printing_printing]
  refine course_bind_of_ok (course_forIn (fun (line, n) _ ts => ?_))
  dsimp only
  rw [if_pos rfl, course_bind_of_ok (course_sayRow_of_ok (display_numberMark _ n)),
    course_bind_of_ok (course_sayPlain line), printing_printing, printing_printing]
  rfl

/-- **The hits are the first lines of a content that contain a pattern in any case**, in their
order, without the blanks around them, and each with the number under which it stands when the
document is shown with line numbers.  So the numbers ascend, and without patterns there is no
hit. -/
theorem law_of_hits (content : Text) (patterns : List Text) (hmost : 1 ≤ most) :
    (matchingLines content patterns most =
      (((numberedLines content).filter (fun l => ContainsAny patterns l.1)).take most.toNat).map
        (fun l => (l.2, Text.trim l.1)) ∧
      (numberedLines content).map Prod.fst = Text.lines content) ∧
    (∀ (su : Surroundings) (s : Session) (shortpath x : Text) (d : Document), d.content = content →
      s.table.findShort (some shortpath) = .ok (some d) →
      Markup.display s.gallery (pathLine d) = .ok x →
        course ((Command.get shortpath true).perform su) s =
          (.ok (), s.printing ([Layout.page x, rule ++ ['\n']] ++ (numberedLines content).flatMap
            (fun l => [Layout.row (numberMark l.2), Layout.page (s.gallery.drawn l.1)])))) ∧
    ((matchingLines content patterns most).map Prod.fst).Pairwise (· < ·) ∧
    matchingLines content [] most = [] := by
  refine ⟨⟨matchingLines_eq content patterns hmost, map_fst_numberedLines content⟩, ?_,
    pairwise_matchingLines content patterns hmost, matchingLines_nil content most⟩
  rintro su s shortpath x d rfl hfind hlead
  exact course_showDocument_numbered hfind hlead

/-- The second and the fourth of four lines are hits, and the document shows them under these
numbers. -/
theorem law_of_hits_four_lines :
    let content := "a\n IX\nb\nx".toList
    let s := onTable (Table.recording ['r'] content)
    (1 : Int) ≤ 3 ∧ matchingLines content ["x".toList] 3 = [(2, "IX".toList), (4, "x".toList)] ∧
      (course ((Command.get "p/r".toList true).perform Site.atTmp) s).2.output =
        "Path: /p/r\n".toList ++ (rule ++ ['\n']) ++
          "   1 | a\n   2 |  IX\n   3 | b\n   4 | x\n".toList := by
  intro content s
  obtain ⟨d, hfind, hcontent, hpath⟩ := Table.exists_findShort_recording content
  obtain ⟨hlead, hpage⟩ := display_pathLine_recording hpath
  obtain ⟨⟨hhits, -⟩, hshown, -⟩ := law_of_hits content ["x".toList] (show (1 : Int) ≤ 3 by decide)
  refine ⟨by decide, ?_, ?_⟩
  · rw [hhits]
    decide +kernel
  · rw [hshown Site.atTmp s _ _ d hcontent hfind hlead, output_printing, hpage]
    decide +kernel

end Session

end PackageCatalog
