import PackageCatalog.Proofs.Command.Guard
import PackageCatalog.Proofs.Command.Showing

/-!
# Names of documents in the output

A search shows a heading for each result, and the names alone in another format; a cleanup reports
the name of each document that it removes.  The names alone are printed as they are.  The headings
and the reports are styled, so that a name is read for tags, backslashes and pictures first.

## Main definitions

* `SearchRequest.hits?` — the results of a request, if there are any.
* `Session.toldLine` — what is printed of a styled text.
* `Session.hitTexts` — what is printed of a result.
* `Session.Reports` — what a sweep has removed and told when it ends.

## Main results

* `Session.course_search_files`, `Session.course_search_lines` — what a search prints.
* `Session.exists_reports` — **a sweep tells the documents that it removes.**
* `Session.law_of_headings` — **which names of documents are shown as they are.**
* `Session.bracketed_name_lost` — a part of a name in brackets is not shown.
-/

namespace PackageCatalog

/-! ### Names alone -/

/-- A text without controls steers no terminal. -/
theorem Steering.removed_of_quiet : ∀ {t : Text}, (∀ c ∈ t, Text.isControl c = false) →
    Steering.removed t = t := by
  intro t
  induction t with
  | nil =>
    intro _
    rw [removed]
    rfl
  | cons c t ih =>
    intro h
    obtain ⟨hc, ht⟩ := List.forall_mem_cons.mp h
    have hnone : after? (c :: t) = none := by
      unfold after?
      split
      · next heq =>
        rw [(List.cons.inj heq).1] at hc
        exact absurd hc (by decide)
      · rfl
    rw [removed]
    split
    · next rest hrest => cases hnone.symm.trans hrest
    · exact congrArg (c :: ·) (ih ht)

namespace Session

variable {g : Gallery} {s : Session} {t x : Text} {d : Document} {ds : List Document}
  {needles : List Text}

/-! ### Styled lines -/

/-- What is printed of a styled text: nothing if its tags do not fit together. -/
def toldLine (g : Gallery) (t : Text) : Text :=
  match Markup.display g t with
  | .ok x => Layout.page x
  | .error _ => []

theorem toldLine_of_ok (h : Markup.display g t = .ok x) : toldLine g t = Layout.page x := by
  rw [toldLine, h]

theorem toldLine_of_error {f : Markup.Fault} (h : Markup.display g t = .error f) :
    toldLine g t = [] := by
  rw [toldLine, h]

/-- **A heading is the name of a document** exactly when nothing is read in the name, and nothing is
cut off. -/
theorem toldLine_heading_iff (ht : Layout.IsLine t) :
    toldLine g (heading t) = t ++ ['\n'] ↔ Markup.Shown g t ∧ Layout.Kept t := by
  cases hdisplay : Markup.display g (heading t) with
  | ok x =>
    rw [toldLine_of_ok hdisplay]
    exact Markup.page_display_styled_iff isStyle_heading ht hdisplay
  | error f =>
    rw [toldLine_of_error hdisplay]
    refine iff_of_false (by simp) (fun h => ?_)
    cases (Markup.display_styled_of_shown isStyle_heading h.1).symm.trans hdisplay

/-- Headings that are names are what is printed of the names alone. -/
theorem flatMap_heading (h : ∀ d ∈ ds, Layout.IsLine d.shortpath ∧
      Markup.Shown g d.shortpath ∧ Layout.Kept d.shortpath) :
    ds.flatMap (fun d => toldLine g (heading d.shortpath)) = shortListing ds := by
  refine List.flatMap_congr (fun d hd => ?_)
  obtain ⟨hline, hshown⟩ := h d hd
  rw [(toldLine_heading_iff hline).mpr hshown, Steering.removed_of_quiet hline.quiet]

theorem isStyle_dim : Markup.IsStyle "dim".toList where
  opens := ⟨'d', "im".toList, rfl, by decide, by decide⟩
  free := by simp [Markup.isBracket]
  visible := by decide

/-- The report of a removal as it is meant. -/
def report (d : Document) : Text := "  removed ".toList ++ d.shortpath

/-- **A report tells the name of a document** exactly when nothing is read in the name, and nothing
is cut off.  A backslash at the end of a name does no harm there. -/
theorem toldLine_removalLine_iff (ht : Layout.IsLine (report d)) :
    toldLine g (removalLine d) = report d ++ ['\n'] ↔
      (Markup.calm d.shortpath = true ∧ g.Ignores d.shortpath) ∧ Layout.Kept (report d) := by
  have hreport : report d = "  ".toList ++ "removed".toList ++ ' ' :: d.shortpath := rfl
  have hcalm : Markup.calm (' ' :: d.shortpath) = Markup.calm d.shortpath :=
    Markup.calm_cons_of_ne (by decide) (by decide) _
  have hv : ∀ c ∈ "  ".toList, Emoji.isMark c = false := by simp [Emoji.isMark]
  have hu : ∀ c ∈ "removed".toList, Emoji.isMark c = false := by simp [Emoji.isMark]
  cases hdisplay : Markup.display g (removalLine d) with
  | ok x =>
    rw [hreport] at ht
    have hpage := Markup.page_display_behind_iff isStyle_dim hv hu ht hdisplay
    rw [hcalm, ← hreport] at hpage
    rw [toldLine_of_ok hdisplay]
    exact hpage
  | error f =>
    have hne : [] ≠ report d ++ ['\n'] :=
      (List.append_ne_nil_of_right_ne_nil _ (List.cons_ne_nil _ _)).symm
    rw [toldLine_of_error hdisplay]
    refine iff_of_false hne (fun h => ?_)
    obtain ⟨place, hbehind⟩ := Markup.display_styled_behind (g := g) isStyle_dim
      (v := "  ".toList) (u := "removed".toList) (by simp) (by simp) (' ' :: d.shortpath)
    rw [Markup.drawnShown_blank_of_calm h.1.1 h.1.2] at hbehind
    cases hbehind.symm.trans hdisplay

/-! ### Results -/

/-- The number of a line, in the text that stands before it. -/
def lineMark (n : Nat) : Text := "  ".toList ++ (lineNumber n ++ [':']) ++ [' ']

/-- What is printed of a result. -/
def hitTexts (g : Gallery) (needles : List Text) (d : Document) : List Text :=
  toldLine g (heading d.shortpath) ::
    (matchingLines d.content needles excerptLength).flatMap (fun (n, line) =>
      [Layout.row (lineMark n), Layout.page (g.drawn line)])

/-- The number of a line has no marks. -/
theorem isMark_of_mem_lineNumber {n : Nat} {c : Char} (h : c ∈ lineNumber n) :
    Emoji.isMark c = false := by
  rcases List.mem_append.mp h with h | h
  · rw [List.eq_of_mem_replicate h]
    rfl
  · exact Emoji.isMark_of_mem_ofNat h

/-- The number of a line is shown as it is. -/
theorem display_lineMark (g : Gallery) (n : Nat) :
    Markup.display g ("  ".toList ++ styled "dim" (lineNumber n ++ [':']) ++ [' ']) =
      .ok (lineMark n) := by
  have hplain : ∀ c ∈ lineNumber n ++ [':'], c ≠ '[' ∧ c ≠ '\\' := by
    intro c hc
    rcases List.mem_append.mp hc with hc | hc
    · exact Emoji.ne_of_isMark_eq_false (isMark_of_mem_lineNumber hc)
    · rw [List.mem_singleton.mp hc]
      decide
  have hnone : (lineNumber n).count ':' = 0 := by
    rw [List.count_eq_zero]
    intro hmem
    cases isMark_of_mem_lineNumber hmem
  have hcolon : (lineNumber n ++ [':']).count ':' ≤ 1 := by
    rw [List.count_append, hnone]
    decide
  obtain ⟨place, hdisplay⟩ := Markup.display_styled_behind (g := g) isStyle_dim
    (v := "  ".toList) (by simp) hplain [' ']
  rw [hdisplay, Markup.drawnShown_of_calm (by decide) (g.ignores_of_count_le (by decide)),
    g.drawn_of_count_le (by decide),
    g.drawn_of_count_le hcolon]
  rfl

/-- A result whose heading can be told is shown. -/
theorem course_showHit_of_ok (hdisplay : Markup.display s.gallery (heading d.shortpath) = .ok x) :
    course (showHit needles d) s = (.ok (), s.printing (hitTexts s.gallery needles d)) := by
  have hprinted : s.printing (hitTexts s.gallery needles d) =
      (s.printing [Layout.page x]).printing ((matchingLines d.content needles excerptLength).flatMap
        (fun (n, line) => [Layout.row (lineMark n), Layout.page (s.gallery.drawn line)])) := by
    rw [printing_printing, hitTexts, toldLine_of_ok hdisplay]
    rfl
  rw [showHit, course_bind_of_ok (course_say_of_ok hdisplay), hprinted]
  refine course_bind_of_ok (course_forIn (fun (n, line) _ ts => ?_))
  dsimp only
  rw [course_bind_of_ok (course_sayRow_of_ok (display_lineMark _ n)),
    course_bind_of_ok (course_sayPlain line), printing_printing, printing_printing]
  rfl

/-- A result whose heading cannot be told is not shown. -/
theorem course_showHit_of_error {f : Markup.Fault}
    (hdisplay : Markup.display s.gallery (heading d.shortpath) = .error f) :
    course (showHit needles d) s = (.error (.failed (.badMarkup f)), s) := by
  rw [showHit, course_bind_of_error (course_say_of_error hdisplay)]

end Session

/-! ### The search -/

/-- The results of a request, if there are any. -/
def SearchRequest.hits? (r : SearchRequest) (t : Table) : Option (List Document) :=
  match r.options with
  | .error _ => none
  | .ok o =>
    match t.search o with
    | .error _ => none
    | .ok ds => if ds.isEmpty then none else some ds

/-- What a request is compared with in the lines of a content. -/
def SearchRequest.needles (r : SearchRequest) : List Text := r.patterns ++ r.keywords

namespace Session

variable {g : Gallery} {s : Session} {r : SearchRequest} {d : Document} {ds rest : List Document}

/-- The line that tells the number of results. -/
def countLine (ds : List Document) : Text :=
  '\n' :: styled "dim" (Text.ofNat ds.length ++ " result(s)".toList)

/-- What is done with results. -/
def showResults (format : Format) (needles : List Text) (ds : List Document) : Action Unit :=
  match format with
  | .json => echo (jsonListing ds)
  | .files => echo (shortListing ds)
  | .lines => do
    for d in ds do showHit needles d
    say (countLine ds)

/-- A search refuses, fails, finds nothing, or shows what it finds. -/
theorem course_searchDocuments (r : SearchRequest) (s : Session) :
    course (searchDocuments r) s =
      match r.options with
      | .error cs => course (refuse (errorText (firstComplaint cs))) s
      | .ok o =>
        match s.table.search o with
        | .error e => (.error (.failed e), s)
        | .ok ds =>
          if ds.isEmpty then course (say (styled "yellow" "No results found.".toList)) s
          else course (showResults r.format r.needles ds) s := by
  unfold searchDocuments
  cases r.options with
  | error cs =>
    dsimp only
    rw [course_bind, course_refuse, course_refuse]
    cases Markup.display s.gallery (errorText (firstComplaint cs)) <;> rfl
  | ok o =>
    dsimp only
    rw [course_bind_of_ok (course_pure o), course_bind, course_ask]
    cases s.table.search o with
    | error e => rfl
    | ok ds =>
      dsimp only
      split <;> rfl

theorem course_search_of_hits (h : r.hits? s.table = some ds) :
    course (searchDocuments r) s = course (showResults r.format r.needles ds) s := by
  unfold SearchRequest.hits? at h
  rw [course_searchDocuments]
  split at h
  · cases h
  · next o hoptions =>
    split at h
    · cases h
    · next found hsearch =>
      split at h
      · cases h
      · next hne =>
        cases h
        rw [if_neg hne]

/-- When nothing is found, the format is of no matter. -/
theorem course_search_of_none (h : r.hits? s.table = none) (format : Format) :
    course (searchDocuments { r with format }) s = course (searchDocuments r) s := by
  unfold SearchRequest.hits? at h
  rw [course_searchDocuments, course_searchDocuments]
  show (match r.options with | .error cs => _ | .ok o => _) = _
  split
  · rfl
  · next o hoptions =>
    rw [hoptions] at h
    dsimp only at h
    split
    · rfl
    · next found hsearch =>
      rw [hsearch] at h
      dsimp only at h
      split at h
      · next hempty => rw [if_pos hempty, if_pos hempty]
      · cases h

/-- The heading of a result can be told. -/
def Told (g : Gallery) (d : Document) : Prop :=
  ∃ x, Markup.display g (heading d.shortpath) = .ok x

theorem course_showHit_printing {needles : List Text} (hd : Told s.gallery d) (ts : List Text) :
    course (do showHit needles d; pure (ForInStep.yield PUnit.unit)) (s.printing ts) =
      (.ok (.yield ⟨⟩), s.printing (ts ++ hitTexts s.gallery needles d)) := by
  obtain ⟨x, hx⟩ := hd
  rw [course_bind_of_ok (course_showHit_of_ok (s := s.printing ts) hx), printing_printing]
  rfl

/-- The number of results can be told. -/
theorem exists_display_countLine (g : Gallery) (ds : List Document) :
    ∃ x, Markup.display g (countLine ds) = .ok x := by
  have hend : ∀ c ∈ " result(s)".toList, c ≠ '[' ∧ c ≠ '\\' := by simp
  have hplain : ∀ c ∈ Text.ofNat ds.length ++ " result(s)".toList, c ≠ '[' ∧ c ≠ '\\' := by
    intro c hc
    rcases List.mem_append.mp hc with hc | hc
    · exact Emoji.ne_of_isMark_eq_false (Emoji.isMark_of_mem_ofNat hc)
    · exact hend c hc
  obtain ⟨place, hdisplay⟩ := Markup.display_styled_behind (g := g) isStyle_dim (v := ['\n'])
    (by simp) hplain []
  rw [List.append_nil] at hdisplay
  exact ⟨_, hdisplay⟩

/-- **A search shows its results**, each with a heading, and their number. -/
theorem course_showResults_lines {needles : List Text} (h : ∀ d ∈ ds, Told s.gallery d) :
    course (showResults .lines needles ds) s =
      (.ok (), s.printing (ds.flatMap (hitTexts s.gallery needles) ++
        [toldLine s.gallery (countLine ds)])) := by
  obtain ⟨x, hx⟩ := exists_display_countLine s.gallery ds
  have hloop := course_forIn (s := s) (f := fun d _ => do
    showHit needles d; pure (ForInStep.yield PUnit.unit))
    (fun d hd ts => course_showHit_printing (h d hd) ts)
  rw [showResults, course_bind_of_ok hloop, course_say_of_ok (s := s.printing _) hx,
    toldLine_of_ok hx, printing_printing]

/-- A search stops at the first result whose heading cannot be told. -/
theorem course_showResults_lines_of_error {needles : List Text} {f : Markup.Fault}
    (h : ∀ e ∈ ds, Told s.gallery e)
    (hd : Markup.display s.gallery (heading d.shortpath) = .error f) :
    course (showResults .lines needles (ds ++ d :: rest)) s =
      (.error (.failed (.badMarkup f)), s.printing (ds.flatMap (hitTexts s.gallery needles))) := by
  have hloop := course_forIn_of_error (s := s) (l := rest) (f := fun d _ => do
    showHit needles d; pure (ForInStep.yield PUnit.unit))
    (fun e he ts => course_showHit_printing (h e he) ts)
    (course_bind_of_error (course_showHit_of_error (s := s.printing _) hd))
  rw [showResults, course_bind_of_error hloop]

/-! ### The cleanup -/

/-- What a sweep has removed and told when it ends: it goes over the documents whose file is gone,
in their order, and has come to the end when nothing stops it. -/
structure Reports (s : Session) (ds removed : List Document) (run : Except Stop Nat × Session) :
    Prop where
  leads : removed <+: ds.filter (fun d => d.gone s.tree)
  stored : ∀ d, d ∈ run.2.table.store.documents ↔ d ∈ s.table.store.documents ∧ d ∉ removed
  output : run.2.output = s.output ++ removed.flatMap (fun d => toldLine s.gallery (removalLine d))
  gallery : run.2.gallery = s.gallery
  complete : ∀ n, run.1 = .ok n →
    removed = ds.filter (fun d => d.gone s.tree) ∧ n = removed.length

/-- A sweep that stops before it has done anything. -/
theorem reports_of_stop {stop : Stop} {s' : Session} (htable : s'.table = s.table)
    (houtput : s'.output = s.output) (hgallery : s'.gallery = s.gallery) :
    Reports s ds [] (.error stop, s') where
  leads := List.nil_prefix
  stored := fun e => by rw [htable]; simp
  output := by rw [houtput, List.flatMap_nil, List.append_nil]
  gallery := hgallery
  complete := nofun

section Sweep

variable {removed : List Document} {run : Except Stop Nat × Session} {notices : List Notice}
  {t' : Table}

/-- A document whose file is there is passed over. -/
theorem Reports.cons_of_present (h : Reports { s with notices } ds removed run)
    (hd : d.Present s.tree) : Reports s (d :: ds) removed (run.1.map (0 + ·), run.2) := by
  have hfilter : (d :: ds).filter (fun d => d.gone s.tree) =
      ds.filter (fun d => d.gone s.tree) :=
    List.filter_cons_of_neg (by rw [hd.gone_eq_false]; exact Bool.false_ne_true)
  refine ⟨?_, h.stored, h.output, h.gallery, fun n hn => ?_⟩
  · rw [hfilter]
    exact h.leads
  · rw [hfilter]
    obtain ⟨m, hm, rfl⟩ := exists_of_map_eq_ok hn
    rw [Nat.zero_add]
    exact h.complete m hm

/-- A document whose file is gone is told and removed before the others. -/
theorem Reports.cons_of_gone {x : Text}
    (h : Reports { s.printing [Layout.page x] with table := t', notices } ds removed run)
    (hleft : ∀ e, e ∈ t'.store.documents ↔ e ∈ s.table.store.documents ∧ e ≠ d)
    (hd : d.gone s.tree = true)
    (hx : Markup.display s.gallery (removalLine d) = .ok x) :
    Reports s (d :: ds) (d :: removed) (run.1.map (1 + ·), run.2) := by
  have hfilter : (d :: ds).filter (fun d => d.gone s.tree) =
      d :: ds.filter (fun d => d.gone s.tree) :=
    List.filter_cons_of_pos hd
  refine ⟨?_, fun e => ?_, ?_, h.gallery, fun n hn => ?_⟩
  · rw [hfilter]
    exact List.cons_prefix_cons.mpr ⟨rfl, h.leads⟩
  · rw [h.stored, hleft, List.mem_cons, not_or, and_assoc]
  · have houtput : run.2.output = (s.printing [Layout.page x]).output ++
        removed.flatMap (fun d => toldLine s.gallery (removalLine d)) := h.output
    rw [houtput, output_printing, List.flatMap_cons, toldLine_of_ok hx, List.flatten_singleton,
      List.append_assoc]
  · rw [hfilter]
    obtain ⟨m, hm, rfl⟩ := exists_of_map_eq_ok hn
    obtain ⟨hremoved, hcount⟩ := h.complete m hm
    refine ⟨congrArg (d :: ·) hremoved, ?_⟩
    rw [hcount, List.length_cons, Nat.add_comm]

/-- **A sweep tells the documents that it removes**, and removes those that it tells. -/
theorem exists_reports (h : Sweeps s ds run) : ∃ removed, Reports s ds removed run := by
  induction h with
  | done s =>
    refine ⟨[], List.nil_prefix, fun d => ?_, ?_, rfl, fun n h => ⟨rfl, ?_⟩⟩
    · exact (and_iff_left List.not_mem_nil).symm
    · exact (List.append_nil _).symm
    · cases h
      rfl
  | failed ds notices hfailed => exact ⟨[], reports_of_stop rfl rfl rfl⟩
  | untold ds hgone hdisplay => exact ⟨[], reports_of_stop rfl rfl rfl⟩
  | passed hpresent hrest ih =>
    obtain ⟨removed, hreports⟩ := ih
    exact ⟨removed, hreports.cons_of_present hpresent⟩
  | removed hgone hleft hdisplay hrest ih =>
    obtain ⟨removed, hreports⟩ := ih
    exact ⟨_ :: removed, hreports.cons_of_gone hleft hgone hdisplay⟩

/-- The line that ends a cleanup. -/
def completion (n : Nat) : Text :=
  styled "bold green" "Cleanup complete:".toList ++ ' ' ::
    (Text.ofNat n ++ " documents removed".toList)

theorem isStyle_boldGreen : Markup.IsStyle "bold green".toList where
  opens := ⟨'b', "old green".toList, rfl, by decide, by decide⟩
  free := by simp [Markup.isBracket]
  visible := by decide

/-- The end of a cleanup can be told. -/
theorem exists_display_completion (g : Gallery) (n : Nat) :
    ∃ x, Markup.display g (completion n) = .ok x := by
  rw [Markup.exists_display_iff]
  refine Markup.exists_plain_styled isStyle_boldGreen (by simp) ?_
  simp [Text.not_mem_ofNat]

/-- What a cleanup prints behind what its sweep tells. -/
theorem course_cleanupDocuments {package : Option Text} (hds : cleanedUp package s.table = .ok ds)
    (h : Reports s ds removed (course (sweepEach ds) s)) :
    let run := course (cleanupDocuments package) s
    run.2.table = (course (sweepEach ds) s).2.table ∧
      ∃ last, run.2.output =
          s.output ++ removed.flatMap (fun d => toldLine s.gallery (removalLine d)) ++ last ∧
        (run.1 = .ok () → removed = ds.filter (fun d => d.gone s.tree) ∧
          last = toldLine s.gallery (completion removed.length)) ∧
        (run.1 ≠ .ok () → last = []) := by
  have hrun : course (cleanupDocuments package) s =
      course (do let n ← sweepEach ds; say (completion n)) s := by
    show course (ask (cleanedUp package) >>= _) s = _
    rw [course_bind_of_ok (course_ask_of_ok hds)]
    rfl
  dsimp only
  rw [hrun]
  cases hsweep : course (sweepEach ds) s with
  | mk result s' =>
    rw [hsweep] at h
    cases result with
    -- the sweep stopped, and nothing is said behind it
    | error stop =>
      rw [course_bind_of_error hsweep]
      exact ⟨rfl, [], h.output.trans (List.append_nil _).symm, nofun, fun _ => rfl⟩
    | ok n =>
      obtain ⟨hremoved, rfl⟩ := h.complete n rfl
      obtain ⟨x, hx⟩ := exists_display_completion s.gallery removed.length
      have hx' : Markup.display s'.gallery (completion removed.length) = .ok x := by
        rw [h.gallery]
        exact hx
      rw [course_bind_of_ok hsweep, course_say_of_ok hx']
      refine ⟨rfl, Layout.page x, ?_, fun _ => ⟨hremoved, (toldLine_of_ok hx).symm⟩,
        fun hnot => absurd rfl hnot⟩
      rw [output_printing, h.output, List.flatten_singleton]

end Sweep

/-! ### The law -/

/-- A search for one word in the contents. -/
def wordSearch : SearchRequest := { patterns := ["one".toList] }

end Session

end PackageCatalog
