import PackageCatalog.Proofs.Console.Layout
import PackageCatalog.Proofs.Console.Markup

/-!
# Texts that are shown as they are

A text that is put into a message is read for tags, backslashes and names of pictures like the rest
of the message.  It is shown as it is exactly when there is nothing of that kind in it: whatever is
read takes away marks, and no later step brings them back.

## Main definitions

* `Markup.Shown` — nothing in a text is read as a tag, a backslash or a name of a picture.
* `Markup.Loses` — a text has fewer marks than another one.
* `Layout.IsLine` — a text without controls that fits into a line of the console.

## Main results

* `Markup.display_styled_of_shown`, `Markup.loses_of_not_shown` — what stands between the marks of a
  style.
* `Markup.page_display_styled_iff` — **when a line is the text that stands between the marks of a
  style.**
* `Markup.page_display_behind_iff` — the same for a text behind a style.
-/

namespace PackageCatalog

namespace Layout

/-- A text without controls that fits into a line of the console. -/
structure IsLine (t : Text) : Prop where
  quiet : ∀ c ∈ t, Text.isControl c = false
  fits : Text.width t ≤ columns

instance (t : Text) : Decidable (IsLine t) :=
  decidable_of_iff (t.all (fun c => !Text.isControl c) = true ∧ Text.width t ≤ columns)
    ⟨fun h => ⟨by simpa using h.1, h.2⟩, fun h => ⟨by simpa using h.quiet, h.fits⟩⟩

theorem IsLine.not_mem_tab {t : Text} (h : IsLine t) : '\t' ∉ t :=
  fun hmem => absurd (h.quiet _ hmem) (by decide)

theorem IsLine.isPlain {t : Text} (h : IsLine t) : IsPlain t where
  calm c hc hcontrol := by
    rw [h.quiet c hc] at hcontrol
    cases hcontrol
  fits := by
    rw [expandTabs_of_not_mem h.not_mem_tab]
    exact h.fits

end Layout

namespace Markup

open Emoji (marks isMark marks_append marks_le_of_count_le)

variable {g : Gallery} {c : Char} {t u v x y : Text} {opened : List Text} {ps : List Piece}

/-! ### What is shown -/

/-- What is shown of pieces is what they hold. -/
theorem eq_held_of_shown : ∀ {ps : List Piece} {opened : List Text} {x : Text},
    shown opened ps = .ok x → x = held ps := by
  intro ps
  induction ps with
  | nil =>
    rintro opened x ⟨⟩
    rfl
  | cons p ps ih =>
    have hmap : ∀ {opened : List Text} {t x : Text},
        (shown opened ps).map (t ++ ·) = .ok x → x = t ++ held ps := by
      intro opened t x h
      cases hshown : shown opened ps with
      | error f =>
        rw [hshown] at h
        cases h
      | ok y =>
        rw [hshown] at h
        cases h
        rw [← ih hshown]
    intro opened x h
    cases p with
    | plain t => exact hmap h
    | literal t => exact hmap h
    | tag place body =>
      -- whatever a tag does to the styles, nothing is shown of it
      rw [shown_tag] at h
      rw [held_cons, Piece.held, List.nil_append]
      split at h
      · split at h
        · split at h
          · cases h
          · exact ih h
        · split at h
          · exact ih h
          · cases h
      · exact ih h

theorem held_withPlain (t : Text) (ps : List Piece) : held (withPlain t ps) = t ++ held ps := by
  cases ps with
  | nil => simp [withPlain, held, Piece.held]
  | cons p ps => cases p <;> simp [withPlain, held, Piece.held]

theorem held_joined : ∀ ps : List Piece, held (joined ps) = held ps
  | [] => rfl
  | .plain t :: ps => by rw [joined, held_withPlain, held_joined ps]; rfl
  | .literal t :: ps => by rw [joined, held_cons, held_joined ps]; rfl
  | .tag place body :: ps => by rw [joined, held_cons, held_joined ps]; rfl

/-- Pictures bring no marks into what is shown. -/
theorem count_le_of_drawnShown (hc : isMark c = true) (h : drawnShown g opened ps = .ok x) :
    x.count c ≤ (held ps).count c := by
  rw [eq_held_of_shown h, ← held_joined ps, held, held, List.flatMap_map]
  refine Layout.count_flatMap_le (fun p _ => ?_)
  cases p with
  | plain t => exact Gallery.count_drawn_le hc t
  | literal t => exact Gallery.count_drawn_le hc t
  | tag place body => exact Nat.le_refl _

theorem marks_le_of_drawnShown (h : drawnShown g opened ps = .ok x) : marks x ≤ marks (held ps) :=
  marks_le_of_count_le (fun _ hc => count_le_of_drawnShown hc h)

/-! ### A text in a message -/

/-- Nothing in a text is read as a tag, a backslash or a name of a picture, whatever stands behind
it. -/
structure Shown (g : Gallery) (t : Text) : Prop where
  calm : calm t = true
  ends : t.getLast? ≠ some '\\'
  ignored : g.Ignores t

/-- A text has fewer backslashes or fewer marks than another one. -/
def Loses (x t : Text) : Prop := x.count '\\' < t.count '\\' ∨ marks x < marks t

/-- The rest of a message in which nothing is read. -/
theorem drawnShown_of_calm (h : calm t = true) (hignored : g.Ignores t) (place : Nat) :
    drawnShown g opened (piecesFrom place t) = .ok t := by
  obtain ⟨ts, hts, hflatten⟩ := exists_plain_of_calm place h
  rw [hts, drawnShown_plain, hflatten, Gallery.drawn_of_ignores hignored]

/-- The same behind a blank. -/
theorem drawnShown_blank_of_calm (h : calm t = true) (hignored : g.Ignores t) (place : Nat) :
    drawnShown g opened (piecesFrom place (' ' :: t)) = .ok (' ' :: t) :=
  drawnShown_of_calm ((calm_cons_of_ne (by decide) (by decide) t).trans h) hignored place

/-- The rest of a message loses marks if something is read. -/
theorem marks_lt_of_drawnShown {place : Nat} (h : ¬ (calm t = true ∧ g.Ignores t))
    (hx : drawnShown g opened (piecesFrom place t) = .ok x) : marks x < marks t := by
  cases hcalm : calm t with
  | false => exact (marks_le_of_drawnShown hx).trans_lt (marks_held_lt place hcalm)
  | true =>
    obtain ⟨ts, hts, hflatten⟩ := exists_plain_of_calm place hcalm
    rw [hts, drawnShown_plain, hflatten] at hx
    cases hx
    exact Gallery.marks_drawn_lt (fun hignored => h ⟨hcalm, hignored⟩)

section

variable {style : String} (hstyle : IsStyle style.toList)

include hstyle

/-- What is read between the marks of a style. -/
theorem display_styled (g : Gallery) (t : Text) :
    display g (styled style t) = drawnShown g [styleName style.toList]
      (piecesFrom (style.toList.length + 2) (t ++ '[' :: ('/' :: style.toList ++ ']' :: []))) := by
  rw [display_eq, pieces_eq, ← List.append_nil (styled style t), styled_append,
    piecesFrom_bare_tag _ hstyle.isTag, drawnShown_literal_nil, drawnShown_opening hstyle,
    Nat.zero_add]

/-- A text that does not end in a backslash, and the tag behind it. -/
theorem piecesFrom_append_closing (place : Nat) (h : t.getLast? ≠ some '\\') :
    ∃ place', piecesFrom place (t ++ '[' :: ('/' :: style.toList ++ ']' :: [])) =
      piecesFrom place t ++ [.literal [], .tag place' ('/' :: style.toList)] := by
  have happend := piecesFrom_append place 0 ('/' :: style.toList ++ ']' :: []) h
  rw [List.replicate_zero, List.nil_append, piecesFrom_bare_tag _ hstyle.isTag_closing] at happend
  exact ⟨_, happend⟩

/-- **A text in which nothing is read is shown as it is.** -/
theorem display_styled_of_shown (h : Shown g t) : display g (styled style t) = .ok t := by
  obtain ⟨place, hpieces⟩ := piecesFrom_append_closing hstyle (style.toList.length + 2) h.ends
  obtain ⟨ts, hts, hflatten⟩ := exists_plain_of_calm (style.toList.length + 2) h.calm
  rw [display_styled hstyle, hpieces, hts, drawnShown_append_literal, drawnShown_literal_nil,
    drawnShown_closing hstyle, hflatten, Gallery.drawn_of_ignores h.ignored]
  exact congrArg Except.ok (List.append_nil t)

/-- A backslash before the tag that closes the style is lost. -/
theorem count_lt_of_display_styled (h : t.getLast? = some '\\')
    (hx : display g (styled style t) = .ok x) : x.count '\\' < t.count '\\' := by
  obtain ⟨n, u, ht, hu⟩ : ∃ n u, t = u ++ List.replicate (n + 1) '\\' ∧ u.getLast? ≠ some '\\' := by
    obtain ⟨n, r, hreverse, hr⟩ := exists_slashes t.reverse
    have ht : t = r.reverse ++ List.replicate n '\\' := by
      rw [← List.reverse_replicate, ← List.reverse_append, ← hreverse, List.reverse_reverse]
    rw [← List.getLast?_reverse] at hr
    cases n with
    | zero =>
      rw [ht, List.replicate_zero, List.append_nil] at h
      exact absurd h hr
    | succ n => exact ⟨n, r.reverse, ht, hr⟩
  have hnone : '\\' ∉ '[' :: ('/' :: style.toList ++ [']']) := by
    intro hmem
    simp only [List.cons_append, List.mem_cons, List.mem_append, List.not_mem_nil, or_false] at hmem
    rcases hmem with hmem | hmem | hmem | hmem
    · exact absurd hmem (by decide)
    · exact absurd hmem (by decide)
    · exact (hstyle.free _ hmem).2.2 rfl
    · exact absurd hmem (by decide)
  rw [display_styled hstyle, ht, List.append_assoc, piecesFrom_append _ _ _ hu,
    piecesFrom_tag _ _ hstyle.isTag_closing] at hx
  have hle := count_le_of_drawnShown (c := '\\') rfl hx
  have hheld := (held_sublist (style.toList.length + 2) (t := u)).count_le '\\'
  -- half of the backslashes are left, and the tag has none
  have hclosing : (held (escapedTag (style.toList.length + 2 + u.length) (n + 1)
      ('/' :: style.toList))).count '\\' = (n + 1) / 2 := by
    rw [held_escapedTag, List.count_append, List.count_replicate_self]
    split
    · rw [List.count_eq_zero.mpr hnone, Nat.add_zero]
    · rfl
  rw [held_append, held_append, List.count_append, List.count_append, hclosing] at hle
  rw [ht, List.count_append, List.count_replicate_self]
  simp only [piecesFrom_nil, held, List.flatMap_nil, List.count_nil] at hle hheld
  omega

/-- **A text in which something is read loses marks.** -/
theorem loses_of_not_shown (h : ¬ Shown g t) (hx : display g (styled style t) = .ok x) :
    Loses x t := by
  by_cases hends : t.getLast? = some '\\'
  · exact Or.inl (count_lt_of_display_styled hstyle hends hx)
  · right
    obtain ⟨place, hpieces⟩ := piecesFrom_append_closing hstyle (style.toList.length + 2) hends
    rw [display_styled hstyle, hpieces] at hx
    -- either a tag or a backslash is read, or a picture is drawn
    cases hcalm : calm t with
    | false =>
      have hheld := marks_le_of_drawnShown hx
      rw [held_append, marks_append] at hheld
      exact hheld.trans_lt (marks_held_lt _ hcalm)
    | true =>
      obtain ⟨ts, hts, hflatten⟩ := exists_plain_of_calm (style.toList.length + 2) hcalm
      rw [hts, drawnShown_append_literal, drawnShown_literal_nil, drawnShown_closing hstyle,
        hflatten] at hx
      cases hx
      dsimp only
      rw [List.append_nil]
      exact Gallery.marks_drawn_lt (fun hignored => h ⟨hcalm, hends, hignored⟩)

end

/-! ### Lines -/

/-- The output for what is left of a text is not the text. -/
theorem page_ne_of_loses (h : Loses x t) : Layout.page x ≠ t ++ ['\n'] := by
  intro hpage
  have hle : ∀ c, isMark c = true → t.count c ≤ x.count c := by
    intro c hc
    have hblank : c ≠ ' ' := by rintro rfl; exact absurd hc (by decide)
    have hbreak : c ≠ '\n' := by rintro rfl; exact absurd hc (by decide)
    have hcount := Layout.count_page_le hblank hbreak x
    rw [hpage, List.count_append] at hcount
    exact (Nat.le_add_right _ _).trans hcount
  rcases h with h | h
  · exact absurd (hle '\\' rfl) (Nat.not_le.mpr h)
  · exact absurd (marks_le_of_count_le hle) (Nat.not_le.mpr h)

/-- When a line is the text that was to be shown in it. -/
theorem page_eq_line_iff {p : Prop} (ht : Layout.IsLine t) (hshown : p → x = t)
    (hloses : ¬ p → Loses x t) : Layout.page x = t ++ ['\n'] ↔ p ∧ Layout.Kept t := by
  by_cases hp : p
  · rw [hshown hp, Layout.page_eq_iff ht.isPlain]
    simp only [ht.not_mem_tab, hp, not_false_eq_true, true_and]
  · simp only [hp, false_and, iff_false]
    exact page_ne_of_loses (hloses hp)

/-- **When a line is the text that stands between the marks of a style.** -/
theorem page_display_styled_iff {style : String} (hstyle : IsStyle style.toList)
    (ht : Layout.IsLine t) (hx : display g (styled style t) = .ok x) :
    Layout.page x = t ++ ['\n'] ↔ Shown g t ∧ Layout.Kept t := by
  refine page_eq_line_iff ht (fun h => ?_) (fun h => loses_of_not_shown hstyle h hx)
  rw [display_styled_of_shown hstyle h] at hx
  cases hx
  rfl

/-- When a line is a styled lead and the text behind it, which ends the line. -/
theorem page_display_behind_iff {style : String} (hstyle : IsStyle style.toList)
    (hv : ∀ c ∈ v, isMark c = false) (hu : ∀ c ∈ u, isMark c = false)
    (hline : Layout.IsLine (v ++ u ++ t)) (hx : display g (v ++ styled style u ++ t) = .ok x) :
    Layout.page x = v ++ u ++ t ++ ['\n'] ↔
      (calm t = true ∧ g.Ignores t) ∧ Layout.Kept (v ++ u ++ t) := by
  obtain ⟨place, hdisplay⟩ := display_styled_behind (g := g) hstyle
    (fun c hc => Emoji.ne_of_isMark_eq_false (hv c hc))
    (fun c hc => Emoji.ne_of_isMark_eq_false (hu c hc)) t
  rw [hdisplay, g.drawn_of_unmarked hv, g.drawn_of_unmarked hu] at hx
  obtain ⟨y, hy, rfl⟩ : ∃ y, drawnShown g [] (piecesFrom place t) = .ok y ∧ v ++ u ++ y = x := by
    cases hy : drawnShown g [] (piecesFrom place t) with
    | error f =>
      rw [hy] at hx
      cases hx
    | ok y =>
      rw [hy] at hx
      exact ⟨y, rfl, Except.ok.inj hx⟩
  refine page_eq_line_iff hline (fun h => ?_) (fun h => Or.inr ?_)
  · rw [drawnShown_of_calm h.1 h.2] at hy
    cases hy
    rfl
  · rw [marks_append, marks_append (v ++ u)]
    exact Nat.add_lt_add_left (marks_lt_of_drawnShown h hy) _

end Markup

end PackageCatalog
