import PackageCatalog.Console.Figures
import PackageCatalog.Proofs.Console.Pieces

/-!
# Styled messages

A message is shown unless one of its tags closes a style that is not open.  A tag that closes a
style has a slash, so a text without one can stand behind a styled lead, and the message is
shown.

## Main definitions

* `Markup.Piece.Opens` — a piece that closes no style.
* `Markup.IsStyle` — names of styles whose tags are read back.

## Main results

* `Markup.opens_piecesFrom` — a text without a slash closes no style.
* `Markup.display_styled_behind` — a text between the marks of a style is shown with its pictures.
* `Markup.display_eq_error_iff` — pictures are no matter of the tags.
* `Markup.exists_plain_styled` — **a styled lead with a text behind it that has no slash is shown.**
-/

namespace PackageCatalog.Markup

/-! ### Texts without a slash -/

/-- A piece that closes no style. -/
def Piece.Opens : Piece → Prop
  | .plain _ => True
  | .literal _ => True
  | .tag _ body => '/' ∉ body

theorem opens_escapedTag {place count : Nat} {body : Text} (h : '/' ∉ body) :
    ∀ p ∈ escapedTag place count body, p.Opens := by
  unfold escapedTag
  intro p hp
  rcases List.mem_cons.mp hp with rfl | hp
  · exact trivial
  · rw [List.mem_singleton.mp hp]
    split
    · exact trivial
    · exact h

/-- **A text without a slash closes no style.** -/
theorem opens_piecesFrom : ∀ (place : Nat) {t : Text}, '/' ∉ t →
    ∀ p ∈ piecesFrom place t, p.Opens := by
  intro place t
  induction reading t generalizing place with
  | slashes n =>
    intro _ p hp
    cases n with
    | zero => cases hp
    | succ n =>
      rw [piecesFrom_replicate, List.mem_singleton] at hp
      rw [hp]
      exact trivial
  | @letter n d t hd htag rest ih =>
    intro h p hp
    rw [piecesFrom_letter _ _ hd htag] at hp
    rcases List.mem_cons.mp hp with rfl | hp
    · exact trivial
    · exact ih _ (fun ht => h (List.mem_append_right _ (List.mem_cons_of_mem d ht))) p hp
  | @tag n body t hbody rest ih =>
    intro h p hp
    simp only [List.mem_append, List.mem_cons, not_or] at h
    rw [piecesFrom_tag _ _ hbody] at hp
    rcases List.mem_append.mp hp with hp | hp
    · exact opens_escapedTag h.2.2.1 p hp
    · exact ih _ h.2.2.2.2 p hp

theorem shown_tag (opened : List Text) (place : Nat) (body : Text) (ps : List Piece) :
    shown opened (.tag place body :: ps) =
      match body.takeWhile (· != '=') with
      | '/' :: name =>
        if Text.trim name = [] then
          match opened with
          | [] => .error (.nothingOpen place)
          | _ :: opened => shown opened ps
        else if opened.contains (styleName name) then shown (opened.erase (styleName name)) ps
        else .error (.notOpen body place)
      | name => shown (styleName name :: opened) ps := by
  rfl

/-- Pieces that close no style are shown. -/
theorem exists_shown : ∀ {ps : List Piece} (opened : List Text), (∀ p ∈ ps, p.Opens) →
    ∃ t, shown opened ps = .ok t := by
  intro ps
  induction ps with
  | nil => intro opened _; exact ⟨[], rfl⟩
  | cons p ps ih =>
    intro opened h
    obtain ⟨hp, hps⟩ := List.forall_mem_cons.mp h
    cases p with
    | plain t =>
      obtain ⟨u, hu⟩ := ih opened hps
      exact ⟨t ++ u, by rw [shown, hu]; rfl⟩
    | literal t =>
      obtain ⟨u, hu⟩ := ih opened hps
      exact ⟨t ++ u, by rw [shown, hu]; rfl⟩
    | tag place body =>
      have hbody : '/' ∉ body.takeWhile (· != '=') := fun h => hp (List.takeWhile_subset _ h)
      rw [shown_tag]
      split
      · next name hname =>
        rw [hname] at hbody
        exact absurd List.mem_cons_self hbody
      · exact ih _ hps

/-! ### Styled leads -/

/-- Names of styles whose tags are read back. -/
structure IsStyle (style : Text) : Prop where
  opens : ∃ c cs, style = c :: cs ∧ opensTag c = true ∧ c ≠ '/'
  free : ∀ c ∈ style, isBracket c = false ∧ c ≠ '=' ∧ c ≠ '\\'
  visible : Text.trim style ≠ []

/-- A tag without backslashes before it. -/
theorem piecesFrom_bare_tag {body : Text} (place : Nat) (hbody : IsTag body) (t : Text) :
    piecesFrom place ('[' :: (body ++ ']' :: t)) =
      .literal [] :: .tag place body :: piecesFrom (place + (body.length + 2)) t :=
  piecesFrom_tag place 0 hbody t

/-- Characters that are neither brackets that open nor backslashes stand for themselves. -/
theorem piecesFrom_plain_append : ∀ {u : Text} (place : Nat), (∀ c ∈ u, c ≠ '[' ∧ c ≠ '\\') →
    ∀ t, piecesFrom place (u ++ t) =
      (u.map (fun c => [c])).map .plain ++ piecesFrom (place + u.length) t := by
  intro u
  induction u with
  | nil => intro place _ t; rfl
  | cons c u ih =>
    intro place h t
    obtain ⟨hc, hu⟩ := List.forall_mem_cons.mp h
    have hletter : piecesFrom place (c :: (u ++ t)) =
        .plain [c] :: piecesFrom (place + 1) (u ++ t) := by
      have hpieces := piecesFrom_letter place 0 hc.2 (tag?_eq_none_of_ne hc.1 (u ++ t))
      have hkept : kept 0 (c :: (u ++ t)) = 0 := by simp [kept]
      rwa [hkept] at hpieces
    rw [List.cons_append, hletter, ih (place + 1) hu, List.length_cons, Nat.add_right_comm]
    rfl

section

variable {style : Text} (hstyle : IsStyle style)

include hstyle

theorem IsStyle.isTag : IsTag style := by
  obtain ⟨c, cs, rfl, hc, -⟩ := hstyle.opens
  exact ⟨c, cs, rfl, hc, fun d hd => (hstyle.free d (List.mem_cons_of_mem c hd)).1⟩

theorem IsStyle.isTag_closing : IsTag ('/' :: style) :=
  ⟨'/', style, rfl, rfl, fun d hd => (hstyle.free d hd).1⟩

theorem takeWhile_style : style.takeWhile (· != '=') = style :=
  List.takeWhile_eq_self_iff.mpr (fun c hc => by simpa using (hstyle.free c hc).2.1)

/-- The tag of a style switches it on. -/
theorem shown_opening (opened : List Text) (place : Nat) (ps : List Piece) :
    shown opened (.tag place style :: ps) = shown (styleName style :: opened) ps := by
  obtain ⟨c, cs, hcs, -, hslash⟩ := hstyle.opens
  rw [shown_tag, takeWhile_style hstyle]
  split
  · exact absurd (List.cons.inj hcs).1.symm hslash
  · rfl

/-- The tag that closes the latest style switches it off. -/
theorem shown_closing (opened : List Text) (place : Nat) (ps : List Piece) :
    shown (styleName style :: opened) (.tag place ('/' :: style) :: ps) = shown opened ps := by
  have htake : ('/' :: style).takeWhile (· != '=') = '/' :: style := by
    rw [List.takeWhile_cons_of_pos (by decide), takeWhile_style hstyle]
  have hopened : (styleName style :: opened).contains (styleName style) = true := by
    simp
  rw [shown_tag, htake]
  split
  · next name hname =>
    cases hname
    rw [if_neg hstyle.visible, hopened, if_pos rfl, List.erase_cons_head]
  · next hname => exact absurd rfl (hname style)

end

/-- A text between the marks of a style. -/
theorem styled_append (style : String) (u t : Text) :
    styled style u ++ t =
      '[' :: (style.toList ++ ']' :: (u ++ '[' :: ('/' :: style.toList ++ ']' :: t))) := by
  simp [styled]

/-- The pieces of a text between the marks of a style, with plain text before it and any text behind
it. -/
theorem pieces_styled {style : String} (hstyle : IsStyle style.toList) {v u : Text}
    (hv : ∀ c ∈ v, c ≠ '[' ∧ c ≠ '\\') (hu : ∀ c ∈ u, c ≠ '[' ∧ c ≠ '\\') (t : Text) :
    ∃ place place' place'', pieces (v ++ styled style u ++ t) =
      (v.map (fun c => [c])).map .plain ++ .literal [] :: .tag place style.toList ::
        ((u.map (fun c => [c])).map .plain ++ .literal [] :: .tag place' ('/' :: style.toList) ::
          piecesFrom place'' t) := by
  rw [pieces_eq, List.append_assoc, styled_append, piecesFrom_plain_append _ hv,
    piecesFrom_bare_tag _ hstyle.isTag, piecesFrom_plain_append _ hu,
    piecesFrom_bare_tag _ hstyle.isTag_closing]
  exact ⟨_, _, _, rfl⟩

/-! ### Pictures -/

variable {g : Gallery}

/-- The characters of pieces, with pictures in the place of their names. -/
def drawnShown (g : Gallery) (opened : List Text) (ps : List Piece) : Except Fault Text :=
  shown opened ((joined ps).map (Piece.drawn g))

theorem display_eq (g : Gallery) (t : Text) : display g t = drawnShown g [] (pieces t) := rfl

theorem drawnShown_literal (opened : List Text) (t : Text) (ps : List Piece) :
    drawnShown g opened (.literal t :: ps) = (drawnShown g opened ps).map (g.drawn t ++ ·) := rfl

theorem drawnShown_literal_nil (opened : List Text) (ps : List Piece) :
    drawnShown g opened (.literal [] :: ps) = drawnShown g opened ps := by
  rw [drawnShown_literal]
  cases drawnShown g opened ps <;> rfl

theorem withPlain_withPlain (t u : Text) (ps : List Piece) :
    withPlain t (withPlain u ps) = withPlain (t ++ u) ps := by
  cases ps with
  | nil => rfl
  | cons p ps =>
    cases p with
    | plain v => simp [withPlain]
    | literal v => rfl
    | tag place body => rfl

/-- Plain text in several pieces is that in one. -/
theorem joined_plain_append (ps : List Piece) : ∀ {ts : List Text}, ts ≠ [] →
    joined (ts.map .plain ++ ps) = withPlain ts.flatten (joined ps) := by
  intro ts
  induction ts with
  | nil => intro h; exact absurd rfl h
  | cons t ts ih =>
    intro _
    cases ts with
    | nil => rw [List.flatten_singleton]; rfl
    | cons u ts =>
      rw [List.map_cons, List.cons_append, joined, ih (List.cons_ne_nil u ts),
        withPlain_withPlain]
      rfl

/-- Plain text at the end is drawn as a whole. -/
theorem drawnShown_plain (opened : List Text) (ts : List Text) :
    drawnShown g opened (ts.map .plain) = .ok (g.drawn ts.flatten) := by
  cases ts with
  | nil => rfl
  | cons t ts =>
    have hjoined := joined_plain_append [] (List.cons_ne_nil t ts)
    rw [List.append_nil] at hjoined
    rw [drawnShown, hjoined]
    simp [joined, withPlain, Piece.drawn, shown, Except.map]

/-- Plain text before backslashes and a tag is drawn by itself. -/
theorem drawnShown_append_literal (opened : List Text) (ps : List Piece) (ts : List Text)
    (v : Text) :
    drawnShown g opened (ts.map .plain ++ .literal v :: ps) =
      (drawnShown g opened (.literal v :: ps)).map (g.drawn ts.flatten ++ ·) := by
  cases ts with
  | nil =>
    rw [List.map_nil, List.nil_append]
    cases drawnShown g opened (.literal v :: ps) <;> rfl
  | cons t ts =>
    rw [drawnShown, joined_plain_append _ (List.cons_ne_nil t ts)]
    rfl

theorem flatten_letters (u : Text) : (u.map (fun c => [c])).flatten = u := by
  rw [← List.flatMap_def]
  exact List.flatMap_singleton' u

section

variable {style : Text} (hstyle : IsStyle style)

include hstyle

theorem drawnShown_opening (opened : List Text) (place : Nat) (ps : List Piece) :
    drawnShown g opened (.tag place style :: ps) = drawnShown g (styleName style :: opened) ps :=
  shown_opening hstyle opened place _

theorem drawnShown_closing (opened : List Text) (place : Nat) (ps : List Piece) :
    drawnShown g (styleName style :: opened) (.tag place ('/' :: style) :: ps) =
      drawnShown g opened ps :=
  shown_closing hstyle opened place _

end

/-- **A text between the marks of a style is shown with its pictures**, as is the plain text before
it, and the style is off behind it. -/
theorem display_styled_behind {style : String} (hstyle : IsStyle style.toList) {v u : Text}
    (hv : ∀ c ∈ v, c ≠ '[' ∧ c ≠ '\\') (hu : ∀ c ∈ u, c ≠ '[' ∧ c ≠ '\\') (t : Text) :
    ∃ place, display g (v ++ styled style u ++ t) =
      (drawnShown g [] (piecesFrom place t)).map (g.drawn v ++ g.drawn u ++ ·) := by
  obtain ⟨place, place', place'', hpieces⟩ := pieces_styled hstyle hv hu t
  refine ⟨place'', ?_⟩
  rw [display_eq, hpieces, drawnShown_append_literal, drawnShown_literal_nil,
    drawnShown_opening hstyle, drawnShown_append_literal, drawnShown_literal_nil,
    drawnShown_closing hstyle, flatten_letters, flatten_letters]
  cases drawnShown g [] (piecesFrom place'' t) with
  | ok x => exact congrArg Except.ok (List.append_assoc _ _ x).symm
  | error e => rfl

/-! ### What cannot be shown -/

/-- Whether tags fit together is no matter of plain text. -/
theorem shown_drawn_eq_error_iff {f : Fault} : ∀ {ps : List Piece} {opened : List Text},
    shown opened (ps.map (Piece.drawn g)) = .error f ↔ shown opened ps = .error f := by
  have hmap : ∀ {r : Except Fault Text} {t : Text}, r.map (t ++ ·) = .error f ↔ r = .error f := by
    intro r t
    cases r <;> simp [Except.map]
  intro ps
  induction ps with
  | nil => intro opened; rfl
  | cons p ps ih =>
    intro opened
    cases p with
    | plain t => rw [List.map_cons, Piece.drawn, shown, shown, hmap, hmap, ih]
    | literal t => rw [List.map_cons, Piece.drawn, shown, shown, hmap, hmap, ih]
    | tag place body =>
      rw [List.map_cons, Piece.drawn, shown_tag, shown_tag]
      split
      · split
        · split
          · rfl
          · exact ih
        · split
          · exact ih
          · rfl
      · exact ih

theorem shown_withPlain (opened : List Text) (t : Text) (ps : List Piece) :
    shown opened (withPlain t ps) = (shown opened ps).map (t ++ ·) := by
  cases ps with
  | nil => rfl
  | cons p ps =>
    cases p with
    | plain u =>
      rw [withPlain, shown, shown]
      cases shown opened ps <;> simp [Except.map]
    | literal u => rfl
    | tag place body => rfl

theorem shown_joined : ∀ (ps : List Piece) (opened : List Text),
    shown opened (joined ps) = shown opened ps := by
  intro ps
  induction ps with
  | nil => intro opened; rfl
  | cons p ps ih =>
    intro opened
    cases p with
    | plain t => rw [joined, shown_withPlain, shown, ih]
    | literal t => rw [joined, shown, shown, ih]
    | tag place body =>
      rw [joined, shown_tag, shown_tag]
      simp only [ih]

/-- **A message cannot be shown exactly when its tags do not fit together.** -/
theorem display_eq_error_iff {t : Text} {f : Fault} :
    display g t = .error f ↔ plain t = .error f := by
  rw [display, shown_drawn_eq_error_iff, shown_joined, plain]

theorem exists_display_iff {t : Text} :
    (∃ x, display g t = .ok x) ↔ ∃ x, plain t = .ok x := by
  have herror := fun f => display_eq_error_iff (g := g) (t := t) (f := f)
  cases hplain : plain t with
  | error f =>
    rw [(herror f).mpr hplain]
  | ok x =>
    cases hdisplay : display g t with
    | error f => cases hplain.symm.trans ((herror f).mp hdisplay)
    | ok y => simp

/-- **A styled lead with a text behind it that has no slash is shown.** -/
theorem exists_plain_styled {style : String} (hstyle : IsStyle style.toList) {u : Text}
    (hu : ∀ c ∈ u, c ≠ '[' ∧ c ≠ '\\') {t : Text} (ht : '/' ∉ t) :
    ∃ x, plain (styled style u ++ t) = .ok x := by
  obtain ⟨place, h⟩ :=
    display_styled_behind (g := Gallery.standard) hstyle (v := []) nofun hu t
  obtain ⟨x, hx⟩ := exists_shown [] (opens_piecesFrom place ht)
  have hdrawn : ∃ y, drawnShown Gallery.standard [] (piecesFrom place t) = .ok y := by
    cases hy : drawnShown Gallery.standard [] (piecesFrom place t) with
    | ok y => exact ⟨y, rfl⟩
    | error f =>
      rw [drawnShown, shown_drawn_eq_error_iff, shown_joined, hx] at hy
      cases hy
  obtain ⟨y, hy⟩ := hdrawn
  rw [List.nil_append] at h
  rw [← exists_display_iff (g := Gallery.standard), h, hy]
  exact ⟨_, rfl⟩

end PackageCatalog.Markup
