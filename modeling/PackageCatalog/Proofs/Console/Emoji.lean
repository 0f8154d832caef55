import PackageCatalog.Console.Emoji
import Mathlib.Data.List.Basic

/-!
# Texts that pictures leave alone

A text is printed with pictures in the place of their names.  It stays as it is exactly when none of
its codes is the name of a picture: a picture that is drawn takes two colons away, and no picture
brings a mark of its own.

## Main definitions

* `Gallery.Ignores` — no code of a text is the name of a picture.
* `Emoji.marks` — the number of marks of a text.

## Main results

* `Gallery.count_drawn_le` — pictures bring no marks.
* `Gallery.marks_drawn_lt` — a picture that is drawn takes marks away.
* `Gallery.drawn_eq_self_iff` — **a text stays as it is exactly when none of its codes is the name
  of a picture.**
* `Emoji.codes_of_count_le` — a text with at most one colon has no codes.
-/

namespace PackageCatalog

/-- A number has no other characters than digits. -/
theorem Text.not_mem_ofNat {c : Char} (hc : c.isDigit = false) (n : Nat) : c ∉ Text.ofNat n := by
  intro h
  have hdigit := Nat.isDigit_of_mem_toDigits (by decide) (by decide) h
  rw [hc] at hdigit
  cases hdigit

namespace Emoji

/-! ### Marks -/

variable {t u : Text} {c : Char}

theorem ne_of_isMark_eq_false (h : isMark c = false) : c ≠ '[' ∧ c ≠ '\\' := by
  constructor
  · rintro rfl
    cases h
  · rintro rfl
    cases h

/-- A number has no marks. -/
theorem isMark_of_mem_ofNat {n : Nat} (h : c ∈ Text.ofNat n) : isMark c = false := by
  cases hmark : isMark c with
  | false => rfl
  | true =>
    simp only [isMark, Bool.or_eq_true, beq_iff_eq] at hmark
    rcases hmark with (rfl | rfl) | rfl <;> exact absurd h (Text.not_mem_ofNat rfl n)

/-- The number of marks of a text. -/
def marks (t : Text) : Nat := t.countP isMark

theorem marks_append (t u : Text) : marks (t ++ u) = marks t + marks u := List.countP_append

theorem marks_eq (t : Text) : marks t = t.count ':' + t.count '[' + t.count '\\' := by
  induction t with
  | nil => rfl
  | cons c t ih =>
    rw [marks, List.countP_cons, ← marks, ih]
    simp only [List.count_cons, beq_iff_eq, isMark, Bool.or_eq_true]
    by_cases hcolon : c = ':'
    · subst hcolon
      simp
      omega
    · by_cases hbracket : c = '['
      · subst hbracket
        simp
        omega
      · simp only [hcolon, hbracket, false_or, if_false]
        omega

theorem marks_le_of_count_le (h : ∀ c, isMark c = true → t.count c ≤ u.count c) :
    marks t ≤ marks u := by
  have hcolon := h ':' rfl
  have hbracket := h '[' rfl
  have hslash := h '\\' rfl
  rw [marks_eq, marks_eq]
  omega

/-! ### Codes -/

theorem codesFrom_begin (t : Text) : codesFrom none (':' :: t) = codesFrom (some []) t := rfl

theorem codesFrom_letter (hc : c ≠ ':') (t : Text) :
    codesFrom none (c :: t) = codesFrom none t :=
  congrArg (codesFrom · t) (if_neg hc)

theorem codesFrom_end (code t : Text) :
    codesFrom (some code) (':' :: t) = code.reverse :: codesFrom none t := rfl

theorem codesFrom_blank (hc : c ≠ ':') (hblank : Text.isBlank c = true) (code t : Text) :
    codesFrom (some code) (c :: t) = codesFrom none t :=
  (if_neg hc).trans (congrArg (codesFrom · t) (if_pos hblank))

theorem codesFrom_more (hc : c ≠ ':') (hblank : ¬ Text.isBlank c = true) (code t : Text) :
    codesFrom (some code) (c :: t) = codesFrom (some (c :: code)) t :=
  (if_neg hc).trans (congrArg (codesFrom · t) (if_neg hblank))

end Emoji

open Emoji

namespace Gallery

variable {g : Gallery} {code t : Text} {c : Char}

/-- No code of a text is the name of a picture. -/
def Ignores (g : Gallery) (t : Text) : Prop := ∀ code ∈ codes t, g.drawing? code = none

/-- What is put behind a picture is no mark. -/
theorem isMark_nameOf (code : Text) : ∀ c ∈ (nameOf code).2, isMark c = false := by
  unfold nameOf
  split
  · next ending c h =>
    have hmem : (ending, c) ∈ variants := List.mem_of_find?_eq_some h
    have hall : ∀ v ∈ variants, isMark v.2 = false := by decide
    exact List.forall_mem_singleton.mpr (hall _ hmem)
  · exact fun _ h => absurd h List.not_mem_nil

theorem isMark_drawing {picture : Text} (h : g.drawing? code = some picture) :
    ∀ c ∈ picture, isMark c = false := by
  obtain ⟨p, hp, rfl⟩ := Option.map_eq_some_iff.mp h
  intro c hc
  rcases List.mem_append.mp hc with hc | hc
  · exact g.clean hp c hc
  · exact isMark_nameOf code c hc

theorem draw_of_none (h : g.drawing? code = none) : g.draw code = ':' :: (code ++ [':']) := by
  rw [draw, h]
  rfl

theorem count_draw_of_some (hc : isMark c = true) (h : g.drawing? code ≠ none) :
    (g.draw code).count c = 0 := by
  obtain ⟨picture, hpicture⟩ := Option.ne_none_iff_exists'.mp h
  rw [draw, hpicture, Option.getD_some, List.count_eq_zero]
  intro hmem
  rw [isMark_drawing hpicture c hmem] at hc
  cases hc

/-- A picture has at most the marks of its code. -/
theorem count_draw_le (hc : isMark c = true) (code : Text) :
    (g.draw code).count c ≤ (':' :: (code ++ [':'])).count c := by
  by_cases h : g.drawing? code = none
  · exact Nat.le_of_eq (congrArg (List.count c) (draw_of_none h))
  · exact Nat.le_trans (Nat.le_of_eq (count_draw_of_some hc h)) (Nat.zero_le _)

/-! ### The rest of a text -/

/-- The rest of a text with the code that has begun before it. -/
def resumed : Option Text → Text → Text
  | none, t => t
  | some code, t => ':' :: (code.reverse ++ t)

theorem resumed_end (code t : Text) :
    resumed (some code) (':' :: t) = ':' :: (code.reverse ++ [':']) ++ t := by
  simp [resumed]

theorem resumed_letter (code : Text) (c : Char) (t : Text) :
    resumed (some (c :: code)) t = resumed (some code) (c :: t) := by
  simp [resumed]

theorem drawnFrom_begin (g : Gallery) (t : Text) :
    g.drawnFrom none (':' :: t) = g.drawnFrom (some []) t :=
  if_pos rfl

theorem drawnFrom_letter (g : Gallery) (hc : c ≠ ':') (t : Text) :
    g.drawnFrom none (c :: t) = c :: g.drawnFrom none t :=
  if_neg hc

theorem drawnFrom_end (g : Gallery) (code t : Text) :
    g.drawnFrom (some code) (':' :: t) = g.draw code.reverse ++ g.drawnFrom none t :=
  if_pos rfl

theorem drawnFrom_blank (g : Gallery) (hc : c ≠ ':') (hblank : Text.isBlank c = true)
    (code t : Text) :
    g.drawnFrom (some code) (c :: t) = ':' :: (code.reverse ++ c :: g.drawnFrom none t) :=
  (if_neg hc).trans (if_pos hblank)

theorem drawnFrom_more (g : Gallery) (hc : c ≠ ':') (hblank : ¬ Text.isBlank c = true)
    (code t : Text) :
    g.drawnFrom (some code) (c :: t) = g.drawnFrom (some (c :: code)) t :=
  (if_neg hc).trans (if_neg hblank)

/-- A rest none of whose codes is the name of a picture stays as it is. -/
theorem drawnFrom_of_ignores {o : Option Text} {t : Text}
    (h : ∀ code ∈ codesFrom o t, g.drawing? code = none) : g.drawnFrom o t = resumed o t := by
  induction o, t using drawnFrom.induct with
  | case1 => rfl
  | case2 code => simp [drawnFrom, resumed]
  | case3 t ih =>
    rw [codesFrom_begin] at h
    rw [drawnFrom_begin, ih h]
    rfl
  | case4 c t hc ih =>
    rw [codesFrom_letter hc] at h
    rw [drawnFrom_letter g hc, ih h]
    rfl
  | case5 code t ih =>
    rw [codesFrom_end, List.forall_mem_cons] at h
    rw [drawnFrom_end, draw_of_none h.1, ih h.2, resumed_end]
    rfl
  | case6 code c t hc hblank ih =>
    rw [codesFrom_blank hc hblank] at h
    rw [drawnFrom_blank g hc hblank, ih h]
    rfl
  | case7 code c t hc hblank ih =>
    rw [codesFrom_more hc hblank] at h
    rw [drawnFrom_more g hc hblank, ih h, resumed_letter]

theorem count_drawnFrom_le (hc : isMark c = true) (o : Option Text) (t : Text) :
    (g.drawnFrom o t).count c ≤ (resumed o t).count c := by
  induction o, t using drawnFrom.induct with
  | case1 => exact Nat.le_refl _
  | case2 code => simp [drawnFrom, resumed]
  | case3 t ih =>
    rw [drawnFrom_begin]
    exact ih
  | case4 d t hd ih =>
    rw [drawnFrom_letter g hd, resumed, List.count_cons, List.count_cons]
    exact Nat.add_le_add_right ih _
  | case5 code t ih =>
    rw [drawnFrom_end, resumed_end, List.count_append, List.count_append]
    exact Nat.add_le_add (count_draw_le hc _) ih
  | case6 code d t hd hblank ih =>
    rw [drawnFrom_blank g hd hblank]
    simp only [resumed, List.count_cons, List.count_append] at ih ⊢
    omega
  | case7 code d t hd hblank ih =>
    rw [drawnFrom_more g hd hblank, ← resumed_letter]
    exact ih

/-- A picture that is drawn takes colons away. -/
theorem count_drawnFrom_lt {o : Option Text} {t : Text}
    (h : ∃ code ∈ codesFrom o t, g.drawing? code ≠ none) :
    (g.drawnFrom o t).count ':' < (resumed o t).count ':' := by
  -- the induction follows the reading, which is inside a code or between two
  induction o, t using drawnFrom.induct with
  | case1 => simp [codesFrom] at h
  | case2 code => simp [codesFrom] at h
  | case3 t ih =>
    rw [codesFrom_begin] at h
    rw [drawnFrom_begin]
    exact ih h
  | case4 c t hc ih =>
    rw [codesFrom_letter hc] at h
    rw [drawnFrom_letter g hc, resumed, List.count_cons, List.count_cons]
    exact Nat.add_lt_add_right (ih h) _
  | case5 code t ih =>
    rw [drawnFrom_end, resumed_end, List.count_append, List.count_append]
    by_cases hknown : g.drawing? code.reverse = none
    · -- the picture is one of those behind this code
      rw [codesFrom_end] at h
      refine Nat.add_lt_add_of_le_of_lt (count_draw_le rfl _) (ih ?_)
      obtain ⟨known, hmem, hpicture⟩ := h
      rcases List.mem_cons.mp hmem with rfl | hmem
      · exact absurd hknown hpicture
      · exact ⟨known, hmem, hpicture⟩
    · have hrest := count_drawnFrom_le (g := g) (c := ':') rfl none t
      rw [count_draw_of_some rfl hknown]
      simp only [resumed, List.count_cons, beq_self_eq_true, if_true] at hrest ⊢
      omega
  | case6 code c t hc hblank ih =>
    rw [codesFrom_blank hc hblank] at h
    have hrest := ih h
    rw [drawnFrom_blank g hc hblank]
    simp only [resumed, List.count_cons, List.count_append] at hrest ⊢
    omega
  | case7 code c t hc hblank ih =>
    rw [codesFrom_more hc hblank] at h
    rw [drawnFrom_more g hc hblank, ← resumed_letter]
    exact ih h

/-! ### Whole texts -/

/-- Pictures bring no marks. -/
theorem count_drawn_le (hc : isMark c = true) (t : Text) : (g.drawn t).count c ≤ t.count c :=
  count_drawnFrom_le hc none t

theorem drawn_of_ignores (h : g.Ignores t) : g.drawn t = t := drawnFrom_of_ignores h

theorem count_drawn_lt (h : ¬ g.Ignores t) : (g.drawn t).count ':' < t.count ':' := by
  simp only [Ignores, not_forall] at h
  obtain ⟨code, hmem, hknown⟩ := h
  exact count_drawnFrom_lt ⟨code, hmem, hknown⟩

/-- A picture that is drawn takes marks away. -/
theorem marks_drawn_lt (h : ¬ g.Ignores t) : marks (g.drawn t) < marks t := by
  have hcolon := count_drawn_lt h
  have hbracket := count_drawn_le (g := g) (c := '[') rfl t
  have hslash := count_drawn_le (g := g) (c := '\\') rfl t
  rw [marks_eq, marks_eq]
  omega

/-- **A text stays as it is exactly when none of its codes is the name of a picture.** -/
theorem drawn_eq_self_iff : g.drawn t = t ↔ g.Ignores t := by
  constructor
  · intro h
    by_contra hnot
    exact absurd (marks_drawn_lt hnot) (by rw [h]; exact Nat.lt_irrefl _)
  · exact drawn_of_ignores

end Gallery

/-! ### Texts without codes -/

namespace Emoji

variable {t : Text}

theorem codesFrom_of_not_mem : ∀ {t : Text} {o : Option Text}, ':' ∉ t → codesFrom o t = [] := by
  intro t
  induction t with
  | nil => intro o _; cases o <;> rfl
  | cons c t ih =>
    intro o h
    obtain ⟨hc, ht⟩ := List.ne_and_not_mem_of_not_mem_cons h
    cases o with
    | none => rw [codesFrom, ih ht]
    | some code => rw [codesFrom, if_neg (Ne.symm hc), ih ht]

/-- A text with at most one colon has no codes. -/
theorem codes_of_count_le : ∀ {t : Text}, t.count ':' ≤ 1 → codes t = [] := by
  intro t
  induction t with
  | nil => intro _; rfl
  | cons c t ih =>
    intro h
    by_cases hc : c = ':'
    · -- a code that begins here is not ended
      subst hc
      rw [List.count_cons_self] at h
      rw [codes, codesFrom_begin]
      exact codesFrom_of_not_mem (List.count_eq_zero.mp (by omega))
    · rw [List.count_cons_of_ne hc] at h
      rw [codes, codesFrom_letter hc]
      exact ih h

end Emoji

theorem Gallery.ignores_of_count_le (g : Gallery) {t : Text} (h : t.count ':' ≤ 1) :
    g.Ignores t := by
  rw [Ignores, Emoji.codes_of_count_le h]
  exact fun _ h => absurd h List.not_mem_nil

/-- No picture is drawn in a text with at most one colon. -/
theorem Gallery.drawn_of_count_le (g : Gallery) {t : Text} (h : t.count ':' ≤ 1) : g.drawn t = t :=
  drawn_of_ignores (g.ignores_of_count_le h)

theorem Gallery.drawn_of_unmarked (g : Gallery) {t : Text} (h : ∀ c ∈ t, isMark c = false) :
    g.drawn t = t := by
  have hnone : ':' ∉ t := fun hmem => absurd (h _ hmem) (by decide)
  exact g.drawn_of_count_le (by rw [List.count_eq_zero.mpr hnone]; exact Nat.zero_le 1)

end PackageCatalog
