import PackageCatalog.Text.Lines
import Mathlib.Data.List.Infix

/-!
# Lines of a text

A part of a text that breaks no line stands in one of its lines, and a text that breaks no line is
its only line.

## Main definitions

* `Text.IsUnbroken` — a text that breaks no line.

## Main results

* `Text.contains_iff` — the search for a part finds it if it is there.
* `Text.lines_of_isUnbroken` — a text that breaks no line is its only line.
* `Text.exists_line_of_infix` — **a part that breaks no line stands in one of the lines.**
-/

namespace PackageCatalog.Text

/-! ### Parts -/

section Parts

variable {α : Type} {a b s w part : List α} {c : α}

theorem startsWith_iff [BEq α] [LawfulBEq α] : ∀ {part s : List α},
    startsWith s part = true ↔ part <+: s := by
  intro part
  induction part with
  | nil => intro s; simp [startsWith]
  | cons c part ih =>
    intro s
    cases s with
    | nil => simp [startsWith]
    | cons d s => rw [startsWith, Bool.and_eq_true, beq_iff_eq, ih, List.cons_prefix_cons, eq_comm]

/-- The search for a part finds it if it is there. -/
theorem contains_iff [BEq α] [LawfulBEq α] : contains s part = true ↔ part <:+: s := by
  induction s with
  | nil => simp [contains, startsWith_iff]
  | cons c s ih => rw [contains, Bool.or_eq_true, startsWith_iff, ih, List.infix_cons_iff]

/-- A part in which an element does not stand stands on one side of that element. -/
theorem infix_of_append_cons (hc : c ∉ w) (h : w <:+: a ++ c :: b) : w <:+: a ∨ w <:+: b := by
  rcases List.infix_append_iff.mp h with h | h | ⟨l₁, l₂, rfl, h₁, h₂⟩
  · exact Or.inl h
  · rcases List.infix_cons_iff.mp h with h | h
    · rcases List.prefix_cons_iff.mp h with rfl | ⟨w', rfl, -⟩
      · exact Or.inl List.nil_infix
      · exact absurd List.mem_cons_self hc
    · exact Or.inr h
  · rcases List.prefix_cons_iff.mp h₂ with rfl | ⟨w', rfl, -⟩
    · rw [List.append_nil]
      exact Or.inl h₁.isInfix
    · exact absurd (List.mem_append_right l₁ List.mem_cons_self) hc

end Parts

/-! ### Lines -/

variable {t w : Text}

attribute [local simp] linesOnto

/-- A text that breaks no line. -/
def IsUnbroken (t : Text) : Prop := ∀ c ∈ t, isLineBreak c = false

instance (t : Text) : Decidable t.IsUnbroken :=
  List.decidableBAll (fun c => isLineBreak c = false) t

/-- The lines that are done stay. -/
theorem mem_linesOnto_of_mem {line : Text} (t current : Text) (done : List Text)
    (h : line ∈ done) : line ∈ linesOnto t current done := by
  induction t, current, done using linesOnto.induct with
  | case1 current done hnil => simp [hnil, h]
  | case2 current done hcurrent => simp [hcurrent, h]
  | case3 c current done hc => simp [hc, h]
  | case4 c current done hc => simp [hc, h]
  | case5 c d t current done hcd ih =>
    rw [linesOnto, if_pos hcd]
    exact ih (List.mem_cons_of_mem _ h)
  | case6 c d t current done hcd hc ih =>
    rw [linesOnto, if_neg hcd, if_pos hc]
    exact ih (List.mem_cons_of_mem _ h)
  | case7 c d t current done hcd hc ih =>
    rw [linesOnto, if_neg hcd, if_neg hc]
    exact ih h

/-- The rest of a line that no break follows. -/
theorem linesOnto_of_isUnbroken : ∀ {t current : Text}, t.IsUnbroken → current ++ t ≠ [] →
    linesOnto t current [] = [current.reverse ++ t] := by
  intro t
  induction t with
  | nil =>
    intro current _ hne
    rw [List.append_nil] at hne ⊢
    rw [linesOnto, if_neg (by simpa using hne)]
    rfl
  | cons c t ih =>
    intro current ht _
    have hc : isLineBreak c = false := ht c List.mem_cons_self
    cases t with
    | nil => simp [hc]
    | cons d t =>
      have hreturn : ¬ (c = '\r' ∧ d = '\n') := by
        rintro ⟨rfl, -⟩
        cases hc
      rw [linesOnto, if_neg hreturn, hc, if_neg Bool.false_ne_true,
        ih (fun x hx => ht x (List.mem_cons_of_mem c hx)) (by simp)]
      simp

/-- A text that breaks no line is its only line. -/
theorem lines_of_isUnbroken (hne : t ≠ []) (ht : t.IsUnbroken) : lines t = [t] :=
  linesOnto_of_isUnbroken ht hne

/-- **A part that breaks no line stands in one of the lines**, those begun included. -/
theorem exists_linesOnto_of_infix (hne : w ≠ []) (hw : w.IsUnbroken) (t current : Text)
    (done : List Text) (h : w <:+: current.reverse ++ t) :
    ∃ line ∈ linesOnto t current done, w <:+: line := by
  -- a part that is cut by a break stands on one side of it
  have hcut : ∀ {a b : Text} {c : Char}, isLineBreak c = true → w <:+: a ++ c :: b →
      w <:+: a ∨ w <:+: b := by
    intro a b c hc
    refine infix_of_append_cons (fun hmem => ?_)
    rw [hw c hmem] at hc
    cases hc
  have hnot : ¬ w <:+: [] := fun h => hne (List.infix_nil.mp h)
  induction t, current, done using linesOnto.induct with
  | case1 current done hnil =>
    rw [List.isEmpty_iff.mp hnil] at h
    exact absurd h hnot
  | case2 current done hcurrent =>
    rw [linesOnto, if_neg hcurrent]
    exact ⟨current.reverse, by simp, by simpa using h⟩
  | case3 c current done hc =>
    rw [linesOnto, if_pos hc]
    exact ⟨current.reverse, by simp, (hcut hc h).resolve_right hnot⟩
  | case4 c current done hc =>
    rw [linesOnto, if_neg hc]
    exact ⟨(c :: current).reverse, by simp, by simpa using h⟩
  | case5 c d t current done hcd ih =>
    rw [linesOnto, if_pos hcd]
    obtain ⟨rfl, rfl⟩ := hcd
    rcases hcut (by decide) h with h | h
    · exact ⟨current.reverse, mem_linesOnto_of_mem _ _ _ List.mem_cons_self, h⟩
    · exact ih ((hcut (a := []) (by decide) h).resolve_left hnot)
  | case6 c d t current done hcd hc ih =>
    rw [linesOnto, if_neg hcd, if_pos hc]
    rcases hcut hc h with h | h
    · exact ⟨current.reverse, mem_linesOnto_of_mem _ _ _ List.mem_cons_self, h⟩
    · exact ih h
  | case7 c d t current done hcd hc ih =>
    rw [linesOnto, if_neg hcd, if_neg hc]
    exact ih (by simpa using h)

theorem exists_line_of_infix (hne : w ≠ []) (hw : w.IsUnbroken) (h : w <:+: t) :
    ∃ line ∈ lines t, w <:+: line := exists_linesOnto_of_infix hne hw t [] [] h

end PackageCatalog.Text
