import PackageCatalog.Yaml.Cursor
import Mathlib.Data.List.TakeWhile

/-!
# Moving through a document

What follows a cursor after some characters, and on which line and in which column it stands.

## Main definitions

* `Yaml.counted` — a line break in the form in which it is counted.

## Main results

* `Yaml.Cursor.forward_add`, `Yaml.Cursor.rest_forward` — moving on in two parts.
* `Yaml.Cursor.forward_of_line` — moving on along a line.
* `Yaml.Cursor.lineBreak?_of_isBreak` — a line break at a place.
-/

namespace PackageCatalog.Yaml

/-- A line break in the form in which it is counted. -/
def counted (c : Char) : Char := if c = '\u0085' then '\n' else c

theorem isBreak_iff {c : Char} :
    isBreak c = true ↔ c = '\n' ∨ c = '\u0085' ∨ c = '\u2028' ∨ c = '\u2029' := by
  simp [isBreak, or_assoc]

/-- A text that starts with a character of which this is not so. -/
def StartsOff (p : Char → Bool) (t : Text) : Prop := ∀ c, t.head? = some c → p c = false

theorem startsOff_cons {p : Char → Bool} {c : Char} {t : Text} :
    StartsOff p (c :: t) ↔ p c = false := by
  simp [StartsOff]

theorem startsOff_dropWhile (p : Char → Bool) (t : Text) : StartsOff p (t.dropWhile p) := by
  intro c hc
  have hnot := List.head?_dropWhile_not p t
  rw [hc] at hnot
  exact hnot

theorem takeWhile_append_of_startsOff {p : Char → Bool} {u t : Text} (hu : ∀ c ∈ u, p c = true)
    (ht : StartsOff p t) : (u ++ t).takeWhile p = u := by
  rw [List.takeWhile_append_of_pos hu]
  cases t with
  | nil => simp
  | cons c t =>
    rw [List.takeWhile_cons_of_neg, List.append_nil]
    rw [startsOff_cons.mp ht]
    exact Bool.false_ne_true

namespace Cursor

variable {c : Cursor} {a : Char} {t u : Text}

/-! ### Moving on -/

@[simp] theorem forward_zero (c : Cursor) : c.forward 0 = c := rfl

@[simp] theorem forward_one (c : Cursor) : c.forward 1 = c.step := rfl

theorem forward_succ (c : Cursor) (n : Nat) : c.forward (n + 1) = c.step.forward n := rfl

theorem forward_add (c : Cursor) (m n : Nat) : c.forward (m + n) = (c.forward m).forward n := by
  induction m generalizing c with
  | zero => rw [Nat.zero_add, forward_zero]
  | succ m ih => rw [Nat.add_right_comm, forward_succ, ih, forward_succ]

@[simp] theorem rest_step (c : Cursor) : c.step.rest = c.rest.tail := by
  unfold step
  split
  · next h => rw [h]; rfl
  · next a rest h =>
    rw [h]
    split <;> rfl

@[simp] theorem rest_forward (c : Cursor) (n : Nat) : (c.forward n).rest = c.rest.drop n := by
  induction n generalizing c with
  | zero => rw [forward_zero, List.drop_zero]
  | succ n ih => rw [forward_succ, ih, rest_step, List.drop_tail]

@[simp] theorem broken_step (c : Cursor) : c.step.broken = c.broken := by
  unfold step
  split
  · rfl
  · split <;> rfl

@[simp] theorem broken_forward (c : Cursor) (n : Nat) : (c.forward n).broken = c.broken := by
  induction n generalizing c with
  | zero => rfl
  | succ n ih => rw [forward_succ, ih, broken_step]

/-- The place behind a line break. -/
theorem step_of_isBreak (hc : c.rest = a :: t) (ha : isBreak a = true) :
    c.step = ⟨t, c.index + 1, c.line + 1, 0, c.broken⟩ := by
  rw [step, hc]
  dsimp only
  rw [if_pos ha]

/-- The place behind a character that ends no line. -/
theorem step_of_line (hc : c.rest = a :: t) (ha : isBreak a = false) (hmark : a ≠ '\uFEFF') :
    c.step = ⟨t, c.index + 1, c.line, c.column + 1, c.broken⟩ := by
  rw [step, hc]
  dsimp only
  rw [ha, if_neg Bool.false_ne_true, if_neg hmark]

/-- **The place behind characters that end no line.** -/
theorem forward_of_line (hc : c.rest = u ++ t)
    (hu : ∀ a ∈ u, isBreak a = false ∧ a ≠ '\uFEFF') :
    c.forward u.length = ⟨t, c.index + u.length, c.line, c.column + u.length, c.broken⟩ := by
  induction u generalizing c with
  | nil =>
    obtain ⟨rest, index, line, column, broken⟩ := c
    cases hc
    rfl
  | cons a u ih =>
    obtain ⟨ha, hu⟩ := List.forall_mem_cons.mp hu
    have hstep := step_of_line hc ha.1 ha.2
    have hrest : c.step.rest = u ++ t := by
      rw [hstep]
      rfl
    rw [List.length_cons, forward_succ, ih hrest hu, hstep]
    simp only [Nat.add_assoc, Nat.add_comm 1]

/-! ### Spaces and line breaks -/

/-- The characters that are passed. -/
theorem pass_eq {p : Char → Bool} (hc : c.rest = u ++ t) (hu : ∀ a ∈ u, p a = true)
    (ht : StartsOff p t) : c.pass p = c.forward u.length := by
  rw [pass, taken, hc, takeWhile_append_of_startsOff hu ht]

/-- A run of one character is passed. -/
theorem pass_replicate {p : Char → Bool} {n : Nat} (hc : c.rest = List.replicate n a ++ t)
    (ha : p a = true) (ht : StartsOff p t) : c.pass p = c.forward n := by
  have hrun : ∀ b ∈ List.replicate n a, p b = true := by
    intro b hb
    rw [List.eq_of_mem_replicate hb]
    exact ha
  rw [pass_eq hc hrun ht, List.length_replicate]

theorem passSpaces_eq {n : Nat} (hc : c.rest = List.replicate n ' ' ++ t)
    (ht : StartsOff (· == ' ') t) : c.passSpaces = c.forward n :=
  pass_replicate hc rfl ht

/-- **A line break is counted.** -/
theorem lineBreak?_of_isBreak (hc : c.rest = a :: t) (ha : isBreak a = true) :
    c.lineBreak? = some (counted a, c.step) := by
  rw [lineBreak?, hc]
  rcases isBreak_iff.mp ha with rfl | rfl | rfl | rfl <;> rfl

theorem lineBreak?_of_startsOff (ht : StartsOff isBreak c.rest) : c.lineBreak? = none := by
  unfold lineBreak?
  split
  · rfl
  · next a t h =>
    have ha : isBreak a = false := ht a (by rw [h]; rfl)
    have hnot := (mt isBreak_iff.mpr (by rw [ha]; exact Bool.false_ne_true))
    simp only [not_or] at hnot
    rw [if_neg (by simp [hnot]), if_neg (by simp [hnot])]

/-- A text that starts with a space or a line break starts with no document mark. -/
theorem atAnyMark_eq_false (hc : c.rest = a :: t) (ha : a ≠ '-') (ha' : a ≠ '.') :
    c.atAnyMark = false := by
  have hmark : ∀ d : Char, a ≠ d → ((a :: t.take 2) == [d, d, d]) = false := by
    intro d hd
    simp [hd]
  have htake : c.rest.take 3 = a :: t.take 2 := by rw [hc]; rfl
  have hdash := hmark '-' ha
  have hdot := hmark '.' ha'
  rw [atAnyMark, atMark, atMark, htake, show "---".toList = ['-', '-', '-'] from rfl,
    show "...".toList = ['.', '.', '.'] from rfl, hdash, hdot]
  rfl

end Cursor

end PackageCatalog.Yaml
