import PackageCatalog.Proofs.Text.Table
import PackageCatalog.Text.Normal

/-!
# What normal form C leaves alone

Decomposition, ordering and composition go through a text character by character.  None of them
makes a NUL, and only decomposition makes a text longer, to at most four characters for one.

## Main definitions

* `Text.Composing.held` — the characters that a composition has in hand.

## Main results

* `Text.orderMarks_perm` — ordering the marks moves characters and does nothing else.
* `Text.not_mem_normalForm` — **the normal form of a text without a NUL has none.**
* `Text.length_normalForm_le` — **the normal form is at most four times as long.**
-/

namespace PackageCatalog.Text

/-! ### The tables -/

theorem code_ofNat {n : Nat} (h : n.isValidChar) : (Char.ofNat n).toNat = n := by
  rw [Char.ofNat, dif_pos h]
  rfl

/-- The character of a code point other than zero is not NUL. -/
theorem ofNat_ne_nul {n : Nat} (h : n.isValidChar) (hn : n ≠ 0) : Char.ofNat n ≠ '\x00' := by
  intro heq
  have hcode := code_ofNat h
  rw [heq] at hcode
  exact hn hcode.symm

/-- No decomposition in the table is longer than four characters, and none has a NUL. -/
theorem decompositions_short : ∀ entry ∈ decompositions.toList,
    entry.2.length ≤ 4 ∧ ∀ n ∈ entry.2, n.isValidChar ∧ n ≠ 0 := by
  decide +kernel

/-- No composite in the table is NUL. -/
theorem composites_ne_nul : ∀ entry ∈ composites.toList, entry.2.isValidChar ∧ entry.2 ≠ 0 := by
  decide +kernel

/-! ### Decomposition -/

variable {c : Char} {t : Text}

/-- A character becomes at most four, and none of them is NUL unless it is NUL itself. -/
theorem decomposeChar_short (c : Char) :
    (decomposeChar c).length ≤ 4 ∧ (c ≠ '\x00' → '\x00' ∉ decomposeChar c) := by
  have hself : [c].length ≤ 4 ∧ (c ≠ '\x00' → '\x00' ∉ [c]) := by
    refine ⟨Nat.le_add_left 1 3, fun hc hmem => hc ?_⟩
    exact (List.mem_singleton.mp hmem).symm
  unfold decomposeChar
  dsimp only
  split
  · exact hself
  · split
    · next hhangul =>
      have hlead : Char.ofNat (0x1100 + (c.toNat - 0xAC00) / 588) ≠ '\x00' :=
        ofNat_ne_nul (Or.inl (by omega)) (by omega)
      have hvowel : Char.ofNat (0x1161 + (c.toNat - 0xAC00) % 588 / 28) ≠ '\x00' :=
        ofNat_ne_nul (Or.inl (by omega)) (by omega)
      have htrail : Char.ofNat (0x11A7 + (c.toNat - 0xAC00) % 28) ≠ '\x00' :=
        ofNat_ne_nul (Or.inl (by omega)) (by omega)
      split
      · exact ⟨by simp, fun _ => by simp [hlead.symm, hvowel.symm]⟩
      · exact ⟨by simp, fun _ => by simp [hlead.symm, hvowel.symm, htrail.symm]⟩
    · split
      · next entry hfound =>
        obtain ⟨hlength, hvalid⟩ := decompositions_short entry (mem_of_find hfound).1.val
        refine ⟨by rw [List.length_map]; exact hlength, fun _ hmem => ?_⟩
        obtain ⟨n, hn, heq⟩ := List.mem_map.mp hmem
        exact ofNat_ne_nul (hvalid n hn).1 (hvalid n hn).2 heq
      · exact hself

theorem not_mem_decompose (h : '\x00' ∉ t) : '\x00' ∉ decompose t := by
  rw [decompose, List.mem_flatMap]
  rintro ⟨c, hc, hmem⟩
  refine (decomposeChar_short c).2 ?_ hmem
  rintro rfl
  exact h hc

theorem length_decompose_le (t : Text) : (decompose t).length ≤ 4 * t.length := by
  induction t with
  | nil => exact Nat.le_refl 0
  | cons c t ih =>
    have hc := (decomposeChar_short c).1
    rw [decompose, List.flatMap_cons, List.length_append, List.length_cons, ← decompose]
    omega

/-! ### The order of marks -/

theorem insertMark_perm (k : Nat) (c : Char) (marks : List (Nat × Char)) :
    (insertMark k c marks).Perm ((k, c) :: marks) := by
  fun_induction insertMark k c marks with
  | case1 => exact .refl _
  | case2 l d rest _ ih => exact (ih.cons (l, d)).trans (List.Perm.swap (k, c) (l, d) rest)
  | case3 => exact .refl _

/-- What is being ordered are the marks in hand, the rest of the text and what is done. -/
theorem orderMarksOnto_perm (marks : List (Nat × Char)) (t done : Text) :
    (orderMarksOnto marks t done).Perm (t ++ (marks.map Prod.snd ++ done)) := by
  fun_induction orderMarksOnto marks t done with
  | case1 marks done =>
    rw [List.nil_append]
    exact (List.reverse_perm _).trans ((List.reverse_perm _).append_right done)
  | case2 marks c t done _ _ ih =>
    -- a starter: the marks before it are done
    refine ih.trans ?_
    rw [List.map_nil, List.nil_append]
    refine List.perm_middle.trans (List.Perm.cons c ?_)
    exact ((List.reverse_perm _).append_right done).append_left t
  | case3 marks c t done k _ ih =>
    -- a mark: it is put among those in hand
    refine ih.trans ?_
    have hmarks := ((insertMark_perm k c marks).map Prod.snd).append_right done
    exact (hmarks.append_left t).trans List.perm_middle

/-- **Ordering the marks moves characters and does nothing else.** -/
theorem orderMarks_perm (t : Text) : (orderMarks t).Perm t := by
  have h := orderMarksOnto_perm [] t []
  rw [List.map_nil, List.nil_append, List.append_nil] at h
  exact h

/-! ### Composition -/

theorem composePair_ne_nul {a b c : Char} (h : composePair a b = some c) : c ≠ '\x00' := by
  unfold composePair at h
  dsimp only at h
  split at h
  · next hsyllable =>
    rw [← Option.some.inj h]
    exact ofNat_ne_nul (Or.inl (by omega)) (by omega)
  · split at h
    · next hsyllable =>
      rw [← Option.some.inj h]
      exact ofNat_ne_nul (Or.inl (by omega)) (by omega)
    · obtain ⟨entry, hfound, rfl⟩ := Option.map_eq_some_iff.mp h
      obtain ⟨hvalid, hne⟩ := composites_ne_nul entry (mem_of_find hfound).1.val
      exact ofNat_ne_nul hvalid hne

namespace Composing

/-- The characters that a composition has in hand. -/
def held (s : Composing) : Text := s.kept ++ (s.starter.toList ++ s.done)

/-- A step takes a character in hand, or puts one in the place of the starter and of the character
that composes with it. -/
theorem held_step (s : Composing) (c : Char) : (s.step c).held.Perm (c :: s.held) ∨
    ∃ a b, s.starter = some a ∧ composePair a c = some b ∧
      (s.step c).held = s.kept ++ b :: s.done := by
  unfold step
  dsimp only
  split
  · next hnone =>
    left
    split
    · rw [held, held, hnone]
      exact List.perm_middle
    · rw [held, held, hnone]
      exact List.perm_middle
  · next a ha =>
    split
    · next b hb =>
      right
      split at hb
      · exact ⟨a, b, ha, hb, rfl⟩
      · cases hb
    · left
      split
      · rw [held, held, ha]
        exact .refl _
      · rw [held, held, ha]
        exact .refl _

theorem length_held_step_le (s : Composing) (c : Char) :
    (s.step c).held.length ≤ s.held.length + 1 := by
  rcases held_step s c with h | ⟨a, b, ha, -, h⟩
  · exact Nat.le_of_eq h.length_eq
  · rw [h, held, ha]
    simp

theorem not_mem_held_step {s : Composing} (hs : '\x00' ∉ s.held) (hc : c ≠ '\x00') :
    '\x00' ∉ (s.step c).held := by
  rcases held_step s c with h | ⟨a, b, ha, hb, h⟩
  · rw [h.mem_iff, List.mem_cons, not_or]
    exact ⟨hc.symm, hs⟩
  · rw [held, ha] at hs
    rw [h]
    simp only [List.mem_append, List.mem_cons, Option.toList_some, not_or] at hs ⊢
    exact ⟨hs.1, (composePair_ne_nul hb).symm, hs.2.2⟩

theorem finish_eq (s : Composing) : s.finish = s.held.reverse := by
  unfold finish held
  cases s.starter <;> rfl

/-- What is in hand grows by at most one character for each that is taken. -/
theorem length_held_foldl_le (t : Text) (s : Composing) :
    (t.foldl step s).held.length ≤ s.held.length + t.length := by
  induction t generalizing s with
  | nil => exact Nat.le_refl _
  | cons c t ih =>
    have hstep := length_held_step_le s c
    have hrest := ih (s.step c)
    rw [List.foldl_cons, List.length_cons]
    omega

theorem not_mem_held_foldl {s : Composing} (hs : '\x00' ∉ s.held) (ht : '\x00' ∉ t) :
    '\x00' ∉ (t.foldl step s).held := by
  induction t generalizing s with
  | nil => exact hs
  | cons c t ih =>
    rw [List.mem_cons, not_or] at ht
    rw [List.foldl_cons]
    exact ih (not_mem_held_step hs (Ne.symm ht.1)) ht.2

end Composing

theorem length_compose_le (t : Text) : (compose t).length ≤ t.length := by
  rw [compose, Composing.finish_eq, List.length_reverse]
  have h := Composing.length_held_foldl_le t ⟨[], none, [], 0⟩
  rwa [show (Composing.held ⟨[], none, [], 0⟩).length = 0 from rfl, Nat.zero_add] at h

theorem not_mem_compose (h : '\x00' ∉ t) : '\x00' ∉ compose t := by
  rw [compose, Composing.finish_eq, List.mem_reverse]
  exact Composing.not_mem_held_foldl List.not_mem_nil h

/-! ### The normal form -/

/-- **The normal form of a text without a NUL has none.** -/
theorem not_mem_normalForm (h : '\x00' ∉ t) : '\x00' ∉ normalForm t := by
  rw [normalForm]
  split
  · exact h
  · refine not_mem_compose ?_
    rw [(orderMarks_perm _).mem_iff]
    exact not_mem_decompose h

/-- **The normal form is at most four times as long.** -/
theorem length_normalForm_le (t : Text) : (normalForm t).length ≤ 4 * t.length := by
  rw [normalForm]
  split
  · omega
  · have hcomposed := length_compose_le (orderMarks (decompose t))
    rw [(orderMarks_perm _).length_eq] at hcomposed
    exact Nat.le_trans hcomposed (length_decompose_le t)

end PackageCatalog.Text
