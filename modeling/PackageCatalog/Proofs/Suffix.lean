import Mathlib.Data.List.TakeWhile
import PackageCatalog.Proofs.Path

/-!
# The extension of a path

The extension of a path is what stands behind the last dot of its last segment, once the dots that
this segment starts with are taken away.  It is also found by places alone: the path is cut at its
last dot, when that dot stands behind the last slash and something else than dots stands between the
two.

## Main definitions

* `Text.lastPlace?` — the last place of a mark.
* `Path.LastSegment`, `Path.AfterLastDot` — the last segment of a path, and what stands behind the
  last dot of a text.
* `Path.cutExtension` — a path and its extension, cut apart by places.

## Main results

* `Path.afterLastDot_iff` — what stands behind the last dot.
* `Path.suffix_eq_tail_cutExtension` — **the extension by segments is the extension by places.**
* `Path.law_of_suffixes` — **what the extension of a path is.**
-/

namespace PackageCatalog

/-! ### Last places -/

namespace Text

variable {α : Type} [BEq α] {mark : α} {s t : List α}

/-- The last place of a mark. -/
def lastPlace? (mark : α) : List α → Option Nat
  | [] => none
  | a :: s =>
    match lastPlace? mark s with
    | some i => some (i + 1)
    | none => if a == mark then some 0 else none

theorem lastPlace?_lt {i : Nat} (h : lastPlace? mark s = some i) : i < s.length := by
  induction s generalizing i with
  | nil => cases h
  | cons a s ih =>
    rw [lastPlace?] at h
    split at h
    · next j hj =>
      rw [← Option.some.inj h, List.length_cons]
      exact Nat.succ_lt_succ (ih hj)
    · split at h
      · rw [← Option.some.inj h]
        exact Nat.succ_pos _
      · cases h

variable [LawfulBEq α]

theorem lastPlace?_eq_none (h : mark ∉ s) : lastPlace? mark s = none := by
  induction s with
  | nil => rfl
  | cons a s ih =>
    rw [List.mem_cons, not_or] at h
    rw [lastPlace?, ih h.2]
    exact if_neg (fun ha => h.1 (eq_of_beq ha).symm)

/-- What holds no mark does not change the last place of one before it. -/
theorem lastPlace?_append (h : mark ∉ t) : lastPlace? mark (s ++ t) = lastPlace? mark s := by
  induction s with
  | nil => exact lastPlace?_eq_none h
  | cons a s ih => rw [List.cons_append, lastPlace?, ih, lastPlace?]

theorem lastPlace?_append_mark (h : mark ∉ t) :
    lastPlace? mark (s ++ mark :: t) = some s.length := by
  induction s with
  | nil => rw [List.nil_append, lastPlace?, lastPlace?_eq_none h]; exact if_pos BEq.rfl
  | cons a s ih => rw [List.cons_append, lastPlace?, ih, List.length_cons]

omit [BEq α] [LawfulBEq α] in
/-- A sequence with a mark is what stands before the last one, the mark, and the rest. -/
theorem exists_eq_append_last_mark (h : mark ∈ s) : ∃ front back, s = front ++ mark :: back ∧
    mark ∉ back := by
  obtain ⟨back, front, hs, hback⟩ := List.eq_append_cons_of_mem (List.mem_reverse.mpr h)
  refine ⟨front.reverse, back.reverse, ?_, fun hmem => hback (List.mem_reverse.mp hmem)⟩
  rw [← List.reverse_reverse s, hs]
  simp

end Text

namespace Path

open PathAlphabet

variable {α : Type} [PathAlphabet α] {p q s t rest ext : List α}

/-! ### Segments and dots -/

/-- The last segment of a path: there is no slash in it, and none behind what stands before it. -/
def LastSegment (p s : List α) : Prop := slash ∉ s ∧ (p = s ∨ ∃ front, p = front ++ slash :: s)

/-- What stands behind the last dot of a text: nothing, where there is no dot. -/
inductive AfterLastDot : List α → List α → Prop
  | undotted {t : List α} (h : dot ∉ t) : AfterLastDot t []
  | dotted {stem ext : List α} (h : dot ∉ ext) : AfterLastDot (stem ++ dot :: ext) ext

/-- A path and its extension, cut apart by places: at the last dot, if it stands behind the last
slash, and something else than dots stands between them. -/
def cutExtension (p : List α) : List α × List α :=
  let start := (Text.lastPlace? slash p).elim 0 (· + 1)
  match Text.lastPlace? dot p with
  | none => (p, [])
  | some i =>
    if start ≤ i && ((p.take i).drop start).any (· != dot) then (p.take i, p.drop i) else (p, [])

theorem cutExtension_append (p : List α) : (cutExtension p).1 ++ (cutExtension p).2 = p := by
  have hwhole : p ++ [] = p := List.append_nil p
  rw [cutExtension]
  split
  · exact hwhole
  · split
    · exact List.take_append_drop _ p
    · exact hwhole

theorem exists_lastSegment (p : List α) : ∃ s, LastSegment p s := by
  by_cases h : slash ∈ p
  · obtain ⟨front, s, hp, hs⟩ := Text.exists_eq_append_last_mark h
    exact ⟨s, hs, Or.inr ⟨front, hp⟩⟩
  · exact ⟨p, h, Or.inl rfl⟩

variable [LawfulBEq α]

theorem LastSegment.baseName_eq (h : LastSegment p s) : baseName p = s := by
  obtain ⟨hs, rfl | ⟨front, rfl⟩⟩ := h
  · rw [baseName, segments, Text.pieces_of_free (Text.free_of_not_mem hs)]
    rfl
  · rw [baseName, segments, Text.pieces_append, Text.pieces_of_free (Text.free_of_not_mem hs),
      List.getLast?_concat]
    rfl

/-- **What stands behind the last dot**, by the pieces between dots. -/
theorem afterLastDot_iff : AfterLastDot t ext ↔ ext = suffixAfterDots t := by
  have hundotted : ∀ {t : List α}, dot ∉ t → suffixAfterDots t = [] := by
    intro t h
    rw [suffixAfterDots, Text.pieces_of_free (Text.free_of_not_mem h)]
  have hdotted : ∀ {stem ext : List α}, dot ∉ ext → suffixAfterDots (stem ++ dot :: ext) = ext := by
    intro stem ext h
    obtain ⟨first, more, hstem⟩ := List.exists_cons_of_ne_nil (Text.pieces_ne_nil dot stem)
    rw [suffixAfterDots, Text.pieces_append, hstem, Text.pieces_of_free (Text.free_of_not_mem h)]
    cases more with
    | nil => rfl
    | cons piece more =>
      show (((piece :: more) ++ [ext]).getLast?).getD [] = ext
      rw [List.getLast?_concat]
      rfl
  constructor
  · rintro (h | h)
    · exact (hundotted h).symm
    · exact (hdotted h).symm
  · rintro rfl
    by_cases h : dot ∈ t
    · obtain ⟨stem, ext, rfl, hext⟩ := Text.exists_eq_append_last_mark h
      rw [hdotted hext]
      exact .dotted hext
    · rw [hundotted h]
      exact .undotted h

omit [LawfulBEq α] in
theorem AfterLastDot.dot_not_mem (h : AfterLastDot t ext) : dot ∉ ext := by
  cases h with
  | undotted _ => exact List.not_mem_nil
  | dotted h => exact h

theorem head?_dropWhile_ne (t : List α) : (t.dropWhile (· == dot)).head? ≠ some dot := by
  intro h
  have hhead := List.head?_dropWhile_not (· == dot) t
  rw [h] at hhead
  simp at hhead

/-- The extension is what stands behind the last dot of the last segment without its leading
dots. -/
theorem LastSegment.afterLastDot (h : LastSegment p s) :
    AfterLastDot (s.dropWhile (· == dot)) ext ↔ ext = suffix p := by
  rw [afterLastDot_iff, suffix, h.baseName_eq]

/-! ### The extension by places -/

/-- The place behind the last slash is where the last segment starts. -/
theorem LastSegment.exists_front (h : LastSegment p s) : ∃ front, p = front ++ s ∧
    (Text.lastPlace? slash p).elim 0 (· + 1) = front.length := by
  obtain ⟨hs, rfl | ⟨front, rfl⟩⟩ := h
  · exact ⟨[], rfl, by rw [Text.lastPlace?_eq_none hs]; rfl⟩
  · refine ⟨front ++ [slash], by simp, ?_⟩
    rw [Text.lastPlace?_append_mark hs, List.length_append]
    rfl

/-- **The extension by segments is the extension by places.** -/
theorem suffix_eq_tail_cutExtension (p : List α) : suffix p = (cutExtension p).2.tail := by
  obtain ⟨s, hlast⟩ := exists_lastSegment p
  obtain ⟨front, hp, hstart⟩ := hlast.exists_front
  symm
  rw [← hlast.afterLastDot, cutExtension, hstart]
  by_cases hdot : dot ∈ s
  · obtain ⟨a, b, rfl, hb⟩ := Text.exists_eq_append_last_mark hdot
    have hplace : Text.lastPlace? dot p = some (front ++ a).length := by
      rw [hp, ← List.append_assoc, Text.lastPlace?_append_mark hb]
    have htake : p.take (front ++ a).length = front ++ a := by
      rw [hp, ← List.append_assoc, List.take_left]
    have hdrop : p.drop (front ++ a).length = dot :: b := by
      rw [hp, ← List.append_assoc, List.drop_left]
    rw [hplace]
    dsimp only
    rw [htake, hdrop, List.drop_left, List.dropWhile_append]
    have hle : front.length ≤ (front ++ a).length := by simp
    -- before the last dot there are dots only, or something else
    cases hany : a.any (· != dot) with
    | false =>
      have hdots : a.dropWhile (· == dot) = [] := by
        rw [List.dropWhile_eq_nil_iff]
        intro x hx
        simpa using List.any_eq_false.mp hany x hx
      have hrest : (dot :: b).dropWhile (· == dot) = b.dropWhile (· == dot) :=
        List.dropWhile_cons_of_pos BEq.rfl
      rw [hdots, hrest, Bool.and_false]
      exact .undotted (fun h => hb ((List.dropWhile_sublist _).mem h))
    | true =>
      have hne : a.dropWhile (· == dot) ≠ [] := by
        obtain ⟨x, hx, hxdot⟩ := List.any_eq_true.mp hany
        intro hnil
        have hall := List.dropWhile_eq_nil_iff.mp hnil x hx
        simp [bne, hall] at hxdot
      rw [if_neg (by simpa using hne), decide_eq_true hle, Bool.and_true, if_pos rfl]
      exact .dotted hb
  · have hnone : AfterLastDot (s.dropWhile (· == dot)) [] :=
      .undotted (fun h => hdot ((List.dropWhile_sublist _).mem h))
    rw [hp, Text.lastPlace?_append hdot]
    cases hplace : Text.lastPlace? dot front with
    | none => exact hnone
    | some i =>
      dsimp only
      rw [decide_eq_false (Nat.not_le.mpr (Text.lastPlace?_lt hplace)), Bool.false_and]
      exact hnone

/-! ### The law -/

/-- **What the extension of a path is.**  It is what stands behind the last dot of the last segment,
once the leading dots of that segment are taken away, and nothing where no dot is left; and it is
what the cut by places leaves behind the dot.  So

* there is no dot in it and no slash;
* paths with one last segment have one extension;
* where it is not empty the path ends with a dot and the extension, and in its segment something
  else than a dot stands before that dot. -/
theorem law_of_suffixes (p : List α) :
    (∃ s k rest, LastSegment p s ∧ s = List.replicate k dot ++ rest ∧ rest.head? ≠ some dot ∧
      ∀ ext, AfterLastDot rest ext ↔ ext = suffix p) ∧
    ((cutExtension p).1 ++ (cutExtension p).2 = p ∧ suffix p = (cutExtension p).2.tail) ∧
    (dot ∉ suffix p ∧ slash ∉ suffix p) ∧
    (∀ q s, LastSegment p s → LastSegment q s → suffix q = suffix p) ∧
    (suffix p ≠ [] → ∃ front s stem, p = front ++ s ∧ LastSegment p s ∧
      s = stem ++ dot :: suffix p ∧ ∃ c ∈ stem, c ≠ dot) := by
  obtain ⟨s, hlast⟩ := exists_lastSegment p
  obtain ⟨k, hs⟩ := Text.exists_eq_replicate_append dot s
  have hafter : AfterLastDot (s.dropWhile (· == dot)) (suffix p) := hlast.afterLastDot.mpr rfl
  -- a suffix is a part of its segment, and so without a slash
  have hsub : (suffix p).Sublist s := by
    have hrest : (s.dropWhile (· == dot)).Sublist s := List.dropWhile_sublist _
    generalize s.dropWhile (· == dot) = rest at hafter hrest
    generalize suffix p = ext at hafter ⊢
    cases hafter with
    | undotted _ => exact List.nil_sublist s
    | dotted _ =>
      exact ((List.sublist_cons_self _ _).trans (List.sublist_append_right _ _)).trans hrest
  refine ⟨⟨s, k, _, hlast, hs, head?_dropWhile_ne s, fun ext => hlast.afterLastDot⟩,
    ⟨cutExtension_append p, suffix_eq_tail_cutExtension p⟩,
    ⟨hafter.dot_not_mem, fun h => hlast.1 (hsub.mem h)⟩, ?_, ?_⟩
  · intro q s hp hq
    rw [suffix, suffix, hp.baseName_eq, hq.baseName_eq]
  · -- a suffix stands behind a dot and something else than dots
    intro hne
    obtain ⟨front, hp, -⟩ := hlast.exists_front
    have hhead := head?_dropWhile_ne s
    generalize s.dropWhile (· == dot) = rest at hs hhead hafter
    generalize suffix p = ext at hafter hne
    cases hafter with
    | undotted _ => exact absurd rfl hne
    | @dotted stem ext hext =>
      refine ⟨front, s, List.replicate k dot ++ stem, hp, hlast, by rw [hs, List.append_assoc], ?_⟩
      cases stem with
      | nil => exact absurd rfl hhead
      | cons c stem =>
        refine ⟨c, List.mem_append_right _ List.mem_cons_self, ?_⟩
        rintro rfl
        exact hhead rfl

/-- A directory with a dot, a hidden file and two extensions: the last one counts. -/
theorem law_of_suffixes_hidden :
    LawfulBEq Char ∧ suffix "/p.d/..a.tar.gz".toList = "gz".toList ∧
      ∃ front s stem, "/p.d/..a.tar.gz".toList = front ++ s ∧
        LastSegment "/p.d/..a.tar.gz".toList s ∧ s = stem ++ '.' :: "gz".toList ∧
        ∃ c ∈ stem, c ≠ '.' := by
  have hsuffix : suffix "/p.d/..a.tar.gz".toList = "gz".toList := by decide
  obtain ⟨-, -, -, -, hends⟩ := law_of_suffixes "/p.d/..a.tar.gz".toList
  rw [hsuffix] at hends
  exact ⟨inferInstance, hsuffix, hends (by decide)⟩

/-- Dots alone, leading dots and a dot at the end give no extension. -/
example : ["..".toList, ".bashrc".toList, "a/b.".toList, "a.b/c".toList,
    "...a/..".toList].map suffix = [[], [], [], [], []] := by decide

end Path

end PackageCatalog
