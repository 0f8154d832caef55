import PackageCatalog.Path
import Mathlib.Data.List.Basic

/-!
# Paths and their segments

A path is cut at its slashes, and written again from the segments that are kept.  What collapsing
an absolute path keeps are segments that it would keep again, so that an absolute path that has
been collapsed once is as collapsed as it can be.

## Main definitions

* `Text.Free` — a sequence without a mark.
* `Path.Plain` — a segment that is kept wherever it stands.

## Main results

* `Path.segments_ofSegments`, `Path.ofSegments_segments` — segments are read back from the path that
  is written of them, and a path is written from its segments.
* `Path.absolute_absolute` — **an absolute path is its own absolute form.**
* `Path.splitShort_of_free`, `Path.splitShort_append_slash` — the two kinds of short paths.
* `Path.splitShort_eq_iff` — a short path and what it is cut into.
-/

namespace PackageCatalog

/-! ### Pieces between marks -/

namespace Text

variable {α : Type} [BEq α] {mark : α}

/-- A sequence without a mark. -/
def Free (mark : α) (s : List α) : Prop := ∀ a ∈ s, (a == mark) = false

theorem free_of_not_mem [LawfulBEq α] {s : List α} (h : mark ∉ s) : Free mark s :=
  fun _ ha => beq_eq_false_iff_ne.mpr (fun heq => h (heq ▸ ha))

/-- The marks that a sequence starts with, and the rest. -/
theorem exists_eq_replicate_append [LawfulBEq α] (mark : α) (s : List α) :
    ∃ k, s = List.replicate k mark ++ s.dropWhile (· == mark) := by
  refine ⟨(s.takeWhile (· == mark)).length, ?_⟩
  have hmarks : s.takeWhile (· == mark) =
      List.replicate (s.takeWhile (· == mark)).length mark :=
    List.eq_replicate_of_mem (fun a ha => eq_of_beq (List.all_eq_true.mp List.all_takeWhile a ha))
  rw [← hmarks, List.takeWhile_append_dropWhile]

/-- There is always a first piece. -/
theorem pieces_ne_nil (mark : α) (s : List α) : pieces mark s ≠ [] := by
  cases s with
  | nil => exact List.cons_ne_nil _ _
  | cons a s =>
    rw [pieces]
    split
    · exact List.cons_ne_nil _ _
    · split <;> exact List.cons_ne_nil _ _

theorem pieces_cons_of_mark {a : α} (h : (a == mark) = true) (s : List α) :
    pieces mark (a :: s) = [] :: pieces mark s := if_pos h

theorem pieces_cons_of_ne {a : α} (h : (a == mark) = false) (s : List α) :
    ∃ p ps, pieces mark s = p :: ps ∧ pieces mark (a :: s) = (a :: p) :: ps := by
  obtain ⟨p, ps, hp⟩ := List.exists_cons_of_ne_nil (pieces_ne_nil mark s)
  refine ⟨p, ps, hp, ?_⟩
  rw [pieces, if_neg (by rw [h]; exact Bool.false_ne_true), hp]

/-- No mark is left in a piece. -/
theorem free_of_mem_pieces : ∀ {s p : List α}, p ∈ pieces mark s → Free mark p := by
  intro s
  induction s with
  | nil =>
    intro p hp
    rw [List.mem_singleton.mp hp]
    exact fun _ h => absurd h List.not_mem_nil
  | cons a s ih =>
    intro p hp
    cases ha : a == mark with
    | true =>
      rw [pieces_cons_of_mark ha] at hp
      rcases List.mem_cons.mp hp with rfl | hp
      · exact fun _ h => absurd h List.not_mem_nil
      · exact ih hp
    | false =>
      obtain ⟨q, qs, hq, hcons⟩ := pieces_cons_of_ne ha s
      rw [hcons] at hp
      rw [hq] at ih
      rcases List.mem_cons.mp hp with rfl | hp
      · intro b hb
        rcases List.mem_cons.mp hb with rfl | hb
        · exact ha
        · exact ih List.mem_cons_self b hb
      · exact ih (List.mem_cons_of_mem q hp)

theorem pieces_of_free : ∀ {p : List α}, Free mark p → pieces mark p = [p] := by
  intro p
  induction p with
  | nil => intro _; rfl
  | cons a p ih =>
    intro h
    obtain ⟨ha, hp⟩ := List.forall_mem_cons.mp h
    obtain ⟨q, qs, hq, hcons⟩ := pieces_cons_of_ne ha p
    rw [ih hp] at hq
    rw [hcons, ← (List.cons.inj hq).1, ← (List.cons.inj hq).2]

/-- The first piece ends at the first mark. -/
theorem pieces_append_mark [ReflBEq α] : ∀ {p : List α} (s : List α), Free mark p →
    pieces mark (p ++ mark :: s) = p :: pieces mark s := by
  intro p s
  induction p with
  | nil =>
    intro _
    rw [List.nil_append, pieces_cons_of_mark BEq.rfl]
  | cons a p ih =>
    intro h
    obtain ⟨ha, hp⟩ := List.forall_mem_cons.mp h
    obtain ⟨q, qs, hq, hcons⟩ := pieces_cons_of_ne ha (p ++ mark :: s)
    rw [ih hp] at hq
    rw [List.cons_append, hcons, ← (List.cons.inj hq).1, ← (List.cons.inj hq).2]

/-- **Pieces are read back** from the sequence that they make with marks between them. -/
theorem pieces_joined [ReflBEq α] : ∀ {ps : List (List α)}, ps ≠ [] → (∀ p ∈ ps, Free mark p) →
    pieces mark (joined mark ps) = ps := by
  intro ps
  induction ps with
  | nil => intro h _; exact absurd rfl h
  | cons p ps ih =>
    intro _ hfree
    obtain ⟨hp, hps⟩ := List.forall_mem_cons.mp hfree
    cases ps with
    | nil => exact pieces_of_free hp
    | cons q qs => rw [joined, pieces_append_mark _ hp, ih (List.cons_ne_nil q qs) hps]

/-- A sequence with a mark is what stands before the first one, the mark, and the rest. -/
theorem exists_eq_append_mark [LawfulBEq α] : ∀ {s : List α}, mark ∈ s →
    ∃ p rest, Free mark p ∧ s = p ++ mark :: rest := by
  intro s
  induction s with
  | nil => intro h; exact absurd h List.not_mem_nil
  | cons a s ih =>
    intro h
    cases ha : a == mark with
    | true =>
      refine ⟨[], s, fun _ h => absurd h List.not_mem_nil, ?_⟩
      rw [eq_of_beq ha, List.nil_append]
    | false =>
      have hs : mark ∈ s := by
        rcases List.mem_cons.mp h with rfl | hs
        · rw [BEq.rfl] at ha
          cases ha
        · exact hs
      obtain ⟨p, rest, hp, rfl⟩ := ih hs
      exact ⟨a :: p, rest, List.forall_mem_cons.mpr ⟨ha, hp⟩, rfl⟩

/-- The pieces before a mark and those after it. -/
theorem pieces_append [ReflBEq α] (s t : List α) :
    pieces mark (s ++ mark :: t) = pieces mark s ++ pieces mark t := by
  induction s with
  | nil => exact pieces_cons_of_mark BEq.rfl t
  | cons a s ih =>
    by_cases ha : (a == mark) = true
    · rw [List.cons_append, pieces_cons_of_mark ha, pieces_cons_of_mark ha, ih, List.cons_append]
    · have ha' : (a == mark) = false := Bool.eq_false_iff.mpr ha
      obtain ⟨p, ps, hp, hcons⟩ := pieces_cons_of_ne ha' s
      obtain ⟨q, qs, hq, hcons'⟩ := pieces_cons_of_ne ha' (s ++ mark :: t)
      rw [ih, hp, List.cons_append] at hq
      rw [List.cons_append, hcons', hcons, ← (List.cons.inj hq).1, ← (List.cons.inj hq).2,
        List.cons_append]

/-- Signs without a mark belong to the first piece. -/
theorem pieces_free_append {a s p : List α} {ps : List (List α)} (ha : Free mark a)
    (h : pieces mark s = p :: ps) : pieces mark (a ++ s) = (a ++ p) :: ps := by
  induction a with
  | nil => exact h
  | cons b a ih =>
    obtain ⟨hb, ha⟩ := List.forall_mem_cons.mp ha
    obtain ⟨q, qs, hq, hcons⟩ := pieces_cons_of_ne hb (a ++ s)
    rw [ih ha] at hq
    rw [List.cons_append, hcons, ← (List.cons.inj hq).1, ← (List.cons.inj hq).2]
    rfl

theorem mem_of_mem_pieces {s p : List α} {a : α} (hp : p ∈ pieces mark s) (ha : a ∈ p) : a ∈ s := by
  induction s generalizing p with
  | nil =>
    rw [List.mem_singleton.mp hp] at ha
    exact ha
  | cons b s ih =>
    rw [pieces] at hp
    split at hp
    · rcases List.mem_cons.mp hp with rfl | hp
      · cases ha
      · exact List.mem_cons_of_mem b (ih hp ha)
    · obtain ⟨q, qs, hq⟩ := List.exists_cons_of_ne_nil (pieces_ne_nil mark s)
      rw [hq] at hp ih
      rcases List.mem_cons.mp hp with rfl | hp
      · rcases List.mem_cons.mp ha with rfl | ha
        · exact List.mem_cons_self
        · exact List.mem_cons_of_mem b (ih List.mem_cons_self ha)
      · exact List.mem_cons_of_mem b (ih (List.mem_cons_of_mem q hp) ha)

omit [BEq α] in
theorem mem_of_mem_joined {ss : List (List α)} {a : α} (h : a ∈ joined mark ss) :
    a = mark ∨ ∃ s ∈ ss, a ∈ s := by
  induction ss with
  | nil => cases h
  | cons s ss ih =>
    cases ss with
    | nil => exact Or.inr ⟨s, List.mem_cons_self, h⟩
    | cons s' ss =>
      rcases List.mem_append.mp h with h | h
      · exact Or.inr ⟨s, List.mem_cons_self, h⟩
      · rcases List.mem_cons.mp h with rfl | h
        · exact Or.inl rfl
        · rcases ih h with h | ⟨s'', hs'', h⟩
          · exact Or.inl h
          · exact Or.inr ⟨s'', List.mem_cons_of_mem s hs'', h⟩

end Text

namespace Path

open PathAlphabet

variable {α : Type} [PathAlphabet α]

/-! ### Segments -/

/-- A segment that is kept wherever it stands: it is not idle, does not lead to the parent, and
holds no slash. -/
structure Plain (s : List α) : Prop where
  idle : isIdle s = false
  parent : isParent s = false
  free : Text.Free slash s

theorem Plain.ne_nil {s : List α} (h : Plain s) : s ≠ [] := by
  rintro rfl
  cases h.idle

theorem segments_ofSegments [ReflBEq α] {ss : List (List α)} (hne : ss ≠ [])
    (h : ∀ s ∈ ss, Plain s) : segments (ofSegments ss) = ss :=
  Text.pieces_joined hne (fun s hs => (h s hs).free)

/-- A slash in front is an empty segment in front. -/
theorem segments_slash_cons [ReflBEq α] (p : List α) :
    segments (slash :: p) = [] :: segments p := by
  unfold segments
  rw [Text.pieces, if_pos BEq.rfl]

theorem segments_replicate_append [ReflBEq α] (k : Nat) (p : List α) :
    segments (List.replicate k slash ++ p) = List.replicate k [] ++ segments p := by
  induction k with
  | zero => rfl
  | succ k ih =>
    rw [List.replicate_succ, List.cons_append, segments_slash_cons, ih, List.replicate_succ]
    rfl

/-- A path is written from its segments. -/
theorem ofSegments_segments [LawfulBEq α] (p : List α) : ofSegments (segments p) = p := by
  induction p with
  | nil => rfl
  | cons a p ih =>
    rw [segments, ofSegments] at ih
    obtain ⟨q, qs, hq⟩ := List.exists_cons_of_ne_nil (Text.pieces_ne_nil slash p)
    rw [hq] at ih
    cases ha : a == slash with
    | true =>
      rw [eq_of_beq ha, segments_slash_cons, segments, hq, ofSegments, Text.joined, ih]
      rfl
    | false =>
      obtain ⟨q', qs', hq', hcons⟩ := Text.pieces_cons_of_ne ha p
      obtain ⟨rfl, rfl⟩ := List.cons.inj (hq.symm.trans hq')
      rw [segments, hcons, ofSegments, ← ih]
      cases qs <;> rfl

/-- Collapsing keeps plain segments, and brings in no other. -/
theorem plain_collapseStep {done : List (List α)} {s : List α} (hdone : ∀ d ∈ done, Plain d)
    (hs : Text.Free slash s) : ∀ d ∈ collapseStep true done s, Plain d := by
  unfold collapseStep
  split
  · exact hdone
  · next hidle =>
    split
    · -- the parent: one segment goes, or nothing is there to go
      split
      · exact fun _ h => absurd h List.not_mem_nil
      · next d rest =>
        obtain ⟨hd, hrest⟩ := List.forall_mem_cons.mp hdone
        rw [if_neg (by rw [hd.parent]; exact Bool.false_ne_true)]
        exact hrest
    · next hparent =>
      refine List.forall_mem_cons.mpr ⟨⟨?_, ?_, hs⟩, hdone⟩
      · exact Bool.eq_false_iff.mpr hidle
      · exact Bool.eq_false_iff.mpr hparent

theorem plain_foldl_collapseStep : ∀ {ss done : List (List α)}, (∀ d ∈ done, Plain d) →
    (∀ s ∈ ss, Text.Free slash s) → ∀ d ∈ ss.foldl (collapseStep true) done, Plain d := by
  intro ss
  induction ss with
  | nil => intro done hdone _; exact hdone
  | cons s ss ih =>
    intro done hdone hss
    obtain ⟨hs, hss⟩ := List.forall_mem_cons.mp hss
    exact ih (plain_collapseStep hdone hs) hss

/-- Plain segments are all kept. -/
theorem foldl_collapseStep_of_plain {rooted : Bool} : ∀ {ss done : List (List α)},
    (∀ s ∈ ss, Plain s) → ss.foldl (collapseStep rooted) done = ss.reverse ++ done := by
  intro ss
  induction ss with
  | nil => intro done _; rfl
  | cons s ss ih =>
    intro done h
    obtain ⟨hs, hss⟩ := List.forall_mem_cons.mp h
    have hstep : collapseStep rooted done s = s :: done := by
      simp [collapseStep, hs.idle, hs.parent]
    rw [List.foldl_cons, hstep, ih hss, List.reverse_cons, List.append_assoc,
      List.singleton_append]

/-- What a step of collapsing keeps was kept before, or it names something. -/
theorem mem_collapseStep {rooted : Bool} {done : List (List α)} {r s : List α}
    (h : s ∈ collapseStep rooted done r) : s ∈ done ∨ s = r ∧ isIdle s = false := by
  unfold collapseStep at h
  split at h
  · exact Or.inl h
  · next hidle =>
    have hnew : s = r → s ∈ done ∨ s = r ∧ isIdle s = false := by
      rintro rfl
      exact Or.inr ⟨rfl, Bool.eq_false_iff.mpr hidle⟩
    split at h
    · split at h
      · split at h
        · cases h
        · exact hnew (List.mem_singleton.mp h)
      · split at h
        · rcases List.mem_cons.mp h with h | h
          · exact hnew h
          · exact Or.inl h
        · exact Or.inl (List.mem_cons_of_mem _ h)
    · rcases List.mem_cons.mp h with h | h
      · exact hnew h
      · exact Or.inl h

theorem mem_foldl_collapseStep {rooted : Bool} {s : List α} : ∀ {ss done : List (List α)},
    s ∈ ss.foldl (collapseStep rooted) done → s ∈ done ∨ s ∈ ss ∧ isIdle s = false := by
  intro ss
  induction ss with
  | nil => exact fun {done} h => Or.inl h
  | cons r ss ih =>
    intro done h
    rcases ih h with h | ⟨h, hidle⟩
    · rcases mem_collapseStep h with h | ⟨rfl, hidle⟩
      · exact Or.inl h
      · exact Or.inr ⟨List.mem_cons_self, hidle⟩
    · exact Or.inr ⟨List.mem_cons_of_mem r h, hidle⟩

/-! ### Absolute paths -/

/-- A path below the root, written from plain segments behind one slash or two. -/
def written (root : Nat) (ss : List (List α)) : List α :=
  List.replicate root slash ++ ofSegments ss

variable {root : Nat} {ss : List (List α)}

/-- The first character of what plain segments make is no slash. -/
theorem ofSegments_cases (h : ∀ s ∈ ss, Plain s) :
    ss = [] ∨ ∃ (a : α) (rest : List α), ofSegments ss = a :: rest ∧ (a == slash) = false := by
  cases ss with
  | nil => exact Or.inl rfl
  | cons s ss =>
    right
    have hs := h s List.mem_cons_self
    obtain ⟨a, s', rfl⟩ := List.exists_cons_of_ne_nil hs.ne_nil
    have ha := hs.free a List.mem_cons_self
    cases ss with
    | nil => exact ⟨a, s', rfl, ha⟩
    | cons q qs => exact ⟨a, _, rfl, ha⟩

/-- What collapses to plain segments below the root is written from them. -/
theorem collapse_eq_written {p : List α} (hroot : rootSlashes p = root) (hpos : 0 < root)
    (hss : (segments p).foldl (collapseStep true) [] = ss.reverse) :
    collapse p = written root ss := by
  have hrooted : (root != 0) = true := by
    rw [bne_iff_ne]
    omega
  have hne : (written root ss).isEmpty = false := by
    cases root with
    | zero => exact absurd hpos (Nat.lt_irrefl 0)
    | succ n => rfl
  unfold collapse
  dsimp only
  rw [hroot, hrooted, hss, List.reverse_reverse, ← written, hne, if_neg Bool.false_ne_true]

/-- An absolute path has one slash at its root or two, when it is collapsed. -/
theorem rootSlashes_of_isAbsolute {p : List α} (h : isAbsolute p = true) :
    rootSlashes p = 1 ∨ rootSlashes p = 2 := by
  match p, h with
  | [a], h => exact Or.inl (if_pos h)
  | [a, b], h =>
    have ha : (a == slash) = true := h
    rw [rootSlashes, if_pos ha]
    split <;> simp
  | a :: b :: c :: _, h =>
    have ha : (a == slash) = true := h
    rw [rootSlashes, if_pos ha]
    split <;> simp

/-- An absolute path collapses to plain segments below the root. -/
theorem exists_collapse_eq_written {p : List α} (h : isAbsolute p = true) :
    ∃ root ss, (root = 1 ∨ root = 2) ∧ (∀ s ∈ ss, Plain s) ∧ collapse p = written root ss := by
  have hroot := rootSlashes_of_isAbsolute h
  have hplain : ∀ s ∈ ((segments p).foldl (collapseStep true) []).reverse, Plain s := by
    intro s hs
    refine plain_foldl_collapseStep (fun _ h => absurd h List.not_mem_nil) ?_ s
      (List.mem_reverse.mp hs)
    exact fun s hs => Text.free_of_mem_pieces hs
  refine ⟨rootSlashes p, _, hroot, hplain, collapse_eq_written rfl (by omega) ?_⟩
  rw [List.reverse_reverse]

/-- A path seen from an absolute directory is absolute. -/
theorem isAbsolute_join {base p : List α} (hbase : isAbsolute base = true) :
    isAbsolute (if isAbsolute p then p else join base p) = true := by
  split
  · next h => exact h
  · next h =>
    unfold join
    rw [if_neg h]
    cases base with
    | nil => cases hbase
    | cons a base =>
      rw [List.getLast?_cons]
      dsimp only
      split
      · exact hbase
      · exact hbase

variable [ReflBEq α]

theorem rootSlashes_written (hroot : root = 1 ∨ root = 2) (h : ∀ s ∈ ss, Plain s) :
    rootSlashes (written root ss) = root := by
  rcases ofSegments_cases h with rfl | ⟨a, rest, hrest, ha⟩
  · rcases hroot with rfl | rfl <;> simp [written, ofSegments, Text.joined, rootSlashes]
  · rw [written, hrest]
    rcases hroot with rfl | rfl
    · cases rest <;> simp [rootSlashes, ha]
    · simp [rootSlashes, ha]

theorem foldl_segments_written (hroot : root = 1 ∨ root = 2) (h : ∀ s ∈ ss, Plain s) :
    (segments (written root ss)).foldl (collapseStep true) [] = ss.reverse := by
  -- the slashes at the root give empty segments, which are passed over
  have hempty : collapseStep true [] ([] : List α) = [] := rfl
  have hbelow : (segments (ofSegments ss)).foldl (collapseStep true) [] = ss.reverse := by
    by_cases hss : ss = []
    · rw [hss]
      rfl
    · rw [segments_ofSegments hss h, foldl_collapseStep_of_plain h, List.append_nil]
  rcases hroot with rfl | rfl
  · rw [written, List.replicate_one, List.singleton_append, segments_slash_cons,
      List.foldl_cons, hempty, hbelow]
  · rw [written, show List.replicate 2 (slash : α) = [slash, slash] from rfl, List.cons_append,
      List.singleton_append, segments_slash_cons, segments_slash_cons, List.foldl_cons, hempty,
      List.foldl_cons, hempty, hbelow]

theorem collapse_written (hroot : root = 1 ∨ root = 2) (h : ∀ s ∈ ss, Plain s) :
    collapse (written root ss) = written root ss :=
  collapse_eq_written (rootSlashes_written hroot h) (by omega) (foldl_segments_written hroot h)

theorem isAbsolute_written (hroot : root = 1 ∨ root = 2) :
    isAbsolute (written root ss) = true := by
  rcases hroot with rfl | rfl <;> exact BEq.rfl

/-- **An absolute path is its own absolute form.** -/
theorem absolute_absolute {base : List α} (hbase : isAbsolute base = true) (p : List α) :
    absolute base (absolute base p) = absolute base p := by
  obtain ⟨root, ss, hroot, hss, hp⟩ := exists_collapse_eq_written (isAbsolute_join (p := p) hbase)
  rw [absolute, absolute, hp, if_pos (isAbsolute_written hroot), collapse_written hroot hss]

/-! ### Short paths -/

omit [ReflBEq α] in
/-- A short path without a slash names a package alone. -/
theorem splitShort_of_free {s : List α} (h : Text.Free slash s) : splitShort s = (s, none) := by
  rw [splitShort, segments, Text.pieces_of_free h]

omit [ReflBEq α] in
/-- A short path with a slash names what stands before the first one as its package, and all that is
behind it as the rest. -/
theorem splitShort_append_slash [LawfulBEq α] {package : List α} (h : Text.Free slash package)
    (rest : List α) : splitShort (package ++ slash :: rest) = (package, some rest) := by
  obtain ⟨q, qs, hrest⟩ := List.exists_cons_of_ne_nil (Text.pieces_ne_nil slash rest)
  have hsegments : ofSegments (q :: qs) = rest := hrest ▸ ofSegments_segments rest
  rw [splitShort, segments, Text.pieces_append_mark rest h, hrest]
  show (package, some (ofSegments (q :: qs))) = _
  rw [hsegments]

omit [ReflBEq α] in
/-- **A short path is cut into a package without a slash and the rest from which it is put
together**, and that in one way only. -/
theorem splitShort_eq_iff [LawfulBEq α] {s package : List α} {rest : Option (List α)} :
    splitShort s = (package, rest) ↔
      Text.Free slash package ∧ s = package ++ rest.elim [] (slash :: ·) := by
  constructor
  · intro h
    by_cases hslash : slash ∈ s
    · obtain ⟨p, r, hfree, rfl⟩ := Text.exists_eq_append_mark hslash
      rw [splitShort_append_slash hfree] at h
      cases h
      exact ⟨hfree, rfl⟩
    · have hfree : Text.Free slash s := by
        intro a ha
        rw [beq_eq_false_iff_ne]
        rintro rfl
        exact hslash ha
      rw [splitShort_of_free hfree] at h
      cases h
      exact ⟨hfree, (List.append_nil s).symm⟩
  · rintro ⟨hfree, rfl⟩
    cases rest with
    | none =>
      show splitShort (package ++ []) = _
      rw [List.append_nil, splitShort_of_free hfree]
    | some rest => exact splitShort_append_slash hfree rest

omit [ReflBEq α] in
/-- A short path names a package unless it is empty or starts with a slash. -/
theorem splitShort_fst_eq_nil_iff {s : List α} :
    (splitShort s).1 = [] ↔ ∀ a ∈ s.head?, (a == slash) = true := by
  cases s with
  | nil => exact iff_of_true rfl nofun
  | cons a s =>
    simp only [List.head?_cons, Option.mem_some_iff, forall_eq']
    cases ha : a == slash with
    | true =>
      obtain ⟨q, qs, hrest⟩ := List.exists_cons_of_ne_nil (Text.pieces_ne_nil slash s)
      refine iff_of_true ?_ rfl
      rw [splitShort, segments, Text.pieces, if_pos ha, hrest]
    | false =>
      obtain ⟨q, qs, -, hcons⟩ := Text.pieces_cons_of_ne ha s
      refine iff_of_false ?_ Bool.false_ne_true
      rw [splitShort, segments, hcons]
      cases qs <;> exact List.cons_ne_nil _ _

end Path

end PackageCatalog
