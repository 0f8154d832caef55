import PackageCatalog.Proofs.Names
import PackageCatalog.Proofs.Path

/-!
# Resolving a path by a stack

Collapsing looks at the segment that was kept last, since a path that is relative keeps its leading
`..`.  Below the root there is none to keep, so that a segment is pushed, and `..` pops one: the
absolute form of a path is what a stack of components makes of it.  A text resolves in the same way
whether it is taken as a text or as a name, so that the keys of texts are told by their resolution.

## Main definitions

* `Path.IsResolved` — a path below the root without a segment that could go.

## Main results

* `Path.absolute_eq_resolved` — **the absolute form of a path is its resolution.**
* `Path.resolved_ofText` — a text and its name resolve alike.
* `law_of_resolution` — **the key of a text is its resolution.**
-/

namespace PackageCatalog

namespace Path

open PathAlphabet

variable {α : Type} [PathAlphabet α] {p rest : List α}

/-- A path below the root without a segment that could go: one slash or two, and plain segments with
single slashes between them. -/
def IsResolved (p : List α) : Prop :=
  ∃ root ss, (root = 1 ∨ root = 2) ∧ (∀ s ∈ ss, Plain s) ∧ p = written root ss

/-! ### The stack -/

/-- Where no kept segment leads to the parent, a step of collapsing is one of the stack. -/
theorem collapseStep_eq_resolveStep {done : List (List α)} (s : List α)
    (hdone : ∀ d ∈ done, Plain d) : collapseStep true done s = resolveStep done s := by
  unfold collapseStep resolveStep
  cases done with
  | nil => rfl
  | cons d done =>
    have hd := (hdone d List.mem_cons_self).parent
    simp [hd]

theorem foldl_collapseStep_eq : ∀ {ss done : List (List α)}, (∀ d ∈ done, Plain d) →
    (∀ s ∈ ss, Text.Free slash s) → ss.foldl (collapseStep true) done =
      ss.foldl resolveStep done := by
  intro ss
  induction ss with
  | nil => intro done _ _; rfl
  | cons s ss ih =>
    intro done hdone hss
    obtain ⟨hs, hss⟩ := List.forall_mem_cons.mp hss
    rw [List.foldl_cons, List.foldl_cons, ih (plain_collapseStep hdone hs) hss,
      collapseStep_eq_resolveStep s hdone]

/-- The segments of a path collapse as the stack takes them. -/
theorem foldl_segments_eq (p : List α) :
    (segments p).foldl (collapseStep true) [] = (segments p).foldl resolveStep [] :=
  foldl_collapseStep_eq (fun _ h => absurd h List.not_mem_nil)
    (fun _ hs => Text.free_of_mem_pieces hs)

/-! ### Slashes at the root -/

/-- An absolute path keeps two slashes when it has exactly two. -/
theorem rootSlashes_eq (h : isAbsolute p = true) :
    rootSlashes p = if (p.takeWhile (· == slash)).length = 2 then 2 else 1 := by
  match p, h with
  | [a], h =>
    have ha : (a == slash) = true := h
    simp [rootSlashes, List.takeWhile, ha]
  | [a, b], h =>
    have ha : (a == slash) = true := h
    cases hb : b == slash <;> simp [rootSlashes, List.takeWhile, ha, hb]
  | a :: b :: c :: p, h =>
    have ha : (a == slash) = true := h
    cases hb : b == slash <;> cases hc : c == slash <;>
      simp [rootSlashes, List.takeWhile, ha, hb, hc]

theorem rootSlashes_cons [ReflBEq α] (h : isAbsolute rest = false) :
    rootSlashes (slash :: rest) = 1 := by
  match rest, h with
  | [], _ => simp [rootSlashes]
  | [b], h =>
    have hb : (b == slash) = false := h
    simp [rootSlashes, hb]
  | b :: c :: rest, h =>
    have hb : (b == slash) = false := h
    simp [rootSlashes, hb]

/-! ### Resolution -/

/-- A relative path that is seen from a directory is there behind one slash. -/
theorem join_eq_cons [ReflBEq α] (hrest : isAbsolute rest = false) (hp : isAbsolute p = false) :
    ∃ q, join (slash :: rest) p = slash :: q ∧ isAbsolute q = false := by
  rw [join, hp, if_neg Bool.false_ne_true]
  cases rest with
  | nil =>
    rw [List.getLast?_singleton]
    dsimp only
    rw [if_pos BEq.rfl]
    exact ⟨p, rfl, hp⟩
  | cons a rest =>
    split
    · next h => exact absurd (List.getLast?_eq_none_iff.mp h) (List.cons_ne_nil _ _)
    · split
      · exact ⟨_, rfl, hrest⟩
      · exact ⟨_, rfl, hrest⟩

/-- The stack takes the components of the directory before those of a path that is seen from it: an
empty one between them is passed over. -/
theorem foldl_segments_join [LawfulBEq α] {base : List α} (hbase : base ≠ [])
    (hp : isAbsolute p = false) :
    (segments (join base p)).foldl resolveStep [] =
      (segments base ++ segments p).foldl resolveStep [] := by
  obtain ⟨front, a, rfl⟩ := (List.eq_nil_or_concat base).resolve_left hbase
  rw [join, hp, if_neg Bool.false_ne_true, List.concat_eq_append, List.getLast?_concat]
  dsimp only
  split
  · next ha =>
    obtain rfl : a = slash := eq_of_beq ha
    have hlast : segments (front ++ [slash]) = segments front ++ [[]] := Text.pieces_append front []
    have hidle : ∀ stack : List (List α), resolveStep stack [] = stack := fun _ => rfl
    rw [List.append_assoc, List.singleton_append, hlast, segments, Text.pieces_append,
      List.foldl_append, List.foldl_append, List.foldl_append, List.foldl_cons, hidle,
      List.foldl_nil]
    rfl
  · rw [segments, Text.pieces_append]
    rfl

/-- **The absolute form of a path is its resolution**, from every directory behind a single slash.
-/
theorem absolute_eq_resolved [LawfulBEq α] (hrest : isAbsolute rest = false) (p : List α) :
    absolute (slash :: rest) p = resolved (slash :: rest) p := by
  cases hp : isAbsolute p with
  | true =>
    rw [absolute, if_pos hp, resolved, if_pos hp]
    refine (collapse_eq_written (rootSlashes_eq hp) (by split <;> decide) ?_)
    rw [List.reverse_reverse]
    exact foldl_segments_eq p
  | false =>
    obtain ⟨q, hq, hrel⟩ := join_eq_cons hrest hp
    have hnone : p.takeWhile (· == slash) = [] := by
      cases p with
      | nil => rfl
      | cons a p => exact List.takeWhile_cons_of_neg (Bool.eq_false_iff.mp hp)
    have hstack := foldl_segments_join (List.cons_ne_nil slash rest) hp
    rw [absolute, hp, if_neg Bool.false_ne_true, resolved, hp, if_neg Bool.false_ne_true, hnone,
      if_neg (by simp), ← hstack, hq]
    refine collapse_eq_written (rootSlashes_cons hrel) Nat.one_pos ?_
    rw [List.reverse_reverse]
    exact foldl_segments_eq _

/-- A resolution is resolved. -/
theorem isResolved_absolute {base : List α} (hbase : isAbsolute base = true) (p : List α) :
    IsResolved (absolute base p) := by
  obtain ⟨root, ss, hroot, hss, h⟩ := exists_collapse_eq_written (isAbsolute_join (p := p) hbase)
  exact ⟨root, ss, hroot, hss, h⟩

theorem IsResolved.isAbsolute [ReflBEq α] (h : IsResolved p) : isAbsolute p = true := by
  obtain ⟨root, ss, hroot, -, rfl⟩ := h
  exact isAbsolute_written hroot

/-- A resolved path is its own absolute form, from everywhere. -/
theorem IsResolved.absolute_eq [ReflBEq α] {base : List α} (h : IsResolved p) :
    absolute base p = p := by
  obtain ⟨root, ss, hroot, hss, rfl⟩ := h
  rw [absolute, if_pos (isAbsolute_written hroot), collapse_written hroot hss]

/-! ### Texts as names -/

section Names

open NativeName

theorem ofText_injective : Function.Injective ofText :=
  List.map_injective_iff.mpr (fun _ _ h => NameUnit.char.inj h)

theorem beq_ofText (s t : Text) : (ofText s == ofText t) = (s == t) := by
  rw [Bool.eq_iff_iff, beq_iff_eq, beq_iff_eq, ofText_injective.eq_iff]

theorem char_beq_slash (c : Char) : (NameUnit.char c == slash) = (c == slash) := by
  rw [Bool.eq_iff_iff, beq_iff_eq, beq_iff_eq]
  exact ⟨NameUnit.char.inj, congrArg _⟩

theorem segments_ofText (t : Text) : segments (ofText t) = (segments t).map ofText := by
  induction t with
  | nil => rfl
  | cons c t ih =>
    have hcons : ofText (c :: t) = .char c :: ofText t := rfl
    obtain ⟨q, qs, hq⟩ := List.exists_cons_of_ne_nil (Text.pieces_ne_nil slash t)
    rw [segments, segments, hq] at ih
    rw [hcons, segments, segments, Text.pieces, Text.pieces, ih, hq, char_beq_slash]
    split <;> rfl

theorem ofSegments_map_ofText (ss : List Text) :
    ofSegments (ss.map ofText) = ofText (ofSegments ss) := by
  induction ss with
  | nil => rfl
  | cons s ss ih =>
    cases ss with
    | nil => rfl
    | cons s' ss =>
      have hcons : ∀ {β : Type} [PathAlphabet β] (s s' : List β) (ss : List (List β)),
          ofSegments (s :: s' :: ss) = s ++ slash :: ofSegments (s' :: ss) := fun _ _ _ => rfl
      rw [List.map_cons] at ih
      rw [List.map_cons, List.map_cons, hcons, hcons, ih, ofText, ofText, ofText, List.map_append]
      rfl

theorem resolveStep_map_ofText (stack : List Text) (s : Text) :
    resolveStep (stack.map ofText) (ofText s) = (resolveStep stack s).map ofText := by
  have hidle : isIdle (ofText s) = isIdle s := by
    rw [isIdle, isIdle, ← beq_ofText s [], ← beq_ofText s [dot]]
    rfl
  have hparent : isParent (ofText s) = isParent s := by
    rw [isParent, isParent, ← beq_ofText s [dot, dot]]
    rfl
  rw [resolveStep, resolveStep, hidle, hparent]
  split
  · rfl
  · split
    · exact List.map_tail.symm
    · rfl

theorem foldl_resolveStep_map_ofText (ss stack : List Text) :
    (ss.map ofText).foldl resolveStep (stack.map ofText) =
      (ss.foldl resolveStep stack).map ofText := by
  induction ss generalizing stack with
  | nil => rfl
  | cons s ss ih =>
    rw [List.map_cons, List.foldl_cons, List.foldl_cons, resolveStep_map_ofText, ih]

theorem isAbsolute_ofText (t : Text) : isAbsolute (ofText t) = isAbsolute t := by
  cases t with
  | nil => rfl
  | cons c t => exact char_beq_slash c

/-- **A text and its name resolve alike.** -/
theorem resolved_ofText (base t : Text) :
    resolved (ofText base) (ofText t) = ofText (resolved base t) := by
  have hcomponents : (if isAbsolute (ofText t) then segments (ofText t)
      else segments (ofText base) ++ segments (ofText t)) =
        (if isAbsolute t then segments t else segments base ++ segments t).map ofText := by
    rw [isAbsolute_ofText, segments_ofText, segments_ofText]
    split
    · rfl
    · rw [List.map_append]
  have hslashes : ((ofText t).takeWhile (· == slash)).length =
      (t.takeWhile (· == slash)).length := by
    rw [ofText, List.takeWhile_map, List.length_map]
    exact congrArg (fun p => (t.takeWhile p).length) (funext char_beq_slash)
  have hstack := foldl_resolveStep_map_ofText
    (if isAbsolute t then segments t else segments base ++ segments t) []
  rw [List.map_nil] at hstack
  rw [resolved, resolved, hcomponents, hslashes, hstack, ← List.map_reverse,
    ofSegments_map_ofText, ofText, ofText, List.map_append, List.map_replicate]
  rfl

/-- A text and its name have one absolute form. -/
theorem absolute_ofText {rest : Text} (hrest : isAbsolute rest = false) (t : Text) :
    absolute (ofText ('/' :: rest)) (ofText t) = ofText (absolute ('/' :: rest) t) := by
  have hname : absolute (ofText ('/' :: rest)) (ofText t) =
      resolved (ofText ('/' :: rest)) (ofText t) :=
    absolute_eq_resolved ((isAbsolute_ofText rest).trans hrest) (ofText t)
  have htext : absolute ('/' :: rest) t = resolved ('/' :: rest) t := absolute_eq_resolved hrest t
  rw [hname, resolved_ofText, htext]

/-- The name of a resolved text is resolved. -/
theorem IsResolved.ofText {t : Text} (h : IsResolved t) : IsResolved (NativeName.ofText t) := by
  have hroot : Path.isAbsolute ([] : Text) = false := rfl
  have hname := absolute_ofText hroot t
  rw [h.absolute_eq] at hname
  rw [← hname]
  exact isResolved_absolute rfl _

end Names

end Path

/-! ### Keys of texts -/

open NativeName

/-- The directory that names are seen from, as a text. -/
def workingText : Text := "/tmp/pkgx".toList

/-- The text of the absolute form of a text. -/
theorem nameText_absolute_ofText (detect : Detector) {rest : Text}
    (hrest : Path.isAbsolute rest = false) (t : Text) :
    nameText detect (Path.absolute (ofText ('/' :: rest)) (ofText t)) =
      .ok (Path.resolved ('/' :: rest) t) := by
  have htext : Path.absolute ('/' :: rest) t = Path.resolved ('/' :: rest) t :=
    Path.absolute_eq_resolved hrest t
  rw [Path.absolute_ofText hrest, htext]
  exact nameText_of_toBytes? (toBytes?_ofText _)

theorem keyOf_ofText (detect : Detector) (t : Text) :
    keyOf detect (ofText t) = .ok (Path.resolved workingText t) :=
  nameText_absolute_ofText detect rfl t

/-- **The key of a text is its resolution.**

* So it is in every working directory behind a single slash, whatever the detector says, and the
  resolution is a path below the root from which nothing could be left out.
* Two texts have one key exactly when they resolve to the same path. -/
theorem law_of_resolution :
    (∀ (detect : Detector) (rest t : Text), Path.isAbsolute rest = false →
      nameText detect (Path.absolute (ofText ('/' :: rest)) (ofText t)) =
        .ok (Path.resolved ('/' :: rest) t) ∧
      Path.IsResolved (Path.resolved ('/' :: rest) t)) ∧
    (∀ (detect : Detector) (t : Text),
      keyOf detect (ofText t) = .ok (Path.resolved workingText t)) ∧
    ∀ (detect detect' : Detector) (s t : Text), keyOf detect (ofText s) = keyOf detect' (ofText t) ↔
      Path.resolved workingText s = Path.resolved workingText t := by
  refine ⟨fun detect rest t hrest => ⟨nameText_absolute_ofText detect hrest t, ?_⟩,
    keyOf_ofText, fun detect detect' s t => ?_⟩
  · have habsolute : Path.absolute ('/' :: rest) t = Path.resolved ('/' :: rest) t :=
      Path.absolute_eq_resolved hrest t
    rw [← habsolute]
    exact Path.isResolved_absolute rfl t
  · rw [keyOf_ofText, keyOf_ofText, Except.ok.injEq]

end PackageCatalog
