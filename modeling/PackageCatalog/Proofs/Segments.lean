import Mathlib.Data.List.Forall2
import PackageCatalog.Proofs.Path

/-!
# Segments of what is written

A path is written in octets, one block of them for each of its elements.  Where a slash and a dot
have their octet and no other block has it, what is written has the segments of the path: each
segment is written by itself, and none is turned into one that is empty, a dot, or two dots.

## Main definitions

* `Text.Spells` — a sequence that spells another, one block for each element.
* `Path.StandsAlone`, `Path.KeepsMarks` — marks, and slashes and dots, that stand by themselves.
* `Path.SameKind` — segments that are treated alike.

## Main results

* `Path.spells_segments` — **the segments of what is written write the segments.**
* `Path.sameKind_of_spells` — what is written of a segment is treated as the segment is.
-/

namespace PackageCatalog

/-! ### Sequences that spell others -/

/-- A sequence that spells another: it is cut into blocks, one for each element of the other. -/
inductive Text.Spells {α β : Type} (code : List α → β → Prop) : List α → List β → Prop
  | nil : Spells code [] []
  | cons {block : List α} {b : β} {s : List α} {t : List β} (head : code block b)
      (tail : Spells code s t) : Spells code (block ++ s) (b :: t)

namespace Text

variable {α β : Type} {s : List α} {t : List β}

/-- Where every element has one block, a sequence is spelled by its blocks. -/
theorem spells_iff_flatMap {write : β → List α} :
    Spells (fun a b => a = write b) s t ↔ s = t.flatMap write := by
  constructor
  · intro h
    induction h with
    | nil => rfl
    | cons head _ ih => rw [List.flatMap_cons, head, ih]
  · rintro rfl
    induction t with
    | nil => exact .nil
    | cons b t ih =>
      rw [List.flatMap_cons]
      exact .cons rfl ih

end Text

namespace Path

open PathAlphabet

/-- A mark is written by an octet, and nothing else is written with it. -/
def StandsAlone {β : Type} [BEq β] (code : Bytes → β → Prop) (octet : UInt8) (mark : β) : Prop :=
  ∀ {os c}, code os c → os = [octet] ∧ c = mark ∨ Text.Free octet os ∧ (c == mark) = false

/-- A code in which slashes and dots stand by themselves. -/
structure KeepsMarks {β : Type} [PathAlphabet β] (code : Bytes → β → Prop) : Prop where
  ne_nil : ∀ {os c}, code os c → os ≠ []
  slash : StandsAlone code slash slash
  dot : StandsAlone code dot dot

section Written

variable {β : Type} [PathAlphabet β] [LawfulBEq β] {code : Bytes → β → Prop} {b : Bytes}
  {t : List β}

/-- **The segments of what is written write the segments.** -/
theorem spells_segments (hcode : KeepsMarks code) (h : Text.Spells code b t) :
    List.Forall₂ (Text.Spells code) (segments b) (segments t) := by
  induction h with
  | nil => exact .cons .nil .nil
  | @cons os c b t head _ ih =>
    rcases hcode.slash head with ⟨rfl, rfl⟩ | ⟨hfree, hc⟩
    · rw [List.singleton_append, segments_slash_cons, segments_slash_cons]
      exact .cons .nil ih
    · -- the block belongs to the first segment
      obtain ⟨p, ps, hp⟩ := List.exists_cons_of_ne_nil (Text.pieces_ne_nil (slash : UInt8) b)
      obtain ⟨q, qs, hq, hcons⟩ := Text.pieces_cons_of_ne hc t
      rw [segments, segments, hp, hq] at ih
      rw [segments, segments, Text.pieces_free_append hfree hp, hcons]
      obtain ⟨hfirst, hmore⟩ := List.forall₂_cons.mp ih
      exact .cons (.cons head hfirst) hmore

/-- Dots are written by as many dots, and by nothing else. -/
theorem spells_dots_iff (hcode : KeepsMarks code) : ∀ {k : Nat} {b : Bytes} {t : List β},
    Text.Spells code b t → (b = List.replicate k dot ↔ t = List.replicate k dot) := by
  intro k
  induction k with
  | zero =>
    intro b t h
    cases h with
    | nil => exact iff_of_true rfl rfl
    | cons head _ =>
      exact iff_of_false (fun h => hcode.ne_nil head (List.append_eq_nil_iff.mp h).1)
        (List.cons_ne_nil _ _)
  | succ k ih =>
    intro b t h
    rw [List.replicate_succ, List.replicate_succ]
    cases h with
    | nil => exact iff_of_false nofun nofun
    | cons head tail =>
      rcases hcode.dot head with ⟨rfl, rfl⟩ | ⟨hfree, hc⟩
      · rw [List.singleton_append, List.cons_inj_right, List.cons_inj_right]
        exact ih tail
      · refine iff_of_false (fun h => ?_) (fun h => ?_)
        · obtain ⟨x, os, rfl⟩ := List.exists_cons_of_ne_nil (hcode.ne_nil head)
          have hx := hfree x List.mem_cons_self
          rw [(List.cons.inj h).1, BEq.rfl] at hx
          cases hx
        · rw [(List.cons.inj h).1, BEq.rfl] at hc
          cases hc

/-- What is written is absolute when the path is. -/
theorem isAbsolute_of_spells (hcode : KeepsMarks code) (h : Text.Spells code b t) :
    isAbsolute b = isAbsolute t := by
  cases h with
  | nil => rfl
  | cons head _ =>
    rcases hcode.slash head with ⟨rfl, rfl⟩ | ⟨hfree, hc⟩
    · exact (BEq.rfl : ((slash : UInt8) == slash) = true).trans BEq.rfl.symm
    · obtain ⟨x, os, rfl⟩ := List.exists_cons_of_ne_nil (hcode.ne_nil head)
      exact (hfree x List.mem_cons_self).trans hc.symm

end Written

/-- Segments that are alike: empty, idle, or leading to the parent, both or neither. -/
structure SameKind {α β : Type} [PathAlphabet α] [PathAlphabet β] (s : List α) (s' : List β) :
    Prop where
  nil : s = [] ↔ s' = []
  idle : isIdle s = isIdle s'
  parent : isParent s = isParent s'

theorem SameKind.symm {α β : Type} [PathAlphabet α] [PathAlphabet β] {s : List α} {s' : List β}
    (h : SameKind s s') : SameKind s' s := ⟨h.nil.symm, h.idle.symm, h.parent.symm⟩

theorem sameKind_of_spells {β : Type} [PathAlphabet β] [LawfulBEq β] {code : Bytes → β → Prop}
    {b : Bytes} {t : List β} (hcode : KeepsMarks code) (h : Text.Spells code b t) :
    SameKind b t := by
  have hdots := fun k => spells_dots_iff hcode (k := k) h
  refine ⟨hdots 0, ?_, ?_⟩
  · rw [Bool.eq_iff_iff, isIdle, isIdle, Bool.or_eq_true, Bool.or_eq_true, beq_iff_eq, beq_iff_eq,
      beq_iff_eq, beq_iff_eq]
    exact or_congr (hdots 0) (hdots 1)
  · rw [Bool.eq_iff_iff, isParent, isParent, beq_iff_eq, beq_iff_eq]
    exact hdots 2

end Path

end PackageCatalog
