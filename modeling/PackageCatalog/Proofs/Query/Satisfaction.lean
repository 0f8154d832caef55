import PackageCatalog.Store.Truth

/-!
# What it means to satisfy a predicate

A document satisfies a predicate by its own fields.  The store decides the same question on a
document with an index row; on a document with the row that belongs to it, the two agree, for
every predicate that can be written as a query.

## Main definitions

* `Predicate.induction` — induction on predicates, the children of a connective together.
* `TokenMatches` — the rule for parts of a text.
* `Document.Satisfies` — the meaning of a predicate.
* `Predicate.Writable`, `Predicate.Answerable` — a predicate that can be written as a query, and
  one that keeps within the limits too.

## Main results

* `Predicate.holds_own_iff` — **the truth of a predicate on a document and its own row is its
  meaning.**
-/

namespace PackageCatalog

/-! ### Names of fields -/

namespace Field

theorem ofName?_name (f : Field) : ofName? f.name.toList = some f := by
  cases f <;> rfl

/-- A name of a field is what that field is called. -/
theorem eq_name_of_ofName? {name : Text} {f : Field} (h : ofName? name = some f) :
    name = f.name.toList := by
  have hfound := List.find?_some h
  exact (eq_of_beq hfound).symm

end Field

namespace Predicate

/-! ### Induction -/

/-- Induction on predicates, where the children of a connective are known all at once. -/
@[elab_as_elim]
theorem induction {motive : Predicate → Prop}
    (term : ∀ field value whole, motive (.term field value whole))
    (all : ∀ children, (∀ p ∈ children, motive p) → motive (.all children))
    (any : ∀ children, (∀ p ∈ children, motive p) → motive (.any children))
    (other : ∀ value, motive (.other value)) (p : Predicate) : motive p := by
  refine @Predicate.rec motive (fun ps => ∀ p ∈ ps, motive p) term all any other ?_ ?_ p
  · exact fun _ h => absurd h List.not_mem_nil
  · intro p ps hp hps q hq
    rcases List.mem_cons.mp hq with rfl | hq
    · exact hp
    · exact hps q hq

/-! ### Several predicates at once -/

variable {row : Row} {ps : List Predicate}

theorem allHold_iff : allHold row ps = true ↔ ∀ p ∈ ps, p.holds row = true := by
  induction ps with
  | nil => simp [allHold]
  | cons p ps ih => simp [allHold, ih]

theorem anyHolds_iff : anyHolds row ps = true ↔ ∃ p ∈ ps, p.holds row = true := by
  induction ps with
  | nil => simp [anyHolds]
  | cons p ps ih => simp [anyHolds, ih]

theorem areTriable_iff : areTriable ps = true ↔ ∀ p ∈ ps, p.isTriable = true := by
  induction ps with
  | nil => simp [areTriable]
  | cons p ps ih => simp [areTriable, ih]

/-- The predicate can be written as a query. -/
def Writable (p : Predicate) : Prop := ∃ c, Sql.render p = .ok c

/-- Predicates can be written together if each of them can. -/
theorem renderAll_ok_iff : (∃ cs, Sql.renderAll ps = .ok cs) ↔ ∀ p ∈ ps, p.Writable := by
  induction ps with
  | nil => simp [Sql.renderAll]
  | cons p ps ih =>
    rw [List.forall_mem_cons, ← ih, Writable, Sql.renderAll]
    cases Sql.render p with
    | error e => simp
    | ok c => cases Sql.renderAll ps <;> simp

theorem writable_all_iff : (all ps).Writable ↔ ∀ p ∈ ps, p.Writable := by
  rw [← renderAll_ok_iff, Writable, Sql.render]
  cases Sql.renderAll ps <;> simp [Except.map]

theorem writable_any_iff : (any ps).Writable ↔ ∀ p ∈ ps, p.Writable := by
  rw [← renderAll_ok_iff, Writable, Sql.render]
  cases Sql.renderAll ps <;> simp [Except.map]

theorem writable_token_iff {name value : Text} :
    (term name value false).Writable ↔ ∃ f, Field.textOfName? name = some f := by
  rw [Writable, Sql.render, Sql.renderTerm, if_neg Bool.false_ne_true]
  cases Field.textOfName? name with
  | none =>
    constructor
    · rintro ⟨c, ⟨⟩⟩
    · rintro ⟨f, ⟨⟩⟩
  | some f => exact ⟨fun _ => ⟨f, rfl⟩, fun _ => ⟨_, rfl⟩⟩

theorem not_writable_other {value : Datum} : ¬(other value).Writable := by
  rintro ⟨c, ⟨⟩⟩

end Predicate

/-! ### The meaning of predicates -/

/-- A value occurs in a text, by the matcher on the pattern of the value. -/
def TokenMatches (value text : Text) : Prop :=
  Like.accepts (Like.escapeOf value) (Like.pattern value) text = true

/-- What it means that a document satisfies a predicate. -/
inductive Document.Satisfies (d : Document) : Predicate → Prop
  /-- The field is the value. -/
  | equal {name value : Text} {f : Field} :
    Field.ofName? name = some f → exactHolds f value d = true → Satisfies d (.term name value true)
  /-- The value occurs in the text of the field. -/
  | token {name value text : Text} {f : Field} :
    Field.textOfName? name = some f → d.get f = .text text → TokenMatches value text →
      Satisfies d (.term name value false)
  | all {children : List Predicate} :
    (∀ p ∈ children, Satisfies d p) → Satisfies d (.all children)
  | any {children : List Predicate} {p : Predicate} :
    p ∈ children → Satisfies d p → Satisfies d (.any children)

namespace Document

variable {d : Document}

theorem satisfies_all_iff {children : List Predicate} :
    d.Satisfies (.all children) ↔ ∀ p ∈ children, d.Satisfies p :=
  ⟨fun h => by cases h; assumption, .all⟩

theorem satisfies_any_iff {children : List Predicate} :
    d.Satisfies (.any children) ↔ ∃ p ∈ children, d.Satisfies p := by
  constructor
  · rintro ⟨⟩
    exact ⟨_, by assumption, by assumption⟩
  · rintro ⟨p, hp, h⟩
    exact .any hp h

/-- A text field is what an exact term says if it is that text. -/
theorem exactHolds_iff_of_isText {f : Field} {value : Text} (hf : f.isText = true) :
    exactHolds f value d = true ↔ d.get f = .text value := by
  cases f <;> first
    | exact absurd hf (by decide)
    | simp [exactHolds, Contents.get, Field.isText]

/-- An exact term on a text field says what that field is. -/
theorem satisfies_equals_iff {f : Field} {value : Text}
    (hf : f.isText = true) : d.Satisfies (.equals f value) ↔ d.get f = .text value := by
  rw [← exactHolds_iff_of_isText hf]
  constructor
  · rintro ⟨⟩
    next g hg hholds =>
      cases (Field.ofName?_name f).symm.trans hg
      exact hholds
  · exact .equal (Field.ofName?_name f)

/-- The index row of a document has the texts of its fields. -/
theorem get_eq_indexRow {f : Field} (hf : f.isText = true) :
    d.get f = .text (d.indexRow.get f) := by
  cases f <;> first
    | exact absurd hf (by decide)
    | rfl

end Document

namespace Predicate

theorem token_holds_own_iff {d : Document} {f : Field} {value : Text} (hf : f.isText = true) :
    tokenHolds f value d.indexRow = true ↔ ∃ t, d.get f = .text t ∧ TokenMatches value t := by
  rw [Document.get_eq_indexRow hf]
  constructor
  · exact fun h => ⟨_, rfl, h⟩
  · rintro ⟨t, ht, h⟩
    rw [← Cell.text.inj ht] at h
    exact h

/-- **The truth of a predicate on a document and its own index row is what the predicate means of
the document**, if it can be written as a query. -/
theorem holds_own_iff {d : Document} {p : Predicate} (h : p.Writable) :
    p.holds (d, d.indexRow) = true ↔ d.Satisfies p := by
  induction p using Predicate.induction with
  | term name value whole =>
    cases whole with
    | true =>
      simp only [holds, termHolds, if_true]
      constructor
      · intro hholds
        split at hholds
        · cases hholds
        · next f hf => exact .equal hf hholds
      · intro hsat
        cases hsat with
        | equal hf hholds => rw [hf]; exact hholds
    | false =>
      -- a part of the time stamp cannot be asked for, so the field is one that the index has
      obtain ⟨f, hf⟩ := writable_token_iff.mp h
      obtain ⟨hname, htext⟩ := Option.filter_eq_some_iff.mp hf
      simp only [holds, termHolds, hname, Bool.false_eq_true, if_false]
      rw [token_holds_own_iff htext]
      constructor
      · rintro ⟨t, ht, hmatch⟩
        exact .token hf ht hmatch
      · intro hsat
        cases hsat with
        | token hg ht hmatch =>
          cases hf.symm.trans hg
          exact ⟨_, ht, hmatch⟩
  | all children ih =>
    rw [holds, allHold_iff, Document.satisfies_all_iff]
    exact forall₂_congr (fun p hp => ih p hp (writable_all_iff.mp h p hp))
  | any children ih =>
    rw [holds, anyHolds_iff, Document.satisfies_any_iff]
    exact exists_congr (fun p => and_congr_right (fun hp => ih p hp (writable_any_iff.mp h p hp)))
  | other value => exact absurd h not_writable_other

/-- A predicate that can be written as a query, and keeps within the limits on the depth of a
query and on the length of patterns. -/
structure Answerable (p : Predicate) : Prop where
  writable : p.Writable
  fits : Sql.fits p = true
  triable : p.isTriable = true

theorem answerable_everything : everything.Answerable := ⟨⟨_, rfl⟩, rfl, rfl⟩

end Predicate

/-- Every document satisfies the predicate that asks nothing. -/
theorem Document.satisfies_everything (d : Document) : d.Satisfies .everything :=
  satisfies_all_iff.mpr (fun _ h => absurd h List.not_mem_nil)

end PackageCatalog
