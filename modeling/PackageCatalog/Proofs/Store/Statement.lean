import PackageCatalog.Store.Table
import PackageCatalog.Proofs.Store.Mirror

/-!
# Statements of a connection

One connection gives its database statement after statement: changes, and the beginning and the
end of transactions.  A refused statement leaves everything as it was.  Whatever is given in
whatever order, the store that the connection sees, and the one that a rollback would bring
back, are stores that changes lead to.

## Main definitions

* `Statement`, `Table.after`, `Table.afterAll` — statements, and the table that they leave.
* `Table.Intact` — both stores of a table are stores that changes lead to.

## Main results

* `Table.execute_eq_ok` — all that a change of a table does.
* `Table.carryOut_cases` — all that a statement does.
* `Table.Intact.afterAll` — what a run of statements keeps.
-/

namespace PackageCatalog

/-- A result that was mapped to one that is there was there itself. -/
theorem exists_of_map_eq_ok {ε α β : Type} {x : Except ε α} {f : α → β} {b : β}
    (h : x.map f = .ok b) : ∃ a, x = .ok a ∧ f a = b := by
  cases x with
  | error e => cases h
  | ok a => exact ⟨a, rfl, Except.ok.inj h⟩

/-- A statement that a connection gives to its database. -/
inductive Statement
  /-- A new document under a path, with named values. -/
  | insert (path : Text) (values : List (Text × Datum))
  /-- New values for some fields of the document of a path, its path perhaps among them. -/
  | update (path : Text) (values : List (Text × Datum))
  | delete (path : Text)
  | deleteAll
  /-- The beginning of a transaction. -/
  | start
  | commit
  | rollback

namespace Table

/-! ### What a change does -/

variable {t t' : Table}

/-- A change that is carried out finds a connection that may write, and alters the store alone. -/
theorem execute_eq_ok {α : Type} {prepare : Except StoreError Unit}
    {run : Store → Except StoreError (Store × α)} {a : α}
    (h : t.execute prepare run = .ok (t', a)) :
    t.access = .ready ∧ prepare = .ok () ∧
      ∃ s, run t.store = .ok (s, a) ∧ t' = { t with store := s } := by
  unfold execute at h
  split at h
  · cases h
  · next hclosed =>
    split at h
    · cases h
    · split at h
      · cases h
      · next hbusy =>
        split at h
        · cases h
        · next s b hrun =>
          simp only [Except.ok.injEq, Prod.mk.injEq] at h
          obtain ⟨rfl, rfl⟩ := h
          refine ⟨?_, rfl, s, hrun, rfl⟩
          cases haccess : t.access with
          | ready => rfl
          | busy => exact absurd haccess hbusy
          | closed => exact absurd haccess hclosed

/-- A change without an answer of its own. -/
theorem map_unit_eq_ok {r : Except StoreError Store} {s : Store} {u : Unit}
    (h : r.map (fun s => (s, ())) = .ok (s, u)) : r = .ok s := by
  obtain ⟨s', hs', heq⟩ := exists_of_map_eq_ok h
  rw [hs', (Prod.mk.inj heq).1]

theorem insert_eq_ok {path : Text} {values : List (Text × Datum)}
    (h : t.insert path values = .ok t') :
    ∃ fields s, fieldsOf (withPath path values) = .ok fields ∧ t.store.insert fields = .ok s ∧
      t' = { t with store := s } := by
  unfold insert at h
  split at h
  · cases h
  · next fields hfields =>
    split at h
    · cases h
    · next t₁ hexecute =>
      obtain ⟨-, -, s, hrun, rfl⟩ := execute_eq_ok hexecute
      exact ⟨fields, s, hfields, map_unit_eq_ok hrun, (Except.ok.inj h).symm⟩

theorem update_eq_ok {path : Text} {values : List (Text × Datum)}
    (h : t.update path values = .ok t') :
    ∃ fields s, fieldsOf values = .ok fields ∧ t.store.update path fields = .ok s ∧
      t' = { t with store := s } := by
  unfold update at h
  cases hfields : fieldsOf values with
  | error e => simp [hfields] at h
  | ok fields =>
    simp only [hfields] at h
    generalize (if fields.isEmpty = true then Except.error StoreError.noAssignments
      else bindAll 0 (fields.map Prod.snd)) = prepare at h
    split at h
    · cases h
    · next t₁ hexecute =>
      obtain ⟨-, -, s, hrun, rfl⟩ := execute_eq_ok hexecute
      exact ⟨fields, s, rfl, map_unit_eq_ok hrun, (Except.ok.inj h).symm⟩

theorem delete_eq_ok {path : Text} (h : t.delete path = .ok t') :
    ∃ s, t.store.delete path = .ok s ∧ t' = { t with store := s } := by
  unfold delete at h
  split at h
  · cases h
  · next t₁ hexecute =>
    obtain ⟨-, -, s, hrun, rfl⟩ := execute_eq_ok hexecute
    exact ⟨s, map_unit_eq_ok hrun, (Except.ok.inj h).symm⟩

theorem deleteAll_eq_ok {n : Nat} (h : t.deleteAll = .ok (t', n)) :
    n = t.store.deleteAll.2 ∧ t' = { t with store := t.store.deleteAll.1 } := by
  obtain ⟨-, -, s, hrun, rfl⟩ := execute_eq_ok h
  obtain ⟨rfl, rfl⟩ := Prod.mk.injEq .. ▸ Except.ok.inj hrun
  exact ⟨rfl, rfl⟩

theorem startTransaction_eq_ok (h : t.startTransaction = .ok t') :
    t.access = .ready ∧ t.saved = none ∧ t' = { t with saved := some t.store } := by
  unfold startTransaction at h
  split at h
  · cases h
  · cases h
  · next haccess =>
    split at h
    · cases h
    · next hnone => exact ⟨haccess, by simpa using hnone, (Except.ok.inj h).symm⟩

/-! ### Runs of statements -/

/-- The table with a statement carried out, or why it is refused. -/
def carryOut (t : Table) : Statement → Except StoreError Table
  | .insert path values => t.insert path values
  | .update path values => t.update path values
  | .delete path => t.delete path
  | .deleteAll => t.deleteAll.map Prod.fst
  | .start => t.startTransaction
  | .commit => t.commit
  | .rollback => t.rollback

/-- The table that a statement leaves.  A refused one changes nothing. -/
def after (t : Table) (st : Statement) : Table :=
  match t.carryOut st with
  | .ok t' => t'
  | .error _ => t

/-- The table that statements leave, given one after the other. -/
def afterAll (t : Table) (sts : List Statement) : Table := sts.foldl after t

@[simp] theorem afterAll_cons (t : Table) (st : Statement) (sts : List Statement) :
    t.afterAll (st :: sts) = (t.after st).afterAll sts := rfl

/-- Changes lead to the store of a table, and to the one that a rollback brings back. -/
structure Intact (t : Table) : Prop where
  store : t.store.Reachable
  saved : ∀ s ∈ t.saved, s.Reachable

theorem intact_empty : Intact {} where
  store := .empty
  saved := fun _ h => by cases h

/-- All that a statement can do: a change of the store, the beginning of a transaction, or its end
one way or the other. -/
theorem carryOut_cases {st : Statement} (h : t.carryOut st = .ok t') :
    (∃ s, (t.store.Reachable → s.Reachable) ∧ t' = { t with store := s }) ∨
    t' = { t with saved := some t.store } ∨ t' = { t with saved := none } ∨
    t' = { t with store := t.saved.getD t.store, saved := none } := by
  cases st with
  | insert path values =>
    obtain ⟨fields, s, -, hs, rfl⟩ := insert_eq_ok h
    exact Or.inl ⟨s, fun hr => hr.insert hs, rfl⟩
  | update path values =>
    obtain ⟨fields, s, -, hs, rfl⟩ := update_eq_ok h
    exact Or.inl ⟨s, fun hr => hr.update hs, rfl⟩
  | delete path =>
    obtain ⟨s, hs, rfl⟩ := delete_eq_ok h
    exact Or.inl ⟨s, fun hr => hr.delete hs, rfl⟩
  | deleteAll =>
    cases hall : t.deleteAll with
    | error e => simp [carryOut, hall, Except.map] at h
    | ok r =>
      obtain ⟨t₁, n⟩ := r
      simp only [carryOut, hall, Except.map, Except.ok.injEq] at h
      obtain ⟨-, rfl⟩ := deleteAll_eq_ok hall
      exact Or.inl ⟨_, fun hr => hr.deleteAll, h.symm⟩
  | start =>
    obtain ⟨-, -, rfl⟩ := startTransaction_eq_ok h
    exact Or.inr (Or.inl rfl)
  | commit =>
    simp only [carryOut, commit] at h
    split at h
    · cases h
    · exact Or.inr (Or.inr (Or.inl (Except.ok.inj h).symm))
  | rollback =>
    simp only [carryOut, rollback] at h
    split at h
    · cases h
    · exact Or.inr (Or.inr (Or.inr (Except.ok.inj h).symm))

/-- A statement that is carried out keeps both stores among those that changes lead to. -/
theorem Intact.carryOut (ht : t.Intact) {st : Statement} (h : t.carryOut st = .ok t') :
    t'.Intact := by
  rcases carryOut_cases h with ⟨s, hs, rfl⟩ | rfl | rfl | rfl
  · exact ⟨hs ht.store, ht.saved⟩
  · refine ⟨ht.store, ?_⟩
    rintro s ⟨⟩
    exact ht.store
  · exact ⟨ht.store, fun _ hs => by cases hs⟩
  · refine ⟨?_, fun _ hs => by cases hs⟩
    -- outside a transaction there is nothing to go back to
    cases hsaved : t.saved with
    | none => exact ht.store
    | some s => exact ht.saved s hsaved

theorem Intact.after (ht : t.Intact) (st : Statement) : (t.after st).Intact := by
  unfold Table.after
  split
  · next t' h => exact ht.carryOut h
  · exact ht

/-- **A run of statements keeps both stores among those that changes lead to.** -/
theorem Intact.afterAll (sts : List Statement) : ∀ {t : Table}, t.Intact →
    (t.afterAll sts).Intact := by
  induction sts with
  | nil => intro t ht; exact ht
  | cons st sts ih =>
    intro t ht
    rw [afterAll_cons]
    exact ih (ht.after st)

/-- Statements leave it as it was what a connection may do. -/
theorem access_after (st : Statement) : (t.after st).access = t.access := by
  unfold Table.after
  split
  · next t' h => rcases carryOut_cases h with ⟨s, -, rfl⟩ | rfl | rfl | rfl <;> rfl
  · rfl

theorem access_afterAll (sts : List Statement) : ∀ {t : Table},
    (t.afterAll sts).access = t.access := by
  induction sts with
  | nil => intro t; rfl
  | cons st sts ih =>
    intro t
    rw [afterAll_cons, ih, access_after]

/-! ### A small table -/

/-- The statement that puts in a document, given its path, package, path below it and content. -/
def putting (path package restpath content : String) : Statement :=
  .insert path.toList [("package".toList, .text package.toList),
    ("restpath".toList, .text restpath.toList), ("content".toList, .text content.toList),
    ("timestamp".toList, .integer 1)]

/-- A table of two documents that share their package and the path below it. -/
def twins : Table :=
  ({} : Table).afterAll [putting "/b/p/r" "p" "r" "x", putting "/a/p/r" "p" "r" "xy"]

theorem reachable_twins : twins.store.Reachable := (intact_empty.afterAll _).store

theorem access_twins : twins.access ≠ .closed := by
  rw [twins, access_afterAll]
  decide

end Table

end PackageCatalog
