import PackageCatalog.Catalog
import PackageCatalog.Proofs.Query.Satisfaction
import PackageCatalog.Proofs.Store.Statement

/-!
# Adding a file as a transaction

Adding a file begins a transaction, looks the path up, perhaps reads the file and changes a row,
and then makes the transaction final, or undoes it when something fails in between.  `Table.add`
tells the outcome of all that at once.  Here it is carried out step by step on the table, and
shown to come to the same.

## Main definitions

* `Table.inTransaction` — what is done inside a transaction, with its beginning and its end.
* `Candidate.record` — the look-up and the change of a file that is added.
* `Table.addInTransaction` — the whole of adding a file, with the table that it leaves.

## Main results

* `Table.inTransaction_eq` — a transaction that fails leaves the table as it was.
* `Table.addInTransaction_eq` — **adding a file step by step is `Table.add`, and what fails leaves
  the table as it was.**
-/

namespace PackageCatalog

namespace Table

/-! ### Transactions -/

variable {α : Type} {t : Table}

/-- Something done inside a transaction, which is made final after it, or undone when it fails. -/
def inTransaction (t : Table) (body : Table → Table × Except Failure α) :
    Table × Except Failure α :=
  match t.startTransaction with
  | .error e => (t, .error (.store e))
  | .ok opened =>
    match body opened with
    | (t', .error e) =>
      match t'.rollback with
      | .error e' => (t', .error (.store e'))
      | .ok t'' => (t'', .error e)
    | (t', .ok a) =>
      match t'.commit with
      | .error e => (t', .error (.store e))
      | .ok t'' => (t'', .ok a)

theorem startTransaction_eq (hready : t.access = .ready) (hsaved : t.saved = none) :
    t.startTransaction = .ok { t with saved := some t.store } := by
  simp [startTransaction, hready, hsaved]

/-- What fails inside a transaction leaves the table as it was, whatever was done to the store
before. -/
theorem inTransaction_of_error {body : Table → Table × Except Failure α} {s : Store} {e : Failure}
    (hready : t.access = .ready) (hsaved : t.saved = none)
    (hbody : body { t with saved := some t.store } =
      ({ t with saved := some t.store, store := s }, .error e)) :
    t.inTransaction body = (t, .error e) := by
  unfold inTransaction
  rw [startTransaction_eq hready hsaved]
  dsimp only
  rw [hbody]
  simp only [rollback, hready, Option.getD_some]
  cases t
  cases hready
  cases hsaved
  rfl

/-- What succeeds inside a transaction leaves its store. -/
theorem inTransaction_of_ok {body : Table → Table × Except Failure α} {s : Store} {a : α}
    (hready : t.access = .ready) (hsaved : t.saved = none)
    (hbody : body { t with saved := some t.store } =
      ({ t with saved := some t.store, store := s }, .ok a)) :
    t.inTransaction body = ({ t with store := s, saved := none }, .ok a) := by
  unfold inTransaction
  rw [startTransaction_eq hready hsaved]
  dsimp only
  rw [hbody]
  simp only [commit, hready]

/-- A transaction that cannot be begun is refused. -/
theorem inTransaction_of_refused {body : Table → Table × Except Failure α} {e : StoreError}
    (h : t.startTransaction = .error e) : t.inTransaction body = (t, .error (.store e)) := by
  unfold inTransaction
  rw [h]

end Table

/-! ### Adding a file -/

/-- Values of fields under the names of the fields. -/
def named (values : List (Field × Datum)) : List (Text × Datum) :=
  values.map (fun v => (v.1.name.toList, v.2))

theorem Table.fieldsOf_named (values : List (Field × Datum)) :
    Table.fieldsOf (named values) = .ok values := by
  induction values with
  | nil => rfl
  | cons v values ih =>
    rw [named, List.map_cons, Table.fieldsOf, Field.ofName?_name]
    dsimp only
    rw [← named, ih]

/-- A path is added to named values of other fields. -/
theorem Table.withPath_named {path : Text} {values : List (Field × Datum)}
    (h : ∀ v ∈ values, v.1 ≠ .path) :
    Table.withPath path (named values) = named (values ++ [(.path, .text path)]) := by
  have hnone : (named values).any (fun v => v.1 == Field.path.name.toList) = false := by
    refine List.any_eq_false.mpr ?_
    intro v hv
    obtain ⟨w, hw, rfl⟩ := List.mem_map.mp hv
    rw [beq_iff_eq]
    intro hname
    have hfield := (Field.ofName?_name w.1).symm.trans (congrArg Field.ofName? hname)
    exact h w hw (Option.some.inj (hfield.trans (Field.ofName?_name .path)))
  unfold Table.withPath
  dsimp only
  rw [hnone, if_neg Bool.false_ne_true, named, named, List.map_append]
  rfl

namespace Candidate

variable {detect : Detector} {tree : FileTree}

/-- The content of a file is read and goes, with what is known of the file, into a row. -/
def fill (c : Candidate) (detect : Detector) (tree : FileTree) (t : Table)
    (change : List (Text × Datum) → Except StoreError Table) (result : AddResult) :
    Table × Except Failure AddResult :=
  match readContent detect tree c.filename with
  | .error e => (t, .error e.toFailure)
  | .ok content =>
    match change (named (c.values content)) with
    | .error e => (t, .error (.store e))
    | .ok t' => (t', .ok result)

/-- The row of a file that is added is looked up, and made or changed if need be. -/
def record (c : Candidate) (detect : Detector) (tree : FileTree) (t : Table) :
    Table × Except Failure AddResult :=
  match t.get? c.path with
  | .error e => (t, .error (.store e))
  | .ok none => c.fill detect tree t (t.insert c.path) .new
  | .ok (some d) =>
    match d.timestamp with
    | .text _ => (t, .error .incomparable)
    | .number old =>
      if Double.lt old c.stamp then c.fill detect tree t (t.update c.path) .updated
      else (t, .ok .unchanged)

end Candidate

/-- A file is added, step by step, with the table that this leaves and how it ends. -/
def Table.addInTransaction (t : Table) (detect : Detector) (tree : FileTree)
    (directory rest : NativeName) (name : Option NativeName) : Table × Except Failure AddResult :=
  match Candidate.prepare detect tree directory rest name with
  | .error e => (t, .error e)
  | .ok c => t.inTransaction (c.record detect tree)

/-! ### The two agree -/

namespace Candidate

variable {c : Candidate} {detect : Detector} {tree : FileTree} {t : Table}

/-- The values of a candidate are such as can be handed to the store. -/
theorem bindAll_values (content : Text) :
    bindAll 0 ((c.values content).map Prod.snd) = .ok () := rfl

theorem withPath_values (content path : Text) :
    Table.withPath path (named (c.values content)) =
      named (c.values content ++ [(.path, .text path)]) := by
  refine Table.withPath_named ?_
  simp [values]

theorem insert_values (hready : t.access = .ready) (content : Text) :
    t.insert c.path (named (c.values content)) =
      (t.store.insert (c.values content ++ [(.path, .text c.path)])).map
        (fun s => { t with store := s }) := by
  unfold Table.insert
  rw [withPath_values, Table.fieldsOf_named]
  have hbind : bindAll 0 ((c.values content ++ [(Field.path, Datum.text c.path)]).map Prod.snd) =
    .ok () := rfl
  simp only [Table.execute, hready, hbind, reduceCtorEq, if_false]
  cases t.store.insert (c.values content ++ [(.path, .text c.path)]) <;> rfl

theorem update_values (hready : t.access = .ready) (content : Text) :
    t.update c.path (named (c.values content)) =
      (t.store.update c.path (c.values content)).map (fun s => { t with store := s }) := by
  unfold Table.update
  rw [Table.fieldsOf_named]
  have hsome : (c.values content).isEmpty = false := rfl
  simp only [Table.execute, hready, hsome, bindAll_values, reduceCtorEq, if_false,
    Bool.false_eq_true]
  cases t.store.update c.path (c.values content) <;> rfl

/-- The table and the outcome that the second half of adding a file comes to. -/
def ending (t : Table) : Except Failure (Store × AddResult) → Table × Except Failure AddResult
  | .error e => (t, .error e)
  | .ok (s, result) => ({ t with store := s }, .ok result)

/-- On a table that may be written, the step by step look-up and change is `settle`. -/
theorem record_eq (hready : t.access = .ready) :
    c.record detect tree t = ending t (c.settle detect tree t.store) := by
  have hget : t.get? c.path = .ok (t.store.get? c.path) := by
    simp [Table.get?, Table.view, hready, Except.map]
  unfold record settle
  rw [hget]
  cases hrow : t.store.get? c.path with
  | none =>
    -- no row: the content is read and the row inserted
    dsimp only [fill]
    cases readContent detect tree c.filename with
    | error e => rfl
    | ok content =>
      dsimp only
      rw [insert_values hready]
      cases t.store.insert (c.values content ++ [(.path, .text c.path)]) <;> rfl
  | some d =>
    dsimp only
    cases d.timestamp with
    | text _ => rfl
    | number old =>
      dsimp only
      cases Double.lt old c.stamp with
      | false => rfl
      | true =>
        -- an older row: the content is read and the row updated
        dsimp only [fill, if_true]
        cases readContent detect tree c.filename with
        | error e => rfl
        | ok content =>
          dsimp only
          rw [update_values hready]
          cases t.store.update c.path (c.values content) <;> rfl

end Candidate

namespace Table

variable {c : Candidate} {detect : Detector} {tree : FileTree} {directory rest : NativeName}
  {name : Option NativeName}

/-- A file that cannot be prepared is refused before a transaction is begun. -/
theorem addInTransaction_of_refused {t : Table} {e : Failure}
    (h : Candidate.prepare detect tree directory rest name = .error e) :
    t.addInTransaction detect tree directory rest name = (t, .error e) := by
  -- the equation that `unfold` would look for is slow to prove: it evaluates the preparation
  delta addInTransaction
  rw [h]

/-- When its names are known, and a transaction can be begun, adding a file is what `settle` makes
of them. -/
theorem addInTransaction_eq_ending {t : Table} (hready : t.access = .ready)
    (hsaved : t.saved = none)
    (hc : Candidate.prepare detect tree directory rest name = .ok c) :
    t.addInTransaction detect tree directory rest name =
      Candidate.ending t (c.settle detect tree t.store) := by
  have hrecord : c.record detect tree { t with saved := some t.store } =
      Candidate.ending _ (c.settle detect tree t.store) := Candidate.record_eq hready
  delta addInTransaction
  rw [hc]
  dsimp only
  cases hsettle : c.settle detect tree t.store with
  | error e =>
    rw [hsettle] at hrecord
    exact inTransaction_of_error hready hsaved hrecord
  | ok r =>
    rw [hsettle] at hrecord
    rw [inTransaction_of_ok hready hsaved hrecord, Candidate.ending, hsaved]

/-- **Adding a file step by step is `Table.add`**: where that returns, the table is the one it
returns, and where that fails, the table is as it was. -/
theorem addInTransaction_eq (t : Table) (detect : Detector) (tree : FileTree)
    (directory rest : NativeName) (name : Option NativeName) :
    t.addInTransaction detect tree directory rest name =
      match t.add detect tree directory rest name with
      | .error e => (t, .error e)
      | .ok (t', result) => (t', .ok result) := by
  delta add
  cases hprepare : Candidate.prepare detect tree directory rest name with
  | error e => exact addInTransaction_of_refused hprepare
  | ok c =>
    dsimp only
    cases hstart : t.startTransaction with
    | error e =>
      delta addInTransaction
      rw [hprepare]
      exact inTransaction_of_refused hstart
    | ok opened =>
      obtain ⟨hready, hsaved, rfl⟩ := startTransaction_eq_ok hstart
      rw [addInTransaction_eq_ending hready hsaved hprepare]
      dsimp only
      cases c.settle detect tree t.store with
      | error e => rfl
      | ok r => rw [Candidate.ending, hsaved]

end Table

end PackageCatalog
